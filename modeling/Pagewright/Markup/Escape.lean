/-!
# Pagewright.Markup.Escape

Escaping of text for HTML.  The five characters that mean something in markup or in attribute values
are written as character references; all others stand for themselves.
-/

namespace Pagewright.Markup

/-- A character as it is written in HTML text and in attribute values. -/
def escapeChar : Char → List Char
  | '&' => ['&', 'a', 'm', 'p', ';']
  | '<' => ['&', 'l', 't', ';']
  | '>' => ['&', 'g', 't', ';']
  | '"' => ['&', 'q', 'u', 'o', 't', ';']
  | '\'' => ['&', '#', 'x', '2', '7', ';']
  | c => [c]

/-- A text as it is written in HTML text and in attribute values. -/
def escapeChars (cs : List Char) : List Char := cs.flatMap escapeChar

/-- A text as it is written in HTML text and in attribute values. -/
def escape (s : String) : String := String.ofList (escapeChars s.toList)

/-- An attribute with its value in double quotes, and a blank in front. -/
def attr (name value : String) : String := " " ++ name ++ "=\"" ++ escape value ++ "\""

/-- The characters that can open or close a tag or an attribute value. -/
def isMarkupChar (c : Char) : Bool := c == '<' || c == '>' || c == '"' || c == '\''

/-- The references that stand for characters. -/
def references : List (List Char) := ['&', '<', '>', '"', '\''].map escapeChar

/-- A character is written as a reference, or it is itself and no markup. -/
theorem escapeChar_mem (c : Char) :
    escapeChar c ∈ references ∨ escapeChar c = [c] ∧ isMarkupChar c = false := by
  unfold escapeChar
  split
  case h_6 => simp_all [isMarkupChar]
  all_goals exact .inl (by simp [references, escapeChar])

/-- No reference has a markup character in it. -/
theorem isMarkupChar_of_mem_references {c : Char} {s : List Char} (hs : s ∈ references) (hc : c ∈ s) :
    isMarkupChar c = false := by
  have all : references.all (fun s => s.all fun c => !isMarkupChar c) = true := rfl
  have := List.all_eq_true.1 (List.all_eq_true.1 all s hs) c hc
  simpa using this

/-- No character that can open or close a tag or an attribute value is left in an escaped text. -/
theorem isMarkupChar_of_mem_escapeChars {c : Char} {cs : List Char} (h : c ∈ escapeChars cs) :
    isMarkupChar c = false := by
  obtain ⟨d, _, h⟩ := List.mem_flatMap.1 h
  rcases escapeChar_mem d with reference | ⟨same, plain⟩
  · exact isMarkupChar_of_mem_references reference h
  · rw [same, List.mem_singleton] at h
    rw [h, plain]

end Pagewright.Markup
