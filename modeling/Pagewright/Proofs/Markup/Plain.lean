import Pagewright.Markup.Escape
import Pagewright.Pen.Leaf
import Pagewright.Proofs.Text.Free

/-!
# Pagewright.Proofs.Markup.Plain

Plain texts: those without angle brackets and quotes, which can stand as text, as an attribute value
and in a comment.  Escaped texts are plain, and so are written numbers and the texts made of the
characters that class names have.
-/

namespace Pagewright.Markup

/-- No character of a text can open or close a tag or an attribute value. -/
def IsPlain (s : String) : Prop := ∀ c ∈ s.toList, isMarkupChar c = false

theorem all_iff_isPlain {s : String} : (s.toList.all fun c => !isMarkupChar c) = true ↔ IsPlain s := by
  simp [IsPlain]

instance (s : String) : Decidable (IsPlain s) := decidable_of_iff _ all_iff_isPlain

/-! ## texts put together -/

theorem isPlain_ofList {cs : List Char} (h : ∀ c ∈ cs, isMarkupChar c = false) :
    IsPlain (String.ofList cs) := by
  intro c hc
  rw [String.toList_ofList] at hc
  exact h c hc

theorem IsPlain.append {s t : String} (hs : IsPlain s) (ht : IsPlain t) : IsPlain (s ++ t) :=
  IsFree.append hs ht

theorem IsPlain.intercalate {separator : String} {texts : List String} (hs : IsPlain separator)
    (ht : ∀ t ∈ texts, IsPlain t) : IsPlain (String.intercalate separator texts) :=
  IsFree.intercalate hs ht

/-! ## escaped texts -/

/-- Escaping leaves no markup character: each is written as a reference. -/
theorem isPlain_ofList_escapeChars (cs : List Char) : IsPlain (String.ofList (escapeChars cs)) :=
  isPlain_ofList fun _ hc => isMarkupChar_of_mem_escapeChars hc

/-- The same of the text of these characters. -/
theorem isPlain_escape (s : String) : IsPlain (escape s) :=
  isPlain_ofList_escapeChars s.toList

/-- So every datum that is shown is plain. -/
theorem isPlain_escaped (v : Value) : IsPlain v.escaped :=
  isPlain_ofList_escapeChars v.plain

/-! ## class names -/

/-- The characters of names are no markup. -/
theorem isMarkupChar_of_isNameChar {c : Char} (h : Pen.isNameChar c = true) :
    isMarkupChar c = false := by
  cases hc : isMarkupChar c with
  | false => rfl
  | true =>
      simp only [isMarkupChar, Bool.or_eq_true, beq_iff_eq] at hc
      obtain ((rfl | rfl) | rfl) | rfl := hc <;> exact absurd h (by decide)

/-- The class that is made of an id is filtered to such characters. -/
theorem isPlain_classText (s : String) : IsPlain (Pen.classText s) := by
  refine isPlain_ofList fun c hc => isMarkupChar_of_isNameChar ?_
  obtain ⟨d, -, rfl⟩ := List.mem_map.1 hc
  by_cases hd : Pen.isNameChar d
  · rw [if_pos hd]
    exact hd
  · rw [if_neg hd]
    decide

/-! ## numbers -/

/-- The characters of numbers are no markup. -/
theorem isMarkupChar_of_isNumeralChar {c : Char} (h : isNumeralChar c = true) :
    isMarkupChar c = false := by
  cases hc : isMarkupChar c with
  | false => rfl
  | true =>
      simp only [isMarkupChar, Bool.or_eq_true, beq_iff_eq] at hc
      obtain ((rfl | rfl) | rfl) | rfl := hc <;> exact absurd h (by decide)

/-- So every number is plain. -/
theorem isPlain_numberText (x : Binary64) : IsPlain (Pen.numberText x) :=
  isFree_numberText (fun _ => isMarkupChar_of_isNumeralChar) x

end Pagewright.Markup
