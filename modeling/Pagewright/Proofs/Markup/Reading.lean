import Pagewright.Markup.CharacterReference
import Pagewright.Markup.Escape

/-!
# Pagewright.Proofs.Markup.Reading

Reading markup back.  An escaped text is read as the text that was escaped, and an attribute that was
written into a tag is found there under its name with the value that it was written for.
-/

namespace Pagewright.Markup

/-! ## escaped texts -/

/-- A character that begins no reference is read as itself. -/
theorem unescapeFrom_plain {c : Char} (h : c ≠ '&') (cs : List Char) :
    unescapeFrom 0 (c :: cs) = (unescapeFrom 0 cs).map (c :: ·) := by
  rw [unescapeFrom, if_neg h]
  cases unescapeFrom 0 cs <;> rfl

/-- The characters of a reference that was read are passed over. -/
theorem unescapeFrom_skip (skipped cs : List Char) :
    unescapeFrom skipped.length (skipped ++ cs) = unescapeFrom 0 cs := by
  induction skipped with
  | nil => rfl
  | cons c skipped ih => exact ih

/-- A reference that stands for one character is read as that. -/
theorem unescapeFrom_reference (written cs : List Char) (r : Reference) {c : Char}
    (h : reference? (written ++ cs) = some (r, written.length)) (stands : r.text = .ok [c]) :
    unescapeFrom 0 ('&' :: (written ++ cs)) = (unescapeFrom 0 cs).map (c :: ·) := by
  rw [unescapeFrom, if_pos rfl, h]
  simp only [stands, unescapeFrom_skip]
  cases unescapeFrom 0 cs <;> rfl

/-- An escaped character is read as that character. -/
theorem unescapeFrom_escapeChar (c : Char) (cs : List Char) :
    unescapeFrom 0 (escapeChar c ++ cs) = (unescapeFrom 0 cs).map (c :: ·) := by
  unfold escapeChar
  split
  · exact unescapeFrom_reference ['a', 'm', 'p', ';'] cs (.named ['a', 'm', 'p', ';']) rfl rfl
  · exact unescapeFrom_reference ['l', 't', ';'] cs (.named ['l', 't', ';']) rfl rfl
  · exact unescapeFrom_reference ['g', 't', ';'] cs (.named ['g', 't', ';']) rfl rfl
  · exact unescapeFrom_reference ['q', 'u', 'o', 't', ';'] cs (.named ['q', 'u', 'o', 't', ';']) rfl rfl
  · exact unescapeFrom_reference ['#', 'x', '2', '7', ';'] cs (.number true ['2', '7']) rfl rfl
  · next ampersand _ _ _ _ => exact unescapeFrom_plain ampersand cs

/-- An escaped text is read as the text that was escaped.  What follows it is read as it would be on its own:
no reference in the escaped text reaches into it. -/
theorem unescapeFrom_escapeChars_append (cs rest : List Char) :
    unescapeFrom 0 (escapeChars cs ++ rest) = (unescapeFrom 0 rest).map (cs ++ ·) := by
  induction cs with
  | nil => cases read : unescapeFrom 0 rest <;> simp [escapeChars, Except.map, read]
  | cons c cs ih =>
      have split : escapeChars (c :: cs) = escapeChar c ++ escapeChars cs := List.flatMap_cons
      rw [split, List.append_assoc, unescapeFrom_escapeChar, ih]
      cases unescapeFrom 0 rest <;> rfl

/-- The same of texts. -/
theorem unescape_escape_append (s t : String) : unescape (escape s ++ t) = (unescape t).map (s ++ ·) := by
  have read := unescapeFrom_escapeChars_append s.toList t.toList
  simp only [unescape, escape, String.toList_append, String.toList_ofList, read]
  cases unescapeFrom 0 t.toList with
  | error e => rfl
  | ok cs => simp [Except.map, bind, Except.bind, pure, Except.pure, String.ofList_append]

/-- An escaped text is read as the text that was escaped. -/
theorem unescape_escape (s : String) : unescape (escape s) = .ok s := by
  have read := unescape_escape_append s ""
  rw [String.append_empty] at read
  rw [read]
  exact congrArg Except.ok (String.append_empty ..)

/-- Reading undoes escaping, whatever the text says, so no two texts are escaped alike.  An escaped text is
read as a whole and on its own, whatever follows it. -/
theorem escaped_texts_come_back :
    (∀ s, unescape (escape s) = .ok s) ∧
      (∀ s t, unescape (escape s ++ t) = (unescape t).map (s ++ ·)) ∧
      (∀ s t, escape s = escape t ↔ s = t) ∧
      ∀ s, (unescape (escape s)).map escape = .ok (escape s) := by
  refine ⟨unescape_escape, unescape_escape_append, fun s t => ⟨fun same => ?_, congrArg escape⟩, fun s => ?_⟩
  · have back := unescape_escape s
    rw [same, unescape_escape] at back
    exact (Except.ok.inj back).symm
  · rw [unescape_escape]
    rfl

/-! ## attributes -/

/-- The attributes at the start of a text, with their names and with what stands between their quotes.
Each has a blank in front; what does not continue them ends them. -/
def attributesFrom (cs : List Char) : List (List Char × List Char) :=
  match cs with
  | ' ' :: cs =>
    let name := cs.takeWhile (· != '=')
    match h : cs.drop name.length with
    | '=' :: '"' :: rest =>
      have : rest.length < cs.length := by
        have := congrArg List.length h
        simp only [List.length_drop, List.length_cons] at this
        omega
      let value := rest.takeWhile (· != '"')
      (name, value) :: attributesFrom (rest.drop (value.length + 1))
    | _ => []
  | _ => []
termination_by cs.length
decreasing_by
  simp only [List.length_drop, List.length_cons]
  omega

/-- The value of an attribute of the tag that a text starts with. -/
def tagAttribute? (name html : String) : Option String := do
  let attributes := attributesFrom (html.toList.dropWhile (· != ' '))
  let written ← attributes.lookup name.toList
  (unescape (String.ofList written)).toOption

/-- A name or a value ends at the first character that ends it. -/
theorem takeWhile_ne_append {c : Char} {cs : List Char} (h : c ∉ cs) (rest : List Char) :
    (cs ++ c :: rest).takeWhile (· != c) = cs := by
  have all : ∀ d ∈ cs, (d != c) = true := fun d hd => by
    simpa using fun e : d = c => h (e ▸ hd)
  rw [List.takeWhile_append_of_pos all]
  simp

/-- An attribute in front of others is found with its value. -/
theorem attributesFrom_cons {name value rest : List Char} (hn : '=' ∉ name) (hv : '"' ∉ value) :
    attributesFrom (' ' :: (name ++ '=' :: '"' :: (value ++ '"' :: rest))) =
      (name, value) :: attributesFrom rest := by
  have named := takeWhile_ne_append hn ('"' :: (value ++ '"' :: rest))
  have valued := takeWhile_ne_append hv rest
  rw [attributesFrom]
  dsimp only
  rw [named]
  split
  · next behind eq =>
    rw [List.drop_left] at eq
    cases eq
    rw [valued, ← List.drop_drop, List.drop_left]
    rfl
  · next other =>
    rw [List.drop_left] at other
    exact absurd rfl (other _)

/-- An escaped value has no quote, so the attribute ends at its own. -/
theorem attributesFrom_attr {name : String} (hn : '=' ∉ name.toList) (value : String)
    (rest : List Char) : attributesFrom ((attr name value).toList ++ rest) =
      (name.toList, escapeChars value.toList) :: attributesFrom rest := by
  have closed : '"' ∉ escapeChars value.toList := fun h =>
    absurd (isMarkupChar_of_mem_escapeChars h) (by decide)
  have written : (attr name value).toList ++ rest =
      ' ' :: (name.toList ++ '=' :: '"' :: (escapeChars value.toList ++ '"' :: rest)) := by
    simp [attr, escape]
  rw [written, attributesFrom_cons hn closed]

/-- Attributes that were written into a tag are found there. -/
theorem tagAttribute?_eq {name html value : String} {tag cs : List Char}
    (ht : ' ' ∉ tag) (hh : html.toList = tag ++ cs) (hc : cs.head? = some ' ')
    (hv : (attributesFrom cs).lookup name.toList = some (escapeChars value.toList)) :
    tagAttribute? name html = some value := by
  have start : html.toList.dropWhile (· != ' ') = cs := by
    have all : ∀ d ∈ tag, (d != ' ') = true := fun d hd => by
      simpa using fun e : d = ' ' => ht (e ▸ hd)
    obtain ⟨rest, rfl⟩ := List.head?_eq_some_iff.1 hc
    rw [hh, List.dropWhile_append_of_pos all]
    simp
  have read : unescape (String.ofList (escapeChars value.toList)) = .ok value := unescape_escape value
  simp only [tagAttribute?, start, hv, Option.bind_eq_bind, Option.bind_some, read]
  rfl

end Pagewright.Markup
