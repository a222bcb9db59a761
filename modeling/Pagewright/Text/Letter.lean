/-!
# Pagewright.Text.Letter

Letter case, as far as it meets ASCII.  Keywords, property names and schemes are ASCII, so all that
matters of a character outside ASCII is whether its small form is an ASCII letter, and whether a
caseless comparison takes it for one.  The Kelvin sign is the one such character whose small letter
is ASCII; the dotted capital and the dotless small `i` and the long `s` are equal to ASCII letters
in a caseless comparison only.
-/

namespace Pagewright.Text

/-- The small form of a character. -/
def lower (c : Char) : Char := if c == '\u212a' then 'k' else c.toLower

/-- Whether a character equals a small ASCII letter, or any other ASCII character, regardless of
case. -/
def caselessEq (letter c : Char) : Bool :=
  lower c == letter ||
    (letter == 'i' && (c == '\u0130' || c == '\u0131')) || (letter == 's' && c == '\u017f')

/-- What follows a text at the start of another one, compared exactly. -/
def after? : (text cs : List Char) → Option (List Char)
  | [], cs => some cs
  | _ :: _, [] => none
  | p :: ps, c :: cs => if p == c then after? ps cs else none

theorem after?_eq_some_iff {text cs rest : List Char} :
    after? text cs = some rest ↔ cs = text ++ rest := by
  induction text generalizing cs with
  | nil => simp [after?]
  | cons p ps ih =>
    cases cs with
    | nil => simp [after?]
    | cons c cs =>
      by_cases h : p = c
      · simp [after?, h, ih]
      · have h' : c ≠ p := fun e => h e.symm
        simp [after?, h, h']

/-- What follows a text at the start of another one, compared regardless of case. -/
def afterCaseless? : (text cs : List Char) → Option (List Char)
  | [], cs => some cs
  | _ :: _, [] => none
  | p :: ps, c :: cs => if caselessEq p c then afterCaseless? ps cs else none

/-- What follows a character at the start of a text. -/
def expect? (c : Char) : List Char → Option (List Char)
  | d :: cs => if c = d then some cs else none
  | [] => none

/-- Whether a text begins with another one. -/
def startsWith (cs text : List Char) : Bool := (after? text cs).isSome

theorem startsWith_iff {cs text : List Char} : startsWith cs text = true ↔ text <+: cs := by
  rw [startsWith, Option.isSome_iff_exists]
  constructor
  · rintro ⟨rest, h⟩
    exact ⟨rest, (after?_eq_some_iff.1 h).symm⟩
  · rintro ⟨rest, h⟩
    exact ⟨rest, after?_eq_some_iff.2 h.symm⟩

/-- Whether a property of texts holds of some end of a text, the empty one included. -/
def anySuffix (p : List Char → Bool) : List Char → Bool
  | [] => p []
  | c :: cs => p (c :: cs) || anySuffix p cs

theorem anySuffix_iff {p : List Char → Bool} {cs : List Char} :
    anySuffix p cs = true ↔ ∃ suffix, suffix <:+ cs ∧ p suffix = true := by
  induction cs with
  | nil => simp [anySuffix]
  | cons c cs ih =>
    rw [anySuffix, Bool.or_eq_true, ih]
    constructor
    · rintro (h | ⟨suffix, isEnd, h⟩)
      · exact ⟨c :: cs, List.suffix_refl _, h⟩
      · exact ⟨suffix, isEnd.trans (List.suffix_cons c cs), h⟩
    · rintro ⟨suffix, isEnd, h⟩
      rcases List.suffix_cons_iff.1 isEnd with rfl | later
      · exact .inl h
      · exact .inr ⟨suffix, later, h⟩

/-- Whether a text occurs in another one. -/
def occursIn (text cs : List Char) : Bool := anySuffix (startsWith · text) cs

/-- A text occurs in another one exactly when it is a piece of it. -/
theorem occursIn_iff {text cs : List Char} : occursIn text cs = true ↔ text <:+: cs := by
  simp only [occursIn, anySuffix_iff, startsWith_iff]
  constructor
  · rintro ⟨suffix, ⟨before, rfl⟩, ⟨behind, rfl⟩⟩
    exact ⟨before, behind, by simp⟩
  · rintro ⟨before, behind, rfl⟩
    exact ⟨text ++ behind, ⟨before, by simp⟩, ⟨behind, rfl⟩⟩

/-- Whether a text occurs in another one, compared regardless of case. -/
def occursCaseless (text cs : List Char) : Bool :=
  anySuffix (fun rest => (afterCaseless? text rest).isSome) cs

end Pagewright.Text

namespace Pagewright

/-- The small form of a text. -/
def lowercase (s : String) : String := String.ofList (s.toList.map Text.lower)

end Pagewright
