import Mathlib.Data.List.Basic
import Pagewright.Text.Blank

/-!
# Pagewright.Proofs.Text.Words

Blanks one by one, and the words between them.  Words with a space between each two are the words of that
text.
-/

namespace Pagewright.Text

/-! ## blanks -/

/-- The code points of blanks. -/
def blankCodes : List Nat :=
  [9, 10, 11, 12, 13, 28, 29, 30, 31, 32, 0x85, 0xa0, 0x1680, 0x2000, 0x2001, 0x2002, 0x2003, 0x2004,
    0x2005, 0x2006, 0x2007, 0x2008, 0x2009, 0x200a, 0x2028, 0x2029, 0x202f, 0x205f, 0x3000]

section

variable {p : Char → Bool} {c : Char}

/-- What is false of each blank, by its code point, is false of all blanks. -/
theorem eq_false_of_isBlank (none : ∀ n ∈ blankCodes, p (Char.ofNat n) = false) (h : isBlank c = true) :
    p c = false := by
  have code : c.toNat ∈ blankCodes := by
    simp only [isBlank, Bool.or_eq_true, Bool.and_eq_true, decide_eq_true_eq, beq_iff_eq] at h
    simp only [blankCodes, List.mem_cons, List.not_mem_nil, or_false]
    omega
  have out := none _ code
  rwa [Char.ofNat_toNat] at out

theorem isBlank_eq_false (none : ∀ n ∈ blankCodes, p (Char.ofNat n) = false) (h : p c = true) :
    isBlank c = false := by
  by_contra blank
  rw [eq_false_of_isBlank none (Bool.not_eq_false _ ▸ blank)] at h
  cases h

end

/-! ## words -/

/-- A row is cut where a property ends. -/
theorem takeWhile_dropWhile_append {p : Char → Bool} {cs ds : List Char} (h : ∀ c ∈ cs, p c = true)
    (h' : ∀ d ∈ ds.head?, p d = false) :
    (cs ++ ds).takeWhile p = cs ∧ (cs ++ ds).dropWhile p = ds := by
  have stop : ds.takeWhile p = [] ∧ ds.dropWhile p = ds := by
    cases ds with
    | nil => exact ⟨rfl, rfl⟩
    | cons d ds => simp [h' d rfl]
  rw [List.takeWhile_append_of_pos h, List.dropWhile_append_of_pos h, stop.1, stop.2, List.append_nil]
  exact ⟨rfl, rfl⟩

/-- A row of characters none of which is blank. -/
def IsWordText (cs : List Char) : Prop := cs ≠ [] ∧ ∀ c ∈ cs, isBlank c = false

/-- The runs between blanks with one more character in front. -/
def addToRuns (c : Char) (runs : List (List Char)) : List (List Char) :=
  if isBlank c then [] :: runs
  else match runs with
    | [] => [[c]]
    | run :: runs => (c :: run) :: runs

/-- The words of a text are its runs that are not empty. -/
theorem words_eq (cs : List Char) : words cs = (cs.foldr addToRuns []).filter (!·.isEmpty) := rfl

/-- A blank begins a new run. -/
theorem addToRuns_of_isBlank {c : Char} (blank : isBlank c = true) (runs : List (List Char)) :
    addToRuns c runs = [] :: runs := if_pos blank

/-- Characters without blanks go to the run in front. -/
theorem foldr_addToRuns {cs : List Char} (solid : ∀ c ∈ cs, isBlank c = false) (run : List Char)
    (runs : List (List Char)) : cs.foldr addToRuns (run :: runs) = (cs ++ run) :: runs := by
  induction cs with
  | nil => rfl
  | cons c cs ih =>
      obtain ⟨first, rest⟩ := List.forall_mem_cons.1 solid
      rw [List.foldr_cons, ih rest, addToRuns, if_neg (by rw [first]; exact Bool.false_ne_true)]
      rfl

/-- A word is the only one of its own text. -/
theorem words_word {word : List Char} (h : IsWordText word) : words word = [word] := by
  obtain ⟨some, solid⟩ := h
  rcases word.eq_nil_or_concat with rfl | ⟨front, last, rfl⟩
  · exact absurd rfl some
  · rw [List.concat_eq_append] at solid ⊢
    obtain ⟨before, one⟩ := List.forall_mem_append.1 solid
    have run : [last].foldr addToRuns [] = [[last]] := by
      simp [addToRuns, one last (List.mem_singleton.2 rfl)]
    rw [words_eq, List.foldr_append, run, foldr_addToRuns before]
    simp

/-- A word ends at the blank behind it. -/
theorem words_append_cons {word : List Char} (h : IsWordText word) {c : Char} (blank : isBlank c = true)
    (cs : List Char) : words (word ++ c :: cs) = word :: words cs := by
  rw [words_eq, List.foldr_append, List.foldr_cons, addToRuns_of_isBlank blank, foldr_addToRuns h.2,
    List.append_nil, List.filter_cons_of_pos (by simpa using h.1), words_eq]

/-- Words with a space between each two are the words of the text that they make. -/
theorem words_intercalate {parts : List (List Char)} (h : ∀ part ∈ parts, IsWordText part) :
    words ([' '].intercalate parts) = parts := by
  induction parts with
  | nil => rfl
  | cons part parts ih =>
      obtain ⟨first, rest⟩ := List.forall_mem_cons.1 h
      cases parts with
      | nil => rw [List.intercalate_singleton, words_word first]
      | cons next parts =>
          rw [List.intercalate_cons_cons, List.append_assoc, List.singleton_append,
            words_append_cons first rfl, ih rest]

end Pagewright.Text
