import Pagewright.Number.Numeral
import Pagewright.Proofs.Text.Words

/-!
# Pagewright.Proofs.Number.Numeral

Rows of digits as integers.  A row of digits has neither blanks nor a sign nor underscores, so it stands for
an integer unless one of its digits belongs to no positional system or there are too many of them.
-/

namespace Pagewright.Numeral

open Text

/-! ## decimal digits -/

/-- A decimal digit as the ASCII digit of the same value; other characters as they are. -/
def ascii (c : Char) : Char :=
  match digitValue? c with
  | some d => Nat.digitChar d
  | none => c

variable {c : Char} {cs : List Char}

theorem digitValue?_lt {d : Nat} (h : digitValue? c = some d) : d < 10 := by
  unfold digitValue? at h
  split at h
  · split at h
    · next digit =>
      have range : c.toNat ≤ 57 := by
        simp only [Char.isDigit, Bool.and_eq_true, decide_eq_true_eq] at digit
        exact UInt32.le_iff_toNat_le.1 digit.2
      cases h
      omega
    · cases h
  · obtain ⟨base, found, rfl⟩ := Option.map_eq_some_iff.1 h
    have within := List.find?_some found
    simp only [Bool.and_eq_true, decide_eq_true_eq] at within
    omega

theorem isDigit_digitChar {d : Nat} (h : d < 10) : (Nat.digitChar d).isDigit = true := by
  revert d
  decide

/-- The ASCII digits are decimal. -/
theorem isDecimal_of_isDigit (h : c.isDigit = true) : isDecimal c = true := by
  have range : c.toNat < 128 := by
    simp only [Char.isDigit, Bool.and_eq_true, decide_eq_true_eq] at h
    have := UInt32.le_iff_toNat_le.1 h.2
    exact Nat.lt_of_le_of_lt this (by decide)
  rw [isDecimal, digitValue?, if_pos range, if_pos h]
  rfl

/-- A decimal digit of any script is written as an ASCII digit. -/
theorem isDigit_ascii (c : Char) : (ascii c).isDigit = isDecimal c := by
  unfold ascii
  cases value : digitValue? c with
  | some d =>
      rw [isDecimal, value]
      exact isDigit_digitChar (digitValue?_lt value)
  | none =>
      have none : isDecimal c = false := by rw [isDecimal, value]; rfl
      rw [none]
      by_contra digit
      rw [isDecimal_of_isDigit (Bool.not_eq_false _ ▸ digit)] at none
      cases none

/-- No digit is written as a character that is no digit. -/
theorem ascii_ne (digit : isDigit c = true) {mark : Char} (plain : isDigit mark = false) : ascii c ≠ mark := by
  rintro rfl
  rw [isDigit, isDecimal, Bool.or_eq_false_iff] at plain
  by_cases decimal : isDecimal c = true
  · have again := isDecimal_of_isDigit ((isDigit_ascii c).trans decimal)
    rw [isDecimal, plain.1] at again
    cases again
  · have same : ascii c = c := by
      rw [ascii, Option.not_isSome_iff_eq_none.1 decimal]
    rw [same] at plain
    rw [isDigit, isDecimal, plain.1, plain.2] at digit
    cases digit

/-! ## rows of digits -/

/-- Where there are no blanks, there are no margins to drop. -/
theorem dropWhile_isMargin (solid : ∀ c ∈ cs, isBlank c = false) : cs.dropWhile isMargin = cs := by
  cases cs with
  | nil => rfl
  | cons c cs =>
      have first : isMargin c = false := by
        rw [isMargin, solid c (List.mem_cons_self ..), Bool.false_and]
      rw [List.dropWhile_cons_of_neg (by simp [first])]

/-- Without blanks, a text is normalised character by character. -/
theorem normalize_eq_map (solid : ∀ c ∈ cs, isBlank c = false) : normalize cs = cs.map ascii := by
  have back : ∀ c ∈ cs.reverse, isBlank c = false := fun c mem => solid c (List.mem_reverse.1 mem)
  rw [normalize, dropWhile_isMargin solid, dropWhile_isMargin back, List.reverse_reverse]
  rfl

/-- Without a sign in front, a numeral is positive. -/
theorem sign_eq (minus : '-' ∉ cs) (plus : '+' ∉ cs) : sign cs = (false, cs) := by
  unfold sign
  split
  · exact absurd (List.mem_cons_self ..) minus
  · exact absurd (List.mem_cons_self ..) plus
  · rfl

/-- Without underscores, digits are joined as they stand. -/
theorem joinDigits_eq_some (p : Char → Bool) (previous : Bool) (h : '_' ∉ cs) :
    joinDigits p previous cs = some cs := by
  induction cs generalizing previous with
  | nil => rfl
  | cons c cs ih =>
      rw [List.mem_cons, not_or] at h
      have plain : c ≠ '_' := fun eq => h.1 eq.symm
      rw [joinDigits, ih _ h.2]
      · rfl
      · exact plain
      · exact fun _ _ _ eq _ => plain eq

/-- A row of digits is no numeral exactly when one of its digits is not decimal or it is too long. -/
theorem integer?_eq_none_iff (some : cs ≠ []) (digits : ∀ c ∈ cs, isDigit c = true) :
    integer? cs = none ↔ (∃ c ∈ cs, isDecimal c = false) ∨ digitLimit < cs.length := by
  have solid : ∀ c ∈ cs, isBlank c = false := fun c mem =>
    isBlank_eq_false (by decide +kernel) (digits c mem)
  have without {mark : Char} (plain : isDigit mark = false) : mark ∉ cs.map ascii := by
    rw [List.mem_map]
    rintro ⟨c, mem, eq⟩
    exact ascii_ne (digits c mem) plain eq
  have row : (cs.map ascii).isEmpty = false := by simp [some]
  have decimals : (cs.map ascii).all Char.isDigit = cs.all isDecimal := by
    rw [List.all_map]
    exact congrArg cs.all (funext isDigit_ascii)
  rw [integer?, normalize_eq_map solid, sign_eq (without (by decide +kernel)) (without (by decide +kernel))]
  simp only [joinDigits_eq_some _ _ (without (by decide +kernel)), Option.bind_eq_bind, Option.bind_some, row,
    decimals, List.length_map, Bool.false_or]
  by_cases all : cs.all isDecimal = true
  · have none : ¬ ∃ c ∈ cs, isDecimal c = false := by simpa using all
    simp [all, none]
  · have loose : ∃ c ∈ cs, isDecimal c = false := by simpa using all
    simp [all, loose]

end Pagewright.Numeral
