import Pagewright.Proofs.Number.Range

/-!
# Pagewright.Proofs.Number.Exact

The exact values of numbers.  A finite number is a fraction; it is compared with integers and rounded as
that fraction, so rounding does not leave a range between two integers.  The integers up to `2 ^ 53` are the
exact values of the numbers closest to them.
-/

namespace Pagewright

/-! ## rounded quotients -/

theorem roundDiv_one (num : Nat) : roundDiv num 1 = num := by simp [roundDiv, Nat.mod_one]

section

variable {num den : Nat} {k : Int}

/-- A quotient that is at least an integer is rounded to that integer or more. -/
theorem int_le_roundDiv (pos : 0 < den) (h : k * den ≤ num) : k ≤ roundDiv num den := by
  obtain ⟨k, rfl | rfl⟩ := k.eq_nat_or_neg
  · exact Int.ofNat_le.2 (le_roundDiv pos (by exact_mod_cast h))
  · omega

/-- A quotient that is at most an integer is rounded to that integer or less. -/
theorem roundDiv_le_int (pos : 0 < den) (h : num ≤ k * den) : (roundDiv num den : Int) ≤ k := by
  have sign : 0 ≤ k := Int.nonneg_of_mul_nonneg_left (Int.le_trans (Int.natCast_nonneg num) h)
    (Int.natCast_pos.2 pos)
  obtain ⟨k, rfl⟩ := Int.eq_ofNat_of_zero_le sign
  have bound : num ≤ k * den := by exact_mod_cast h
  refine Int.ofNat_le.2 ?_
  rcases Nat.lt_or_ge num (k * den) with below | above
  · exact roundDiv_le below
  · obtain rfl : num = k * den := Nat.le_antisymm bound above
    simp [roundDiv, pos]

end

namespace Binary64

/-! ## fractions -/

/-- The numerator of the fraction that a number is. -/
def numerator : Binary64 → Int
  | .finite s m e _ => if s then -((ratio m e).1 : Int) else (ratio m e).1
  | _ => 0

/-- The denominator of the fraction that a number is. -/
def denominator : Binary64 → Nat
  | .finite _ m e _ => (ratio m e).2
  | _ => 1

/-- Whether a number is exactly an integer. -/
def IsExactly (x : Binary64) (n : Int) : Prop := x.isFinite = true ∧ x.numerator = n * x.denominator

theorem denominator_pos (x : Binary64) : 0 < x.denominator := by
  cases x with
  | finite s m e h => exact Nat.two_pow_pos _
  | _ => exact Nat.one_pos

variable {x : Binary64} {n : Int}

/-- A number and an integer are compared as fractions. -/
theorem orderInt?_eq (finite : x.isFinite = true) (k : Int) :
    x.orderInt? k = some (compare x.numerator (k * x.denominator)) := by
  cases x with
  | finite s m e h =>
      have one : numerator (.finite s m e h) * (1 : Nat) = numerator (.finite s m e h) := Int.mul_one _
      rw [← one]
      rfl
  | _ => cases finite

/-- The rounded number lies between the same integers as the number. -/
theorem exists_round (finite : x.isFinite = true) :
    ∃ r, x.round? = some r ∧ (∀ k : Int, k * x.denominator ≤ x.numerator → k ≤ r) ∧
      ∀ k : Int, x.numerator ≤ k * x.denominator → r ≤ k := by
  have pos := x.denominator_pos
  cases x with
  | finite s m e h =>
      refine ⟨_, rfl, ?_⟩
      cases s with
      | false => exact ⟨fun k => int_le_roundDiv pos, fun k => roundDiv_le_int pos⟩
      | true =>
          constructor
          · intro k le
            refine Int.le_neg_of_le_neg (roundDiv_le_int pos ?_)
            rw [Int.neg_mul]
            exact Int.le_neg_of_le_neg le
          · intro k le
            refine Int.neg_le_of_neg_le (int_le_roundDiv pos ?_)
            rw [Int.neg_mul]
            exact Int.neg_le_of_neg_le le
  | _ => cases finite

/-- A number that is an integer is rounded to it. -/
theorem IsExactly.round? (h : x.IsExactly n) : x.round? = some n := by
  obtain ⟨r, eq, above, below⟩ := exists_round h.1
  rw [eq, Int.le_antisymm (below n (Int.le_of_eq h.2)) (above n (Int.le_of_eq h.2.symm))]

/-! ## integers -/

/-- A short integer is its own significand, shifted. -/
theorem significandOf_eq {n : Nat} (short : n.log2 ≤ 52) : significandOf n = n * 2 ^ (52 - n.log2) := by
  rw [significandOf, Nat.sub_eq_zero_of_le short, Nat.pow_zero, roundDiv_one]

/-- The number closest to a positive integer up to `2 ^ 53` is that integer. -/
theorem exists_nearest_one {n : Nat} (pos : n ≠ 0) (le : n ≤ 2 ^ 53) (s : Bool) :
    ∃ m e h, nearest s n 1 = .finite s m e h ∧ (ratio m e).1 = n * (ratio m e).2 := by
  rcases Nat.lt_or_eq_of_le le with below | rfl
  · have short : n.log2 ≤ 52 := Nat.le_of_lt_succ ((Nat.log2_lt pos).2 below)
    have significand := significandOf_eq short
    obtain ⟨normal, -⟩ := significandOf_bounds pos
    have room : significandOf n < 2 ^ 53 := by
      have shift : 2 ^ 53 = 2 ^ (n.log2 + 1) * 2 ^ (52 - n.log2) := by
        rw [← Nat.pow_add]
        congr 1
        omega
      rw [significand, shift]
      exact Nat.mul_lt_mul_of_pos_right Nat.lt_log2_self (Nat.two_pow_pos _)
    have canonical : Canonical (significandOf n) (n.log2 - 52) :=
      ⟨room, by omega, by omega, .inl normal⟩
    refine ⟨_, _, canonical, ?_, ?_⟩
    · rw [nearest_one pos, if_neg (Nat.ne_of_lt room), ofCanonical, dif_pos canonical]
    · have whole : ((n.log2 : Int) - 52).toNat = 0 := by omega
      have part : (-((n.log2 : Int) - 52)).toNat = 52 - n.log2 := by omega
      simp only [ratio, whole, part, significand, Nat.pow_eq, Nat.pow_zero, Nat.mul_one]
  · cases s <;> exact ⟨2 ^ 52, 1, by decide, by decide +kernel, by decide⟩

/-- An integer up to `2 ^ 53` is exactly a number. -/
theorem exists_ofInt? (le : n.natAbs ≤ 2 ^ 53) : ∃ x, ofInt? n = some x ∧ x.IsExactly n := by
  by_cases null : n = 0
  · subst null
    have none : (ratio 0 (-1074)).1 = 0 := Nat.zero_mul _
    exact ⟨zero false, rfl, rfl, (congrArg Nat.cast none).trans (Int.zero_mul _).symm⟩
  · obtain ⟨m, e, h, eq, part⟩ := exists_nearest_one (Int.natAbs_ne_zero.2 null) le (decide (n < 0))
    refine ⟨_, by rw [ofInt?, eq], rfl, ?_⟩
    have magnitude : ((ratio m e).1 : Int) = n.natAbs * (ratio m e).2 := by exact_mod_cast part
    rw [numerator, denominator, magnitude]
    by_cases negative : n < 0
    · rw [if_pos (decide_eq_true negative), ← Int.neg_mul, Int.ofNat_natAbs_of_nonpos (Int.le_of_lt negative),
        Int.neg_neg]
    · rw [if_neg (mt of_decide_eq_true negative), Int.natAbs_of_nonneg (Int.not_lt.1 negative)]

theorem isFinite_of_ofInt? (h : ofInt? n = some x) : x.isFinite = true := by
  unfold ofInt? at h
  split at h
  · cases h
  · next other =>
    cases h
    cases closest : nearest (decide (n < 0)) n.natAbs 1 with
    | nan => exact absurd closest (nearest_ne_nan _ _ _)
    | infinite s => exact absurd closest (other s)
    | finite s m e h => rfl

end Binary64

end Pagewright
