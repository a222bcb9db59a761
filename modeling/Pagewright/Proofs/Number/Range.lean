import Mathlib.Algebra.Group.Nat.Defs
import Pagewright.Number.Binary64

/-!
# Pagewright.Proofs.Number.Range

The range of double precision numbers.  The numbers from `2 ^ 1024 - 2 ^ 970` on, and only they, are closer
to the power that would come next than to the greatest number, so that an integer is the closest number of
something exactly below that bound.  Whatever a number is rounded to stays below it.
-/

namespace Pagewright

/-! ## rounded quotients -/

/-- A quotient is rounded down, or up by one. -/
theorem roundDiv_eq_or (num den : Nat) :
    roundDiv num den = num / den ∨ roundDiv num den = num / den + 1 := by
  unfold roundDiv
  dsimp only
  split
  · exact .inl rfl
  · split
    · exact .inr rfl
    · omega

/-- Rounding does not pass below an integer. -/
theorem le_roundDiv {num den k : Nat} (pos : 0 < den) (h : k * den ≤ num) : k ≤ roundDiv num den := by
  have := (Nat.le_div_iff_mul_le pos).2 h
  have := roundDiv_eq_or num den
  omega

/-- Rounding does not pass above an integer. -/
theorem roundDiv_le {num den k : Nat} (h : num < k * den) : roundDiv num den ≤ k := by
  have := Nat.div_lt_of_lt_mul (Nat.mul_comm k den ▸ h)
  have := roundDiv_eq_or num den
  omega

/-- A quotient is rounded to an even number or more exactly when it is at most a half below that number. -/
theorem even_le_roundDiv_iff {num den k : Nat} (pos : 0 < den) (even : k % 2 = 0) :
    k ≤ roundDiv num den ↔ 2 * (k * den) ≤ 2 * num + den := by
  have split := Nat.div_add_mod num den
  have short := Nat.mod_lt num pos
  rcases Nat.lt_or_ge (num / den) k with below | above
  · -- Below the even number only its predecessor can be rounded up to it.
    rcases Nat.lt_or_ge (num / den + 1) k with far | near
    · have := roundDiv_eq_or num den
      have := Nat.mul_le_mul_left den far
      rw [Nat.mul_comm k den]
      constructor <;> intro h <;> simp only [Nat.succ_eq_add_one, Nat.mul_add] at * <;> omega
    · obtain rfl : k = num / den + 1 := by omega
      have odd : num / den % 2 = 1 := by omega
      have : (num / den + 1) * den = den * (num / den) + den := by rw [Nat.add_mul, Nat.mul_comm, Nat.one_mul]
      rw [this]
      unfold roundDiv
      dsimp only
      split
      · omega
      · split <;> omega
  · have := roundDiv_eq_or num den
    have := Nat.mul_le_mul_left den above
    rw [Nat.mul_comm k den]
    omega

namespace Binary64

/-! ## the integers in range -/

/-- Whether an integer is beyond the range of numbers. -/
def IsBeyond (n : Int) : Prop := 2 ^ 1024 - 2 ^ 970 ≤ n.natAbs

instance (n : Int) : Decidable (IsBeyond n) := inferInstanceAs (Decidable (_ ≤ _))

/-- A number that does not fit its form is infinite. -/
theorem isFinite_ofCanonical (s : Bool) (m : Nat) (e : Int) :
    (ofCanonical s m e).isFinite = decide (Canonical m e) := by
  unfold ofCanonical
  split
  · next h => simp [isFinite, h]
  · next h => simp [isFinite, h]

/-- The order of an integer is its binary logarithm. -/
theorem binaryOrder_one {n : Nat} (pos : n ≠ 0) : binaryOrder n 1 = n.log2 := by
  have one : Nat.log2 1 = 0 := by decide
  have below : (-(n.log2 : Int)).toNat = 0 := by omega
  have reached : ¬ n < Nat.pow 2 n.log2 := Nat.not_lt.2 (Nat.log2_self_le pos)
  unfold binaryOrder
  simp only [one, Int.natCast_zero, Int.sub_zero, below, Int.toNat_natCast, Nat.one_mul]
  rw [if_neg]
  simpa using reached

/-- The significand of the number closest to a positive integer, before it is renormalised. -/
def significandOf (n : Nat) : Nat := roundDiv (n * 2 ^ (52 - n.log2)) (2 ^ (n.log2 - 52))

/-- Rounding may carry a significand to the next power of two, where it is renormalised. -/
theorem nearest_one {n : Nat} (pos : n ≠ 0) (s : Bool) :
    nearest s n 1 =
      if significandOf n = 2 ^ 53 then ofCanonical s (2 ^ 52) (n.log2 - 51)
      else ofCanonical s (significandOf n) (n.log2 - 52) := by
  have exponent : max ((n.log2 : Int) - 52) (-1074) = n.log2 - 52 := by omega
  have up : (-((n.log2 : Int) - 52)).toNat = 52 - n.log2 := by omega
  have down : ((n.log2 : Int) - 52).toNat = n.log2 - 52 := by omega
  have next : (n.log2 : Int) - 52 + 1 = n.log2 - 51 := by omega
  unfold nearest
  simp only [pos, if_false, binaryOrder_one pos, exponent, up, down, next, Nat.one_mul]
  rfl

/-- The significand of a positive integer has 53 binary digits, or it is the power just above these. -/
theorem significandOf_bounds {n : Nat} (pos : n ≠ 0) :
    2 ^ 52 ≤ significandOf n ∧ significandOf n ≤ 2 ^ 53 := by
  have shift (k : Nat) : 2 ^ (52 + k) * 2 ^ (n.log2 - 52) = 2 ^ (n.log2 + k) * 2 ^ (52 - n.log2) := by
    rw [← Nat.pow_add, ← Nat.pow_add]
    congr 1
    omega
  constructor
  · refine le_roundDiv (Nat.two_pow_pos _) ?_
    rw [shift 0]
    exact Nat.mul_le_mul_right _ (Nat.log2_self_le pos)
  · refine roundDiv_le ?_
    rw [shift 1]
    exact Nat.mul_lt_mul_of_pos_right Nat.lt_log2_self (Nat.two_pow_pos _)

/-- The exponent has room for all but the greatest significands. -/
theorem isFinite_nearest_one {n : Nat} (pos : n ≠ 0) (s : Bool) :
    (nearest s n 1).isFinite = true ↔
      n.log2 < 1023 ∨ n.log2 = 1023 ∧ significandOf n < 2 ^ 53 := by
  obtain ⟨low, high⟩ := significandOf_bounds pos
  rw [nearest_one pos]
  split
  · next full =>
    rw [isFinite_ofCanonical, decide_eq_true_iff]
    simp only [Canonical, Nat.pow_eq]
    omega
  · next short =>
    rw [isFinite_ofCanonical, decide_eq_true_iff]
    simp only [Canonical, Nat.pow_eq]
    omega

/-- The powers that the bound of the range is made of. -/
theorem powers : 0 < 2 ^ 970 ∧ 2 ^ 971 = 2 ^ 1 * 2 ^ 970 ∧ 2 ^ 1023 = 2 ^ 53 * 2 ^ 970 ∧
    2 ^ 1024 = 2 ^ 54 * 2 ^ 970 := by
  have double : 2 ^ 971 = 2 ^ 1 * 2 ^ 970 := by simp only [← Nat.pow_add, Nat.reduceAdd]
  have half : 2 ^ 1023 = 2 ^ 53 * 2 ^ 970 := by simp only [← Nat.pow_add, Nat.reduceAdd]
  have whole : 2 ^ 1024 = 2 ^ 54 * 2 ^ 970 := by simp only [← Nat.pow_add, Nat.reduceAdd]
  have some (k : Nat) : 0 < 2 ^ k := Nat.two_pow_pos k
  exact ⟨some 970, double, half, whole⟩

/-- The number closest to a positive integer is finite exactly below the bound of the range. -/
theorem isFinite_nearest_one_iff {n : Nat} (pos : n ≠ 0) (s : Bool) :
    (nearest s n 1).isFinite = true ↔ n < 2 ^ 1024 - 2 ^ 970 := by
  rw [isFinite_nearest_one pos]
  have short (k : Nat) : n.log2 < k ↔ n < 2 ^ k := Nat.log2_lt pos
  have below := short 1023
  have within := short 1024
  have full : n.log2 = 1023 → (2 ^ 53 ≤ significandOf n ↔ 2 * (2 ^ 53 * 2 ^ 971) ≤ 2 * n + 2 ^ 971) := by
    intro last
    have even : 2 ^ 53 % 2 = 0 := by decide
    have some (k : Nat) : 0 < 2 ^ k := Nat.two_pow_pos k
    simp only [significandOf, last, Nat.reduceSub, Nat.pow_zero, Nat.mul_one]
    exact even_le_roundDiv_iff (some 971) even
  obtain ⟨some, double, half, whole⟩ := powers
  rw [half] at below
  rw [whole] at within ⊢
  rw [double] at full
  generalize 2 ^ 970 = d at *
  omega

/-- A quotient has a closest number, which may be infinite. -/
theorem nearest_ne_nan (s : Bool) (num den : Nat) : nearest s num den ≠ .nan := by
  unfold nearest ofCanonical zero
  dsimp only
  repeat' split
  all_goals exact Binary64.noConfusion

theorem not_isBeyond_zero : ¬ IsBeyond 0 := by
  obtain ⟨some, -, -, whole⟩ := powers
  rw [IsBeyond, whole]
  generalize 2 ^ 970 = d at *
  omega

/-- An integer has a closest number exactly when it is not beyond the range. -/
theorem ofInt?_eq_none_iff {n : Int} : ofInt? n = none ↔ IsBeyond n := by
  have finite : (nearest (decide (n < 0)) n.natAbs 1).isFinite = true ↔ ¬ IsBeyond n := by
    by_cases null : n = 0
    · subst null
      exact ⟨fun _ => not_isBeyond_zero, fun _ => rfl⟩
    · rw [isFinite_nearest_one_iff (Int.natAbs_ne_zero.2 null), IsBeyond, Nat.not_le]
  rw [← Decidable.not_iff_not, ← finite, ofInt?]
  cases closest : nearest (decide (n < 0)) n.natAbs 1 with
  | nan => exact absurd closest (nearest_ne_nan _ _ _)
  | infinite s => simp [isFinite]
  | finite s m e h => simp [isFinite]

/-! ## rounding to integers -/

/-- The greatest integer of a given exponent. -/
theorem Canonical.mul_le {m : Nat} {e : Int} (h : Canonical m e) {k : Nat} (le : e.toNat ≤ k) :
    m * 2 ^ e.toNat ≤ (2 ^ 53 - 1) * 2 ^ k :=
  Nat.mul_le_mul (Nat.le_sub_one_of_lt h.1) (Nat.pow_le_pow_right Nat.two_pos le)

/-- No number is rounded to an integer beyond the range. -/
theorem not_isBeyond_round (x : Binary64) : ¬ IsBeyond (x.round?.getD 0) := by
  cases x with
  | nan => exact not_isBeyond_zero
  | infinite s => exact not_isBeyond_zero
  | finite s m e h =>
      have abs : ((Binary64.finite s m e h).round?.getD 0).natAbs =
          roundDiv (m * 2 ^ e.toNat) (2 ^ (-e).toNat) := by
        cases s
        · rfl
        · exact Int.natAbs_neg _
      have bound := h.mul_le (k := 971) (by have := h.2.2.1; omega)
      obtain ⟨some, double, -, whole⟩ := powers
      rw [double] at bound
      rw [IsBeyond, abs, whole]
      generalize 2 ^ 970 = d at *
      have close := roundDiv_eq_or (m * 2 ^ e.toNat) (2 ^ (-e).toNat)
      have smaller := Nat.div_le_self (m * 2 ^ e.toNat) (2 ^ (-e).toNat)
      omega

end Binary64

end Pagewright
