import Mathlib.Data.List.TakeWhile
import Pagewright.Number.Decimal
import Pagewright.Proofs.Number.Range

/-!
# Pagewright.Proofs.Number.Written

Every number has a text.  A decimal without a digit other than zero is never chosen for a number that is not zero:
such a decimal does not read back as the number, and rounding to some digits keeps the first of them.
-/

namespace Pagewright

namespace Decimal

variable {num den : Nat}

/-! ## the order of a quotient -/

theorem lt_pow_length (n : Nat) : n < 10 ^ length n :=
  (Nat.length_toDigits_le_iff (by decide) Nat.length_toDigits_pos).1 (Nat.le_refl _)

/-- A positive number has as many digits as it needs. -/
theorem pow_length_le (pos : 0 < n) : 10 ^ (length n - 1) ≤ n := by
  rcases Nat.lt_or_ge 1 (length n) with many | one
  · have short : ¬ length n ≤ length n - 1 := by omega
    exact Nat.not_lt.1 fun lt => short ((Nat.length_toDigits_le_iff (by decide) (by omega)).2 lt)
  · have none : length n - 1 = 0 := by omega
    rw [none]
    exact pos

/-- A quotient reaches the power of ten below its order. -/
theorem pow_order_le (pos : 0 < num) :
    den * 10 ^ (order num den - 1).toNat ≤ num * 10 ^ (-(order num den - 1)).toNat := by
  unfold order
  extract_lets k
  split
  · next reached => simpa using reached
  · have lengths : 0 < length num := Nat.length_toDigits_pos
    have balance : length den + (k - 1).toNat = length num - 1 + (-(k - 1)).toNat := by omega
    calc den * 10 ^ (k - 1).toNat
        ≤ 10 ^ length den * 10 ^ (k - 1).toNat := Nat.mul_le_mul_right _ (Nat.le_of_lt (lt_pow_length den))
      _ = 10 ^ (length num - 1) * 10 ^ (-(k - 1)).toNat := by rw [← Nat.pow_add, ← Nat.pow_add, balance]
      _ ≤ num * 10 ^ (-(k - 1)).toNat := Nat.mul_le_mul_right _ (pow_length_le pos)

/-- In units below the order of a quotient there is one at least. -/
theorem scaled_le (pos : 0 < num) {e : Int} (below : e ≤ order num den - 1) :
    (scaled num den e).2 ≤ (scaled num den e).1 := by
  have base : den * 10 ^ (order num den - 1).toNat ≤ num * 10 ^ (-(order num den - 1)).toNat := pow_order_le pos
  generalize order num den - 1 = top at below base
  have gap : e.toNat + (-top).toNat ≤ (-e).toNat + top.toNat := by omega
  refine Nat.le_of_mul_le_mul_right ?_ (Nat.pow_pos (by decide : 0 < 10) : 0 < 10 ^ top.toNat)
  calc den * 10 ^ e.toNat * 10 ^ top.toNat
      = den * 10 ^ top.toNat * 10 ^ e.toNat := Nat.mul_right_comm ..
    _ ≤ num * 10 ^ (-top).toNat * 10 ^ e.toNat := Nat.mul_le_mul_right _ base
    _ = num * 10 ^ (e.toNat + (-top).toNat) := by rw [Nat.mul_assoc, ← Nat.pow_add, Nat.add_comm]
    _ ≤ num * 10 ^ ((-e).toNat + top.toNat) := Nat.mul_le_mul_left _ (Nat.pow_le_pow_right (by decide) gap)
    _ = num * 10 ^ (-e).toNat * 10 ^ top.toNat := by rw [Nat.pow_add, Nat.mul_assoc]

/-! ## digits other than zero -/

/-- A positive quotient keeps a digit other than zero, to however few digits it is rounded. -/
theorem digits_rounded_pos (hn : 0 < num) (hd : 0 < den) {p : Nat} (some : 0 < p) :
    0 < (rounded p num den).digits := by
  unfold rounded
  extract_lets exponent
  have unit : 0 < (scaled num den exponent).2 := Nat.mul_pos hd (Nat.pow_pos (by decide))
  have one := le_roundDiv unit ((Nat.one_mul _).symm ▸ scaled_le hn (by omega) :
    1 * (scaled num den exponent).2 ≤ (scaled num den exponent).1)
  dsimp only
  split
  · exact Nat.pow_pos (by decide)
  · exact one

/-- A decimal that reads back as a number other than zero has a digit other than zero. -/
theorem digits_pos_of_readsAs {d : Decimal} {x : Binary64} (h : d.readsAs x = true) (other : x ≠ .zero false) :
    0 < d.digits := by
  rw [Nat.pos_iff_ne_zero]
  intro none
  unfold readsAs at h
  rw [none, Nat.zero_mul] at h
  exact other (beq_iff_eq.1 h).symm

/-- So does a decimal near a number that is not zero. -/
theorem digits_neighbour?_pos {d : Decimal} {x : Binary64} {p : Nat} (h : neighbour? x num den p = some d)
    (other : x ≠ .zero false) : 0 < d.digits := by
  unfold neighbour? at h
  extract_lets exponent at h
  dsimp only at h
  split at h
  · next reads _ =>
    -- rounding gives one of the two neighbours, and the lower one reads back, so neither has only zeros
    have below := digits_pos_of_readsAs reads other
    have := roundDiv_eq_or (scaled num den exponent).1 (scaled num den exponent).2
    cases h
    dsimp only at below ⊢
    omega
  · next reads _ =>
    cases h
    exact digits_pos_of_readsAs reads other
  · cases h
    exact Nat.succ_pos _
  · cases h

/-- And so does the shortest one that reads back. -/
theorem digits_shortest_pos {x : Binary64} (hn : 0 < num) (hd : 0 < den) (other : x ≠ .zero false) :
    0 < (shortest x num den).digits := by
  unfold shortest
  cases found : (List.range 17).findSome? fun p => neighbour? x num den (p + 1) with
  | none => exact digits_rounded_pos hn hd (by decide)
  | some d =>
      obtain ⟨p, -, reads⟩ := List.exists_of_findSome?_eq_some found
      exact digits_neighbour?_pos reads other

theorem exists_digit_ne_zero {n : Nat} (pos : 0 < n) : ∃ c ∈ Nat.toDigits 10 n, c ≠ '0' := by
  induction n using Nat.strongRecOn with
  | ind n ih =>
      rcases Nat.lt_or_ge n 10 with short | long
      · rw [Nat.toDigits_of_lt_base short]
        exact ⟨_, List.mem_singleton_self _, fun zero => Nat.ne_of_gt pos (Nat.digitChar_eq_zero.1 zero)⟩
      · obtain ⟨c, mem, ne⟩ := ih (n / 10) (Nat.div_lt_self pos (by decide)) (Nat.div_pos long (by decide))
        rw [Nat.toDigits_of_base_le (by decide) long]
        exact ⟨c, List.mem_append_left _ mem, ne⟩

/-- The digits that are left without trailing zeros are not empty. -/
theorem significant_ne_nil {d : Decimal} (pos : 0 < d.digits) : d.significant ≠ [] := by
  obtain ⟨c, mem, ne⟩ := exists_digit_ne_zero pos
  rw [significant, ne_eq, List.reverse_eq_nil_iff, List.dropWhile_eq_nil_iff]
  exact fun zeros => ne (beq_iff_eq.1 (zeros c (List.mem_reverse.2 mem)))

end Decimal

/-! ## texts -/

/-- Whatever the style, the significant digits are written. -/
theorem DecimalStyle.write_ne_nil {style : DecimalStyle} {d : Decimal} (some : d.significant ≠ []) :
    style.write d ≠ [] := by
  unfold write
  extract_lets digits point
  split
  · split
    · exact List.cons_ne_nil _ _
    · split
      · exact List.append_ne_nil_of_left_ne_nil (List.append_ne_nil_of_left_ne_nil some _) _
      · exact List.append_ne_nil_of_right_ne_nil _ (List.cons_ne_nil _ _)
  · cases eq : d.significant with
    | nil => exact absurd eq some
    | cons first rest =>
        simp only [digits, eq]
        exact List.cons_ne_nil _ _

namespace Binary64

/-- Every number has a text. -/
theorem text_ne_empty (x : Binary64) : x.text ≠ "" := by
  have signed (s : Bool) {cs : List Char} (some : cs ≠ []) :
      String.ofList (if s = true then '-' :: cs else cs) ≠ "" := by
    rw [ne_eq, String.ofList_eq_empty_iff]
    split
    · exact List.cons_ne_nil _ _
    · exact some
  cases x with
  | nan => decide
  | infinite s => exact signed s (by decide)
  | finite s m e h =>
      refine signed s ?_
      split
      · decide
      · next nonzero =>
        have magnitude : 0 < (ratio m e).1 := Nat.mul_pos (Nat.pos_of_ne_zero nonzero) (Nat.pow_pos (by decide))
        have unit : 0 < (ratio m e).2 := Nat.pow_pos (by decide)
        have other : finite false m e h ≠ .zero false := fun eq => nonzero (finite.inj eq).2.1
        exact DecimalStyle.write_ne_nil
          (Decimal.significant_ne_nil (Decimal.digits_shortest_pos magnitude unit other))

end Binary64

end Pagewright
