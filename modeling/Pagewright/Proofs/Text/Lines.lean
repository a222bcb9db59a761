import Pagewright.Text.Split

/-!
# Pagewright.Proofs.Text.Lines

Texts that are put together with separators.  Cutting at the separator gives the parts back if none of
them contains it.
-/

namespace Pagewright

/-! ## cutting -/

namespace Text

variable {separator : Char} {part : List Char}

theorem split_append_cons (new : separator ∉ part) (rest : List Char) :
    split separator (part ++ separator :: rest) = part :: split separator rest := by
  induction part with
  | nil => simp [split]
  | cons c part ih =>
      obtain ⟨other, new⟩ := not_or.1 fun mem => new (List.mem_cons.2 mem)
      rw [List.cons_append, split, if_neg (by simpa using Ne.symm other), ih new]

theorem split_of_not_mem (new : separator ∉ part) : split separator part = [part] := by
  induction part with
  | nil => rfl
  | cons c part ih =>
      obtain ⟨other, new⟩ := not_or.1 fun mem => new (List.mem_cons.2 mem)
      rw [split, if_neg (by simpa using Ne.symm other), ih new]

/-- Parts with a separator between each two are what cutting at the separator gives. -/
theorem split_intercalate {parts : List (List Char)} (nonempty : parts ≠ [])
    (new : ∀ part ∈ parts, separator ∉ part) :
    split separator ([separator].intercalate parts) = parts := by
  induction parts with
  | nil => exact absurd rfl nonempty
  | cons part parts ih =>
      have first := new part (by simp)
      cases parts with
      | nil => rw [List.intercalate_singleton, split_of_not_mem first]
      | cons next parts =>
        rw [List.intercalate_cons_cons, List.append_assoc, List.singleton_append,
          split_append_cons first, ih (by simp) fun part mem => new part (List.mem_cons_of_mem _ mem)]

end Text

/-! ## lines -/

theorem intercalate_isPrefix (separator : String) (texts more : List String) :
    (String.intercalate separator texts).toList <+:
      (String.intercalate separator (texts ++ more)).toList := by
  by_cases first : texts = []
  · simp [first]
  · by_cases last : more = []
    · simp [last]
    · rw [String.intercalate_append_of_ne_nil first last, String.append_assoc, String.toList_append]
      exact List.prefix_append ..

end Pagewright
