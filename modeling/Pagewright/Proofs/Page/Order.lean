import Pagewright.Element.Instance

/-!
# Pagewright.Proofs.Page.Order

The order in which a page shows its instances: by their places, and as in the record where places are
equal.  There is only one such order, so what is left out of the record is left out of the order, and all
else stays as it is.
-/

namespace Pagewright

/-- A row of the instances of a page by their places, in which those with equal places stand as in the
record. -/
structure IsInOrder (record row : List Instance) : Prop where
  sorted : row.Pairwise fun a b => a.sortOrder ≤ b.sortOrder
  stable : ∀ place, row.filter (·.sortOrder == place) = record.filter (·.sortOrder == place)

namespace IsInOrder

variable {record row other : List Instance}

theorem mem_iff (h : IsInOrder record row) {i : Instance} : i ∈ row ↔ i ∈ record := by
  have same := congrArg (i ∈ ·) (h.stable i.sortOrder)
  simpa using same

theorem filter (h : IsInOrder record row) (p : Instance → Bool) :
    IsInOrder (record.filter p) (row.filter p) where
  sorted := h.sorted.filter p
  stable place := by
    have swap (is : List Instance) : (is.filter p).filter (·.sortOrder == place) =
        (is.filter (·.sortOrder == place)).filter p := by
      simp only [List.filter_filter, Bool.and_comm]
    rw [swap, swap, h.stable]

/-- There is one order only. -/
theorem unique (h : IsInOrder record row) (h' : IsInOrder record other) : row = other := by
  induction row generalizing record other with
  | nil =>
      cases other with
      | nil => rfl
      | cons b other =>
        have first := h'.mem_iff.1 (List.mem_cons_self ..)
        exact absurd (h.mem_iff.2 first) (by simp)
  | cons a row ih =>
      have known := h'.mem_iff.2 (h.mem_iff.1 (List.mem_cons_self ..))
      cases other with
      | nil => exact absurd known (by simp)
      | cons b other =>
        have known' := h.mem_iff.2 (h'.mem_iff.1 (List.mem_cons_self ..))
        obtain ⟨below, sorted⟩ := List.pairwise_cons.1 h.sorted
        obtain ⟨below', sorted'⟩ := List.pairwise_cons.1 h'.sorted
        have least {i j : Instance} {is : List Instance} (mem : j ∈ i :: is)
            (le : ∀ k ∈ is, i.sortOrder ≤ k.sortOrder) : i.sortOrder ≤ j.sortOrder := by
          cases mem with
          | head => exact Int.le_refl _
          | tail _ mem => exact le j mem
        -- both begin with an instance of the least place, so these are the first of that place on the page
        have place : b.sortOrder = a.sortOrder :=
          Int.le_antisymm (least known below') (least known' below)
        have firsts (n : Int) : (a :: row).filter (·.sortOrder == n) =
            (b :: other).filter (·.sortOrder == n) := (h.stable n).trans (h'.stable n).symm
        obtain ⟨rfl, -⟩ : a = b ∧ _ := by simpa [place] using firsts a.sortOrder
        have rest (n : Int) : row.filter (·.sortOrder == n) = other.filter (·.sortOrder == n) := by
          have := firsts n
          by_cases here : a.sortOrder = n <;> simpa [here] using this
        have alone : IsInOrder row row := ⟨sorted, fun _ => rfl⟩
        rw [ih alone ⟨sorted', fun n => (rest n).symm⟩]

end IsInOrder

namespace Page

/-- The instances of a page are shown in this order. -/
theorem isInOrder_ordered (page : Page) : IsInOrder page.instances page.ordered := by
  have trans (a b c : Instance) (hab : decide (a.sortOrder ≤ b.sortOrder) = true)
      (hbc : decide (b.sortOrder ≤ c.sortOrder) = true) : decide (a.sortOrder ≤ c.sortOrder) = true := by
    simp only [decide_eq_true_eq] at *
    omega
  have total (a b : Instance) :
      (decide (a.sortOrder ≤ b.sortOrder) || decide (b.sortOrder ≤ a.sortOrder)) = true := by
    simp only [Bool.or_eq_true, decide_eq_true_eq]
    omega
  have sorted := List.pairwise_mergeSort trans total page.instances
  refine ⟨sorted.imp fun le => of_decide_eq_true le, fun place => ?_⟩
  -- Instances with one place are a sorted part of the record, which sorting keeps together.
  have level : (page.instances.filter (·.sortOrder == place)).Pairwise
      fun a b => decide (a.sortOrder ≤ b.sortOrder) = true := by
    rw [List.pairwise_filter]
    refine List.pairwise_of_forall fun a b ha hb => ?_
    simp only [beq_iff_eq] at ha hb
    simp [ha, hb]
  have part := (List.sublist_mergeSort trans total level List.filter_sublist).filter
    (·.sortOrder == place)
  rw [List.filter_filter] at part
  simp only [Bool.and_self] at part
  refine (part.eq_of_length ?_).symm
  exact ((List.mergeSort_perm page.instances _).filter _).length_eq.symm

@[simp] theorem mem_ordered {page : Page} {i : Instance} : i ∈ page.ordered ↔ i ∈ page.instances :=
  page.isInOrder_ordered.mem_iff

/-- The page with some of its instances only. -/
def only (page : Page) (p : Instance → Bool) : Page := { page with instances := page.instances.filter p }

theorem ordered_only (page : Page) (p : Instance → Bool) :
    (page.only p).ordered = page.ordered.filter p :=
  (page.only p).isInOrder_ordered.unique (page.isInOrder_ordered.filter p)

end Page

end Pagewright
