import Pagewright.Pen.Drawing
import Pagewright.Proofs.Fault.Yields

/-!
# Pagewright.Proofs.Pen.Yields

Properties of results of the compiler.  A property of what the steps of a style or a drawing give is
carried through the whole row of steps.
-/

namespace Pagewright.Pen

variable {α β : Type} {P : β → Prop}

/-! ## styles -/

/-- Of two steps of a style, the second may use that the first came about. -/
theorem Styled.yields_bind {x : Styled α} {f : α → Styled β}
    (h : ∀ a, x.result = .ok a → Yields P (f a).result) : Yields P (x >>= f).result := by
  cases eq : x.result with
  | error e =>
      simp only [Bind.bind, eq]
      exact yields_error e
  | ok a =>
      simp only [Bind.bind, eq]
      exact h a eq

/-- A step of which only what its results have in common counts. -/
theorem Styled.yields_bind_of {Q : α → Prop} {x : Styled α} {f : α → Styled β}
    (first : Yields Q x.result) (h : ∀ a, Q a → Yields P (f a).result) : Yields P (x >>= f).result :=
  Styled.yields_bind fun a eq => h a (first a eq)

/-- What every step of a fold keeps holds at its end. -/
theorem Styled.yields_foldlM {f : β → α → Styled β} {as : List α} {b : β} (start : P b)
    (step : ∀ b a, a ∈ as → P b → Yields P (f b a).result) : Yields P (as.foldlM f b).result := by
  induction as generalizing b with
  | nil => exact yields_ok start
  | cons a as ih =>
      rw [List.foldlM_cons]
      refine Styled.yields_bind_of (step b a (List.mem_cons_self ..) start) fun next kept => ?_
      exact ih kept fun b c hc => step b c (List.mem_cons_of_mem a hc)

/-- The loop behind the next lemma, with the results that it has so far. -/
theorem Styled.yields_mapM_loop {f : α → Styled β} {as : List α} {done : List β}
    (before : ∀ b ∈ done, P b) (h : ∀ a ∈ as, Yields P (f a).result) :
    Yields (fun bs => ∀ b ∈ bs, P b) (List.mapM.loop f as done).result := by
  induction as generalizing done with
  | nil => exact yields_ok fun b hb => before b (List.mem_reverse.1 hb)
  | cons a as ih =>
      refine Styled.yields_bind fun b eq => ih ?_ fun c hc => h c (List.mem_cons_of_mem a hc)
      intro c hc
      cases hc with
      | head => exact h a (List.mem_cons_self ..) b eq
      | tail _ hc => exact before c hc

/-- What each step yields holds of all results. -/
theorem Styled.yields_mapM {f : α → Styled β} {as : List α}
    (h : ∀ a ∈ as, Yields P (f a).result) :
    Yields (fun bs => ∀ b ∈ bs, P b) (as.mapM f).result :=
  Styled.yields_mapM_loop (by simp) h

/-! ## drawings -/

/-- Of two steps of a drawing, the second may use that the first came about. -/
theorem Drawing.yields_bind {x : Drawing α} {f : α → Drawing β}
    (h : ∀ a, x.result = .ok a → Yields P (f a).result) : Yields P (x >>= f).result := by
  cases eq : x.result with
  | error e =>
      simp only [Bind.bind, eq]
      exact yields_error e
  | ok a =>
      rw [Drawing.result_bind_of_ok eq]
      exact h a eq

/-- Nothing in place of a fault has the property as well, if nothing has it. -/
theorem Drawing.yields_orNothing {P : List α → Prop} {d : Drawing (List α)} (nothing : P [])
    (h : Yields P d.result) : Yields P d.orNothing.result := by
  unfold Drawing.orNothing
  split
  · exact h
  · exact yields_ok nothing

end Pagewright.Pen
