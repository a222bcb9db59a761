import Pagewright.Fault

/-!
# Pagewright.Proofs.Fault.Yields

Properties of results.  What fails yields nothing, so a property of the results of steps is carried
through a row of steps, and steps have a result together exactly when each of them has one.
-/

namespace Pagewright

/-- Whatever comes about has a property. -/
def Yields {α : Type} (P : α → Prop) (result : Except Fault α) : Prop := ∀ a, result = .ok a → P a

variable {α β : Type} {P : β → Prop}

/-! ## reading -/

theorem yields_ok {b : β} (h : P b) : Yields P (.ok b) := by
  intro c eq
  cases eq
  exact h

/-- A fault has no result of which anything could fail. -/
theorem yields_error (f : Fault) : Yields P (.error f) := by
  intro b eq
  cases eq

/-- Of two steps, the second may use that the first came about. -/
theorem Yields.bind {x : Except Fault α} {f : α → Except Fault β}
    (h : ∀ a, x = .ok a → Yields P (f a)) : Yields P (x >>= f) := by
  cases x with
  | error e => exact yields_error e
  | ok a => exact h a rfl

/-- What every step of a fold keeps holds at its end. -/
theorem yields_foldlM {f : β → α → Except Fault β} {as : List α} {b : β} (start : P b)
    (step : ∀ b a, a ∈ as → P b → Yields P (f b a)) : Yields P (as.foldlM f b) := by
  induction as generalizing b with
  | nil => exact yields_ok start
  | cons a as ih =>
      rw [List.foldlM_cons]
      refine Yields.bind fun next eq => ih ?_ fun b c hc => step b c (List.mem_cons_of_mem a hc)
      exact step b a (List.mem_cons_self ..) start next eq

/-- What each step yields holds of all results. -/
theorem yields_mapM {f : α → Except Fault β} {as : List α} (h : ∀ a ∈ as, Yields P (f a)) :
    Yields (fun bs => ∀ b ∈ bs, P b) (as.mapM f) := by
  induction as with
  | nil => exact yields_ok (List.forall_mem_nil _)
  | cons a as ih =>
      obtain ⟨first, rest⟩ := List.forall_mem_cons.1 h
      rw [List.mapM_cons]
      refine Yields.bind fun b hb => Yields.bind fun bs hbs => yields_ok ?_
      exact List.forall_mem_cons.2 ⟨first b hb, ih rest bs hbs⟩

/-! ## results one after the other -/

/-- Steps that do not fail are a map. -/
theorem mapM_eq_map {f : α → Except Fault β} {g : α → β} {as : List α}
    (h : ∀ a ∈ as, f a = .ok (g a)) : as.mapM f = .ok (as.map g) := by
  induction as with
  | nil => rfl
  | cons a as ih =>
      rw [List.mapM_cons, h a (List.mem_cons_self ..), ih fun b mem => h b (List.mem_cons_of_mem _ mem)]
      rfl

/-- A result of two steps, taken apart. -/
theorem bind_eq_ok_iff {ε : Type} {x : Except ε α} {f : α → Except ε β} {b : β} :
    x >>= f = .ok b ↔ ∃ a, x = .ok a ∧ f a = .ok b := by
  cases x with
  | error e =>
      constructor
      · exact fun eq => nomatch eq
      · exact fun ⟨_, eq, _⟩ => nomatch eq
  | ok a =>
      constructor
      · exact fun made => ⟨a, rfl, made⟩
      · rintro ⟨_, eq, made⟩
        cases eq
        exact made

/-- A step after another has a result exactly when it has one for the result of the other. -/
theorem exists_bind_iff {x : Except Fault α} {f : α → Except Fault β} :
    (∃ b, x >>= f = .ok b) ↔ ∃ a, x = .ok a ∧ ∃ b, f a = .ok b := by
  simp only [bind_eq_ok_iff]
  exact ⟨fun ⟨b, a, eq, made⟩ => ⟨a, eq, b, made⟩, fun ⟨a, eq, b, made⟩ => ⟨b, a, eq, made⟩⟩

/-- Whether the second of two steps has a result may not depend on that of the first. -/
theorem exists_bind_iff_and {x : Except Fault α} {f : α → Except Fault β} {q : Prop}
    (h : ∀ a, (∃ b, f a = .ok b) ↔ q) : (∃ b, x >>= f = .ok b) ↔ (∃ a, x = .ok a) ∧ q := by
  simp only [exists_bind_iff, h, exists_and_right]

/-- A step that always has a result may follow any other. -/
theorem exists_bind_iff_left {x : Except Fault α} {f : α → Except Fault β} (total : ∀ a, ∃ b, f a = .ok b) :
    (∃ b, x >>= f = .ok b) ↔ ∃ a, x = .ok a := by
  rw [exists_bind_iff]
  exact exists_congr fun a => and_iff_left (total a)

theorem exists_map_iff {x : Except Fault α} {f : α → β} :
    (∃ b, (do return f (← x)) = .ok b) ↔ ∃ a, x = .ok a :=
  exists_bind_iff_left fun a => ⟨f a, rfl⟩

/-- Steps have results together exactly when each of them has one. -/
theorem exists_mapM_iff {f : α → Except Fault β} {as : List α} :
    (∃ bs, as.mapM f = .ok bs) ↔ ∀ a ∈ as, ∃ b, f a = .ok b := by
  induction as with
  | nil => exact ⟨fun _ => List.forall_mem_nil _, fun _ => ⟨[], rfl⟩⟩
  | cons a as ih =>
      rw [List.forall_mem_cons, ← ih, List.mapM_cons, exists_bind_iff]
      constructor
      · rintro ⟨b, first, rest⟩
        obtain ⟨bs, rest, -⟩ := exists_bind_iff.1 rest
        exact ⟨⟨b, first⟩, bs, rest⟩
      · rintro ⟨⟨b, first⟩, bs, rest⟩
        exact ⟨b, first, exists_bind_iff.2 ⟨bs, rest, _, rfl⟩⟩

end Pagewright
