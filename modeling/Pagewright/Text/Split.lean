/-!
# Pagewright.Text.Split

Cutting texts at a separator and joining them again.
-/

namespace Pagewright.Text

/-- The parts of a text between the places where a character stands; there is always one. -/
def split (separator : Char) : List Char → List (List Char)
  | [] => [[]]
  | c :: cs =>
    if c == separator then [] :: split separator cs
    else match split separator cs with
      | [] => [[c]]
      | part :: parts => (c :: part) :: parts

/-- A text is split into one part at least. -/
theorem split_ne_nil (separator : Char) (cs : List Char) : split separator cs ≠ [] := by
  induction cs with
  | nil => simp [split]
  | cons c cs ih =>
    unfold split
    split
    · simp
    · split <;> simp

/-- Texts one after the other with a separator between each two. -/
def join (separator : List Char) : List (List Char) → List Char
  | [] => []
  | [part] => part
  | part :: parts => part ++ separator ++ join separator parts

theorem join_cons {separator part : List Char} {parts : List (List Char)} (h : parts ≠ []) :
    join separator (part :: parts) = part ++ separator ++ join separator parts := by
  match parts, h with
  | _ :: _, _ => rfl

/-- Joining the parts of a text gives the text back. -/
theorem join_split (separator : Char) (cs : List Char) :
    join [separator] (split separator cs) = cs := by
  induction cs with
  | nil => rfl
  | cons c cs ih =>
    unfold split
    by_cases h : c = separator
    · subst h
      rw [if_pos (by simp), join_cons (split_ne_nil c cs), ih]
      rfl
    · rw [if_neg (by simpa using h)]
      split
      · next nil => exact absurd nil (split_ne_nil separator cs)
      · next part parts eq =>
        rw [eq] at ih
        by_cases last : parts = []
        · subst last
          rw [← ih]
          rfl
        · rw [join_cons last] at ih ⊢
          rw [← ih]
          rfl

/-- What is in a part is in the joined text. -/
theorem mem_join_of_mem {separator part : List Char} {parts : List (List Char)} {c : Char}
    (mem : part ∈ parts) (h : c ∈ part) : c ∈ join separator parts := by
  induction parts with
  | nil => cases mem
  | cons first rest ih =>
    by_cases last : rest = []
    · subst last
      rw [List.mem_singleton] at mem
      exact mem ▸ h
    · rw [join_cons last, List.mem_append, List.mem_append]
      cases mem with
      | head => exact .inl (.inl h)
      | tail _ mem => exact .inr (ih mem)

/-- What is in a part is in the text that was split. -/
theorem mem_of_mem_split {separator c : Char} {cs part : List Char}
    (mem : part ∈ split separator cs) (h : c ∈ part) : c ∈ cs := by
  rw [← join_split separator cs]
  exact mem_join_of_mem mem h

/-- No part of a text contains the character at which the text is cut. -/
theorem not_mem_of_mem_split {separator : Char} {cs part : List Char}
    (h : part ∈ split separator cs) : separator ∉ part := by
  induction cs generalizing part with
  | nil =>
    rw [split, List.mem_singleton] at h
    simp [h]
  | cons c cs ih =>
    unfold split at h
    by_cases hc : c = separator
    · rw [if_pos (by simpa using hc)] at h
      rcases List.mem_cons.1 h with rfl | later
      · simp
      · exact ih later
    · rw [if_neg (by simpa using hc)] at h
      split at h
      · next nil => exact absurd nil (split_ne_nil separator cs)
      · next first parts eq =>
        rcases List.mem_cons.1 h with rfl | later
        · have : separator ∉ first := ih (by rw [eq]; exact List.mem_cons_self)
          have ne : separator ≠ c := fun e => hc e.symm
          simp [ne, this]
        · exact ih (by rw [eq]; exact List.mem_cons_of_mem first later)

/-- The first part of a text before a character, and the rest behind it, if it occurs. -/
def cut? (separator : Char) : List Char → Option (List Char × List Char)
  | [] => none
  | c :: cs =>
    if c == separator then some ([], cs)
    else (cut? separator cs).map fun (before, behind) => (c :: before, behind)

/-- A text is cut at the first place where the character stands. -/
theorem cut?_eq_some_iff {separator : Char} {cs before behind : List Char} :
    cut? separator cs = some (before, behind) ↔
      cs = before ++ separator :: behind ∧ separator ∉ before := by
  induction cs generalizing before with
  | nil => simp [cut?]
  | cons c cs ih =>
    unfold cut?
    by_cases h : c = separator
    · subst h
      rw [if_pos (by simp)]
      constructor
      · intro e
        cases e
        simp
      · rintro ⟨e, new⟩
        cases before with
        | nil => simp_all
        | cons d before => simp_all
    · rw [if_neg (by simpa using h), Option.map_eq_some_iff]
      constructor
      · rintro ⟨⟨b, r⟩, found, e⟩
        cases e
        obtain ⟨rfl, new⟩ := ih.1 found
        have ne : separator ≠ c := fun e => h e.symm
        simp [ne, new]
      · rintro ⟨e, new⟩
        cases before with
        | nil => simp_all
        | cons d before =>
          rw [List.cons_append, List.cons.injEq] at e
          obtain ⟨rfl, e⟩ := e
          exact ⟨(before, behind), ih.2 ⟨e, fun m => new (List.mem_cons_of_mem c m)⟩, rfl⟩

end Pagewright.Text
