import Pagewright.Proofs.Text.Words
import Pagewright.Style.ClassName

/-!
# Pagewright.Proofs.Style.ClassName

The class names of a datum.  They are different class names, and any different class names are those of the
text that lists them.
-/

namespace Pagewright.Style

open Text

/-! ## names one by one -/

/-- A class may go on with whatever it may begin with. -/
theorem isClassChar_of_isClassStart {c : Char} (h : isClassStart c = true) : isClassChar c = true := by
  simp only [isClassStart, Bool.or_eq_true] at h
  simp only [isClassChar, Char.isAlphanum, Bool.or_eq_true]
  tauto

theorem isClassChar_of_isClassName {name : List Char} (h : isClassName name = true) :
    name ≠ [] ∧ ∀ c ∈ name, isClassChar c = true := by
  have body {c : Char} {rest : List Char} (h : (isClassStart c && rest.all isClassChar) = true) :
      ∀ d ∈ c :: rest, isClassChar d = true := by
    obtain ⟨first, others⟩ := Bool.and_eq_true_iff.1 h
    exact List.forall_mem_cons.2 ⟨isClassChar_of_isClassStart first, List.all_eq_true.1 others⟩
  unfold isClassName at h
  split at h
  · dsimp only at h
    split at h
    · exact ⟨List.cons_ne_nil _ _, List.forall_mem_cons.2 ⟨rfl, body h⟩⟩
    · cases h
  · dsimp only at h
    split at h
    · exact ⟨List.cons_ne_nil _ _, body h⟩
    · cases h

/-- A class name has no blank, so it is one word. -/
theorem isWordText_of_isClassName {name : List Char} (h : isClassName name = true) : IsWordText name := by
  obtain ⟨some, chars⟩ := isClassChar_of_isClassName h
  exact ⟨some, fun c mem => isBlank_eq_false (by decide +kernel) (chars c mem)⟩

/-! ## different names -/

/-- Names with one more name, if it is new. -/
def addName (seen : List (List Char)) (name : List Char) : List (List Char) :=
  if seen.contains name then seen else seen ++ [name]

/-- The names are taken in one after the other. -/
theorem classNames_eq (candidates : List (List Char)) :
    classNames candidates = (candidates.filter isClassName).foldl addName [] := rfl

theorem mem_addName {seen : List (List Char)} {name other : List Char} :
    other ∈ addName seen name ↔ other ∈ seen ∨ other = name := by
  unfold addName
  split
  · next old =>
    have old := List.contains_iff_mem.1 old
    exact ⟨.inl, fun h => h.elim id fun same => same ▸ old⟩
  · rw [List.mem_append, List.mem_singleton]

/-- No name is taken in twice. -/
theorem nodup_addName {seen : List (List Char)} (h : seen.Nodup) (name : List Char) :
    (addName seen name).Nodup := by
  unfold addName
  split
  · exact h
  · next new =>
    refine List.nodup_append.2 ⟨h, by simp, fun other old one mem same => ?_⟩
    rw [same, List.mem_singleton.1 mem] at old
    exact new (List.contains_iff_mem.2 old)

/-- So the names that were taken in are different, and all of the same sort. -/
theorem foldl_addName {P : List Char → Prop} {names seen : List (List Char)} (h : ∀ name ∈ names, P name)
    (distinct : seen.Nodup) (before : ∀ name ∈ seen, P name) :
    (names.foldl addName seen).Nodup ∧ ∀ name ∈ names.foldl addName seen, P name := by
  induction names generalizing seen with
  | nil => exact ⟨distinct, before⟩
  | cons name names ih =>
      obtain ⟨first, rest⟩ := List.forall_mem_cons.1 h
      refine ih rest (nodup_addName distinct name) fun other mem => ?_
      rcases mem_addName.1 mem with old | rfl
      · exact before other old
      · exact first

/-- Different names are all taken in. -/
theorem foldl_addName_of_nodup {names seen : List (List Char)} (h : (seen ++ names).Nodup) :
    names.foldl addName seen = seen ++ names := by
  induction names generalizing seen with
  | nil => exact (List.append_nil _).symm
  | cons name names ih =>
      rw [List.append_cons] at h
      have new : ¬ seen.contains name = true := fun old => by
        have apart := (List.nodup_append.1 (List.nodup_append.1 h).1).2.2
        exact apart name (List.contains_iff_mem.1 old) name (List.mem_singleton.2 rfl) rfl
      rw [List.foldl_cons, addName, if_neg new, ih h, ← List.append_cons]

/-- Different class names. -/
def AreClassNames (names : List (List Char)) : Prop := names.Nodup ∧ ∀ name ∈ names, isClassName name = true

/-- What is left of any candidates are different class names. -/
theorem areClassNames_classNames (candidates : List (List Char)) : AreClassNames (classNames candidates) :=
  foldl_addName (fun _ mem => (List.mem_filter.1 mem).2) List.nodup_nil (List.forall_mem_nil _)

/-- Different class names are left as they are. -/
theorem classNames_eq_self {names : List (List Char)} (h : AreClassNames names) : classNames names = names := by
  rw [classNames_eq, List.filter_eq_self.2 h.2, foldl_addName_of_nodup (by simpa using h.1), List.nil_append]

/-! ## names of data -/

/-- The classes of a datum of any shape are different class names. -/
theorem exists_classesOf (v : Value) : ∃ names, classesOf v = names.map String.ofList ∧ AreClassNames names := by
  unfold classesOf
  split <;> exact ⟨_, rfl, areClassNames_classNames _⟩

/-- Class names with a space between each two are the class names of that text. -/
theorem classesOf_intercalate {names : List String} (h : AreClassNames (names.map String.toList)) :
    classesOf (.str (String.intercalate " " names)) = names := by
  have parts : words (String.intercalate " " names).toList = names.map String.toList := by
    rw [String.toList_intercalate]
    exact words_intercalate fun part mem => isWordText_of_isClassName (h.2 part mem)
  rw [classesOf, classCandidates, parts, classNames_eq_self h, List.map_map]
  · simp [Function.comp_def]
  · exact nofun

end Pagewright.Style
