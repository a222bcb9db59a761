import Pagewright.Proofs.Pen.Places
import Pagewright.Proofs.Value.Members

/-!
# Pagewright.Proofs.Pen.Overriding

Overrides by id.  An override whose key is no path changes the first node below the root that has the key for
its id, and nothing else: two roots that differ in one node agree in all members and all children on the way
to it, and in everything beside the way.
-/

namespace Pagewright.Pen

/-! ## one node changed -/

/-- Roots that are alike but for the nodes at a place, which are `old` in the one and `new` in the other. -/
inductive AlikeBut (old new : Members) : List Nat → Members → Members → Prop
  | here : AlikeBut old new [] old new
  | within {before after node node' : Members} {left right : List Value} {steps : List Nat}
      (first : "children" ∉ before.keys) (inside : AlikeBut old new steps node node') :
      AlikeBut old new (left.length :: steps)
        (before ++ ("children", .list (left ++ .obj node :: right)) :: after)
        (before ++ ("children", .list (left ++ .obj node' :: right)) :: after)

theorem get?_of_children? {ms : Members} {vs : List Value} (h : children? ms = some vs) :
    ms.get? "children" = some (.list vs) := by
  unfold children? at h
  split at h
  · next found =>
    cases h
    exact found
  · cases h

theorem exists_split_of_getElem? {α : Type} {as : List α} {i : Nat} {a : α} (h : as[i]? = some a) :
    ∃ left right, as = left ++ a :: right ∧ left.length = i := by
  obtain ⟨inside, eq⟩ := List.getElem?_eq_some_iff.1 h
  refine ⟨as.take i, as.drop (i + 1), ?_, List.length_take_of_le (Nat.le_of_lt inside)⟩
  rw [← eq, List.getElem_cons_drop, List.take_append_drop]

theorem modify_append_cons {α : Type} (left right : List α) (a : α) (f : α → α) :
    (left ++ a :: right).modify left.length f = left ++ f a :: right := by
  rw [List.modify_eq_take_drop, List.take_left, List.drop_left, List.modifyHead_cons]

/-- Changing the node at a place changes nothing else. -/
theorem alikeBut_modifyAt {change : Members → Members} {steps : List Nat} {root node : Members}
    (found : nodeAt? steps root = some node) :
    AlikeBut node (change node) steps root (modifyAt change steps root) := by
  induction steps generalizing root with
  | nil =>
      cases found
      exact .here
  | cons i steps ih =>
      obtain ⟨child, there, deeper⟩ := (nodeAt?_cons ..).1 found
      cases listed : children? root with
      | none => simp [listed] at there
      | some vs =>
          rw [listed, Option.getD_some] at there
          obtain ⟨left, right, rfl, rfl⟩ := exists_split_of_getElem? there
          obtain ⟨before, after, rfl, first⟩ := Members.exists_split_of_get? (get?_of_children? listed)
          rw [modifyAt, listed]
          dsimp only
          rw [Members.set_append_cons first, modify_append_cons]
          exact .within first (ih deeper)

/-! ## overriding a node -/

/-- A node after new members have been put into it: its own members stay in their places, those with a new
value as well, and members that it had not are behind them. -/
structure IsMerged (new old merged : Members) : Prop where
  keys : merged.keys = old.keys ++ new.keys.filter fun key => !old.keys.contains key
  values : ∀ key, merged.get? key = (new.get? key).or (old.get? key)

/-- What an override with a key that is an id makes of a node: one with a type takes its place, and another
one is put into it. -/
inductive IsOverridden (override : Members) : Members → Members → Prop
  | replaced {node : Members} (typed : "type" ∈ override.keys) : IsOverridden override node override
  | merged {node merged : Members} (untyped : "type" ∉ override.keys)
      (merges : IsMerged override node merged) : IsOverridden override node merged

/-- An override does to a node one of the two things, according to whether it has a type. -/
theorem isOverridden_applyOverride {override : Members} (distinct : override.keys.Nodup) (node : Members) :
    IsOverridden override node (applyOverride override node) := by
  have typed : override.has "type" = true ↔ "type" ∈ override.keys := by
    rw [Members.has, Option.isSome_iff_ne_none, ne_eq, Members.get?_eq_none_iff, not_not]
  unfold applyOverride
  split
  · next given => exact .replaced (typed.1 given)
  · next lacking =>
    exact .merged (mt typed.2 lacking)
      ⟨Members.keys_setAll distinct node, Members.get?_setAll distinct node⟩

theorem hasId_iff {id : String} {node : Members} : hasId id node = true ↔ node.get "id" = .str id := by
  unfold hasId
  cases node.get "id" <;> simp [Value.isText]

/-- A key without a slash is an id, and names the first node below the root that has it. -/
theorem locate_of_not_mem {key : String} (plain : '/' ∉ key.toList) (root : Members) :
    locate root key = .ok ((findBelow (hasId key) root).map (⟨·, []⟩)) := by
  rw [locate, if_neg (by simpa using plain)]

/-- An override with a key that is an id, of a root that has no node with the id below it. -/
theorem overrideAll_of_absent {root o : Members} {key : String} (plain : '/' ∉ key.toList)
    (absent : ∀ place node, IsBelow root place node → node.get "id" ≠ .str key) :
    overrideAll root [(key, .obj o)] = (root, none) := by
  have nowhere : findBelow (hasId key) root = none := by
    refine Option.eq_none_iff_forall_ne_some.2 fun place found => ?_
    obtain ⟨node, first⟩ := findBelow_eq_some_iff.1 found
    exact absent place node first.isBelow (hasId_iff.1 first.holds)
  rw [overrideAll, overrideOne, locate_of_not_mem plain, nowhere]
  rfl

/-- Such an override changes the first node with the id. -/
theorem overrideAll_of_isFirst {root o node : Members} {key : String} {place : List Nat}
    (plain : '/' ∉ key.toList) (first : IsFirst (hasId key · = true) root place node) :
    overrideAll root [(key, .obj o)] = (modifyAt (applyOverride o) place root, none) := by
  rw [overrideAll, overrideOne, locate_of_not_mem plain, findBelow_eq_some_iff.2 ⟨node, first⟩]
  rfl

/-- An override with a key that is an id changes nothing if no node below the root has the id.  If one has it,
the override changes the first of these, in preorder, and leaves everything else as it was. -/
theorem overrideAll_first {root o : Members} {key : String} (plain : '/' ∉ key.toList)
    (distinct : o.keys.Nodup) :
    ((∀ place node, IsBelow root place node → node.get "id" ≠ .str key) →
      overrideAll root [(key, .obj o)] = (root, none)) ∧
    ((∃ place node, IsBelow root place node ∧ node.get "id" = .str key) →
      ∃ place node new changed, IsFirst (fun node => node.get "id" = .str key) root place node ∧
        overrideAll root [(key, .obj o)] = (changed, none) ∧
        AlikeBut node new place root changed ∧ IsOverridden o node new) := by
  refine ⟨overrideAll_of_absent plain, ?_⟩
  rintro ⟨place, node, isBelow, id⟩
  obtain ⟨place, node, first⟩ := exists_isFirst isBelow (hasId_iff.2 id)
  refine ⟨place, node, applyOverride o node, _, ?_, overrideAll_of_isFirst plain first,
    alikeBut_modifyAt first.isBelow.2, isOverridden_applyOverride distinct node⟩
  simpa only [hasId_iff] using first

/-- A text, whose id other nodes have as well. -/
def textOf (content : String) : Members :=
  [("type", .str "text"), ("id", .str "t"), ("content", .str content)]

/-- A page with two texts of one id, the first of them in a group, and with children that are no nodes. -/
def pageOf (first : Members) : Members :=
  [("id", .str "t"), ("children", .list
    [.str "loose", .obj [("id", .str "g"), ("children", .list [.null, .obj first])],
      .obj (textOf "two")])]

/-- Only the text in the group is changed, and its new member comes last. -/
theorem overrideAll_first_page :
    let o : Members := [("href", .str "/go"), ("content", .str "new")]
    '/' ∉ "t".toList ∧ o.keys.Nodup ∧ IsBelow (pageOf (textOf "one")) [2] (textOf "two") ∧
      ∃ place node new, IsFirst (fun node => node.get "id" = .str "t") (pageOf (textOf "one")) place node ∧
        AlikeBut node new place (pageOf (textOf "one")) (pageOf (textOf "new" ++ [("href", .str "/go")])) ∧
        IsOverridden o node new := by
  intro o
  have plain : '/' ∉ "t".toList := by decide
  have distinct : o.keys.Nodup := by decide
  have isBelow : IsBelow (pageOf (textOf "one")) [2] (textOf "two") := ⟨by decide, rfl⟩
  have run : overrideAll (pageOf (textOf "one")) [("t", .obj o)] =
      (pageOf (textOf "new" ++ [("href", .str "/go")]), none) := by
    have inGroup : findBelow (hasId "t") (pageOf (textOf "one")) = some [1, 1] := by
      simp [findBelow_eq_findAmong, findAmong, children?, pageOf, textOf, hasId, Members.get?, Members.get,
        Value.isText]
    rw [overrideAll, overrideOne, locate_of_not_mem plain, inGroup]
    rfl
  obtain ⟨place, node, new, changed, first, eq, alike, overridden⟩ :=
    (overrideAll_first plain distinct).2 ⟨[2], textOf "two", isBelow, rfl⟩
  rw [run] at eq
  cases eq
  exact ⟨plain, distinct, isBelow, place, node, new, first, alike, overridden⟩

end Pagewright.Pen
