import Mathlib.Data.List.Basic
import Pagewright.Pen.Override

/-!
# Pagewright.Proofs.Pen.Places

The places of nodes.  A place says how to come to a node from a root, by the index of the child at every step.
Places are in preorder when they are in the order of dictionaries: a node stands before the nodes below it,
and these before its later siblings.  Walking through all nodes below a root and looking for the first one of
a kind both follow this order.
-/

namespace Pagewright.Pen

/-! ## places -/

/-- A node below a root, and where it is. -/
def IsBelow (root : Members) (place : List Nat) (node : Members) : Prop :=
  place ≠ [] ∧ nodeAt? place root = some node

/-- The order of places: what is above comes first, and then what has the smaller index. -/
abbrev Precedes : List Nat → List Nat → Prop := List.Lex (· < ·)

/-- The first node below a root that has a property. -/
structure IsFirst (P : Members → Prop) (root : Members) (place : List Nat) (node : Members) : Prop where
  isBelow : IsBelow root place node
  holds : P node
  first : ∀ other node', IsBelow root other node' → P node' → other ≠ place → Precedes place other

mutual

/-- The nodes of a list whose first item has some index, and all nodes below them, with their places. -/
def placedAmong (index : Nat) : List Value → List (List Nat × Members)
  | [] => []
  | .obj ms :: rest =>
    ([index], ms) ::
      ((placedBelow ms).map (fun entry => (index :: entry.1, entry.2)) ++ placedAmong (index + 1) rest)
  | _ :: rest => placedAmong (index + 1) rest
termination_by vs => sizeOf vs

/-- The nodes below a node, with their places. -/
def placedBelow (ms : Members) : List (List Nat × Members) :=
  match h : children? ms with
  | some vs =>
    have := sizeOf_lt_of_children? h
    placedAmong 0 vs
  | none => []
termination_by sizeOf ms

end

/-! ## from node to node -/

/-- What holds of no nodes, and of a node before others if it holds of its children and of the others, holds
of all lists. -/
theorem forest_induction {motive : List Value → Prop} (nil : motive [])
    (node : ∀ ms rest, motive ((children? ms).getD []) → motive rest → motive (.obj ms :: rest))
    (other : ∀ v rest, v.members? = none → motive rest → motive (v :: rest)) (vs : List Value) :
    motive vs := by
  match vs with
  | [] => exact nil
  | .obj ms :: rest =>
      refine node ms rest ?_ (forest_induction nil node other rest)
      cases h : children? ms with
      | none => exact nil
      | some inside =>
          have := sizeOf_lt_of_children? h
          exact forest_induction nil node other inside
  | .null :: rest | .bool _ :: rest | .int _ :: rest | .float _ :: rest | .str _ :: rest | .list _ :: rest =>
      exact other _ rest rfl (forest_induction nil node other rest)
termination_by sizeOf vs

/-- The nodes below a node are those among its children, if it has any. -/
theorem placedBelow_eq (ms : Members) : placedBelow ms = placedAmong 0 ((children? ms).getD []) := by
  rw [placedBelow]
  split <;> simp only [*, Option.getD_some, Option.getD_none, placedAmong]

/-- The nodes below a node in their order are those of its children, if it has any. -/
theorem below_eq (ms : Members) : below ms = preorder ((children? ms).getD []) := by
  rw [below]
  split <;> simp only [*, Option.getD_some, Option.getD_none, preorder]

variable {isWanted : Members → Bool}

/-- The search below a node is the search among its children. -/
theorem findBelow_eq_findAmong (ms : Members) :
    findBelow isWanted ms = findAmong isWanted 0 ((children? ms).getD []) := by
  rw [findBelow]
  split <;> simp only [*, Option.getD_some, Option.getD_none, findAmong]

section

variable {v : Value} {rest : List Value}

/-- A child that is no node takes up an index and is otherwise passed over. -/
theorem placedAmong_cons_of_members?_eq_none (index : Nat) (none : v.members? = none) :
    placedAmong index (v :: rest) = placedAmong (index + 1) rest := by
  cases v with
  | obj ms => cases none
  | _ =>
      rw [placedAmong]
      intro _ eq
      cases eq

/-- In the order of nodes, a child that is no node is passed over. -/
theorem preorder_cons_of_members?_eq_none (none : v.members? = none) :
    preorder (v :: rest) = preorder rest := by
  cases v with
  | obj ms => cases none
  | _ =>
      rw [preorder]
      intro _ eq
      cases eq

/-- In the search, it takes up an index and is passed over. -/
theorem findAmong_cons_of_members?_eq_none (index : Nat) (none : v.members? = none) :
    findAmong isWanted index (v :: rest) = findAmong isWanted (index + 1) rest := by
  cases v with
  | obj ms => cases none
  | _ =>
      rw [findAmong]
      intro _ eq
      cases eq

end

/-! ## both walks -/

/-- Without their places, the nodes stand in the order in which a document is gone through. -/
theorem map_placedAmong (vs : List Value) (index : Nat) :
    (placedAmong index vs).map Prod.snd = preorder vs := by
  induction vs using forest_induction generalizing index with
  | nil => rw [placedAmong, preorder, List.map_nil]
  | node ms rest inside later =>
      rw [placedAmong, preorder, List.map_cons, List.map_append, List.map_map, later, placedBelow_eq,
        below_eq, ← inside 0]
      rfl
  | other v rest none later =>
      rw [placedAmong_cons_of_members?_eq_none index none, preorder_cons_of_members?_eq_none none, later]

/-- Below one node, leaving out the places gives the same order. -/
theorem map_placedBelow (root : Members) : (placedBelow root).map Prod.snd = below root := by
  rw [placedBelow_eq, below_eq, map_placedAmong]

/-- The search finds the first wanted node of that list, by induction on the nodes. -/
theorem findAmong_eq (vs : List Value) (index : Nat) :
    findAmong isWanted index vs =
      ((placedAmong index vs).find? fun entry => isWanted entry.2).map Prod.fst := by
  induction vs using forest_induction generalizing index with
  | nil => rw [findAmong, placedAmong, List.find?_nil, Option.map_none]
  | node ms rest inside later =>
      rw [findAmong, placedAmong, List.find?_cons]
      cases isWanted ms with
      | true => rfl
      | false =>
          rw [List.find?_append, List.find?_map, later, findBelow_eq_findAmong, placedBelow_eq, inside 0]
          simp only [Function.comp_def]
          cases (placedAmong 0 ((children? ms).getD [])).find? fun entry => isWanted entry.2 <;> rfl
  | other v rest none later =>
      rw [findAmong_cons_of_members?_eq_none index none, placedAmong_cons_of_members?_eq_none index none, later]

/-! ## all places -/

/-- A way leads through a child at its first index, and from there on. -/
theorem nodeAt?_cons (index : Nat) (steps : List Nat) (root : Members) (node : Members) :
    nodeAt? (index :: steps) root = some node ↔
      ∃ child, ((children? root).getD [])[index]? = some (.obj child) ∧ nodeAt? steps child = some node := by
  rw [nodeAt?]
  cases children? root with
  | none => simp
  | some vs =>
      simp only [Option.bind_eq_bind, Option.bind_some, Option.getD_some]
      cases vs[index]? with
      | none => simp
      | some v => cases v <;> simp

/-- The nodes among nodes and below them, and nothing else, are listed with their places. -/
theorem mem_placedAmong_iff (vs : List Value) (index : Nat) (place : List Nat) (node : Members) :
    (place, node) ∈ placedAmong index vs ↔
      ∃ i steps child, place = (index + i) :: steps ∧ vs[i]? = some (.obj child) ∧
        nodeAt? steps child = some node := by
  induction vs using forest_induction generalizing index place with
  | nil =>
      rw [placedAmong]
      simp
  | node ms rest inside later =>
      -- the node itself and what is below it, and then the later siblings
      rw [placedAmong, List.mem_cons, List.mem_append, List.mem_map, later, placedBelow_eq, ← or_assoc]
      refine (or_congr ⟨?_, ?_⟩ ?_).trans Nat.or_exists_add_one
      · rintro (eq | ⟨⟨steps, node'⟩, mem, eq⟩)
        · cases eq
          exact ⟨[], _, rfl, rfl, rfl⟩
        · cases eq
          obtain ⟨i, steps, child, rfl, there, found⟩ := (inside 0 _).1 mem
          rw [Nat.zero_add]
          exact ⟨i :: steps, ms, rfl, rfl, (nodeAt?_cons ..).2 ⟨child, there, found⟩⟩
      · rintro ⟨steps, child, rfl, there, found⟩
        cases there
        cases steps with
        | nil =>
            cases found
            exact .inl rfl
        | cons i steps =>
            obtain ⟨child, there, found⟩ := (nodeAt?_cons ..).1 found
            exact .inr ⟨(i :: steps, node),
              (inside 0 _).2 ⟨i, steps, child, by rw [Nat.zero_add], there, found⟩, rfl⟩
      · simp only [List.getElem?_cons_succ, Nat.add_assoc, Nat.add_comm 1]
  | other v rest none later =>
      rw [placedAmong_cons_of_members?_eq_none index none, later]
      refine .trans ?_ Nat.or_exists_add_one
      simp only [List.getElem?_cons_succ, List.getElem?_cons_zero, Nat.add_assoc, Nat.add_comm 1]
      refine (or_iff_right ?_).symm
      rintro ⟨steps, child, -, eq, -⟩
      cases eq
      cases none

/-- Below a node there are the nodes that are listed, at the places that they are listed with. -/
theorem mem_placedBelow_iff {root node : Members} {place : List Nat} :
    (place, node) ∈ placedBelow root ↔ IsBelow root place node := by
  rw [placedBelow_eq, mem_placedAmong_iff, IsBelow]
  cases place with
  | nil => simp
  | cons index steps =>
      rw [nodeAt?_cons]
      simp

/-- At one place there is one node. -/
theorem IsBelow.unique {root node node' : Members} {place : List Nat} (h : IsBelow root place node)
    (h' : IsBelow root place node') : node = node' :=
  Option.some.inj (h.2.symm.trans h'.2)

/-! ## places in order -/

/-- What is in or below a child comes before all that is in or below later ones. -/
theorem precedes_of_mem_placedAmong {vs : List Value} {index index' : Nat} (lt : index < index')
    (steps : List Nat) {entry : List Nat × Members} (mem : entry ∈ placedAmong index' vs) :
    Precedes (index :: steps) entry.1 := by
  obtain ⟨place, node⟩ := entry
  obtain ⟨i, steps', child, rfl, -⟩ := (mem_placedAmong_iff ..).1 mem
  exact .rel (Nat.lt_add_right i lt)

/-- The list is in order: a node comes before the nodes below it, and those come before its later siblings. -/
theorem pairwise_placedAmong (vs : List Value) (index : Nat) :
    (placedAmong index vs).Pairwise fun a b => Precedes a.1 b.1 := by
  induction vs using forest_induction generalizing index with
  | nil =>
      rw [placedAmong]
      exact .nil
  | node ms rest inside later =>
      rw [placedAmong, List.pairwise_cons, List.pairwise_append, List.pairwise_map]
      refine ⟨fun entry mem => ?_, ?_, later (index + 1), fun entry mem entry' mem' => ?_⟩
      · rcases List.mem_append.1 mem with mem | mem
        · obtain ⟨⟨place, node⟩, inside, rfl⟩ := List.mem_map.1 mem
          obtain ⟨nonempty, -⟩ := mem_placedBelow_iff.1 inside
          obtain ⟨i, steps, rfl⟩ := List.exists_cons_of_ne_nil nonempty
          exact .cons .nil
        · exact precedes_of_mem_placedAmong (Nat.lt_succ_self index) [] mem
      · rw [placedBelow_eq]
        exact (inside 0).imp .cons
      · obtain ⟨⟨place, node⟩, -, rfl⟩ := List.mem_map.1 mem
        exact precedes_of_mem_placedAmong (Nat.lt_succ_self index) place mem'
  | other v rest none later =>
      rw [placedAmong_cons_of_members?_eq_none index none]
      exact later (index + 1)

/-- The places below one node are in order. -/
theorem pairwise_placedBelow (root : Members) :
    (placedBelow root).Pairwise fun a b => Precedes a.1 b.1 := by
  rw [placedBelow_eq]
  exact pairwise_placedAmong _ 0

/-- Of two places, only one comes before the other. -/
theorem Precedes.asymm {p q : List Nat} (h : Precedes p q) : ¬ Precedes q p :=
  List.lex_asymm (fun h => Nat.lt_asymm h) h

section

variable {root node node' : Members} {place place' : List Nat}

/-- There is only one first node. -/
theorem IsFirst.unique {P : Members → Prop} (h : IsFirst P root place node) (h' : IsFirst P root place' node') :
    (place, node) = (place', node') := by
  by_cases same : place' = place
  · subst same
    rw [h.isBelow.unique h'.isBelow]
  · have before := h.first place' node' h'.isBelow h'.holds same
    have after := h'.first place node h.isBelow h.holds (Ne.symm same)
    exact absurd after before.asymm

/-- The first node of an ordered list is the first of all that are wanted. -/
theorem isFirst_of_find?
    (found : ((placedBelow root).find? fun entry => isWanted entry.2) = some (place, node)) :
    IsFirst (isWanted · = true) root place node := by
  obtain ⟨wanted, before, after, eq, unwanted⟩ := List.find?_eq_some_iff_append.1 found
  refine ⟨mem_placedBelow_iff.1 (List.mem_of_find?_eq_some found), wanted, ?_⟩
  intro other node' isBelow wanted' ne
  have mem := mem_placedBelow_iff.2 isBelow
  have ordered := pairwise_placedBelow root
  rw [eq] at mem ordered
  rcases List.mem_append.1 mem with mem | mem
  · exact absurd wanted' (by simpa using unwanted _ mem)
  · rcases List.mem_cons.1 mem with same | mem
    · exact absurd (congrArg Prod.fst same) ne
    · exact (List.pairwise_cons.1 (List.pairwise_append.1 ordered).2.1).1 _ mem

/-- A node that is wanted is in the list, so the search ends at one. -/
theorem exists_find? (isBelow : IsBelow root place node) (wanted : isWanted node = true) :
    ∃ entry, ((placedBelow root).find? fun entry => isWanted entry.2) = some entry :=
  Option.isSome_iff_exists.1 (List.find?_isSome.2 ⟨_, mem_placedBelow_iff.2 isBelow, wanted⟩)

/-- Of the nodes in order, the first one that is wanted is the first one below the root. -/
theorem find?_placedBelow_eq_some_iff :
    ((placedBelow root).find? fun entry => isWanted entry.2) = some (place, node) ↔
      IsFirst (isWanted · = true) root place node := by
  refine ⟨isFirst_of_find?, fun h => ?_⟩
  obtain ⟨entry, found⟩ := exists_find? h.isBelow h.holds
  rw [found, h.unique (isFirst_of_find? found)]

/-- If any node below a root has a property, one is the first. -/
theorem exists_isFirst (isBelow : IsBelow root place node) (wanted : isWanted node = true) :
    ∃ place node, IsFirst (isWanted · = true) root place node := by
  obtain ⟨⟨place, node⟩, found⟩ := exists_find? isBelow wanted
  exact ⟨place, node, isFirst_of_find? found⟩

/-- The search finds a place exactly when the first wanted node is there. -/
theorem findBelow_eq_some_iff :
    findBelow isWanted root = some place ↔ ∃ node, IsFirst (isWanted · = true) root place node := by
  rw [findBelow_eq_findAmong, findAmong_eq, ← placedBelow_eq, Option.map_eq_some_iff]
  constructor
  · rintro ⟨⟨place, node⟩, found, rfl⟩
    exact ⟨node, isFirst_of_find? found⟩
  · rintro ⟨node, h⟩
    exact ⟨_, find?_placedBelow_eq_some_iff.2 h, rfl⟩

end

end Pagewright.Pen
