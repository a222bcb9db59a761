import Pagewright.Pen.Component
import Pagewright.Pen.Variable
import Pagewright.Proofs.Fault.Yields
import Pagewright.Proofs.Pen.Places

/-!
# Pagewright.Proofs.Pen.Components

The components of a document.  Its nodes are taken in preorder, and each that defines a component is added
unless its id is known, so an id stands for the first node that defines it, and the ids are in the order of
these nodes.  A node that is reusable but cannot be a component hides none behind it.
-/

namespace Pagewright.Pen

/-! ## definitions -/

/-- Whether a node is a frame or a group and has no children. -/
def isHollow (node : Members) : Bool :=
  ((node.get "type").isText "frame" || (node.get "type").isText "group") && !(node.get "children").isTruthy

/-- Whether a node defines the component of an id: it is reusable, has the id, which is not empty, and is no
frame or group without children. -/
def defines (id : String) (node : Members) : Bool :=
  (node.get "reusable").isTruthy && hasId id node && id != "" && !isHollow node

variable {node : Members}

/-- A scalar type is looked up among the names of kinds. -/
theorem kind?_of_isScalar (scalar : isScalar (node.get "type") = true) :
    kind? node = .ok ((node.get "type").text?.bind Kind.ofName?) := by
  unfold kind?
  cases type : node.get "type" with
  | list vs => simp [type, isScalar] at scalar
  | obj ms => simp [type, isScalar] at scalar
  | _ => rfl

/-- Only two names are those of containers. -/
theorem isContainer_ofName? (name : String) :
    (Kind.ofName? name).any Kind.isContainer = (name == "frame" || name == "group") := by
  unfold Kind.ofName?
  split <;> simp_all [Kind.isContainer]

theorem isContainer_kind (type : Value) :
    (type.text?.bind Kind.ofName?).any Kind.isContainer = (type.isText "frame" || type.isText "group") := by
  cases type with
  | str name => exact isContainer_ofName? name
  | _ => rfl

/-- A node with a scalar type defines the component of its id, or none. -/
theorem exists_componentId? (scalar : isScalar (node.get "type") = true) :
    ∃ id?, componentId? node = .ok id? ∧ ∀ id, defines id node = true ↔ id? = some id := by
  have type := kind?_of_isScalar scalar
  unfold componentId? defines hasId
  cases (node.get "reusable").isTruthy with
  | false => exact ⟨none, rfl, by simp⟩
  | true =>
      cases node.get "id" with
      | str id =>
          by_cases empty : id = ""
          · subst empty
            refine ⟨none, rfl, fun id => iff_of_false (fun named => ?_) (Option.some_ne_none id).symm⟩
            simp only [Value.isText, Bool.true_and, Bool.and_eq_true, beq_iff_eq, bne_iff_ne] at named
            exact named.1.2 named.1.1.symm
          · have nonempty : id.isEmpty = false := by simpa using empty
            simp only [nonempty, type, bind, Except.bind, pure, Except.pure, isContainer_kind]
            refine ⟨if isHollow node then none else some id, rfl, fun other => ?_⟩
            cases isHollow node with
            | true => simp
            | false =>
                simp only [Value.isText, Bool.true_and, Bool.not_false, Bool.and_true, Bool.and_eq_true,
                  beq_iff_eq, bne_iff_ne, Bool.false_eq_true, if_false, Option.some.injEq]
                exact and_iff_left_of_imp fun same => same ▸ empty
      | _ => exact ⟨none, rfl, by simp [Value.isText]⟩

/-! ## one node after the other -/

/-- The first entry among nodes with places that defines the component of an id. -/
def firstIn (done : List (List Nat × Members)) (id : String) : Option (List Nat × Members) :=
  done.find? fun entry => defines id entry.2

/-- What has been collected from some nodes: of every id the first definition, in the order of the places. -/
structure Collects (done : List (List Nat × Members)) (components : Components) : Prop where
  found : ∀ id, components.lookup id = (firstIn done id).map Prod.snd
  ordered : components.Pairwise fun a b => ∀ entry entry', firstIn done a.1 = some entry →
    firstIn done b.1 = some entry' → Precedes entry.1 entry'.1

/-- Nothing is collected from nothing. -/
theorem collects_nil : Collects [] [] := ⟨fun _ => rfl, .nil⟩

variable {done : List (List Nat × Members)} {components : Components} {entry : List Nat × Members}

/-- An entry at the end counts only if there was none before. -/
theorem firstIn_concat (id : String) :
    firstIn (done ++ [entry]) id = (firstIn done id).or (if defines id entry.2 then some entry else none) := by
  rw [firstIn, List.find?_append, List.find?_singleton]
  rfl

/-- A node that defines nothing new changes nothing. -/
theorem Collects.concat_of_known (h : Collects done components)
    (known : ∀ id, defines id entry.2 = true → (firstIn done id).isSome) :
    Collects (done ++ [entry]) components := by
  have same (id : String) : firstIn (done ++ [entry]) id = firstIn done id := by
    rw [firstIn_concat]
    cases first : firstIn done id with
    | some e => rfl
    | none =>
        have undefined : defines id entry.2 = false := by
          by_contra defined
          have := known id (by simpa using defined)
          rw [first] at this
          cases this
        rw [undefined]
        rfl
  refine ⟨fun id => by rw [same, h.found], ?_⟩
  simpa only [same] using h.ordered

/-- A node that defines a new component comes last. -/
theorem Collects.concat_of_new (h : Collects done components) {id : String}
    (later : ∀ e ∈ done, Precedes e.1 entry.1) (defined : ∀ other, defines other entry.2 = true ↔ other = id)
    (new : firstIn done id = none) : Collects (done ++ [entry]) (components ++ [(id, entry.2)]) := by
  -- the new node is the first definition of its id, and of all other ids the first stays
  have here : firstIn (done ++ [entry]) id = some entry := by
    rw [firstIn_concat, new, if_pos ((defined id).2 rfl)]
    rfl
  have other {id' : String} (ne : id' ≠ id) : firstIn (done ++ [entry]) id' = firstIn done id' := by
    rw [firstIn_concat, if_neg (mt (defined id').1 ne), Option.or_none]
  have ne_of_mem {c : String × Members} (mem : c ∈ components) : c.1 ≠ id := by
    rintro rfl
    have absent : components.lookup c.1 = none := by rw [h.found, new]; rfl
    exact absurd (List.lookup_eq_none_iff.1 absent c mem) (by simp)
  constructor
  · intro id'
    rw [List.lookup_append, h.found]
    by_cases same : id' = id
    · subst same
      rw [here, new]
      simp
    · rw [other same, List.lookup_cons, beq_eq_false_iff_ne.2 same, List.lookup_nil, Option.or_none]
  · refine List.pairwise_append.2 ⟨?_, List.pairwise_singleton _ _, fun a mem b mem' => ?_⟩
    · refine h.ordered.imp_of_mem fun {a b} memA memB before => ?_
      rw [other (ne_of_mem memA), other (ne_of_mem memB)]
      exact before
    · obtain rfl := List.mem_singleton.1 mem'
      rw [other (ne_of_mem mem), here]
      rintro e e' first eq
      cases eq
      exact later e (List.mem_of_find?_eq_some first)

/-- One more node with a scalar type can always be taken in. -/
theorem Collects.exists_add (h : Collects done components) (later : ∀ e ∈ done, Precedes e.1 entry.1)
    (scalar : isScalar (entry.2.get "type") = true) :
    ∃ more, components.add entry.2 = .ok more ∧ Collects (done ++ [entry]) more := by
  obtain ⟨id?, eq, defined⟩ := exists_componentId? scalar
  rw [Components.add, eq]
  cases id? with
  | none =>
      refine ⟨components, rfl, h.concat_of_known fun id named => ?_⟩
      cases (defined id).1 named
  | some id =>
      refine ⟨_, rfl, ?_⟩
      have found := h.found id
      cases first : firstIn done id with
      | none =>
          rw [first, Option.map_none] at found
          rw [found]
          refine h.concat_of_new later (fun other => ?_) first
          rw [defined, Option.some.injEq, Eq.comm]
      | some e =>
          rw [first, Option.map_some] at found
          rw [found]
          refine h.concat_of_known fun other named => ?_
          obtain rfl := Option.some.inj ((defined other).1 named)
          rw [first]
          rfl

/-- All nodes with scalar types can be taken in, one after the other. -/
theorem Collects.exists_foldlM (h : Collects done components) {rest : List (List Nat × Members)}
    (ordered : (done ++ rest).Pairwise fun a b => Precedes a.1 b.1)
    (scalar : ∀ entry ∈ rest, isScalar (entry.2.get "type") = true) :
    ∃ more, (rest.map Prod.snd).foldlM Components.add components = .ok more ∧ Collects (done ++ rest) more := by
  induction rest generalizing done components with
  | nil =>
      rw [List.append_nil]
      exact ⟨components, rfl, h⟩
  | cons entry rest ih =>
      obtain ⟨here, scalar⟩ := List.forall_mem_cons.1 scalar
      have later : ∀ e ∈ done, Precedes e.1 entry.1 := fun e mem =>
        (List.pairwise_append.1 ordered).2.2 e mem entry List.mem_cons_self
      obtain ⟨more, added, h⟩ := h.exists_add later here
      rw [List.append_cons] at ordered ⊢
      obtain ⟨all, run, h⟩ := ih h ordered scalar
      refine ⟨all, ?_, h⟩
      rw [List.map_cons, List.foldlM_cons, added]
      exact run

/-! ## all components -/

variable {root : Members}

/-- The first definition in the list of nodes is the first below the root. -/
theorem firstIn_placedBelow_eq_some_iff {id : String} {place : List Nat} :
    firstIn (placedBelow root) id = some (place, node) ↔ IsFirst (defines id · = true) root place node :=
  find?_placedBelow_eq_some_iff

/-- The components below a root with scalar types are collected without fault. -/
theorem exists_ofNodes
    (scalar : ∀ place node, IsBelow root place node → isScalar (node.get "type") = true) :
    ∃ components : Components, Components.ofNodes ((children? root).getD []) = .ok components ∧
      Collects (placedBelow root) components := by
  have ordered : ([] ++ placedBelow root).Pairwise fun (a b : List Nat × Members) => Precedes a.1 b.1 :=
    pairwise_placedBelow root
  obtain ⟨components, run, h⟩ := collects_nil.exists_foldlM ordered fun entry mem =>
    scalar entry.1 entry.2 (mem_placedBelow_iff.1 mem)
  refine ⟨components, ?_, h⟩
  rw [Components.ofNodes, ← below_eq, ← map_placedBelow]
  exact run

/-- What is collected has one component for every id. -/
theorem Collects.nodup (h : Collects done components) : (components.map Prod.fst).Nodup := by
  refine List.pairwise_map.2 (h.ordered.imp_of_mem fun {a b} mem _ before same => ?_)
  cases first : firstIn done a.1 with
  | none =>
      have absent : components.lookup a.1 = none := by rw [h.found, first]; rfl
      exact absurd (List.lookup_eq_none_iff.1 absent a mem) (by simp)
  | some e =>
      have after := before e e first (same ▸ first)
      exact after.asymm after

/-- If the types of all nodes below a root are scalars, such as texts or nothing, its components are the first
definitions: an id stands for the first node, in preorder, that defines it, and for nothing if there is none.
The ids are distinct, and in the order of these nodes. -/
theorem ofNodes_firstDefinitions (root : Members)
    (scalar : ∀ place node, IsBelow root place node → isScalar (node.get "type") = true) :
    ∃ components : Components, Components.ofNodes ((children? root).getD []) = .ok components ∧
      (components.map Prod.fst).Nodup ∧
      (∀ id node, components.lookup id = some node ↔
        ∃ place, IsFirst (defines id · = true) root place node) ∧
      (∀ id, components.lookup id = none ↔
        ∀ place node, IsBelow root place node → defines id node = false) ∧
      components.Pairwise fun (a b : String × Members) => ∀ place place',
        IsFirst (defines a.1 · = true) root place a.2 → IsFirst (defines b.1 · = true) root place' b.2 →
          Precedes place place' := by
  obtain ⟨components, run, h⟩ := exists_ofNodes scalar
  refine ⟨components, run, h.nodup, fun id node => ?_, fun id => ?_, ?_⟩
  · rw [h.found, Option.map_eq_some_iff]
    constructor
    · rintro ⟨⟨place, node⟩, first, rfl⟩
      exact ⟨place, firstIn_placedBelow_eq_some_iff.1 first⟩
    · rintro ⟨place, first⟩
      exact ⟨_, firstIn_placedBelow_eq_some_iff.2 first, rfl⟩
  · rw [h.found, Option.map_eq_none_iff, firstIn, List.find?_eq_none]
    simp only [Prod.forall, mem_placedBelow_iff, Bool.not_eq_true]
  · refine h.ordered.imp fun {a b} before place place' first first' => ?_
    exact before _ _ (firstIn_placedBelow_eq_some_iff.2 first) (firstIn_placedBelow_eq_some_iff.2 first')

/-- A reusable node. -/
def reusableOf (type id content : String) : Members :=
  [("type", .str type), ("id", .str id), ("reusable", .bool true), ("content", .str content)]

/-- A page on which a frame without children, a text inside another frame and a later text have one id. -/
def sharedPage : Members :=
  [("children", .list
    [.obj (reusableOf "frame" "card" ""),
      .obj [("id", .str "box"), ("children", .list [.str "loose", .obj (reusableOf "text" "card" "one")])],
      .obj (reusableOf "text" "card" "two"), .obj (reusableOf "text" "label" "three")])]

/-- The id stands for the text inside the frame. -/
theorem ofNodes_firstDefinitions_shared :
    (∀ place node, IsBelow sharedPage place node → isScalar (node.get "type") = true) ∧
      Components.ofNodes ((children? sharedPage).getD []) =
        .ok [("card", reusableOf "text" "card" "one"), ("label", reusableOf "text" "label" "three")] ∧
      ∃ place, IsFirst (defines "card" · = true) sharedPage place (reusableOf "text" "card" "one") := by
  have nodes : preorder ((children? sharedPage).getD []) =
      [reusableOf "frame" "card" "",
        [("id", .str "box"), ("children", .list [.str "loose", .obj (reusableOf "text" "card" "one")])],
        reusableOf "text" "card" "one", reusableOf "text" "card" "two", reusableOf "text" "label" "three"] := by
    simp [preorder, below_eq, children?, sharedPage, reusableOf, Members.get?]
  have scalar (place : List Nat) (node : Members) (isBelow : IsBelow sharedPage place node) :
      isScalar (node.get "type") = true := by
    have mem : node ∈ preorder ((children? sharedPage).getD []) := by
      rw [← below_eq, ← map_placedBelow]
      exact List.mem_map_of_mem (mem_placedBelow_iff.2 isBelow)
    have all : (preorder ((children? sharedPage).getD [])).all (fun node => isScalar (node.get "type")) = true := by
      rw [nodes]
      rfl
    exact List.all_eq_true.1 all node mem
  have run : Components.ofNodes ((children? sharedPage).getD []) =
      .ok [("card", reusableOf "text" "card" "one"), ("label", reusableOf "text" "label" "three")] := by
    rw [Components.ofNodes, nodes]
    rfl
  obtain ⟨components, eq, -, found, -⟩ := ofNodes_firstDefinitions sharedPage scalar
  rw [run] at eq
  cases eq
  exact ⟨scalar, run, (found "card" _).1 rfl⟩

end Pagewright.Pen
