import Pagewright.Pen.Reference
import Pagewright.Proofs.Pen.Places
import Pagewright.Proofs.Text.Lines
import Pagewright.Proofs.Value.Members

/-!
# Pagewright.Proofs.Pen.Forwarding

Overrides that pass through a reference.  A path that meets a reference becomes an override that the reference
brings along for its own component.  It comes after those that the reference has, so that the result is that
of overriding what the reference stands for; but if the reference has an override with the same key, the new
one takes its place, and what the old one said is lost.
-/

namespace Pagewright.Pen

/-! ## the ids of a path -/

/-- The ids of a path are cut at the slashes, and empty ones are dropped. -/
theorem ne_nil_and_not_mem_of_mem_pathIds {key id : String} (h : id ∈ pathIds key) :
    id.toList ≠ [] ∧ '/' ∉ id.toList := by
  obtain ⟨part, mem, rfl⟩ := List.mem_map.1 h
  obtain ⟨mem, nonempty⟩ := List.mem_filter.1 mem
  rw [String.toList_ofList]
  exact ⟨by simpa using nonempty, Text.not_mem_of_mem_split mem⟩

/-- A path behind an id begins with that id. -/
theorem pathIds_append {id : String} (plain : pathIds id = [id]) (key : String) :
    pathIds (id ++ "/" ++ key) = id :: pathIds key := by
  obtain ⟨nonempty, new⟩ := ne_nil_and_not_mem_of_mem_pathIds (plain ▸ List.mem_singleton_self id)
  have cut : Text.split '/' (id ++ "/" ++ key).toList = id.toList :: Text.split '/' key.toList := by
    rw [String.toList_append, String.toList_append, List.append_assoc]
    exact Text.split_append_cons new key.toList
  rw [pathIds, cut, List.filter_cons_of_pos (by simpa using nonempty), List.map_cons, String.ofList_toList]
  rfl

/-- Ids that are joined to a path are its ids. -/
theorem pathIds_intercalate {ids : List String} (nonempty : ids ≠ [])
    (each : ∀ id ∈ ids, id.toList ≠ [] ∧ '/' ∉ id.toList) :
    pathIds (String.intercalate "/" ids) = ids := by
  have cut : Text.split '/' (String.intercalate "/" ids).toList = ids.map String.toList := by
    rw [String.toList_intercalate]
    refine Text.split_intercalate (by simpa using nonempty) ?_
    exact List.forall_mem_map.2 fun id mem => (each id mem).2
  have kept : (ids.map String.toList).filter (!·.isEmpty) = ids.map String.toList :=
    List.filter_eq_self.2 <| List.forall_mem_map.2 fun id mem => by simpa using (each id mem).1
  rw [pathIds, cut, kept, List.map_map]
  simp [Function.comp_def]

/-- A path of more than one id has a slash. -/
theorem mem_of_one_lt_length {key : String} (h : 1 < (pathIds key).length) : '/' ∈ key.toList := by
  refine Decidable.byContradiction fun new => ?_
  rw [pathIds, Text.split_of_not_mem new, List.length_map] at h
  have := List.length_filter_le (!·.isEmpty) [key.toList]
  rw [List.length_singleton] at this
  omega

/-- Whether a key names one node, by its id, or by a path of at least two ids. -/
def NamesNode (key : String) : Prop := pathIds key = [key] ∨ 1 < (pathIds key).length

/-- A key and the path of its ids lead to the same node: empty ids do not count. -/
theorem locate_intercalate {key : String} (names : NamesNode key) (root : Members) :
    locate root (String.intercalate "/" (pathIds key)) = locate root key := by
  rcases names with plain | long
  · rw [plain, String.intercalate_singleton]
  · have same : pathIds (String.intercalate "/" (pathIds key)) = pathIds key :=
      pathIds_intercalate (List.ne_nil_of_length_pos (Nat.zero_lt_of_lt long)) fun id =>
        ne_nil_and_not_mem_of_mem_pathIds
    have slash := mem_of_one_lt_length long
    have slash' := mem_of_one_lt_length (same.symm ▸ long)
    rw [locate, locate, if_pos (List.contains_iff_mem.2 slash), if_pos (List.contains_iff_mem.2 slash'), same]

/-! ## overrides one after the other -/

/-- The root after overrides, unless one of them fails. -/
def override (root overrides : Members) : Except Fault Members :=
  overrides.foldlM (fun root entry => overrideOne root entry.1 entry.2) root

/-- Overrides can be made in two goes. -/
theorem override_append (root before after : Members) :
    override root (before ++ after) = (do override (← override root before) after) :=
  List.foldlM_append

theorem override_singleton (root : Members) (key : String) (v : Value) :
    override root [(key, v)] = overrideOne root key v := by
  simp [override]

/-- Overriding ends at the first override that fails. -/
theorem overrideAll_eq (root overrides : Members) :
    (match overrideAll root overrides with
      | (changed, none) => Except.ok changed
      | (_, some f) => .error f) = override root overrides := by
  induction overrides generalizing root with
  | nil => rfl
  | cons entry overrides ih =>
      obtain ⟨key, v⟩ := entry
      rw [override, List.foldlM_cons, overrideAll]
      cases first : overrideOne root key v with
      | error f => rfl
      | ok changed => exact ih changed

/-- The overrides that a reference brings along. -/
def ownOverrides (ref : Members) : Members := (ref.get "descendants").members?.getD []

/-- The copy of a component that a reference stands for, before overrides. -/
def copyOf (ref component : Members) : Except Fault Members := do
  let id ← instanceId ref
  let merged := component.setAll (ref.filter fun m => !ownMembers.contains m.1)
  return (merged.set "id" id).set "reusable" (.bool false)

/-- A reference stands for a copy of its component with its own overrides. -/
theorem resolve_eq (ref component : Members) :
    resolve ref component = (do override (← copyOf ref component) (ownOverrides ref)) := by
  unfold resolve copyOf ownOverrides
  cases instanceId ref with
  | error f => rfl
  | ok id =>
      simp only [bind, Except.bind, pure, Except.pure]
      cases own : ref.get "descendants" with
      | obj overrides => exact overrideAll_eq _ overrides
      | _ => rfl

/-- The overrides of a reference are not among the members that it gives to the copy. -/
theorem copyOf_set_descendants (ref component : Members) (v : Value) :
    copyOf (ref.set "descendants" v) component = copyOf ref component := by
  have id : instanceId (ref.set "descendants" v) = instanceId ref := by
    unfold instanceId Members.get
    rw [Members.get?_set_of_ne (by decide), Members.get?_set_of_ne (by decide)]
  unfold copyOf
  rw [id, Members.filter_set (p := fun key => !ownMembers.contains key) (by decide)]

/-- An override that is handed on is one of the reference's own, under the rest of its path; what was there
before is replaced. -/
theorem ownOverrides_forward (path : List String) (o ref : Members) :
    ownOverrides (forward path o ref) = (ownOverrides ref).set (String.intercalate "/" path) (.obj o) := by
  rw [ownOverrides, forward, Members.get, Members.get?_set_self]
  rfl

/-- A reference with one more override stands for its component with the overrides that it then has. -/
theorem resolve_forward (path : List String) (o ref component : Members) :
    resolve (forward path o ref) component = (do
      override (← copyOf ref component)
        ((ownOverrides ref).set (String.intercalate "/" path) (.obj o))) := by
  rw [resolve_eq, ownOverrides_forward, forward, copyOf_set_descendants]

/-- Overriding what a reference stands for is a last override. -/
theorem overrideOne_resolve {key : String} (names : NamesNode key) (o ref component : Members) :
    (do overrideOne (← resolve ref component) key (.obj o)) = (do
      override (← copyOf ref component)
        (ownOverrides ref ++ [(String.intercalate "/" (pathIds key), .obj o)])) := by
  have last (root : Members) :
      overrideOne root (String.intercalate "/" (pathIds key)) (.obj o) = overrideOne root key (.obj o) := by
    rw [overrideOne, locate_intercalate names]
    rfl
  simp only [resolve_eq, override_append, override_singleton, last, bind_assoc]

/-! ## paths that meet a reference -/

theorem getElem?_of_childWithId? {id : String} {vs : List Value} {n : Nat} {child : Members}
    (h : childWithId? id vs = some (n, child)) : vs[n]? = some (.obj child) := by
  induction vs generalizing n with
  | nil => cases h
  | cons v vs ih =>
      have later {f : Nat × Members → Nat × Members} (shift : ∀ p, f p = (p.1 + 1, p.2))
          (h : (childWithId? id vs).map f = some (n, child)) : (v :: vs)[n]? = some (.obj child) := by
        obtain ⟨place, found, eq⟩ := Option.map_eq_some_iff.1 h
        cases (shift place).symm.trans eq
        exact ih found
      cases v with
      | obj ms =>
        unfold childWithId? at h
        split at h
        · cases h
          rfl
        · exact later (fun _ => rfl) h
      | _ => exact later (fun _ => rfl) h

/-- A change of a child sets the children of the node. -/
theorem modifyAt_singleton {change : Members → Members} {root child : Members} {vs : List Value} {n : Nat}
    (listed : children? root = some vs) (there : vs[n]? = some (.obj child)) :
    modifyAt change [n] root = root.set "children" (.list (vs.set n (.obj (change child)))) := by
  rw [modifyAt, listed]
  dsimp only
  congr 2
  refine List.ext_getElem? fun i => ?_
  rw [List.getElem?_modify, List.getElem?_set]
  by_cases same : n = i
  · subst same
    obtain ⟨inside, eq⟩ := List.getElem?_eq_some_iff.1 there
    simp [inside, eq, modifyAt]
  · simp [same]

/-- A path that meets a reference changes nothing but the reference. -/
theorem overrideAll_path {root ref o : Members} {vs : List Value} {n : Nat} {id key : String}
    (listed : children? root = some vs) (child : childWithId? id vs = some (n, ref))
    (refers : kind? ref = .ok (some .reference)) (leaf : children? ref = none)
    (plain : pathIds id = [id]) (names : NamesNode key) :
    overrideAll root [(id ++ "/" ++ key, .obj o)] =
      (root.set "children" (.list (vs.set n (.obj (forward (pathIds key) o ref)))), none) := by
  have more : (pathIds key).isEmpty = false := by
    rcases names with plain | long
    · rw [plain]
      rfl
    · exact List.isEmpty_eq_false_iff.2 (List.ne_nil_of_length_pos (Nat.zero_lt_of_lt long))
  have slash : (id ++ "/" ++ key).toList.contains '/' = true := by
    simp [String.toList_append]
  have ends : endsPath ref = .ok true := by
    rw [endsPath, refers, leaf]
    rfl
  -- the path ends at the reference, and the ids behind it are handed on
  have found : locate root (id ++ "/" ++ key) = .ok (some ⟨[n], pathIds key⟩) := by
    rw [locate, if_pos slash, pathIds_append plain, followPath, listed, Option.bind_some, child]
    simp only [more, ends, bind, Except.bind, pure, Except.pure, if_true, Bool.false_eq_true, if_false]
  have change : (⟨[n], pathIds key⟩ : Spot).change o = forward (pathIds key) o := by
    funext ms
    rw [Spot.change, if_neg (by simp [more])]
  have changed : overrideOne root (id ++ "/" ++ key) (.obj o) =
      .ok (root.set "children" (.list (vs.set n (.obj (forward (pathIds key) o ref))))) := by
    rw [← modifyAt_singleton listed (getElem?_of_childWithId? child), overrideOne, found, ← change]
    rfl
  rw [overrideAll, changed]
  rfl

/-- Handing an override on forgets what stood under the rest of its path. -/
theorem forward_set_descendants (path : List String) (o ref : Members) (v : Value) :
    forward path o (ref.set "descendants"
      (.obj ((ownOverrides ref).set (String.intercalate "/" path) v))) = forward path o ref := by
  rw [forward, Members.get, Members.get?_set_self, Members.set_set]
  exact congrArg (fun own => ref.set "descendants" (.obj own)) (Members.set_set ..)

/-- An override whose path meets a reference becomes one of the reference's own overrides and changes nothing
else.  It stands in the place of the one that the reference has under the same key, and last if there is none,
while an override of what the reference stands for always comes last.  So both ways agree if the reference has
no override under the key.  If it has one, it does not matter at all what that says. -/
theorem resolve_after_path {root ref : Members} {vs : List Value} {n : Nat} {id key : String}
    (listed : children? root = some vs) (child : childWithId? id vs = some (n, ref))
    (refers : kind? ref = .ok (some .reference)) (leaf : children? ref = none)
    (plain : pathIds id = [id]) (names : NamesNode key) (o : Members) :
    ∃ path, path = String.intercalate "/" (pathIds key) ∧
      overrideAll root [(id ++ "/" ++ key, .obj o)] =
        (root.set "children" (.list (vs.set n (.obj (forward (pathIds key) o ref)))), none) ∧
      (∀ component,
        resolve (forward (pathIds key) o ref) component = (do
          override (← copyOf ref component) ((ownOverrides ref).set path (.obj o))) ∧
        (do overrideOne (← resolve ref component) key (.obj o)) = (do
          override (← copyOf ref component) (ownOverrides ref ++ [(path, .obj o)])) ∧
        (path ∉ (ownOverrides ref).keys →
          resolve (forward (pathIds key) o ref) component = (do
            overrideOne (← resolve ref component) key (.obj o)))) ∧
      ∀ v, forward (pathIds key) o (ref.set "descendants" (.obj ((ownOverrides ref).set path v))) =
        forward (pathIds key) o ref := by
  refine ⟨_, rfl, overrideAll_path listed child refers leaf plain names, fun component => ?_,
    forward_set_descendants (pathIds key) o ref⟩
  have through := resolve_forward (pathIds key) o ref component
  have direct := overrideOne_resolve names o ref component
  refine ⟨through, direct, fun new => ?_⟩
  rw [through, direct, Members.set_of_not_mem new]

/-- A frame with one text in it. -/
def frameOf (id : String) (reusable : Bool) (text : Members) : Members :=
  [("type", .str "frame"), ("id", .str id), ("reusable", .bool reusable),
    ("children", .list [.obj ([("type", .str "text"), ("id", .str "t")] ++ text)])]

/-- A component. -/
def label : Members := frameOf "label" true [("content", .str "default")]

/-- A reference to the component, with overrides of its own. -/
def labelWith (own : Members) : Members :=
  [("type", .str "ref"), ("id", .str "r"), ("ref", .str "label"), ("descendants", .obj own)]

/-- A component that holds the reference. -/
def cardOf (own : Members) : Members :=
  [("type", .str "frame"), ("id", .str "card"), ("reusable", .bool true),
    ("children", .list [.obj (labelWith own)])]

/-- An override that makes a text a link. -/
def link : Members := [("href", .str "/go")]

/-- An override from outside is added to those that the reference in a card has for other nodes. -/
theorem resolve_after_path_card :
    let own : Members := [("u", .obj [("content", .str "Hello")])]
    children? (cardOf own) = some [.obj (labelWith own)] ∧
    childWithId? "r" [.obj (labelWith own)] = some (0, labelWith own) ∧
    kind? (labelWith own) = .ok (some .reference) ∧ children? (labelWith own) = none ∧
    pathIds "r" = ["r"] ∧ NamesNode "t" ∧
    ∀ component, resolve (forward (pathIds "t") link (labelWith own)) component = (do
      overrideOne (← resolve (labelWith own) component) "t" (.obj link)) := by
  intro own
  have plain : pathIds "r" = ["r"] := rfl
  have names : NamesNode "t" := .inl rfl
  have listed : children? (cardOf own) = some [.obj (labelWith own)] := rfl
  have child : childWithId? "r" [.obj (labelWith own)] = some (0, labelWith own) := rfl
  obtain ⟨path, eq, -, agree, -⟩ := resolve_after_path listed child rfl rfl plain names link
  obtain rfl : path = "t" := eq
  exact ⟨listed, child, rfl, rfl, plain, names, fun component => (agree component).2.2 (by decide)⟩

/-- The text in a frame is found by its id. -/
theorem locate_frameOf (id : String) (reusable : Bool) (text : Members) :
    locate (frameOf id reusable text) "t" = .ok (some ⟨[0], []⟩) := by
  have first : findBelow (hasId "t") (frameOf id reusable text) = some [0] := by
    have child : (children? (frameOf id reusable text)).getD [] =
        [.obj ([("type", .str "text"), ("id", .str "t")] ++ text)] := rfl
    have named : hasId "t" ([("type", .str "text"), ("id", .str "t")] ++ text) = true := rfl
    rw [findBelow_eq_findAmong, child, findAmong, if_pos named]
  rw [locate, first]
  rfl

/-- The reference stands for a copy of the component with its own overrides. -/
theorem resolve_labelWith (own : Members) :
    resolve (labelWith own) label = override (frameOf "r" false [("content", .str "default")]) own := by
  rw [resolve_eq]
  rfl

/-- The text that the reference inside a card gives to its component is gone when a link is added from outside,
but not when the link is added to what the reference stands for. -/
theorem resolve_after_path_forgets :
    overrideAll (cardOf [("t", .obj [("content", .str "Hello")])]) [("r/t", .obj link)] =
      (cardOf [("t", .obj link)], none) ∧
    resolve (labelWith [("t", .obj link)]) label =
      .ok (frameOf "r" false [("content", .str "default"), ("href", .str "/go")]) ∧
    (do overrideOne (← resolve (labelWith [("t", .obj [("content", .str "Hello")])]) label) "t" (.obj link)) =
      .ok (frameOf "r" false [("content", .str "Hello"), ("href", .str "/go")]) := by
  refine ⟨rfl, ?_, ?_⟩
  · rw [resolve_labelWith, override_singleton, overrideOne, locate_frameOf]
    rfl
  · have hello : resolve (labelWith [("t", .obj [("content", .str "Hello")])]) label =
        .ok (frameOf "r" false [("content", .str "Hello")]) := by
      rw [resolve_labelWith, override_singleton, overrideOne, locate_frameOf]
      rfl
    simp only [hello, bind, Except.bind]
    rw [overrideOne, locate_frameOf]
    rfl

end Pagewright.Pen
