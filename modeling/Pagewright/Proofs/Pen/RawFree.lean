import Pagewright.Pen.Compile
import Pagewright.Proofs.Pen.Yields
import Pagewright.Proofs.Value.Members

/-!
# Pagewright.Proofs.Pen.RawFree

Data without raw texts: no object at any depth has `true` under `raw`.  What references make of such data
has none either, since members are only moved: the components, the copies that stand for references and
the nodes that overrides change are made of parts of the document.
-/

namespace Pagewright

/-! ## raw members -/

mutual

/-- No object at any depth of a datum is marked as raw. -/
def Value.IsRawFree : Value → Prop
  | .list vs => AllRawFree vs
  | .obj ms => MembersRawFree ms
  | _ => True

/-- No object at any depth of data is marked as raw. -/
def AllRawFree : List Value → Prop
  | [] => True
  | v :: vs => v.IsRawFree ∧ AllRawFree vs

/-- Members do not mark their object as raw, nor any object at any depth. -/
def MembersRawFree : List (String × Value) → Prop
  | [] => True
  | (key, v) :: ms => (key = "raw" → v ≠ .bool true) ∧ v.IsRawFree ∧ MembersRawFree ms

end

/-- The recursion over a list says the same of each of its data. -/
theorem allRawFree_iff {vs : List Value} : AllRawFree vs ↔ ∀ v ∈ vs, v.IsRawFree := by
  induction vs with
  | nil => simp [AllRawFree]
  | cons v vs ih => simp [AllRawFree, ih]

/-- The recursion over members says the same of each of them. -/
theorem membersRawFree_iff {ms : Members} :
    MembersRawFree ms ↔ ∀ m ∈ ms, (m.1 = "raw" → m.2 ≠ .bool true) ∧ m.2.IsRawFree := by
  induction ms with
  | nil => simp [MembersRawFree]
  | cons m ms ih =>
      obtain ⟨key, v⟩ := m
      simp [MembersRawFree, ih, and_assoc]

namespace Members

/-- What is under a key of unmarked data is unmarked. -/
theorem isRawFree_of_get? {key : String} {ms : Members} {v : Value} (free : MembersRawFree ms)
    (h : ms.get? key = some v) : v.IsRawFree :=
  (membersRawFree_iff.1 free _ (mem_of_get? h)).2

/-- A missing key has no data, which are unmarked as well. -/
theorem isRawFree_get {ms : Members} (free : MembersRawFree ms) (key : String) :
    (ms.get key).IsRawFree := by
  unfold get
  cases h : ms.get? key with
  | none => trivial
  | some v => exact isRawFree_of_get? free h

/-- Unmarked members do not have the mark under its key. -/
theorem get_raw_ne_true {ms : Members} (free : MembersRawFree ms) : ms.get "raw" ≠ .bool true := by
  unfold get
  cases h : ms.get? "raw" with
  | none => exact nofun
  | some v => exact (membersRawFree_iff.1 free _ (mem_of_get? h)).1 rfl

/-- Setting a key can mark an object only through the new value. -/
theorem membersRawFree_set {ms : Members} (free : MembersRawFree ms) (key : String) {v : Value}
    (plain : key = "raw" → v ≠ .bool true) (hv : v.IsRawFree) : MembersRawFree (ms.set key v) := by
  induction ms with
  | nil => exact ⟨plain, hv, trivial⟩
  | cons m ms ih =>
      obtain ⟨other, w⟩ := m
      obtain ⟨hw, deep, rest⟩ := free
      unfold set
      split
      · next same => exact ⟨same ▸ plain, hv, rest⟩
      · exact ⟨hw, deep, ih rest⟩

/-- Members set from unmarked members stay unmarked, key by key. -/
theorem membersRawFree_setAll {ms new : Members} (free : MembersRawFree ms)
    (h : MembersRawFree new) : MembersRawFree (ms.setAll new) := by
  unfold setAll
  induction new generalizing ms with
  | nil => exact free
  | cons m new ih =>
      obtain ⟨key, v⟩ := m
      obtain ⟨plain, hv, rest⟩ := h
      exact ih (membersRawFree_set free key plain hv) rest

/-- Leaving members out marks nothing. -/
theorem membersRawFree_filter {ms : Members} (free : MembersRawFree ms)
    (p : String × Value → Bool) : MembersRawFree (ms.filter p) := by
  rw [membersRawFree_iff] at free ⊢
  exact fun m hm => free m (List.mem_filter.1 hm).1

end Members

namespace Pen

/-! ## nodes -/

/-- The compiler finds no mark where there is none. -/
theorem isRaw_eq_false {ms : Members} (free : MembersRawFree ms) : isRaw ms = false := by
  unfold isRaw
  split
  · next b h =>
    cases b with
    | false => rfl
    | true => exact absurd h (Members.get_raw_ne_true free)
  · rfl

/-- The children of an unmarked node are unmarked. -/
theorem isRawFree_of_mem_children? {ms : Members} (free : MembersRawFree ms) {vs : List Value}
    (h : children? ms = some vs) : ∀ v ∈ vs, v.IsRawFree := by
  unfold children? at h
  split at h
  · next ws eq =>
    cases h
    exact allRawFree_iff.1 (Members.isRawFree_of_get? free eq)
  · cases h

/-- So are the members of an unmarked datum, if it has any. -/
theorem membersRawFree_of_members? {v : Value} (free : v.IsRawFree) :
    MembersRawFree (v.members?.getD []) := by
  cases v with
  | obj ms => exact free
  | _ => trivial

/-! ## overrides -/

/-- An item of a list with one item changed is an old one or a changed one. -/
theorem mem_modify {α : Type} {f : α → α} {i : Nat} {l : List α} {b : α} (h : b ∈ l.modify i f) :
    b ∈ l ∨ ∃ a ∈ l, b = f a := by
  obtain ⟨j, hj⟩ := List.mem_iff_getElem?.1 h
  rw [List.getElem?_modify] at hj
  cases ha : l[j]? with
  | none =>
      rw [ha] at hj
      cases hj
  | some a =>
      have mem := List.mem_of_getElem? ha
      simp only [ha, Option.map_eq_map, Option.map_some, Option.some.injEq] at hj
      split at hj
      · exact .inr ⟨a, mem, hj.symm⟩
      · exact .inl (hj ▸ mem)

/-- A change that marks nothing marks nothing anywhere below, by induction on the way to its place. -/
theorem membersRawFree_modifyAt {change : Members → Members}
    (kept : ∀ ms, MembersRawFree ms → MembersRawFree (change ms)) (steps : List Nat) {ms : Members}
    (free : MembersRawFree ms) : MembersRawFree (modifyAt change steps ms) := by
  induction steps generalizing ms with
  | nil => exact kept ms free
  | cons i steps ih =>
      unfold modifyAt
      cases h : children? ms with
      | none => exact free
      | some vs =>
          refine Members.membersRawFree_set free "children" (by simp) (allRawFree_iff.2 fun v hv => ?_)
          have old := isRawFree_of_mem_children? free h
          obtain hv | ⟨w, hw, rfl⟩ := mem_modify hv
          · exact old v hv
          · have deep := old w hw
            cases w with
            | obj child => exact ih deep
            | _ => trivial

/-- An override sets members of a node or puts itself in its place, and it is unmarked. -/
theorem membersRawFree_change (spot : Spot) {override : Members} (new : MembersRawFree override)
    (ms : Members) (free : MembersRawFree ms) : MembersRawFree (spot.change override ms) := by
  unfold Spot.change
  split
  · unfold applyOverride
    split
    · exact new
    · exact Members.membersRawFree_setAll free new
  · have forwarded := membersRawFree_of_members? (Members.isRawFree_get free "descendants")
    exact Members.membersRawFree_set free "descendants" (by simp)
      (Members.membersRawFree_set forwarded _ (fun _ => nofun) new)

/-- One override, wherever it finds its node. -/
theorem yields_overrideOne {root : Members} (free : MembersRawFree root) (key : String)
    {override : Value} (new : override.IsRawFree) :
    Yields MembersRawFree (overrideOne root key override) := by
  cases override with
  | obj ms =>
      refine Yields.bind fun spot? _ => ?_
      cases spot? with
      | none => exact yields_ok free
      | some spot =>
          have kept := membersRawFree_change spot new
          exact yields_ok (membersRawFree_modifyAt kept spot.steps free)
  | _ => exact yields_ok free

/-- All overrides, one after the other. -/
theorem membersRawFree_overrideAll {root overrides : Members} (free : MembersRawFree root)
    (new : MembersRawFree overrides) : MembersRawFree (overrideAll root overrides).1 := by
  induction overrides generalizing root with
  | nil => exact free
  | cons m overrides ih =>
      obtain ⟨key, override⟩ := m
      obtain ⟨-, hv, rest⟩ := new
      unfold overrideAll
      cases h : overrideOne root key override with
      | error f => exact free
      | ok changed => exact ih (yields_overrideOne free key hv changed h) rest

/-! ## references -/

/-- The id of a copy is data of the reference, or a new text. -/
theorem yields_instanceId {ms : Members} (free : MembersRawFree ms) :
    Yields Value.IsRawFree (instanceId ms) := by
  unfold instanceId
  by_cases own : (ms.get "id").isTruthy
  · rw [if_pos own]
    exact yields_ok (Members.isRawFree_get free "id")
  · rw [if_neg own]
    cases ms.get? "ref" with
    | none => exact yields_error .missingKey
    | some name => exact yields_ok trivial

/-- What a reference stands for is made of the reference and its component. -/
theorem yields_resolve {ms component : Members} (free : MembersRawFree ms)
    (known : MembersRawFree component) : Yields MembersRawFree (resolve ms component) := by
  refine Yields.bind fun id eq => ?_
  extract_lets merged root
  have merged : MembersRawFree merged := Members.membersRawFree_setAll known
    (Members.membersRawFree_filter free fun m => !ownMembers.contains m.1)
  have named := Members.membersRawFree_set merged "id" (by simp) (yields_instanceId free id eq)
  have root : MembersRawFree root :=
    Members.membersRawFree_set named "reusable" (v := .bool false) (by simp) trivial
  split
  · next overrides eq =>
    have deep := Members.isRawFree_get free "descendants"
    rw [eq] at deep
    have all := membersRawFree_overrideAll root deep
    split
    · next changed eq =>
      rw [eq] at all
      exact yields_ok all
    · exact yields_error _
  · exact yields_ok root

mutual

/-- The nodes of an unmarked document are unmarked, at whatever depth. -/
theorem membersRawFree_of_mem_preorder {vs : List Value} (free : ∀ v ∈ vs, v.IsRawFree) :
    ∀ ms ∈ preorder vs, MembersRawFree ms := by
  intro ms hms
  match vs with
  | [] => simp [preorder] at hms
  | v :: rest =>
      have behind := membersRawFree_of_mem_preorder fun w hw => free w (List.mem_cons_of_mem v hw)
      have here := free v (List.mem_cons_self ..)
      cases v with
      | obj top =>
          rw [preorder, List.mem_cons, List.mem_append] at hms
          obtain rfl | below | rest := hms
          · exact here
          · exact membersRawFree_of_mem_below here ms below
          · exact behind ms rest
      | _ =>
          rw [preorder] at hms
          · exact behind ms hms
          · exact nofun
termination_by sizeOf vs

/-- So are the nodes below an unmarked one. -/
theorem membersRawFree_of_mem_below {ms : Members} (free : MembersRawFree ms) :
    ∀ node ∈ below ms, MembersRawFree node := by
  intro node hnode
  rw [below] at hnode
  split at hnode
  · next vs h =>
    have := sizeOf_lt_of_children? h
    exact membersRawFree_of_mem_preorder (isRawFree_of_mem_children? free h) node hnode
  · cases hnode
termination_by sizeOf ms

end

/-- A component is a node of the document, so collecting it brings no mark in. -/
theorem yields_add {components : Components} {ms : Members}
    (known : ∀ c ∈ components, MembersRawFree c.2) (free : MembersRawFree ms) :
    Yields (fun more => ∀ c ∈ more, MembersRawFree c.2) (components.add ms) := by
  refine Yields.bind fun id? _ => ?_
  cases id? with
  | none => exact yields_ok known
  | some id =>
      refine yields_ok ?_
      split
      · exact known
      · intro c hc
        rw [List.mem_append, List.mem_singleton] at hc
        obtain hc | rfl := hc
        · exact known c hc
        · exact free

/-- The components of a document without raw texts have none. -/
theorem yields_ofNodes {vs : List Value} (free : ∀ v ∈ vs, v.IsRawFree) :
    Yields (fun components => ∀ c ∈ components, MembersRawFree c.2) (Components.ofNodes vs) :=
  yields_foldlM (by simp) fun _ ms hms known =>
    yields_add known (membersRawFree_of_mem_preorder free ms hms)

end Pen

end Pagewright
