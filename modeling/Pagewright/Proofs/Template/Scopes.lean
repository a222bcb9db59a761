import Pagewright.Proofs.Template.Sections
import Pagewright.Proofs.Value.Members

/-!
# Pagewright.Proofs.Template.Scopes

Scopes as merged data.  A key is looked up from the inside outwards by its first part only, so a template
cannot tell one stack of scopes from another that has the same values for the same names, and all the
stack is worth is one object: its objects merged, the inner ones over the outer ones.  The key of the item
itself is the one exception, since it shows an innermost scope that is no object.
-/

namespace Pagewright.Template

/-! ## templates without the item itself -/

mutual

/-- No tag at any depth of a node has the key of the item itself. -/
def Node.IsNamed : Node → Prop
  | .text _ => True
  | .insert key _ => key ≠ ['.']
  | .block key _ children => key ≠ ['.'] ∧ AllNamed children

/-- No tag at any depth of nodes has the key of the item itself. -/
def AllNamed : List Node → Prop
  | [] => True
  | n :: ns => n.IsNamed ∧ AllNamed ns

end

/-! ## scopes with the same names -/

/-- Scopes in which every name has the same value. -/
def SameNames (scopes scopes' : List Value) : Prop := ∀ name, find? name scopes = find? name scopes'

variable {scopes scopes' : List Value}

/-- One more scope inside hides the same names. -/
theorem SameNames.cons (h : SameNames scopes scopes') (item : Value) :
    SameNames (item :: scopes) (item :: scopes') := by
  intro name
  cases item <;> simp only [find?, h name]

theorem SameNames.lookup_eq (h : SameNames scopes scopes') {key : List Char} (named : key ≠ ['.']) :
    lookup key scopes = lookup key scopes' := by
  simp only [lookup, named, if_false, h _]

mutual

/-- A node shows the same in scopes with the same names. -/
theorem Node.render_congr (n : Node) (named : n.IsNamed) {scopes scopes' : List Value}
    (h : SameNames scopes scopes') : n.render scopes = n.render scopes' := by
  match n with
  | .text s => rfl
  | .insert key raw => rw [Node.render, Node.render, h.lookup_eq named]
  | .block key inverted children =>
      rw [Node.render, Node.render, h.lookup_eq named.1, renderAll_congr children named.2 h]
      -- the rounds of a loop have the item as one more scope
      have rounds (item : Value) := renderAll_congr children named.2 (h.cons item)
      simp only [rounds]

/-- Nodes show the same in scopes with the same names. -/
theorem renderAll_congr (ns : List Node) (named : AllNamed ns) {scopes scopes' : List Value}
    (h : SameNames scopes scopes') : renderAll scopes ns = renderAll scopes' ns := by
  match ns with
  | [] => rfl
  | n :: ns => rw [renderAll, renderAll, n.render_congr named.1 h, renderAll_congr ns named.2 h]

end

/-! ## merged scopes -/

/-- The objects among some scopes as one object, the inner ones over the outer ones. -/
def merged : (scopes : List Value) → Members
  | [] => []
  | .obj ms :: scopes => Members.overlay ms (merged scopes)
  | _ :: scopes => merged scopes

theorem find?_obj (name : String) (ms : Members) : find? name [.obj ms] = ms.get? name := by
  rw [find?]
  cases ms.get? name <;> rfl

theorem find?_eq_get?_merged (name : String) (scopes : List Value) :
    find? name scopes = (merged scopes).get? name := by
  induction scopes with
  | nil => rfl
  | cons scope scopes ih =>
      cases scope with
      | obj ms =>
          rw [merged, Members.get?_overlay, find?, ih]
          cases Members.get? name ms <;> rfl
      | _ => exact ih

theorem sameNames_merged (scopes : List Value) : SameNames scopes [.obj (merged scopes)] :=
  fun name => (find?_eq_get?_merged name scopes).trans (find?_obj name _).symm

/-- Without the key of the item itself nodes show in some scopes what they show in the one object that the
scopes make up, and over a list of objects a block shows its children as if each item were merged over the
data around it. -/
theorem renderAll_merged (scopes : List Value) {ns : List Node} (named : AllNamed ns) :
    renderAll scopes ns = renderAll [.obj (merged scopes)] ns ∧
    ∀ (key : List Char) (items : List Members),
      lookup key scopes = .ok (.list (items.map .obj)) →
        (Node.block key false ns).render scopes = (do
          let shown ← items.mapM fun item => renderAll [.obj (item.overlay (merged scopes))] ns
          return shown.flatten) := by
  refine ⟨renderAll_congr ns named (sameNames_merged scopes), fun key items found => ?_⟩
  have round (item : Members) : renderAll (.obj item :: scopes) ns =
      renderAll [.obj (item.overlay (merged scopes))] ns :=
    renderAll_congr ns named (sameNames_merged (.obj item :: scopes))
  simp only [render_block_list found, List.mapM_map, Function.comp_def, round]

/-- A name, and a member of an object. -/
def pairNodes : List Node := [.insert ['a'] false, .text ['-'], .insert ['b', '.', 'c'] true]

/-- A scalar and two objects, of which the inner one has null for a name of the outer one. -/
def nestedScopes : List Value :=
  [.int 7, .obj [("a", .null), ("n", .list [.obj [("a", .str "1")], .obj [("b", .str "2")]])],
    .obj [("a", .str "A"), ("b", .obj [("c", .str "C")])]]

/-- Null hides a value further outside, a scalar hides nothing, and a text under the name of an object
hides the whole object. -/
theorem renderAll_merged_nested :
    AllNamed pairNodes ∧
    lookup ['n'] nestedScopes = .ok (.list ([[("a", .str "1")], [("b", .str "2")]].map .obj)) ∧
    renderAll nestedScopes pairNodes = .ok "-C".toList ∧
    (Node.block ['n'] false pairNodes).render nestedScopes = .ok "1-C-".toList := by
  have named : AllNamed pairNodes := by simp [pairNodes, AllNamed, Node.IsNamed]
  have found : lookup ['n'] nestedScopes =
    .ok (.list ([[("a", .str "1")], [("b", .str "2")]].map .obj)) := rfl
  refine ⟨named, found, ?_, ?_⟩
  · rw [(renderAll_merged nestedScopes named).1]
    decide +kernel
  · rw [(renderAll_merged nestedScopes named).2 ['n'] _ found]
    decide +kernel

end Pagewright.Template
