import Pagewright.Proofs.Fault.Yields
import Pagewright.Proofs.Number.Numeral
import Pagewright.Template.Render

/-!
# Pagewright.Proofs.Template.Totality

When a template has a text.  Missing names, empty parts and values of the wrong kind all count as null; the
one thing that a path cannot do is to enter a list by a row of digits that is no numeral.  So a key has a
value exactly if it does not stop there, and a template has a text exactly if none of the keys that it asks
for stops.  Which keys these are depends on the data: a block asks for the keys of its children once for
each round that it makes.
-/

namespace Pagewright.Template

open Text

/-! ## paths -/

/-- A row of digits that is no numeral: one of its digits is written in none, or there are too many. -/
def IsLooseIndex (part : List Char) : Prop :=
  part ≠ [] ∧ (∀ c ∈ part, isDigit c = true) ∧
    ((∃ c ∈ part, isDecimal c = false) ∨ Numeral.digitLimit < part.length)

/-- A path into a value comes to a list with such a row of digits. -/
def Stops (value : Value) (path : List (List Char)) : Prop :=
  ∃ before part after items, path = before ++ part :: after ∧
    before.foldlM descend value = .ok (.list items) ∧ IsLooseIndex part

variable {value : Value} {part : List Char} {path : List (List Char)}

/-- One step of a path stops only at a list, and there only at a loose index. -/
theorem exists_descend_iff :
    (∃ v, descend value part = .ok v) ↔ ¬ ((∃ items, value = .list items) ∧ IsLooseIndex part) := by
  cases value with
  | list items =>
      have isList : ∃ vs, Value.list items = .list vs := ⟨items, rfl⟩
      simp only [isList, true_and]
      by_cases row : part ≠ [] ∧ ∀ c ∈ part, isDigit c = true
      · have digits : ¬ (part.isEmpty || !part.all isDigit) = true := by simpa using row
        have loose : IsLooseIndex part ↔ Numeral.integer? part = none := by
          rw [Numeral.integer?_eq_none_iff row.1 row.2, IsLooseIndex, ← and_assoc, and_iff_right row]
        rw [loose, descend, if_neg digits]
        cases Numeral.integer? part <;> simp
      · have word : (part.isEmpty || !part.all isDigit) = true := by simpa [imp_iff_not_or] using row
        rw [descend, if_pos word]
        exact iff_of_true ⟨.null, rfl⟩ fun loose => row ⟨loose.1, loose.2.1⟩
  | _ =>
      refine iff_of_true ⟨_, rfl⟩ ?_
      rintro ⟨⟨items, eq⟩, -⟩
      cases eq

theorem not_stops_nil : ¬ Stops value [] := by
  rintro ⟨before, part, after, items, eq, -⟩
  simp at eq

/-- A path stops at its first part, or behind it. -/
theorem stops_cons_iff :
    Stops value (part :: path) ↔
      ((∃ items, value = .list items) ∧ IsLooseIndex part) ∨
        ∃ v, descend value part = .ok v ∧ Stops v path := by
  constructor
  · rintro ⟨before, last, after, items, eq, leads, loose⟩
    cases before with
    | nil =>
        cases eq
        cases leads
        exact .inl ⟨⟨items, rfl⟩, loose⟩
    | cons first before =>
        cases eq
        rw [List.foldlM_cons] at leads
        obtain ⟨v, entered, leads⟩ := bind_eq_ok_iff.1 leads
        exact .inr ⟨v, entered, before, last, after, items, rfl, leads, loose⟩
  · rintro (⟨⟨items, rfl⟩, loose⟩ | ⟨v, entered, before, last, after, items, rfl, leads, loose⟩)
    · exact ⟨[], part, path, items, rfl, rfl, loose⟩
    · refine ⟨part :: before, last, after, items, rfl, ?_, loose⟩
      rw [List.foldlM_cons, entered]
      exact leads

/-- A path leads somewhere exactly if it does not stop. -/
theorem exists_foldlM_descend_iff :
    (∃ v, path.foldlM descend value = .ok v) ↔ ¬ Stops value path := by
  induction path generalizing value with
  | nil => exact iff_of_true ⟨value, rfl⟩ not_stops_nil
  | cons part path ih =>
      rw [List.foldlM_cons, exists_bind_iff, stops_cons_iff, not_or, ← exists_descend_iff]
      constructor
      · rintro ⟨v, entered, leads⟩
        refine ⟨⟨v, entered⟩, fun ⟨w, entered', stops⟩ => ih.1 leads ?_⟩
        rw [entered] at entered'
        cases entered'
        exact stops
      · rintro ⟨⟨v, entered⟩, goes⟩
        exact ⟨v, entered, ih.2 fun stops => goes ⟨v, entered, stops⟩⟩

/-! ## keys -/

/-- The path of a key stops in the value that its first part names. -/
def StopsAtIndex (key : List Char) (scopes : List Value) : Prop :=
  ∃ name path value, split '.' key = name :: path ∧
    find? (String.ofList name) scopes = some value ∧ Stops value path

/-- A key has a value exactly if its path does not stop. -/
theorem exists_lookup_iff {key : List Char} {scopes : List Value} :
    (∃ v, lookup key scopes = .ok v) ↔ ¬ StopsAtIndex key scopes := by
  unfold lookup
  split
  · next item =>
    subst item
    refine iff_of_true ⟨_, rfl⟩ ?_
    rintro ⟨name, path, value, parts, -, stops⟩
    have parts : [[], []] = name :: path := parts
    cases parts
    -- the path of the item itself is one empty part, which is no row of digits
    rcases stops_cons_iff.1 stops with ⟨-, loose⟩ | ⟨v, -, stops⟩
    · exact loose.1 rfl
    · exact not_stops_nil stops
  · unfold StopsAtIndex
    cases split '.' key with
    | nil =>
        refine iff_of_true ⟨.null, rfl⟩ ?_
        rintro ⟨_, _, _, parts, -⟩
        cases parts
    | cons name path =>
        cases found : find? (String.ofList name) scopes with
        | none =>
            refine iff_of_true ⟨.null, by simp only [found]⟩ ?_
            rintro ⟨_, _, value, parts, found', -⟩
            cases parts
            rw [found] at found'
            cases found'
        | some value =>
            simp only [found, exists_foldlM_descend_iff]
            refine not_congr ⟨fun stops => ⟨name, path, value, rfl, found, stops⟩, ?_⟩
            rintro ⟨_, _, _, parts, found', stops⟩
            cases parts
            rw [found] at found'
            cases found'
            exact stops

/-! ## rounds -/

/-- The scopes in which a block shows its children, one after the other. -/
def rounds (scopes : List Value) (inverted : Bool) (value : Value) : List (List Value) :=
  match inverted, value with
  | false, .list items => items.map (· :: scopes)
  | _, _ => if value.isTruthy = inverted then [] else [scopes]

/-- A block shows its children once for each of its rounds. -/
theorem render_block_eq (key : List Char) (inverted : Bool) (children : List Node) (scopes : List Value) :
    (Node.block key inverted children).render scopes = (do
      let value ← lookup key scopes
      return (← (rounds scopes inverted value).mapM fun inner => renderAll inner children).flatten) := by
  rw [Node.render]
  refine congrArg (lookup key scopes >>= ·) (funext fun value => ?_)
  -- a value that is no list gives one round in the same scopes, or none
  have once : renderAll scopes children =
      (do return (← [scopes].mapM fun inner => renderAll inner children).flatten) := by
    rw [List.mapM_cons, List.mapM_nil]
    cases renderAll scopes children <;> simp [bind, pure, Except.bind, Except.pure]
  have never : (Except.ok [] : Except Fault (List Char)) =
      (do return (← ([] : List (List Value)).mapM fun inner => renderAll inner children).flatten) := rfl
  cases inverted with
  | true =>
      rw [rounds]
      cases value.isTruthy
      · exact once
      · exact never
      · intro _ eq
        cases eq
  | false =>
      cases value with
      | list items => simp only [rounds, List.mapM_map, Function.comp_def]; rfl
      | _ =>
          rw [rounds]
          generalize Value.isTruthy _ = truthy
          cases truthy
          · exact never
          · exact once
          · intro _ _ eq
            cases eq

/-! ## keys asked for -/

mutual

/-- Showing a node in some scopes asks for a key in scopes. -/
def Node.Asks (key : List Char) (scopes : List Value) : (outer : List Value) → Node → Prop
  | _, .text _ => False
  | outer, .insert own _ => key = own ∧ scopes = outer
  | outer, .block own inverted children =>
    (key = own ∧ scopes = outer) ∨ ∃ value, lookup own outer = .ok value ∧
      ∃ inner ∈ rounds outer inverted value, AnyAsks key scopes inner children

/-- Showing nodes in some scopes asks for a key in scopes. -/
def AnyAsks (key : List Char) (scopes : List Value) : (outer : List Value) → List Node → Prop
  | _, [] => False
  | outer, n :: ns => n.Asks key scopes outer ∨ AnyAsks key scopes outer ns

end

mutual

/-- A node has a text exactly if no key that it asks for stops. -/
theorem Node.exists_render_iff (n : Node) {outer : List Value} :
    (∃ s, n.render outer = .ok s) ↔ ∀ key scopes, n.Asks key scopes outer → ¬ StopsAtIndex key scopes := by
  match n with
  | .text s => exact iff_of_true ⟨s, rfl⟩ fun _ _ asks => asks.elim
  | .insert own raw =>
      rw [Node.render, exists_map_iff, exists_lookup_iff]
      constructor
      · rintro goes key scopes ⟨rfl, rfl⟩
        exact goes
      · exact fun goes => goes own outer ⟨rfl, rfl⟩
  | .block own inverted children =>
      rw [render_block_eq, exists_bind_iff]
      simp only [exists_map_iff, exists_mapM_iff, exists_renderAll_iff children]
      constructor
      · rintro ⟨value, found, shown⟩ key scopes (⟨rfl, rfl⟩ | ⟨value', found', inner, mem, asks⟩)
        · exact exists_lookup_iff.1 ⟨value, found⟩
        · rw [found] at found'
          cases found'
          exact shown inner mem key scopes asks
      · intro goes
        obtain ⟨value, found⟩ := exists_lookup_iff.2 (goes own outer (.inl ⟨rfl, rfl⟩))
        exact ⟨value, found, fun inner mem key scopes asks =>
          goes key scopes (.inr ⟨value, found, inner, mem, asks⟩)⟩

/-- Nodes have a text exactly if no key that they ask for stops. -/
theorem exists_renderAll_iff (ns : List Node) {outer : List Value} :
    (∃ s, renderAll outer ns = .ok s) ↔
      ∀ key scopes, AnyAsks key scopes outer ns → ¬ StopsAtIndex key scopes := by
  match ns with
  | [] => exact iff_of_true ⟨[], rfl⟩ fun _ _ asks => asks.elim
  | n :: ns =>
      rw [renderAll, exists_bind_iff_and fun s => exists_map_iff, n.exists_render_iff,
        exists_renderAll_iff ns]
      simp only [AnyAsks, or_imp, forall_and]

end

/-! ## keys of a template -/

mutual

/-- The keys of the tags of a node, at any depth. -/
def Node.keys : Node → List (List Char)
  | .text _ => []
  | .insert key _ => [key]
  | .block key _ children => key :: allKeys children

/-- The keys of the tags of nodes, at any depth. -/
def allKeys : List Node → List (List Char)
  | [] => []
  | n :: ns => n.keys ++ allKeys ns

end

mutual

/-- A node asks for keys of its own tags only. -/
theorem Node.Asks.mem_keys (n : Node) {key : List Char} {scopes outer : List Value}
    (asks : n.Asks key scopes outer) : key ∈ n.keys := by
  match n with
  | .text s => exact asks.elim
  | .insert own raw => exact List.mem_singleton.2 asks.1
  | .block own inverted children =>
      rcases asks with ⟨rfl, -⟩ | ⟨value, -, inner, -, asks⟩
      · exact List.mem_cons_self ..
      · exact List.mem_cons_of_mem own (AnyAsks.mem_allKeys children asks)

/-- So do nodes in a row. -/
theorem AnyAsks.mem_allKeys (ns : List Node) {key : List Char} {scopes outer : List Value}
    (asks : AnyAsks key scopes outer ns) : key ∈ allKeys ns := by
  match ns with
  | [] => exact asks.elim
  | n :: ns =>
      refine List.mem_append.2 ?_
      rcases asks with first | later
      · exact .inl (Node.Asks.mem_keys n first)
      · exact .inr (AnyAsks.mem_allKeys ns later)

end

/-- A template in which no part of a key behind the first is a loose index has a text for all data. -/
theorem exists_render_of_keys {template : String}
    (sound : ∀ key ∈ allKeys (parse template.toList), ∀ part ∈ (split '.' key).tail, ¬ IsLooseIndex part)
    (data : Value) : ∃ s, render template data = .ok s := by
  rw [render, exists_map_iff, exists_renderAll_iff]
  rintro key scopes asks ⟨name, path, value, parts, -, before, part, after, items, rfl, -, loose⟩
  refine sound key (AnyAsks.mem_allKeys _ asks) part ?_ loose
  rw [parts]
  exact List.mem_append_right before (List.mem_cons_self ..)

/-! ## templates -/

/-- A template has a text, whatever the data, unless a key that it asks for stops at an index.  These are
all the keys that have no value: looking up any other gives one, null if there is none. -/
theorem render_total_iff (template : String) (data : Value) :
    ((∃ s, render template data = .ok s) ↔
      ∀ key scopes, AnyAsks key scopes [rootScope data] (parse template.toList) →
        ¬ StopsAtIndex key scopes) ∧
    ∀ key scopes, (∃ v, lookup key scopes = .ok v) ↔ ¬ StopsAtIndex key scopes := by
  refine ⟨?_, fun key scopes => exists_lookup_iff⟩
  rw [render, exists_map_iff, exists_renderAll_iff]

/-- A superscript counts as a digit, but is no index. -/
theorem render_superscript_eq_error :
    render "\x7b\x7ba.²\x7d\x7d" (.obj [("a", .list [.str "x"])]) = .error .badValue := by
  decide +kernel

end Pagewright.Template
