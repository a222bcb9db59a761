import Mathlib.Data.List.Induction
import Pagewright.Pen.Variable

/-!
# Pagewright.Proofs.Pen.Tables

What the blocks of variables hold.  A sheet is built by setting one variable after the other; what comes
out has every name once, where it appeared first, with the last text that it was given, and every selector
once, where it appeared first, with the variables of all themes that have it.
-/

namespace Pagewright.Pen

/-! ## first appearances -/

/-- A key at the end is kept only if it did not occur before. -/
theorem eraseDups_concat (keys : List String) (key : String) :
    (keys ++ [key]).eraseDups =
      if key ∈ keys then keys.eraseDups else keys.eraseDups ++ [key] := by
  rw [List.eraseDups_append]
  by_cases known : key ∈ keys
  · simp [List.removeAll, known]
  · simp [List.removeAll, known, List.eraseDups_cons]

/-- After that no key stands twice. -/
theorem nodup_eraseDups (keys : List String) : keys.eraseDups.Nodup := by
  induction keys using List.reverseRecOn with
  | nil => simp
  | append_singleton keys key ih =>
      rw [eraseDups_concat]
      split
      · exact ih
      · next unknown =>
        have apart : ∀ known ∈ keys.eraseDups, ∀ new ∈ [key], known ≠ new := by
          intro known mem new eq same
          rw [List.mem_singleton.1 eq] at same
          exact unknown (same ▸ List.mem_eraseDups.1 mem)
        exact List.nodup_append.2 ⟨ih, by simp, apart⟩

/-! ## collecting by keys -/

section

variable {α β : Type} {step : β → α → β} {start : β}

/-- Changes what stands under a key, in its place; under a new key something new is put at the end. -/
def put (change : β → β) (start : β) (key : String) : List (String × β) → List (String × β)
  | [] => [(key, change start)]
  | (k, b) :: rest => if k = key then (k, change b) :: rest else (k, b) :: put change start key rest

/-- The entries of a key. -/
def entriesOf (key : String) (entries : List (String × α)) : List α :=
  (entries.filter (·.1 == key)).map (·.2)

/-- What is collected under each key, with the keys in the order of their first entries. -/
def collected (step : β → α → β) (start : β) (entries : List (String × α)) : List (String × β) :=
  (entries.map (·.1)).eraseDups.map fun key => (key, (entriesOf key entries).foldl step start)

/-- Putting something under a key of a table changes the entry of that key, or adds one. -/
theorem put_map {change : β → β} {key : String} {keys : List String} {f : String → β}
    (nodup : keys.Nodup) (new : key ∉ keys → f key = start) :
    put change start key (keys.map fun k => (k, f k)) =
      (if key ∈ keys then keys else keys ++ [key]).map fun k =>
        (k, if k = key then change (f k) else f k) := by
  induction keys with
  | nil => simp [put, new (by simp)]
  | cons k keys ih =>
      obtain ⟨once, nodup⟩ := List.nodup_cons.1 nodup
      rw [List.map_cons, put]
      by_cases same : k = key
      · subst same
        have others : ∀ k' ∈ keys, k' ≠ k := fun k' mem eq => once (eq ▸ mem)
        simpa using fun k' mem eq => absurd eq (others k' mem)
      · have other : key ≠ k := Ne.symm same
        rw [if_neg same, ih nodup fun absent => new (by simp [other, absent])]
        by_cases known : key ∈ keys <;> simp [known, same, other]

/-- The entries of a key keep their order. -/
theorem entriesOf_append (key : String) (entries more : List (String × α)) :
    entriesOf key (entries ++ more) = entriesOf key entries ++ entriesOf key more := by
  simp [entriesOf]

/-- An entry at the end counts for its own key only. -/
theorem entriesOf_concat (key : String) (entries : List (String × α)) (e : String × α) :
    entriesOf key (entries ++ [e]) =
      if e.1 = key then entriesOf key entries ++ [e.2] else entriesOf key entries := by
  rw [entriesOf_append]
  by_cases same : e.1 = key <;> simp [entriesOf, same]

/-- The entries of a key are the values that stand beside it. -/
theorem mem_entriesOf_iff {key : String} {a : α} {entries : List (String × α)} :
    a ∈ entriesOf key entries ↔ (key, a) ∈ entries := by
  simp [entriesOf]

/-- A key that does not occur has none. -/
theorem entriesOf_eq_nil {key : String} {entries : List (String × α)} (absent : key ∉ entries.map (·.1)) :
    entriesOf key entries = [] := by
  unfold entriesOf
  rw [List.map_eq_nil_iff, List.filter_eq_nil_iff]
  intro e mem same
  exact absent (List.mem_map.2 ⟨e, mem, by simpa using same⟩)

/-- One more entry changes what is collected by putting it: this is the step of the induction below. -/
theorem collected_concat (entries : List (String × α)) (e : String × α) :
    collected step start (entries ++ [e]) =
      put (step · e.2) start e.1 (collected step start entries) := by
  have new : e.1 ∉ (entries.map (·.1)).eraseDups →
      (entriesOf e.1 entries).foldl step start = start := fun absent => by
    rw [entriesOf_eq_nil fun mem => absent (List.mem_eraseDups.2 mem)]
    rfl
  unfold collected
  rw [put_map (nodup_eraseDups _) new, List.map_append, List.map_cons, List.map_nil, eraseDups_concat]
  simp only [List.mem_eraseDups, entriesOf_concat]
  refine List.map_congr_left fun key _ => ?_
  by_cases same : e.1 = key
  · simp [same]
  · simp [same, Ne.symm same]

/-- Putting entries one after the other collects them. -/
theorem foldl_put (step : β → α → β) (start : β) (entries : List (String × α)) :
    entries.foldl (fun table e => put (step · e.2) start e.1 table) [] = collected step start entries := by
  induction entries using List.reverseRecOn with
  | nil => rfl
  | append_singleton entries e ih =>
      rw [List.foldl_append, ih, collected_concat]
      rfl

end

/-! ## looking up -/

section

variable {α : Type} {key : String} {entries : List (String × α)}

/-- If all entries have one key, they are all entries of it. -/
theorem entriesOf_eq_map (own : ∀ e ∈ entries, e.1 = key) : entriesOf key entries = entries.map (·.2) := by
  rw [entriesOf, List.filter_eq_self.2 fun e mem => by simpa using own e mem]

/-- Where things have different keys, the entries of one of them are its own. -/
theorem entriesOf_flatMap {γ : Type} {f : γ → List (String × α)} {k : γ → String} {cs : List γ} {c : γ}
    (keyed : ∀ c, ∀ e ∈ f c, e.1 = k c) (nodup : (cs.map k).Nodup) (mem : c ∈ cs) :
    entriesOf (k c) (cs.flatMap f) = (f c).map (·.2) := by
  induction cs with
  | nil => cases mem
  | cons first cs ih =>
      rw [List.map_cons, List.nodup_cons] at nodup
      rw [List.flatMap_cons, entriesOf_append]
      obtain rfl | mem := List.mem_cons.1 mem
      · have others : k c ∉ (cs.flatMap f).map (·.1) := by
          intro same
          obtain ⟨e, later, eq⟩ := List.mem_map.1 same
          obtain ⟨d, own, mem⟩ := List.mem_flatMap.1 later
          exact nodup.1 (List.mem_map.2 ⟨d, own, (keyed d e mem).symm.trans eq⟩)
        rw [entriesOf_eq_map (keyed c), entriesOf_eq_nil others, List.append_nil]
      · have others : k c ∉ (f first).map (·.1) := by
          intro same
          obtain ⟨e, own, eq⟩ := List.mem_map.1 same
          exact nodup.1 (List.mem_map.2 ⟨c, mem, eq.symm.trans (keyed first e own)⟩)
        rw [entriesOf_eq_nil others, ih nodup.2 mem]
        rfl

/-- Looking a key up finds the first of its entries. -/
theorem lookup_eq_head? : entries.lookup key = (entriesOf key entries).head? := by
  induction entries with
  | nil => rfl
  | cons e entries ih =>
      obtain ⟨k, a⟩ := e
      by_cases same : k = key
      · simp [entriesOf, same]
      · have other : (key == k) = false := by simpa using Ne.symm same
        rw [List.lookup_cons, other, ih]
        simp [entriesOf, same]

/-- In a table made from keys, each key has its value. -/
theorem lookup_map (f : String → α) (keys : List String) :
    (keys.map fun k => (k, f k)).lookup key = if key ∈ keys then some (f key) else none := by
  induction keys with
  | nil => rfl
  | cons k keys ih =>
      by_cases same : key = k
      · simp [same]
      · have other : (key == k) = false := by simpa using same
        rw [List.map_cons, List.lookup_cons, other, ih]
        simp [same]

/-- Changing all values changes what is found. -/
theorem lookup_map_snd {β : Type} (f : α → β) :
    (entries.map fun e => (e.1, f e.2)).lookup key = (entries.lookup key).map f := by
  induction entries with
  | nil => rfl
  | cons e entries ih =>
      obtain ⟨k, a⟩ := e
      rw [List.map_cons, List.lookup_cons, List.lookup_cons, ih]
      cases key == k <;> rfl

end

/-! ## tables of texts -/

/-- Setting a variable puts its text in place of the old one. -/
theorem Table.set_eq_put (key text : String) (table : Table) :
    table.set key text = put (fun _ => text) "" key table := by
  induction table with
  | nil => rfl
  | cons entry rest ih => rw [Table.set, put, ih]

/-- Setting a variable in a block puts the changed block in place of the old one. -/
theorem setIn_eq_put (selector key text : String) (tables : List (String × Table)) :
    setIn selector key text tables = put (Table.set key text) [] selector tables := by
  induction tables with
  | nil => rfl
  | cons entry rest ih => rw [setIn, put, ih]

/-- The last text of every name, with the names in the order in which they appear first. -/
def latest (entries : List (String × String)) : Table :=
  (entries.map (·.1)).eraseDups.map fun name => (name, (entriesOf name entries).getLastD "")

/-- The variables of every selector, with the selectors in the order in which they appear first. -/
def latestIn (entries : List (String × String × String)) : List (String × Table) :=
  (entries.map (·.1)).eraseDups.map fun selector => (selector, latest (entriesOf selector entries))

/-- What a table has is among the entries that it was made of. -/
theorem mem_of_mem_latest {e : String × String} {entries : List (String × String)}
    (h : e ∈ latest entries) : e ∈ entries := by
  obtain ⟨name, named, rfl⟩ := List.mem_map.1 h
  obtain ⟨⟨name, text⟩, mem, rfl⟩ := List.mem_map.1 (List.mem_eraseDups.1 named)
  have nonempty : entriesOf name entries ≠ [] := List.ne_nil_of_mem (mem_entriesOf_iff.2 mem)
  have last := mem_entriesOf_iff.1 (List.getLast_mem nonempty)
  rwa [List.getLastD_eq_getLast?, List.getLast?_eq_some_getLast nonempty]

/-- A table is empty only if nothing was given for it. -/
theorem latest_ne_nil {entries : List (String × String)} (nonempty : entries ≠ []) : latest entries ≠ [] := by
  obtain ⟨e, mem⟩ := List.exists_mem_of_ne_nil entries nonempty
  have name := List.mem_eraseDups.2 (List.mem_map_of_mem (f := (·.1)) mem)
  exact List.ne_nil_of_mem (List.mem_map_of_mem name)

/-- What a sheet has is made of the entries of one selector, of which there is at least one. -/
theorem exists_of_mem_latestIn {b : String × Table} {entries : List (String × String × String)}
    (h : b ∈ latestIn entries) :
    b.1 ∈ entries.map (·.1) ∧ entriesOf b.1 entries ≠ [] ∧ b.2 = latest (entriesOf b.1 entries) := by
  obtain ⟨selector, named, rfl⟩ := List.mem_map.1 h
  have named := List.mem_eraseDups.1 named
  obtain ⟨⟨selector, entry⟩, mem, rfl⟩ := List.mem_map.1 named
  exact ⟨named, List.ne_nil_of_mem (mem_entriesOf_iff.2 mem), rfl⟩

/-- A table has the last text that was given for a name. -/
theorem lookup_latest (name : String) (entries : List (String × String)) :
    (latest entries).lookup name = (entriesOf name entries).getLast? := by
  rw [latest, lookup_map]
  simp only [List.mem_eraseDups]
  split
  · next named =>
    obtain ⟨⟨name, text⟩, mem, rfl⟩ := List.mem_map.1 named
    have nonempty : entriesOf name entries ≠ [] := List.ne_nil_of_mem (mem_entriesOf_iff.2 mem)
    rw [List.getLastD_eq_getLast?, List.getLast?_eq_some_getLast nonempty]
    rfl
  · next absent =>
    rw [entriesOf_eq_nil absent]
    rfl

/-- Setting one variable after the other leaves the last text of each. -/
theorem foldl_set (entries : List (String × String)) :
    entries.foldl (fun table e => Table.set e.1 e.2 table) [] = latest entries := by
  have last (texts : List String) (text : String) :
      texts.foldl (fun _ later => later) text = texts.getLastD text := by
    induction texts generalizing text with
    | nil => rfl
    | cons first texts ih => rw [List.foldl_cons, ih, List.getLastD_cons]
  simp only [Table.set_eq_put]
  refine (foldl_put (fun _ text => text) "" entries).trans ?_
  simp only [collected, latest, last]

/-- In a sheet of blocks that happens selector by selector. -/
theorem foldl_setIn (entries : List (String × String × String)) :
    entries.foldl (fun tables e => setIn e.1 e.2.1 e.2.2 tables) [] = latestIn entries := by
  simp only [setIn_eq_put]
  refine (foldl_put (fun table entry => Table.set entry.1 entry.2 table) [] entries).trans ?_
  simp only [collected, latestIn, foldl_set]

/-! ## the sheet of variables -/

/-- The values that variables are given in CSS, with their themes; a variable whose name has no character
that CSS names have is given none. -/
def declarations (vars : Members) : List (Theme × String × String) :=
  (definitions vars).flatMap fun (name, definition) =>
    if (cssName name.toList).isEmpty then []
    else (valuesOf definition).map fun (theme, text) => (theme, cssName name.toList, declared text)

/-- The values without a theme. -/
def defaultEntries (vars : Members) : List (String × String) :=
  ((declarations vars).filter (·.1.isEmpty)).map (·.2)

/-- The values with a theme, by the selectors of their themes. -/
def themeEntries (vars : Members) : List (String × String × String) :=
  ((declarations vars).filter (!·.1.isEmpty)).map fun (theme, entry) => (themeSelector theme, entry)

/-- The values that are given from outside. -/
def overrideEntries (overrides : Members) : List (String × String) :=
  (overrides.filter fun (name, v) => !((cssName name.toList).isEmpty || v.isNull || !isScalar v)).map
    fun (name, v) => (cssName name.toList, declared (variableValue (.str "string") v))

/-- The values are added to the first block or to one of a theme, so the two groups can be folded apart. -/
theorem foldl_add (sheet : Sheet) (values : List (Theme × String × String)) :
    values.foldl (fun sheet (theme, name, text) =>
        if theme.isEmpty then { sheet with root := sheet.root.set name text }
        else { sheet with themes := setIn (themeSelector theme) name text sheet.themes }) sheet =
      ⟨((values.filter (·.1.isEmpty)).map (·.2)).foldl (fun table e => Table.set e.1 e.2 table) sheet.root,
        ((values.filter (!·.1.isEmpty)).map fun (theme, entry) => (themeSelector theme, entry)).foldl
          (fun tables e => setIn e.1 e.2.1 e.2.2 tables) sheet.themes⟩ := by
  induction values generalizing sheet with
  | nil => rfl
  | cons value values ih =>
      obtain ⟨theme, name, text⟩ := value
      rw [List.foldl_cons, ih]
      cases empty : theme.isEmpty <;> simp [empty]

/-- The sheet has the last of the values without a theme in one block, and those of every selector in
another. -/
theorem ofVariables_eq (vars : Members) :
    Sheet.ofVariables vars = ⟨latest (defaultEntries vars), latestIn (themeEntries vars)⟩ := by
  rw [← foldl_set, ← foldl_setIn]
  refine Eq.trans ?_ (foldl_add ⟨[], []⟩ (declarations vars))
  rw [declarations, List.foldl_flatMap]
  unfold Sheet.ofVariables
  congr 1
  funext sheet (name, definition)
  dsimp only
  split
  · rfl
  · rw [List.foldl_map]
    rfl

/-- The values from outside make a table in the same way. -/
theorem overrideTable_eq (overrides : Members) :
    overrideTable overrides = latest (overrideEntries overrides) := by
  have otherwise (c : Bool) (a b : Table) : (if c then a else b) = if !c then b else a := by
    cases c <;> rfl
  rw [← foldl_set, overrideEntries, List.foldl_map, List.foldl_filter]
  unfold overrideTable
  congr 1
  funext table (name, v)
  exact otherwise ..

end Pagewright.Pen
