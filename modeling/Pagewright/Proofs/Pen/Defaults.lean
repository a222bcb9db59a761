import Mathlib.Data.List.Nodup
import Pagewright.Proofs.Pen.VariableCss

/-!
# Pagewright.Proofs.Pen.Defaults

The default of a variable.  Texts are shown with the first value without a theme, and the CSS declares the
last one; in a document there is at most one, so the two agree, if no other variable has the same name in
CSS.
-/

namespace Pagewright.Pen

/-! ## the first block of a sheet -/

theorem lookup_written (name : String) (table : Table) :
    table.written.lookup ("--" ++ name) = table.lookup name := by
  induction table with
  | nil => rfl
  | cons e table ih =>
      obtain ⟨k, text⟩ := e
      have hyphens : ("--" ++ name == "--" ++ k) = (name == k) := by
        rw [Bool.eq_iff_iff, beq_iff_eq, beq_iff_eq, String.append_right_inj]
      have first : Table.written ((k, text) :: table) = ("--" ++ k, text) :: Table.written table := rfl
      rw [first, List.lookup_cons, List.lookup_cons, hyphens, ih]

/-- The text that the first block for the whole document declares for a variable. -/
def rootText? (css name : String) : Option String := do
  let maps ← readSheet css
  let table ← maps.lookup ":root"
  table.lookup name

/-- A theme has an attribute in its selector, so it is never taken for the whole document. -/
theorem themeSelector_ne_root (theme : Theme) (nonempty : theme ≠ []) : themeSelector theme ≠ ":root" := by
  obtain ⟨⟨axis, value⟩, theme, rfl⟩ := List.exists_cons_of_ne_nil nonempty
  intro eq
  have chars := congrArg (fun s => s.toList.head?) eq
  simp [themeSelector] at chars

/-- The blocks of themes are not for the whole document. -/
theorem lookup_themeMaps (vars : Members) : (latestIn (themeEntries vars)).lookup ":root" = none := by
  rw [latestIn, lookup_map, if_neg]
  intro mem
  obtain ⟨entry, own, eq⟩ := List.mem_map.1 (List.mem_eraseDups.1 mem)
  obtain ⟨d, themed, rfl⟩ := List.mem_map.1 own
  exact themeSelector_ne_root d.1 (by simpa using (List.mem_filter.1 themed).2) eq

/-- The first block for the whole document declares the last of the values without a theme. -/
theorem rootText?_variableCss (vars : Members) (name : String) :
    rootText? (variableCss vars []) ("--" ++ name) = (entriesOf name (defaultEntries vars)).getLast? := by
  have table : ((sheetMaps vars []).lookup ":root").getD [] = latest (defaultEntries vars) := by
    have none : rootMap (overrideEntries []) = [] := rfl
    rw [sheetMaps, none, List.append_nil, List.lookup_append, lookup_themeMaps, Option.or_none, rootMap]
    split
    · next empty =>
      rw [List.isEmpty_iff.1 empty]
      rfl
    · simp
  rw [← lookup_latest, ← table, rootText?, readSheet_variableCss]
  simp only [Option.bind_eq_bind, Option.bind_some, lookup_map_snd]
  cases (sheetMaps vars []).lookup ":root" with
  | none => rfl
  | some table => exact lookup_written name table

/-! ## the values of one variable -/

/-- The texts of a definition without a theme. -/
def defaultTexts (definition : Members) : List String :=
  ((valuesOf definition).filter (·.1.isEmpty)).map (·.2)

section

variable {vars : Members} {name : String} {definition : Members}

/-- The values without a theme are collected variable by variable. -/
theorem defaultEntries_eq_flatMap (vars : Members) :
    defaultEntries vars = vars.flatMap fun m => defaultEntries [m] := by
  induction vars with
  | nil => rfl
  | cons m vars ih =>
      have split : definitions (m :: vars) = definitions [m] ++ definitions vars :=
        List.filterMap_append (l := [m])
      rw [List.flatMap_cons, ← ih]
      simp only [defaultEntries, declarations, split, List.flatMap_append, List.filter_append,
        List.map_append]

/-- So are the defaults for texts. -/
theorem variableDefaults_eq_flatMap (vars : Members) :
    variableDefaults vars = vars.flatMap fun m => variableDefaults [m] := by
  induction vars with
  | nil => rfl
  | cons m vars ih =>
      have split : definitions (m :: vars) = definitions [m] ++ definitions vars :=
        List.filterMap_append (l := [m])
      rw [List.flatMap_cons, ← ih]
      simp only [variableDefaults, split, List.filterMap_append]

/-- One variable has its values under its name in CSS. -/
theorem defaultEntries_singleton (named : cssName name.toList ≠ "") :
    defaultEntries [(name, .obj definition)] =
      (defaultTexts definition).map fun text => (cssName name.toList, declared text) := by
  have one : definitions [(name, .obj definition)] = [(name, definition)] := rfl
  rw [defaultEntries, declarations, one, List.flatMap_singleton]
  dsimp only
  rw [if_neg (by simpa using named), List.filter_map, List.map_map, defaultTexts, List.map_map]
  rfl

/-- For texts it has the first of them, under its name in the document. -/
theorem variableDefaults_singleton :
    variableDefaults [(name, .obj definition)] = ((defaultTexts definition).head?.map (name, ·)).toList := by
  have one : definitions [(name, .obj definition)] = [(name, definition)] := rfl
  rw [variableDefaults, one, defaultTexts, List.head?_map, List.head?_filter]
  cases first : (valuesOf definition).find? (·.1.isEmpty) <;> simp [first]

theorem key_of_mem_defaultEntries (m : String × Value) (e : String × String) (h : e ∈ defaultEntries [m]) :
    e.1 = cssName m.1.toList := by
  obtain ⟨name, v⟩ := m
  cases v with
  | obj definition =>
      by_cases named : cssName name.toList = ""
      · have one : definitions [(name, .obj definition)] = [(name, definition)] := rfl
        simp [defaultEntries, declarations, one, named] at h
      · rw [defaultEntries_singleton named] at h
        obtain ⟨text, -, rfl⟩ := List.mem_map.1 h
        rfl
  | _ => cases h

theorem key_of_mem_variableDefaults (m : String × Value) (e : String × String)
    (h : e ∈ variableDefaults [m]) : e.1 = m.1 := by
  obtain ⟨name, v⟩ := m
  cases v with
  | obj definition =>
      rw [variableDefaults_singleton] at h
      cases first : (defaultTexts definition).head? with
      | none => simp [first] at h
      | some text =>
        rw [first] at h
        exact List.mem_singleton.1 h ▸ rfl
  | _ => cases h

end

/-! ## variables of documents -/

/-- A variable of a document has no flaw. -/
theorem variableFlaw?_of_ofValue {v : Value} {d : Document} (h : Document.ofValue v = .ok d) :
    ∀ m ∈ d.vars, Document.variableFlaw? m.1 m.2 = none := by
  have flawless : Document.check v = [] := by
    unfold Document.ofValue at h
    split at h
    · next none => exact none
    · cases h
  rw [Document.ofValue, flawless] at h
  cases h
  cases v with
  | obj ms =>
      have vars := (List.append_eq_nil_iff.1 flawless).2
      unfold Document.checkVariables at vars
      split at vars
      · next null => simp [Value.members?, null]
      · next own object =>
        rw [List.filterMap_eq_nil_iff] at vars
        simpa [Value.members?, object] using fun name value mem => vars (name, value) mem
      · cases vars
  | _ => cases flawless

section

variable {name : String} {definition : Members}

/-- Of the values of a variable of a document with themes exactly one is without a theme. -/
theorem exists_default {entries : List Members} (themed : themed? (definition.get "value") = some entries)
    (h : Document.variableFlaw? name (.obj definition) = none) :
    ∃ before e behind, entries = before ++ e :: behind ∧ themeOf e = [] ∧
      (∀ other ∈ before ++ behind, themeOf other ≠ []) ∧
      defaultTexts definition =
        [variableValue (typeOf definition) ((e.get? "value").getD (.str ""))] := by
  have one : (entries.filter fun e => (themeOf e).isEmpty).length = 1 := by
    rw [← List.countP_eq_length_filter]
    simp only [Document.variableFlaw?, themed] at h
    split at h
    · cases h
    · next one => exact one
    · cases h
  obtain ⟨e, only⟩ := List.length_eq_one_iff.1 one
  obtain ⟨before, behind, eq, first, own, rest⟩ := List.filter_eq_cons_iff.1 only
  refine ⟨before, e, behind, eq, by simpa using own, fun other mem => ?_, ?_⟩
  · obtain mem | mem := List.mem_append.1 mem
    · simpa using first other mem
    · simpa using List.filter_eq_nil_iff.1 rest other mem
  · rw [defaultTexts, valuesOf, themed]
    simp only [List.filter_map, List.map_map]
    exact congrArg (List.map _) only

/-- A variable of a document has at most one value without a theme. -/
theorem length_defaultTexts_le (h : Document.variableFlaw? name (.obj definition) = none) :
    (defaultTexts definition).length ≤ 1 := by
  cases themed : themed? (definition.get "value") with
  | some entries =>
      obtain ⟨_, _, _, -, -, -, only⟩ := exists_default themed h
      rw [only]
      simp
  | none =>
      rw [defaultTexts, valuesOf, themed]
      dsimp only
      split <;> simp

/-- If no two variables have one name in CSS, the texts under a name are those of the variable alone. -/
theorem entriesOf_variableDefaults {vars : Members} (apart : (vars.map fun m => cssName m.1.toList).Nodup)
    {m : String × Value} (mem : m ∈ vars) :
    entriesOf m.1 (variableDefaults vars) = (variableDefaults [m]).map (·.2) := by
  have names : (vars.map (·.1)).Nodup := by
    refine List.Nodup.of_map (fun name => cssName name.toList) ?_
    rwa [List.map_map]
  rw [variableDefaults_eq_flatMap]
  exact entriesOf_flatMap key_of_mem_variableDefaults names mem

/-- Under the name of a variable in CSS the first block of a sheet has its default as texts show it, made
safe. -/
theorem rootText?_of_mem {vars : Members} (flawless : ∀ m ∈ vars, Document.variableFlaw? m.1 m.2 = none)
    (apart : (vars.map fun m => cssName m.1.toList).Nodup) {m : String × Value} (mem : m ∈ vars)
    (named : cssName m.1.toList ≠ "") :
    rootText? (variableCss vars []) ("--" ++ cssName m.1.toList) =
      ((variableDefaults vars).lookup m.1).map declared := by
  have styled := entriesOf_flatMap (k := fun m => cssName m.1.toList) key_of_mem_defaultEntries apart mem
  rw [rootText?_variableCss, lookup_eq_head?, entriesOf_variableDefaults apart mem, defaultEntries_eq_flatMap,
    styled]
  obtain ⟨name, v⟩ := m
  cases v with
  | obj definition =>
      have short := length_defaultTexts_le (flawless _ mem)
      rw [defaultEntries_singleton named, variableDefaults_singleton]
      -- the first of at most one text is the last
      match defaultTexts definition, short with
      | [], _ => rfl
      | [_], _ => rfl
  | _ => rfl

/-- In a document whose variables have different names in CSS, what the first block for the whole document
declares for a variable is its default as texts show it, made safe, and it declares the variable exactly if
there is such a default.  A variable with themes has exactly one: that of its only value without a theme,
wherever this stands. -/
theorem rootText?_eq_default (v : Value) (d : Document) (opened : Document.ofValue v = .ok d)
    (apart : (d.vars.map fun m => cssName m.1.toList).Nodup) :
    (∀ m ∈ d.vars, cssName m.1.toList ≠ "" →
      rootText? (variableCss d.vars []) ("--" ++ cssName m.1.toList) =
        ((variableDefaults d.vars).lookup m.1).map declared) ∧
    ∀ name definition entries, (name, .obj definition) ∈ d.vars →
      themed? (Members.get "value" definition) = some entries →
        ∃ before e behind text, entries = before ++ e :: behind ∧ themeOf e = [] ∧
          (∀ other ∈ before ++ behind, themeOf other ≠ []) ∧
          text = variableValue (typeOf definition) ((e.get? "value").getD (.str "")) ∧
          entriesOf name (variableDefaults d.vars) = [text] ∧
          (cssName name.toList ≠ "" →
            rootText? (variableCss d.vars []) ("--" ++ cssName name.toList) = some (declared text)) := by
  have flawless := variableFlaw?_of_ofValue opened
  refine ⟨fun m mem named => rootText?_of_mem flawless apart mem named, fun name definition entries mem themed => ?_⟩
  obtain ⟨before, e, behind, eq, own, others, only⟩ := exists_default themed (flawless _ mem)
  have texts : entriesOf name (variableDefaults d.vars) =
      [variableValue (typeOf definition) ((e.get? "value").getD (.str ""))] := by
    rw [entriesOf_variableDefaults apart mem, variableDefaults_singleton, only]
    rfl
  refine ⟨before, e, behind, _, eq, own, others, rfl, texts, fun named => ?_⟩
  rw [rootText?_of_mem flawless apart mem named, lookup_eq_head?, texts]
  rfl

/-- The values of a colour, with a theme in front of the default. -/
def inkValues : List Members :=
  [ [("theme", .obj [("mode", .str "dark")]), ("value", .str "#fff")],
    [("value", .str "#000")] ]

/-- The colour, and a text with a character that is left out in CSS. -/
def inkVars : Members :=
  [ ("--ink", .obj [("type", .str "color"), ("value", .list (inkValues.map .obj))]),
    ("gap", .obj [("value", .str "4px;")]) ]

/-- A document with the variables. -/
def inkDocument : Value := .obj [("children", .list []), ("variables", .obj inkVars)]

/-- The colour with a theme has its other value as default, and the text loses a character in CSS only. -/
theorem rootText?_eq_default_ink :
    Document.ofValue inkDocument = .ok ⟨[], inkVars⟩ ∧
      (inkVars.map fun m => cssName m.1.toList).Nodup ∧
      rootText? (variableCss inkVars []) "--gap" = some "4px" ∧
      variableDefaults inkVars = [("--ink", "#000"), ("gap", "4px;")] ∧
      ∃ before e behind, inkValues = before ++ e :: behind ∧ themeOf e = [] ∧
        rootText? (variableCss inkVars []) "--ink" = some "#000" := by
  have apart : (inkVars.map fun m => cssName m.1.toList).Nodup := by decide
  have defaults : variableDefaults inkVars = [("--ink", "#000"), ("gap", "4px;")] := by decide
  have names : "--" ++ cssName "gap".toList = "--gap" ∧ "--" ++ cssName "--ink".toList = "--ink" := by
    decide
  have safe : declared "4px;" = "4px" ∧ declared "#000" = "#000" := by decide
  obtain ⟨agree, themed⟩ := rootText?_eq_default inkDocument ⟨[], inkVars⟩ rfl apart
  have gap := agree ("gap", .obj [("value", .str "4px;")]) (by simp [inkVars]) (by decide)
  obtain ⟨before, e, behind, text, eq, own, -, -, only, ink⟩ :=
    themed "--ink" _ inkValues (List.mem_cons_self ..) rfl
  replace ink := ink (by decide)
  rw [defaults] at gap only
  rw [names.1] at gap
  obtain rfl : "#000" = text := (List.cons.inj only).1
  rw [names.2, safe.2] at ink
  refine ⟨rfl, apart, ?_, defaults, before, e, behind, eq, own, ink⟩
  rw [gap, ← safe.1]
  rfl

end

end Pagewright.Pen
