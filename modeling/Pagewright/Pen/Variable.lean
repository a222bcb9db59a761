import Pagewright.Pen.Content

/-!
# Pagewright.Pen.Variable

The variables of a document.  A variable has one value, or a list of values for themes, of which the one
without a theme is its default.  In CSS the defaults stand in one block, the values of every theme in a
block of their own, and values from outside in a last block, so that they win over all themes.
-/

namespace Pagewright.Pen

/-! ## Themes -/

/-- The records of a value that is given by themes: a list of at least one record, and of nothing else. -/
def themed? : Value → Option (List Members)
  | .list [] => none
  | .list vs => vs.mapM Value.members?
  | _ => none

/-- Whether a value is empty: null or the empty text. -/
def isEmptyValue : Value → Bool
  | .null => true
  | .str s => s.isEmpty
  | _ => false

/-- A theme: the axes that it sets, and what it sets them to.  The default has none. -/
abbrev Theme := List (String × String)

/-- The theme of a record. -/
def themeOf (entry : Members) : Theme :=
  match entry.get "theme" with
  | .obj axes => (axes.filter (!isEmptyValue ·.2)).map fun (axis, v) => (axis, v.display)
  | _ => []

/-- A text with the characters of variable names. -/
def nameText (s : String) : String := String.ofList (s.toList.filter isNameChar)

/-- The selector of a theme. -/
def themeSelector (theme : Theme) : String :=
  String.join (theme.map fun (axis, value) =>
    "[data-theme-" ++ nameText axis ++ "=\"" ++ nameText value ++ "\"]")

/-! ## Values -/

/-- The words for false in a truth value. -/
def falseWords : List String := ["", "0", "false", "no", "off"]

/-- A value as text: truth values as digits, numbers without needless zeros. -/
def variableValue (type v : Value) : String :=
  let digit (b : Bool) := if b then "1" else "0"
  match v with
  | .bool b => digit b
  | .str s => if type.isText "boolean" then digit (!falseWords.contains (lowercase (trimmed s))) else s
  | v =>
    if type.isText "boolean" then digit v.isTruthy
    else match v with
      | .int i => (Binary64.ofInt? i).elim "0" numberText
      | .float x => numberText x
      | .null => ""
      | v => v.display

/-- The type of a definition. -/
def typeOf (definition : Members) : Value := (definition.get? "type").getD (.str "string")

/-- Whether a value is neither a list nor an object. -/
def isScalar : Value → Bool
  | .list _ => false
  | .obj _ => false
  | _ => true

/-- The values of a definition, with their themes. -/
def valuesOf (definition : Members) : List (Theme × String) :=
  let v := definition.get "value"
  match themed? v with
  | some entries =>
    entries.map fun e =>
      (themeOf e, variableValue (typeOf definition) ((e.get? "value").getD (.str "")))
  | none => if v.isNull || !isScalar v then [] else [([], variableValue (typeOf definition) v)]

/-- The variables of a document with the definitions that are records. -/
def definitions (vars : Members) : List (String × Members) :=
  vars.filterMap fun (name, v) => v.members?.map (name, ·)

/-- The defaults of variables, as texts show them. -/
def variableDefaults (vars : Members) : Defaults :=
  (definitions vars).filterMap fun (name, definition) =>
    ((valuesOf definition).find? (·.1.isEmpty)).map fun (_, text) => (name, text)

/-! ## CSS -/

/-- Texts by key, in the order in which the keys were first set. -/
abbrev Table := List (String × String)

/-- Sets the text of a key: in its place if it has one, else at the end. -/
def Table.set (key text : String) : Table → Table
  | [] => [(key, text)]
  | (k, t) :: rest => if k = key then (k, text) :: rest else (k, t) :: Table.set key text rest

/-- A value as it may stand in a declaration. -/
def declared (text : String) : String := trimmed (safeText (.str text))

/-- The variables of a document in CSS: the defaults, and the values of every theme. -/
structure Sheet where
  root : Table
  themes : List (String × Table)

/-- Sets a variable in the block of a selector, which is put at the end if it is not there. -/
def setIn (selector key text : String) : List (String × Table) → List (String × Table)
  | [] => [(selector, [(key, text)])]
  | (s, table) :: rest =>
    if s = selector then (s, table.set key text) :: rest else (s, table) :: setIn selector key text rest

/-- The sheet with one more value of a variable. -/
def Sheet.add (sheet : Sheet) (key : String) (theme : Theme) (text : String) : Sheet :=
  if theme.isEmpty then { sheet with root := sheet.root.set key (declared text) }
  else { sheet with themes := setIn (themeSelector theme) key (declared text) sheet.themes }

/-- The sheet of variables.  A variable whose name has no character that CSS names have is left out. -/
def Sheet.ofVariables (vars : Members) : Sheet :=
  (definitions vars).foldl
    (fun sheet (name, definition) =>
      let key := cssName name.toList
      if key.isEmpty then sheet
      else (valuesOf definition).foldl (fun sheet (theme, text) => sheet.add key theme text) sheet)
    ⟨[], []⟩

/-- The values from outside. -/
def overrideTable (overrides : Members) : Table :=
  overrides.foldl
    (fun table (name, v) =>
      let key := cssName name.toList
      if key.isEmpty || v.isNull || !isScalar v then table
      else table.set key (declared (variableValue (.str "string") v)))
    []

/-- A block of variables. -/
def block (selector : String) (table : Table) : String :=
  selector ++ "\x7b" ++ String.intercalate ";" (table.map fun (key, text) => "--" ++ key ++ ":" ++ text) ++
    "\x7d"

/-- A block of variables, if there are any. -/
def blocks (selector : String) (table : Table) : List String :=
  if table.isEmpty then [] else [block selector table]

/-- The CSS of variables, with values from outside. -/
def variableCss (vars overrides : Members) : String :=
  let sheet := Sheet.ofVariables vars
  String.intercalate "\n"
    (blocks ":root" sheet.root ++ (sheet.themes.map fun (selector, table) => block selector table) ++
      blocks ":root" (overrideTable overrides))

/-! ## A table for people -/

/-- The name of a theme: its axes with their values. -/
def themeName (theme : Theme) : String :=
  if theme.isEmpty then "default"
  else String.intercalate "/" (theme.map fun (axis, value) => axis ++ ":" ++ value)

/-- A variable as it is shown: its type, whether it has themes, and its values by theme. -/
def describe (definition : Members) : Value :=
  let v := definition.get "value"
  let type := typeOf definition
  match themed? v with
  | some entries =>
    .obj
      [ ("type", type), ("themed", .bool (entries.any fun e => !(themeOf e).isEmpty)),
        ("values", .obj (Members.ofList (entries.map fun e =>
          (themeName (themeOf e), (e.get? "value").getD (.str ""))))) ]
  | none => .obj [("type", type), ("themed", .bool false), ("values", .obj [("default", v)])]

/-- The variables of a document as they are shown; what is no document has none. -/
def variableTable (document : Value) : Members :=
  match (document.members?.getD []).get "variables" with
  | .obj vars => (definitions vars).map fun (name, d) => (name, describe d)
  | _ => []

end Pagewright.Pen
