import Pagewright.Pen.Variable

/-!
# Pagewright.Pen.Document

Design documents.  A document is an object with a list of children and possibly variables; of the
values of a variable with themes exactly one has no theme.  `Document.check` reports what is wrong with
a datum, and `Document.ofValue` takes those as documents with which nothing is wrong.
-/

namespace Pagewright.Pen

/-- A design document. -/
structure Document where
  children : List Value
  vars : Members

namespace Document

/-- What is wrong with a datum that should be a document. -/
inductive Flaw where
  | notAnObject
  | noChildren
  | badVariables
  | badVariable (name : String)
  | noDefault (name : String)
  | manyDefaults (name : String) (count : Nat)
  deriving DecidableEq

/-- The message about a flaw. -/
def Flaw.message : Flaw → String
  | .notAnObject => "document 必须是对象"
  | .noChildren => "document.children 必须是数组"
  | .badVariables => "document.variables 必须是对象"
  | .badVariable name => "variables." ++ name ++ " 必须是对象"
  | .noDefault name => "variables." ++ name ++ " 缺少默认(light)取值"
  | .manyDefaults name count =>
    "variables." ++ name ++ " 存在 " ++ toString count ++ " 个默认取值，只允许一个"

/-- The flaw of a variable, if it has one. -/
def variableFlaw? (name : String) (definition : Value) : Option Flaw :=
  match definition with
  | .obj ms =>
    match themed? (Members.get "value" ms) with
    | some entries =>
      match entries.countP fun e => (themeOf e).isEmpty with
      | 0 => some (.noDefault name)
      | 1 => none
      | n => some (.manyDefaults name n)
    | none => none
  | _ => some (.badVariable name)

/-- The flaws of the variables of a document. -/
def checkVariables : Value → List Flaw
  | .null => []
  | .obj vars => vars.filterMap fun (name, v) => variableFlaw? name v
  | _ => [.badVariables]

/-- The flaws of a datum as a document. -/
def check : Value → List Flaw
  | .obj ms =>
    let children := Members.get "children" ms
    (if children.items?.isSome then [] else [.noChildren]) ++
      checkVariables (Members.get "variables" ms)
  | _ => [.notAnObject]

/-- The document of a datum without flaws. -/
def ofValue (v : Value) : Except (List Flaw) Document :=
  match check v with
  | [] =>
    let ms := v.members?.getD []
    .ok ⟨(ms.get "children").items?.getD [], (ms.get "variables").members?.getD []⟩
  | flaws => .error flaws

end Document

end Pagewright.Pen
