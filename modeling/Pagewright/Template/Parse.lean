import Pagewright.Template.Scan

/-!
# Pagewright.Template.Parse

From pieces to nodes.  The parser keeps the blocks that are still open on a stack, the innermost
first.  `parseStrict` refuses a closing tag that does not belong to the innermost open block and a
block that is never closed.  `parse` takes such a closing tag for text, and the outermost block that
is never closed for text from its opening tag to the end.
-/

namespace Pagewright.Template

/-- Why a template is refused, and at which character. -/
inductive SyntaxError where
  /-- A closing tag that does not close the innermost open block. -/
  | unmatchedClose (key : List Char) (offset : Nat)
  /-- A block that is never closed. -/
  | unclosed (key : List Char) (offset : Nat)
  deriving DecidableEq

namespace SyntaxError

/-- Where the offending tag begins. -/
def offset : SyntaxError → Nat
  | .unmatchedClose _ n => n
  | .unclosed _ n => n

/-- The message shown to the author of the template. -/
def message : SyntaxError → String
  | .unmatchedClose key _ =>
    "闭合标签 \x7b\x7b/" ++ String.ofList key ++ "\x7d\x7d 没有匹配的开标签"
  | .unclosed key _ => "区块 \x7b\x7b#" ++ String.ofList key ++ "\x7d\x7d 未闭合"

end SyntaxError

/-- A block that is still open: its tag, where that begins, and the nodes in front of it at the same
level, last first. -/
structure OpenBlock where
  key : List Char
  inverted : Bool
  offset : Nat
  before : List Node

/-- The state of the parser: how many characters have been read, the nodes of the innermost open
block, last first, and the open blocks, innermost first. -/
structure State where
  offset : Nat
  nodes : List Node
  stack : List OpenBlock

namespace State

/-- The state at the start of a template. -/
def start : State := ⟨0, [], []⟩

/-- Adds a node that was written with some number of characters. -/
def add (st : State) (node : Node) (width : Nat) : State :=
  ⟨st.offset + width, node :: st.nodes, st.stack⟩

/-- Takes one more piece. -/
def push (st : State) (piece : Piece) : Except SyntaxError State :=
  let width := piece.source.length
  match piece with
  | .text s => .ok (st.add (.text s) width)
  | .tag (.insert key raw) _ => .ok (st.add (.insert key raw) width)
  | .tag (.openBlock key inverted) _ =>
    .ok ⟨st.offset + width, [], ⟨key, inverted, st.offset, st.nodes⟩ :: st.stack⟩
  | .tag (.closeBlock key) _ =>
    match st.stack with
    | b :: stack =>
      if b.key = key then
        .ok ⟨st.offset + width, .block b.key b.inverted st.nodes.reverse :: b.before, stack⟩
      else .error (.unmatchedClose key st.offset)
    | [] => .error (.unmatchedClose key st.offset)

/-- Takes one more piece; one that is refused is text. -/
def pushLenient (st : State) (piece : Piece) : State :=
  match st.push piece with
  | .ok st => st
  | .error _ => st.add (.text piece.source) piece.source.length

/-- The outermost open block. -/
def outermost? (st : State) : Option OpenBlock := st.stack.getLast?

end State

/-- The nodes of a template, in which every block must be closed by a tag of its own. -/
def parseStrict (template : List Char) : Except SyntaxError (List Node) := do
  let st ← (scan template).foldlM State.push .start
  match st.outermost? with
  | some b => .error (.unclosed b.key b.offset)
  | none => return st.nodes.reverse

/-- The nodes of a template, whatever it contains. -/
def parse (template : List Char) : List Node :=
  let st := (scan template).foldl State.pushLenient .start
  match st.outermost? with
  | some b => b.before.reverse ++ [.text (template.drop b.offset)]
  | none => st.nodes.reverse

/-- The messages about a template; there is none if it is well formed. -/
def check (template : List Char) : List String :=
  match parseStrict template with
  | .ok _ => []
  | .error e => [e.message]

end Pagewright.Template
