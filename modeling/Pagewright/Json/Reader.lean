import Pagewright.Json.Token

/-!
# Pagewright.Json.Reader

Reading JSON text.  The reader goes through the tokens once and keeps the containers that are still
open on a stack, so that it is a plain loop over the tokens.  A key that is repeated in an object
keeps its first place and takes its last value.
-/

namespace Pagewright.Json

/-- Why a text is not read. -/
inductive ReadError where
  /-- The text is not one JSON value. -/
  | malformed
  /-- The text holds an integer with more digits than are read. -/
  | tooLong
  /-- The text holds more containers inside each other than are read. -/
  | tooDeep
  deriving DecidableEq

/-- The greatest number of containers inside each other that are read. -/
def depthLimit : Nat := 988

/-- A container that is still open: the items read so far, last first, or the members read so far
and the key whose value is next. -/
inductive Frame where
  | list (items : List Value)
  | object (members : Members) (key : String)

/-- What the reader expects next. -/
inductive State where
  /-- A value, or the end of the list that has just been opened. -/
  | value (closable : Bool) (stack : List Frame)
  /-- A key, or the end of the object that has just been opened. -/
  | key (closable : Bool) (members : Members) (stack : List Frame)
  /-- The colon after a key. -/
  | colon (members : Members) (key : String) (stack : List Frame)
  /-- A comma or the end of the innermost container; with no container, the end of the text. -/
  | done (value : Value) (stack : List Frame)

/-- The state after the start of a container inside the open ones. -/
def State.enter (stack : List Frame) (inside : State) : Except ReadError State :=
  if stack.length < depthLimit then .ok inside else .error .tooDeep

/-- The state after one more token. -/
def State.step : State → Token → Except ReadError State
  | .value _ stack, .openList => State.enter stack (.value true (.list [] :: stack))
  | .value _ stack, .openObject => State.enter stack (.key true [] stack)
  | .value _ stack, .text s => .ok (.done (.str s) stack)
  | .value _ stack, .scalar v => .ok (.done v stack)
  | .value _ _, .tooLong => .error .tooLong
  | .value true (.list [] :: stack), .closeList => .ok (.done (.list []) stack)
  | .key _ ms stack, .text s => .ok (.colon ms s stack)
  | .key true _ stack, .closeObject => .ok (.done (.obj []) stack)
  | .colon ms k stack, .colon => .ok (.value false (.object ms k :: stack))
  | .done v (.list items :: stack), .comma => .ok (.value false (.list (v :: items) :: stack))
  | .done v (.list items :: stack), .closeList => .ok (.done (.list (v :: items).reverse) stack)
  | .done v (.object ms k :: stack), .comma => .ok (.key false (ms.set k v) stack)
  | .done v (.object ms k :: stack), .closeObject => .ok (.done (.obj (ms.set k v)) stack)
  | _, _ => .error .malformed

/-- The value that a text holds. -/
def read (s : String) : Except ReadError Value := do
  match ← (tokens s.toList).foldlM State.step (.value false []) with
  | .done v [] => return v
  | _ => .error .malformed

end Pagewright.Json
