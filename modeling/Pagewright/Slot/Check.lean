import Pagewright.Slot.Definition

/-!
# Pagewright.Slot.Check

Checking slot declarations before they are saved.  A declaration is a list of records, each with a
key that no earlier record of the list has, a label and a known type; a selection names its options,
and a list the slots of its items, which are checked in the same way.
-/

namespace Pagewright.Slot

/-- What is wrong with a declaration. -/
inductive Flaw where
  | notAList
  | notAnObject
  | missingKey
  | badKey (key : String)
  | repeatedKey (key : String)
  | missingLabel
  | unknownType (type : String)
  | noOptions
  | noSubSlots
  deriving DecidableEq

/-- The message about a flaw at a place of the declaration. -/
def Flaw.message (path : String) : Flaw → String
  | .notAList => path ++ " 必须是数组"
  | .notAnObject => path ++ " 必须是对象"
  | .missingKey => path ++ ".key 缺失"
  | .badKey key => path ++ ".key 只能包含小写字母、数字和下划线: " ++ key
  | .repeatedKey key => path ++ ".key 重复: \"" ++ key ++ "\""
  | .missingLabel => path ++ ".label 缺失"
  | .unknownType type => path ++ ".type 不被支持: " ++ type
  | .noOptions => path ++ ".options select类型需要非空options数组"
  | .noSubSlots => path ++ ".sub_slots list类型需要非空sub_slots数组"

/-- The characters of keys. -/
def isKeyChar (c : Char) : Bool := ('a' ≤ c && c ≤ 'z') || c.isDigit || c == '_'

/-- Whether a text is a key: small letters, digits and underscores, at least one, and at most a line
feed behind them. -/
def isKey (cs : List Char) : Bool :=
  let body := cs.takeWhile isKeyChar
  let rest := cs.dropWhile isKeyChar
  !body.isEmpty && (rest == [] || rest == ['\n'])

/-- The flaw of a record's key, given the sound keys before it. -/
def keyFlaw? (seen : List String) (key : Value) : Option Flaw :=
  match key with
  | .str s =>
    if s.isEmpty then some .missingKey
    else if !isKey s.toList then some (.badKey s)
    else if seen.contains s then some (.repeatedKey s)
    else none
  | _ => some .missingKey

/-- The sound keys after one more record. -/
def noteKey (seen : List String) (key : Value) : List String :=
  match key, keyFlaw? seen key with
  | .str s, none => s :: seen
  | _, _ => seen

/-- Whether a datum is a text with at least one character. -/
def isNonEmptyText : Value → Bool
  | .str s => !s.isEmpty
  | _ => false

/-- The place of an item in a list. -/
def itemPath (path : String) (index : Nat) : String := path ++ "[" ++ toString index ++ "]"

mutual

/-- The messages about the records of a list from an index on. -/
def checkItems (path : String) (index : Nat) (seen : List String) : List Value → List String
  | [] => []
  | .obj ms :: rest =>
    checkRecord (itemPath path index) seen ms ++
      checkItems path (index + 1) (noteKey seen (Members.get "key" ms)) rest
  | _ :: rest =>
    Flaw.message (itemPath path index) .notAnObject :: checkItems path (index + 1) seen rest
termination_by items => sizeOf items

/-- The messages about a record. -/
def checkRecord (path : String) (seen : List String) (ms : Members) : List String :=
  let type := ms.get "type"
  let about (flaw : Flaw) := flaw.message path
  ((keyFlaw? seen (ms.get "key")).map about).toList ++
    (if isNonEmptyText (ms.get "label") then [] else [about .missingLabel]) ++
    match type.text?.bind Kind.ofName? with
    | none => [about (.unknownType type.display)]
    | some .select =>
      match ms.get "options" with
      | .list (_ :: _) => []
      | _ => [about .noOptions]
    | some .list =>
      match h : ms.get? "sub_slots" with
      | some (.list (item :: items)) =>
        have := Members.sizeOf_lt_of_get? h
        checkItems (path ++ ".sub_slots") 0 [] (item :: items)
      | _ => [about .noSubSlots]
    | some _ => []
termination_by sizeOf ms
decreasing_by
  simp only [Value.list.sizeOf_spec] at this
  omega

end

/-- The messages about a declaration; there is none if it is sound. -/
def check : Value → List String
  | .list items => checkItems "slots" 0 [] items
  | _ => [Flaw.notAList.message "slots"]

end Pagewright.Slot
