import Pagewright.Text.Digit
import Pagewright.Text.Letter
import Pagewright.Text.Split

/-!
# Pagewright.CommandLine.Arguments

The arguments of the command line: a document, and options before or behind it.  An option may be cut
short as long as one option alone begins like it; options of one letter may be written together, and a
value may follow its option directly.  Behind two hyphens nothing is an option, and two hyphens are never
a value: an option to which they are attached is there, but without its value.
-/

namespace Pagewright.CommandLine

open Text

/-! ## Options -/

/-- The options. -/
inductive Switch where
  | help
  | outDir
  | override
  | listing
  | verbose
  deriving DecidableEq, Repr

/-- Whether an option has a value. -/
def Switch.hasValue : Switch → Bool
  | .outDir => true
  | .override => true
  | _ => false

/-- The names of the options. -/
def switchNames : List (List Char × Switch) :=
  [ ("-h".toList, .help), ("--help".toList, .help), ("-o".toList, .outDir),
    ("--out-dir".toList, .outDir), ("--override".toList, .override),
    ("--variables".toList, .listing), ("-v".toList, .verbose), ("--verbose".toList, .verbose) ]

/-- The option of a name. -/
def switch? (name : List Char) : Option Switch := switchNames.lookup name

/-- How the name of an option is written: as one letter, or as a word. -/
inductive Spelling where
  | letter
  | word
  deriving DecidableEq

/-- The spelling of a name: words begin with two hyphens. -/
def Spelling.ofName : List Char → Spelling
  | '-' :: '-' :: _ => .word
  | _ => .letter

/-- An argument by itself.  An option may have a text attached to it. -/
inductive Word where
  | plain (text : List Char)
  | separator
  | switch (switch : Switch) (spelling : Spelling) (attached : Option (List Char))
  | unknown
  deriving DecidableEq

/-- Why arguments are refused. -/
inductive Refusal where
  | ambiguous (argument : String)
  | needlessValue
  | missingValue
  | missingDocument
  | leftOver
  deriving DecidableEq

/-- The message about a refusal. -/
def Refusal.message : Refusal → String
  | .ambiguous argument => "ambiguous option: " ++ argument
  | .needlessValue => "an option has a value but takes none"
  | .missingValue => "an option lacks its value"
  | .missingDocument => "the document is missing"
  | .leftOver => "unrecognized arguments"

/-! ## Single arguments -/

/-- Whether an argument is a negative number, with at most a line feed behind it. -/
def isNegativeNumber : List Char → Bool
  | '-' :: cs =>
    let whole := cs.takeWhile isDecimal
    let atEnd (rest : List Char) := rest == [] || rest == ['\n']
    match cs.dropWhile isDecimal with
    | '.' :: more =>
      !(more.takeWhile isDecimal).isEmpty && atEnd (more.dropWhile isDecimal)
    | rest => !whole.isEmpty && atEnd rest
  | _ => false

/-- The options that an argument with two hyphens may mean: all that begin with its name. -/
def longMatches (argument : List Char) : List Word :=
  let (name, attached) := match cut? '=' argument with
    | some (name, text) => (name, some text)
    | none => (argument, none)
  (switchNames.filter fun (full, _) => startsWith full name).map fun (_, s) =>
    .switch s .word attached

/-- The options that an argument with one hyphen may mean: the one of its first letter. -/
def shortMatches (argument : List Char) : List Word :=
  match switch? (argument.take 2) with
  | some s => [.switch s .letter (some (argument.drop 2))]
  | none => []

/-- The options that an argument may mean if it is not the name of one. -/
def candidates (argument : List Char) : List Word :=
  match argument with
  | '-' :: '-' :: _ => longMatches argument
  | _ => shortMatches argument

/-- An option with a text behind an equals sign, if the name in front is that of an option. -/
def assigned? (argument : List Char) : Option Word := do
  let (name, text) ← cut? '=' argument
  return .switch (← switch? name) (.ofName name) (some text)

/-- An argument before the separator. -/
def wordOf (argument : List Char) : Except Refusal Word :=
  match argument with
  | '-' :: _ :: _ =>
    match switch? argument with
    | some s => .ok (.switch s (.ofName argument) none)
    | none =>
      match assigned? argument, candidates argument with
      | some word, _ => .ok word
      | none, [word] => .ok word
      | none, [] =>
        if isNegativeNumber argument || argument.contains ' ' then .ok (.plain argument)
        else .ok .unknown
      | none, _ => .error (.ambiguous (String.ofList argument))
  | _ => .ok (.plain argument)

/-- The arguments one by one; behind the separator all are plain. -/
def words : List String → Except Refusal (List Word)
  | [] => .ok []
  | argument :: rest =>
    if argument = "--" then .ok (.separator :: rest.map fun s => .plain s.toList)
    else do
      let word ← wordOf argument.toList
      return word :: (← words rest)

/-! ## All arguments together -/

/-- What the arguments say so far.  An override without its value is none. -/
structure Arguments where
  document : Option String := none
  outDir : Option String := none
  overrides : List (Option String) := []
  listsVariables : Bool := false
  asksHelp : Bool := false
  hasLeftOver : Bool := false
  deriving DecidableEq

/-- What is asked for. -/
inductive Request where
  | help
  | run (document : String) (arguments : Arguments)
  deriving DecidableEq

/-- The arguments with an option without value. -/
def Arguments.raise (a : Arguments) : Switch → Arguments
  | .help => { a with asksHelp := true }
  | .listing => { a with listsVariables := true }
  | _ => a

/-- The value of a text behind an option: two hyphens are none. -/
def value? (text : List Char) : Option String :=
  if text = ['-', '-'] then none else some (String.ofList text)

/-- The arguments with an option and the text behind it. -/
def Arguments.put (a : Arguments) (text : List Char) : Switch → Arguments
  | .outDir => { a with outDir := value? text }
  | .override => { a with overrides := a.overrides ++ [value? text] }
  | _ => a

/-- The arguments after an option, which may take its value from the next argument. -/
inductive Progress where
  | done (arguments : Arguments)
  | pending (arguments : Arguments) (switch : Switch)

/-- The arguments after an option with nothing attached to it. -/
def readBare (a : Arguments) (switch : Switch) : Progress :=
  if switch.hasValue then .pending a switch else .done (a.raise switch)

/-- The arguments after an option and the letters attached to it: its value, or more options. -/
def readLetters (a : Arguments) (switch : Switch) : List Char → Except Refusal Progress
  | [] => if switch.hasValue then .ok (.done (a.put [] switch)) else .error .needlessValue
  | c :: cs =>
    if switch.hasValue then .ok (.done (a.put (c :: cs) switch))
    else match switch? ['-', c] with
      | none => .error .needlessValue
      | some next =>
        if cs.isEmpty then .ok (readBare (a.raise switch) next)
        else readLetters (a.raise switch) next cs

/-- The arguments after an option.  Only an option of one letter can have more options attached to it. -/
def readSwitch (a : Arguments) (switch : Switch) (spelling : Spelling) :
    Option (List Char) → Except Refusal Progress
  | none => .ok (readBare a switch)
  | some text =>
    if spelling = .letter then readLetters a switch text
    else if switch.hasValue then .ok (.done (a.put text switch))
    else .error .needlessValue

/-- What the arguments ask for after more words.  A separator belongs to the document that it stands
beside.  Help is given as soon as it is asked for. -/
def readWords (a : Arguments) : List Word → Except Refusal Request
  | [] =>
    match a.document with
    | none => .error .missingDocument
    | some document => if a.hasLeftOver then .error .leftOver else .ok (.run document a)
  | .plain text :: rest =>
    match a.document, rest with
    | none, .separator :: rest => readWords { a with document := some (String.ofList text) } rest
    | none, rest => readWords { a with document := some (String.ofList text) } rest
    | some _, rest => readWords { a with hasLeftOver := true } rest
  | .separator :: .plain text :: rest =>
    match a.document with
    | none => readWords { a with document := some (String.ofList text) } rest
    | some _ => readWords { a with hasLeftOver := true } rest
  | .separator :: rest => readWords { a with hasLeftOver := true } rest
  | .unknown :: rest => readWords { a with hasLeftOver := true } rest
  | .switch switch spelling attached :: rest =>
    match readSwitch a switch spelling attached, rest with
    | .error refusal, _ => .error refusal
    | .ok (.done a), rest => if a.asksHelp then .ok .help else readWords a rest
    | .ok (.pending a switch), .plain text :: rest =>
      if a.asksHelp then .ok .help else readWords (a.put text switch) rest
    | .ok (.pending _ _), _ => .error .missingValue

/-- What arguments ask for. -/
def Request.ofArguments (arguments : List String) : Except Refusal Request := do
  readWords {} (← words arguments)

end Pagewright.CommandLine
