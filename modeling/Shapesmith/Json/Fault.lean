import Shapesmith.Json.Basic
import Shapesmith.Text.Quoted

/-!
# What can be wrong with a document

A document is refused either because its text is no JSON or because its value is not of the form
that is asked for. A `Fault` is the cause of either kind with the place where it was met.

* `TextFault` lists the ways in which a text fails to be JSON;
* `Cause` adds the ways in which a value fails to have a form;
* `Fault` is a cause and a `Path`; `Cause.message` and `Path.text` give their wording.
-/

namespace Shapesmith.Json

/-- Why a text is not JSON. -/
inductive TextFault
  | listEnds | objectEnds | stringEnds | valueEnds
  | noColon | noListComma | noObjectComma
  | noWord | noValue
  | badEscape | badNumber | numberTooLarge
  | controlCharacter | keyNotString
  | loneSurrogate | surrogateCut
  | commaAtEnd | moreItems
  | tooDeep
deriving DecidableEq, Repr

/-- The wording of a fault in a text. -/
def TextFault.message : TextFault → String
  | .listEnds => "EOF while parsing a list"
  | .objectEnds => "EOF while parsing an object"
  | .stringEnds => "EOF while parsing a string"
  | .valueEnds => "EOF while parsing a value"
  | .noColon => "expected `:`"
  | .noListComma => "expected `,` or `]`"
  | .noObjectComma => "expected `,` or `\x7d`"
  | .noWord => "expected ident"
  | .noValue => "expected value"
  | .badEscape => "invalid escape"
  | .badNumber => "invalid number"
  | .numberTooLarge => "number out of range"
  | .controlCharacter => "control character (\\u0000-\\u001F) found while parsing a string"
  | .keyNotString => "key must be a string"
  | .loneSurrogate => "lone leading surrogate in hex escape"
  | .surrogateCut => "unexpected end of hex escape"
  | .commaAtEnd => "trailing comma"
  | .moreItems => "trailing characters"
  | .tooDeep => "recursion limit exceeded"

/-- The kind of a value that was met where another was asked for. -/
inductive Found
  | null
  | bool (value : Bool)
  | integer (value : Int)
  | fraction (value : Binary64)
  | string (text : String)
  | list
  | map
deriving DecidableEq, Repr

/-- The kind of a value. -/
def Found.of : Json → Found
  | .null => .null
  | .bool b => .bool b
  | .num (.int n) => .integer n
  | .num (.float x) => .fraction x
  | .str s => .string s
  | .arr _ => .list
  | .obj _ => .map

/-- The wording of a kind of value. -/
def Found.text : Found → String
  | .null => "null"
  | .bool b => "boolean `" ++ (if b then "true" else "false") ++ "`"
  | .integer n => "integer `" ++ toString n ++ "`"
  | .fraction x => "floating point `" ++ x.documentText ++ "`"
  | .string s => "string " ++ Text.quotedForReader s
  | .list => "sequence"
  | .map => "map"

/-- Why a document is refused. -/
inductive Cause
  /-- The text is no JSON. -/
  | malformed (fault : TextFault)
  /-- A value of another kind is asked for. -/
  | wrongType (found : Found) (expected : String)
  /-- The kind is right and the value is not. -/
  | wrongValue (found : Found) (expected : String)
  /-- A list has too few or too many items. -/
  | wrongLength (length : Nat) (expected : String)
  /-- A field is not given. -/
  | missing (field : String)
  /-- A field is given twice. -/
  | duplicate (field : String)
  /-- A word is none of those that are known. -/
  | unknownWord (word : String) (known : List String)
  /-- A text is no shape id. -/
  | badShapeId (text : String)
  /-- A value is no bound of a range. -/
  | badBound
deriving DecidableEq, Repr

/-- The list of words that would have been right. -/
def knownWords : List String → String
  | [] => "there are no variants"
  | [a] => "expected `" ++ a ++ "`"
  | [a, b] => "expected `" ++ a ++ "` or `" ++ b ++ "`"
  | words => "expected one of " ++ String.intercalate ", " (words.map fun w => "`" ++ w ++ "`")

/-- The wording of a cause. -/
def Cause.message : Cause → String
  | .malformed fault => fault.message
  | .wrongType found expected => "invalid type: " ++ found.text ++ ", expected " ++ expected
  | .wrongValue found expected => "invalid value: " ++ found.text ++ ", expected " ++ expected
  | .wrongLength n expected => "invalid length " ++ toString n ++ ", expected " ++ expected
  | .missing field => "missing field `" ++ field ++ "`"
  | .duplicate field => "duplicate field `" ++ field ++ "`"
  | .unknownWord word known => "unknown variant `" ++ word ++ "`, " ++ knownWords known
  | .badShapeId text => "invalid shape id `" ++ text ++ "`"
  | .badBound => "data did not match any variant of untagged enum RangeBound"

/-- A step from a value to a part of it. -/
inductive Step
  /-- To the member of an object. -/
  | key (name : String)
  /-- To the item of a list. -/
  | index (n : Nat)
  /-- To a member whose key could not be read. -/
  | unread
deriving DecidableEq, Repr

/-- The steps from the whole document to a part. -/
abbrev Path := List Step

/-- The steps after the first: names follow a point. -/
def pathRest : Path → String
  | [] => ""
  | .key name :: rest => "." ++ name ++ pathRest rest
  | .index n :: rest => "[" ++ toString n ++ "]" ++ pathRest rest
  | .unread :: rest => ".?" ++ pathRest rest

/-- The wording of a path: a point for the whole document. -/
def Path.text : Path → String
  | [] => "."
  | .key name :: rest => name ++ pathRest rest
  | .index n :: rest => "[" ++ toString n ++ "]" ++ pathRest rest
  | .unread :: rest => "?" ++ pathRest rest

/-- A cause and the place where it was met. -/
structure Fault where
  /-- The steps to the place. -/
  path : Path
  /-- The cause. -/
  cause : Cause
deriving DecidableEq, Repr

/-- The fault of a part as a fault of the whole. -/
def Fault.under (step : Step) (f : Fault) : Fault := { f with path := step :: f.path }

/-- The wording of a fault with its place. -/
def Fault.located (f : Fault) : String :=
  "at JSON path " ++ Path.text f.path ++ " → " ++ f.cause.message

/-- Puts the faults of a part under a step. -/
def under {α : Type} (step : Step) : Except Fault α → Except Fault α
  | .ok a => .ok a
  | .error f => .error (f.under step)

/-- Refuses with a cause at the place itself. -/
def refuse {α : Type} (cause : Cause) : Except Fault α := .error ⟨[], cause⟩

/-- Refuses a value of another kind. -/
def refuseType {α : Type} (j : Json) (expected : String) : Except Fault α :=
  refuse (.wrongType (.of j) expected)

end Shapesmith.Json
