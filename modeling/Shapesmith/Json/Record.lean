import Shapesmith.Json.Fault

/-!
# Values of a given form

Functions from JSON values to texts, flags, numbers, lists, tables and records, with the fault of
the first part that does not have the form.

* `Record` describes a record; `Record.read` accepts it as an object of its fields or as a list of
  them in order;
* members of an object are read in the order in which they come, and fields that were not given
  are looked for afterwards.
-/

namespace Shapesmith.Json

/-- A text. -/
def asText : Json → Except Fault String
  | .str s => .ok s
  | j => refuseType j "a string"

/-- A flag. -/
def asFlag : Json → Except Fault Bool
  | .bool b => .ok b
  | j => refuseType j "a boolean"

/-- A natural number of 64 bits. -/
def asNat64 : Json → Except Fault Nat
  | .num (.int n) => if 0 ≤ n then .ok n.toNat else refuse (.wrongValue (.integer n) "u64")
  | j => refuseType j "u64"

/-- A value, or none for null. -/
def asOption {α : Type} (read : Json → Except Fault α) : Json → Except Fault (Option α)
  | .null => .ok none
  | j => (read j).map some

/-- The items of a list from `index` on. -/
def readEach {α : Type} (read : Json → Except Fault α) : Nat → List Json → Except Fault (List α)
  | _, [] => .ok []
  | index, j :: rest => do
    let a ← under (.index index) (read j)
    let as ← readEach read (index + 1) rest
    pure (a :: as)

/-- A list. -/
def asList {α : Type} (read : Json → Except Fault α) : Json → Except Fault (List α)
  | .arr items => readEach read 0 items
  | j => refuseType j "a sequence"

/-- The values of the members of an object. -/
def readMembersEach {α : Type} (read : Json → Except Fault α) :
    List (String × Json) → Except Fault (List (String × α))
  | [] => .ok []
  | (key, j) :: rest => do
    let a ← under (.key key) (read j)
    let as ← readMembersEach read rest
    pure ((key, a) :: as)

/-- A table. -/
def asTable {α : Type} (read : Json → Except Fault α) : Json → Except Fault (Table String α)
  | .obj fields => (readMembersEach read fields).map Table.ofEntries
  | j => refuseType j "a map"

/-! ### Records -/

/-- What a record looks like. -/
structure Record (σ : Type) where
  /-- The name of the form in messages. -/
  label : String
  /-- The fields in order. -/
  fields : List String
  /-- The fields that have to be given. -/
  required : List String
  /-- The record before any field is read. -/
  start : σ
  /-- The record after one more field. -/
  set : σ → String → Json → Except Fault σ

namespace Record

variable {σ : Type} (r : Record σ)

/-- The form and its size as a message names them. -/
def sized : String :=
  r.label ++ " with " ++ toString r.fields.length ++
    (if r.fields.length = 1 then " element" else " elements")

/-- Reads the members of an object; `seen` are the fields given before. -/
def readObject : σ → List String → List (String × Json) → Except Fault (σ × List String)
  | s, seen, [] => .ok (s, seen)
  | s, seen, (key, j) :: rest =>
    if r.fields.contains key then
      if seen.contains key then refuse (.duplicate key)
      else do
        let s ← under (.key key) (r.set s key j)
        readObject s (key :: seen) rest
    else readObject s seen rest

/-- Reads the items of a list as the fields in order, from field `index` on. -/
def readList : σ → Nat → List String → List Json → Except Fault σ
  | s, _, [], _ => .ok s
  | s, index, field :: fields, [] =>
    if r.required.contains field then refuse (.wrongLength index r.sized)
    else readList s (index + 1) fields []
  | s, index, field :: fields, j :: rest => do
    let s ← under (.index index) (r.set s field j)
    readList s (index + 1) fields rest

/-- Reads a record; `surplus` words the length that a list should have had. -/
def read (surplus : Nat → String) : Json → Except Fault σ
  | .obj members => do
    let (s, seen) ← r.readObject r.start [] members
    match r.fields.find? fun f => r.required.contains f && !seen.contains f with
    | some field => refuse (.missing field)
    | none => pure s
  | .arr items => do
    let s ← r.readList r.start 0 r.fields items
    if r.fields.length < items.length then
      refuse (.wrongLength items.length (surplus r.fields.length))
    else pure s
  | j => refuseType j r.label

end Record

/-- A list that is too long for a record among values read before. -/
def fewerInArray (_ : Nat) : String := "fewer elements in array"

/-- A list that is too long for a record while a document is read. -/
def countInSequence (n : Nat) : String :=
  if n = 1 then "1 element in sequence" else toString n ++ " elements in sequence"

end Shapesmith.Json
