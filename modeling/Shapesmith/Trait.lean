import Shapesmith.ShapeId
import Shapesmith.Json.Record

/-!
# Traits

A trait says something about a shape. The traits that matter here have values of a known form;
every other one keeps its JSON value.

* `RangeBound.order` compares a number with a bound, exactly when both are integers;
* `Trait.read` gives the trait that an id and a JSON value declare;
* `Traits` holds the traits of a shape in the order of their declaration, and its accessors give
  the value of a trait that is stored under its own id.
-/

namespace Shapesmith

/-- Bounds of a length. -/
structure LengthBounds where
  /-- The least length. -/
  min : Option Nat
  /-- The greatest length. -/
  max : Option Nat
deriving DecidableEq, Repr

/-- A bound of a range. An integer of 64 bits stays exact. -/
inductive RangeBound
  | int (value : Int)
  | float (value : Binary64)
deriving DecidableEq, Repr

namespace RangeBound

/-- The bound as a binary fraction. -/
def toBinary64 : RangeBound → Binary64
  | .int n => .ofInt n
  | .float x => x

/-- How a number lies relative to a bound: exactly for integers, else after rounding both. -/
def order (bound : RangeBound) (n : Number) : Ordering :=
  match bound, n with
  | .int b, .int v => compare v b
  | b, v => v.toBinary64.compare b.toBinary64

/-- The bound is greater than the other. -/
def exceeds : RangeBound → RangeBound → Bool
  | .int a, .int b => decide (b < a)
  | a, b => a.toBinary64.compare b.toBinary64 == .gt

/-- Equality of bounds of one kind; the zeros are equal. -/
def same : RangeBound → RangeBound → Bool
  | .int a, .int b => decide (a = b)
  | .float a, .float b => decide (a.signed = b.signed)
  | _, _ => false

/-- The bound in a message: a whole number below `2 ^ 63` without a point, and never with an
exponent. -/
def text : RangeBound → String
  | .int n => toString n
  | .float x =>
    if x.isWhole && decide (x.steps < twoTo 63 * Binary64.one) then toString x.truncate
    else x.plainText

/-- The bound as a JSON value. -/
def toJson : RangeBound → Json
  | .int n => .num (.int n)
  | .float x => .num (.float x)

/-- The bound that a JSON value declares. -/
def read : Json → Except Json.Fault RangeBound
  | .num (.int n) => .ok (if n < twoTo 63 then .int n else .float (.ofInt n))
  | .num (.float x) => .ok (.float x)
  | _ => Json.refuse .badBound

end RangeBound

/-- Bounds of a range. -/
structure RangeBounds where
  /-- The least value. -/
  min : Option RangeBound
  /-- The greatest value. -/
  max : Option RangeBound
deriving DecidableEq, Repr

/-- Whose fault an error is. -/
inductive Blame
  | client | server
deriving DecidableEq, Repr

/-- What a trait says. -/
inductive Trait
  /-- The member has to be given. -/
  | required
  /-- The value of a member that is not given. -/
  | default (value : Json)
  /-- Bounds of the length. -/
  | length (bounds : LengthBounds)
  /-- Bounds of the value. -/
  | range (bounds : RangeBounds)
  /-- A pattern that the text has to match. -/
  | pattern (text : String)
  /-- A description. -/
  | documentation (text : String)
  /-- The structure is an error. -/
  | error (blame : Blame)
  /-- Anything else. -/
  | other (value : Json)
deriving DecidableEq, Repr

namespace Trait

/-- The id of the trait that asks for a member. -/
def requiredId : String := "smithy.api#required"
/-- The id of the trait that gives a default value. -/
def defaultId : String := "smithy.api#default"
/-- The id of the trait that bounds a length. -/
def lengthId : String := "smithy.api#length"
/-- The id of the trait that bounds a value. -/
def rangeId : String := "smithy.api#range"
/-- The id of the trait that asks for a match. -/
def patternId : String := "smithy.api#pattern"
/-- The id of the trait that describes. -/
def documentationId : String := "smithy.api#documentation"
/-- The id of the trait of errors. -/
def errorId : String := "smithy.api#error"

/-- Equality of optional bounds. -/
def sameBound : Option RangeBound → Option RangeBound → Bool
  | none, none => true
  | some a, some b => a.same b
  | _, _ => false

/-- Equality of traits, by equality of the values. -/
def same : Trait → Trait → Bool
  | .required, .required => true
  | .default a, .default b => a.same b
  | .length a, .length b => decide (a = b)
  | .range a, .range b => sameBound a.min b.min && sameBound a.max b.max
  | .pattern a, .pattern b => decide (a = b)
  | .documentation a, .documentation b => decide (a = b)
  | .error a, .error b => decide (a = b)
  | .other a, .other b => a.same b
  | _, _ => false

/-- The form of bounds of a length. -/
def lengthRecord : Json.Record LengthBounds where
  label := "struct LengthTrait"
  fields := ["min", "max"]
  required := []
  start := ⟨none, none⟩
  set b field j := do
    let bound ← Json.asOption Json.asNat64 j
    pure (if field == "min" then { b with min := bound } else { b with max := bound })

/-- The form of bounds of a range. -/
def rangeRecord : Json.Record RangeBounds where
  label := "struct RangeTrait"
  fields := ["min", "max"]
  required := []
  start := ⟨none, none⟩
  set b field j := do
    let bound ← Json.asOption RangeBound.read j
    pure (if field == "min" then { b with min := bound } else { b with max := bound })

/-- The words for whose fault an error is. -/
def blameWords : List String := ["client", "server"]

/-- Whose fault a word says an error is. -/
def blameOf (word : String) : Except Json.Fault Blame :=
  if word == "client" then .ok .client
  else if word == "server" then .ok .server
  else Json.refuse (.unknownWord word blameWords)

/-- Whose fault a value says an error is: a word, or an object with the word as its only key. -/
def readBlame : Json → Except Json.Fault Blame
  | .str word => blameOf word
  | .obj [(word, value)] => do
    let blame ← blameOf word
    match value with
    | .null => pure blame
    | v => Json.refuseType v "unit"
  | .obj _ => Json.refuse (.wrongValue .map "map with a single key")
  | j => Json.refuseType j "string or map"

/-- The trait that an id and a value declare. -/
def read (id : String) (value : Json) : Except Json.Fault Trait :=
  if id = requiredId then .ok .required
  else if id = defaultId then .ok (.default value)
  else if id = lengthId then (lengthRecord.read Json.fewerInArray value).map .length
  else if id = rangeId then (rangeRecord.read Json.fewerInArray value).map .range
  else if id = patternId then (Json.asText value).map .pattern
  else if id = documentationId then (Json.asText value).map .documentation
  else if id = errorId then (readBlame value).map .error
  else .ok (.other value)

/-- Bounds of a length as JSON members. -/
def lengthFields (b : LengthBounds) : List (String × Json) :=
  [("min", Json.orNull Json.nat b.min), ("max", Json.orNull Json.nat b.max)]

/-- Bounds of a range as JSON members. -/
def rangeFields (b : RangeBounds) : List (String × Json) :=
  [("min", Json.orNull RangeBound.toJson b.min), ("max", Json.orNull RangeBound.toJson b.max)]

/-- The word for whose fault an error is. -/
def Blame.word : Blame → String
  | .client => "client"
  | .server => "server"

/-- The trait as a JSON value: its kind and what it says. -/
def toJson : Trait → Json
  | .required => .obj [("kind", .str "required")]
  | .default v => .obj [("kind", .str "default"), ("value", v)]
  | .length b => .obj [("kind", .str "length"), ("value", .obj (lengthFields b))]
  | .range b => .obj [("kind", .str "range"), ("value", .obj (rangeFields b))]
  | .pattern p => .obj [("kind", .str "pattern"), ("value", .str p)]
  | .documentation d => .obj [("kind", .str "documentation"), ("value", .str d)]
  | .error b => .obj [("kind", .str "error"), ("value", .str (Blame.word b))]
  | .other v => .obj [("kind", .str "other"), ("value", v)]

end Trait

/-- The traits of a shape by their ids, in the order of their declaration. -/
abbrev Traits := Table String Trait

namespace Traits

/-- The traits that a shape declares. A fault is placed below the shape in its document. -/
def read (owner : ShapeId) : List (String × Json) → Except Json.Fault Traits
  | entries => go [] entries
where
  /-- Adds the entries that remain to the traits read so far. -/
  go (done : Traits) : List (String × Json) → Except Json.Fault Traits
    | [] => .ok done
    | (id, value) :: rest =>
      match Trait.read id value with
      | .error f => .error ⟨[.key "shapes", .key owner.text, .key "traits", .key id], f.cause⟩
      | .ok t => go (done.put id t) rest

variable (ts : Traits)

/-- The member has to be given. -/
def isRequired : Bool := Table.has ts Trait.requiredId

/-- The default value; null is no default. -/
def defaultValue : Option Json :=
  match Table.get? ts Trait.defaultId with
  | some (.default .null) => none
  | some (.default v) => some v
  | _ => none

/-- The bounds of the length. -/
def length : Option LengthBounds :=
  match Table.get? ts Trait.lengthId with
  | some (.length b) => some b
  | _ => none

/-- The bounds of the value. -/
def range : Option RangeBounds :=
  match Table.get? ts Trait.rangeId with
  | some (.range b) => some b
  | _ => none

/-- The pattern. -/
def pattern : Option String :=
  match Table.get? ts Trait.patternId with
  | some (.pattern p) => some p
  | _ => none

/-- The description. -/
def documentation : Option String :=
  match Table.get? ts Trait.documentationId with
  | some (.documentation d) => some d
  | _ => none

/-- Whose fault the error is. -/
def error : Option Blame :=
  match Table.get? ts Trait.errorId with
  | some (.error b) => some b
  | _ => none

/-- Equality of traits, whatever their order. -/
def same (a b : Traits) : Bool :=
  List.length a == List.length b && a.all fun e =>
    match Table.get? b e.1 with
    | some t => e.2.same t
    | none => false

/-- The traits as a JSON object. -/
def toJson : Json := .obj (ts.map fun e => (e.1, e.2.toJson))

end Traits

end Shapesmith
