import Shapesmith.Constraint.Violation
import Shapesmith.Shape
import Shapesmith.Pattern.Compile

/-!
# Checks

The constraints that a shape puts on its values.

* `Shape.checks` are the checks of a shape, in the order in which its traits are declared;
* `Check.evaluate` holds a value against a check: none if it passes or is of a kind that the check
  does not measure. A pattern that has been compiled before may be handed in.
-/

namespace Shapesmith

/-- What a length counts. -/
inductive LengthUnit
  /-- The characters of a text. -/
  | chars
  /-- The bytes of a text. -/
  | bytes
  /-- The items of a list or the members of an object. -/
  | elements
deriving DecidableEq, Repr

/-- The word for a unit. -/
def LengthUnit.word : LengthUnit → String
  | .chars => "chars"
  | .bytes => "bytes"
  | .elements => "elements"

/-- What a length counts in values of a kind. -/
def LengthUnit.of : Kind → LengthUnit
  | .simple .blob => .bytes
  | .simple .string => .chars
  | _ => .elements

/-- A condition on the values of a shape. -/
inductive Check
  /-- The length lies within bounds. -/
  | length (bounds : LengthBounds) (unit : LengthUnit)
  /-- The number lies within bounds. -/
  | range (bounds : RangeBounds)
  /-- The text matches a pattern. -/
  | pattern (text : String)
deriving DecidableEq, Repr

/-- The length of a value, if it has one. -/
def measure? (value : Json) (unit : LengthUnit) : Option Nat :=
  match value with
  | .str s => if unit = .bytes then some s.utf8ByteSize else some s.length
  | .arr items => some items.length
  | .obj fields => some fields.length
  | _ => none

namespace Check

/-- What a value breaks of a check; `compiled` is the pattern of the check, if it is at hand. -/
def evaluate (check : Check) (compiled : Option Regex) (value : Json) : Option Breach :=
  match check with
  | .length bounds unit =>
    match measure? value unit with
    | none => none
    | some n =>
      if bounds.min.any (fun min => decide (n < min)) ||
          bounds.max.any (fun max => decide (max < n))
      then some (.length n bounds) else none
  | .range bounds =>
    match value with
    | .num n =>
      if bounds.min.any (fun min => min.order n == .lt) ||
          bounds.max.any (fun max => max.order n == .gt)
      then some (.range n bounds) else none
    | _ => none
  | .pattern p =>
    match value with
    | .str s =>
      let accepted := match compiled with
        | some r => r.isMatch s
        | none => Pattern.accepts p s
      if accepted then none else some (.pattern s p)
    | _ => none

/-- The check as a JSON object. -/
def toJson : Check → Json
  | .length b unit =>
    .obj (("check", .str "length") :: Trait.lengthFields b ++ [("unit", .str unit.word)])
  | .range b => .obj (("check", .str "range") :: Trait.rangeFields b)
  | .pattern p => .obj [("check", .str "pattern"), ("pattern", .str p)]

end Check

/-- The check that a trait of a shape stands for, if it stands for one. -/
def Shape.checkOf (s : Shape) (id : String) : Option Check :=
  if id = Trait.lengthId then s.traits.length.map fun b => .length b (.of s.kind)
  else if id = Trait.rangeId then s.traits.range.map .range
  else if id = Trait.patternId then s.traits.pattern.map .pattern
  else none

/-- The checks of a shape, in the order in which its traits are declared. -/
def Shape.checks (s : Shape) : List Check := (Table.keys s.traits).filterMap s.checkOf

end Shapesmith
