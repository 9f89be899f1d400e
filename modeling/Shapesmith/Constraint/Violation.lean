import Shapesmith.Trait

/-!
# Violations

A value that breaks a constraint is reported with the place of the value and what it breaks. All
violations of a value are reported together.

* `Breach` is what is broken, and `Breach.describe` its wording;
* `Violation` adds the place; `pointer` extends a place by one step, with `~` and `/` escaped;
* `Violations.message` is the wording of all of them.
-/

namespace Shapesmith

/-- The kinds of broken constraints. -/
inductive Category
  | missingRequired | length | range | pattern
deriving DecidableEq, Repr

/-- The word for a kind of broken constraint. -/
def Category.word : Category → String
  | .missingRequired => "missingRequired"
  | .length => "length"
  | .range => "range"
  | .pattern => "pattern"

/-- What a value breaks. -/
inductive Breach
  /-- A member that is required is not given. -/
  | missingRequired
  /-- The length is out of bounds. -/
  | length (measured : Nat) (bounds : LengthBounds)
  /-- The number is out of bounds. -/
  | range (value : Number) (bounds : RangeBounds)
  /-- The text does not match. -/
  | pattern (value pattern : String)
deriving DecidableEq, Repr

namespace Breach

/-- The kind of constraint that is broken. -/
def category : Breach → Category
  | .missingRequired => .missingRequired
  | .length _ _ => .length
  | .range _ _ => .range
  | .pattern _ _ => .pattern

/-- The wording of bounds. -/
def boundsText : Option String → Option String → String
  | some min, some max => "between " ++ min ++ " and " ++ max ++ ", inclusive"
  | some min, none => "greater than or equal to " ++ min
  | none, some max => "less than or equal to " ++ max
  | none, none => "unbounded"

/-- What the member must be like. -/
def describe : Breach → String
  | .missingRequired => "Member must not be null"
  | .length _ b =>
    "Member must have length " ++ boundsText (b.min.map toString) (b.max.map toString)
  | .range _ b =>
    "Member must be " ++ boundsText (b.min.map RangeBound.text) (b.max.map RangeBound.text)
  | .pattern _ p => "Member must satisfy regular expression pattern: " ++ p

/-- The breach as JSON members, its category first. -/
def fields (b : Breach) : List (String × Json) :=
  ("category", .str b.category.word) :: match b with
    | .missingRequired => []
    | .length n bounds => ("length", .nat n) :: Trait.lengthFields bounds
    | .range v bounds => ("value", .num v) :: Trait.rangeFields bounds
    | .pattern v p => [("value", .str v), ("pattern", .str p)]

end Breach

/-- A constraint broken by the value at a place. -/
structure Violation where
  /-- The place, as a JSON pointer. -/
  path : String
  /-- What is broken. -/
  breach : Breach
deriving DecidableEq, Repr

namespace Violation

/-- The wording of a violation. -/
def text (v : Violation) : String :=
  let subject := match v.breach with
    | .length n _ => "Value with length " ++ toString n ++ " at '"
    | _ => "Value at '"
  subject ++ v.path ++ "' failed to satisfy constraint: " ++ v.breach.describe

/-- The violation as a JSON object. -/
def toJson (v : Violation) : Json := .obj (("path", .str v.path) :: v.breach.fields)

end Violation

/-- The violations of a value in the order in which they were met. -/
abbrev Violations := List Violation

namespace Violations

/-- The wording of all violations. -/
def message (vs : Violations) : String :=
  let n := List.length vs
  toString n ++ " validation error" ++ (if n = 1 then "" else "s") ++ " detected. " ++
    String.intercalate "; " (vs.map Violation.text)

/-- The kinds of constraints that are broken, one for each violation. -/
def categories (vs : Violations) : List Category := vs.map (·.breach.category)

/-- The violations as a JSON array. -/
def toJson (vs : Violations) : Json := .arr (vs.map Violation.toJson)

end Violations

/-- A character of a step in a pointer. -/
def pointerChar (c : Char) : List Char :=
  if c = '~' then ['~', '0'] else if c = '/' then ['~', '1'] else [c]

/-- A step in a pointer. -/
def pointerStep (step : String) : String := String.ofList (step.toList.flatMap pointerChar)

/-- The place one step below another. -/
def pointer (base step : String) : String := base ++ "/" ++ pointerStep step

end Shapesmith
