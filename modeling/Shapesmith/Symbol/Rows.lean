import Shapesmith.Symbol.Violations

/-!
# The symbols of one shape

* `SymbolRow` holds the symbols that one shape has, `Symbols.row` makes it;
* `SymbolRow.exposesHidden` says that what everyone sees of the shape names a hidden module.
-/

namespace Shapesmith

/-- The symbols of a shape. -/
structure SymbolRow where
  /-- The shape. -/
  shape : ShapeId
  /-- What everyone sees. -/
  surface : Symbol
  /-- Values that have not been checked. -/
  unconstrained : Symbol
  /-- Values that have been checked, in wrappers that everyone sees. -/
  constrained : Symbol
  /-- The violations. -/
  violation : Symbol
  /-- Values that have been checked, in hidden wrappers. -/
  hiddenConstrained : Symbol
deriving DecidableEq, Repr

/-- The symbols of a shape. -/
def Symbols.row (y : Symbols) (s : Shape) : Except Failure SymbolRow := do
  let surface ← y.surface s
  let unconstrained ← y.unconstrained s
  let constrained ← y.constrained .exported s
  let violation ← y.violation s
  let hiddenConstrained ← y.constrained .hidden s
  pure ⟨s.id, surface, unconstrained, constrained, violation, hiddenConstrained⟩

namespace SymbolRow

/-- The text occurs in another. -/
def occursIn (needle : List Char) : List Char → Bool
  | [] => needle.isEmpty
  | c :: rest => needle.isPrefixOf (c :: rest) || occursIn needle rest

/-- What everyone sees names a hidden type, itself or inside its spelling. -/
def exposesHidden (r : SymbolRow) : Bool :=
  let names (place : Place) : Bool :=
    occursIn (Text.joined place.path "").toList r.surface.type.text.toList
  decide (r.surface.visibility = .hidden) || names .constrained || names .unconstrained

/-- The symbols as JSON members, each written by `encode`. -/
def fields (encode : Symbol → Json) (r : SymbolRow) : List (String × Json) := [
  ("symbol", encode r.surface), ("unconstrained", encode r.unconstrained),
  ("constrained", encode r.constrained), ("constraintViolation", encode r.violation),
  ("pubCrateConstrained", encode r.hiddenConstrained)]

/-- The row as a JSON object. -/
def toJson (r : SymbolRow) : Json := .obj (("shape", .str r.shape.text) :: r.fields Symbol.toJson)

end SymbolRow

end Shapesmith
