import Shapesmith.Symbol.Constrained

/-!
# Violation types

The ways in which values of a shape break constraints are the variants of a type of their own.

* `Symbols.violation` is the symbol of that type; shapes that cannot break any have the type without
  values;
* `Symbols.variants` are its variants: one for each check of the shape itself, one for each member
  that has to be given, and one for each part that can break a constraint.
-/

namespace Shapesmith

/-- A way in which values of a shape break a constraint. -/
inductive Variant
  /-- A check of the shape itself, with the type of what was measured. -/
  | own (category : Category) (measured : String)
  /-- A member that has to be given. -/
  | missing (member : ShapeId)
  /-- A member of a structure or union, with the violation of its value. -/
  | part (member : ShapeId) (violation : CodeType)
  /-- An item of a list, with its index and its violation. -/
  | item (member : ShapeId) (violation : CodeType)
  /-- A key of a map, with its violation. -/
  | key (member : ShapeId) (violation : CodeType)
  /-- A value of a map, with its violation. -/
  | value (member : ShapeId) (violation : CodeType)
deriving DecidableEq, Repr

namespace Variant

/-- The name of a category as a variant. -/
def categoryName : Category → String
  | .missingRequired => "Missing"
  | .length => "Length"
  | .range => "Range"
  | .pattern => "Pattern"

/-- The name of a variant. -/
def name : Variant → String
  | .own category _ => categoryName category
  | .missing member => categoryName .missingRequired ++ Text.camelCase member.lastName
  | .part member _ => Text.camelCase member.lastName
  | .item _ _ => "Member"
  | .key _ _ => "Key"
  | .value _ _ => "Value"

/-- The kind of constraint that a variant itself reports. -/
def category : Variant → Option Category
  | .own category _ => some category
  | .missing _ => some .missingRequired
  | _ => none

/-- The member that a variant is about. -/
def member : Variant → Option String
  | .missing member | .part member _ => some member.lastName
  | _ => none

/-- The type of sizes and indexes. -/
def sizeType : String := "usize"

/-- The spelling of what a variant carries. -/
def payload : Variant → Option String
  | .own _ measured => some measured
  | .missing _ => none
  | .item _ violation => some ("(" ++ sizeType ++ ", " ++ violation.text ++ ")")
  | .part _ violation | .key _ violation | .value _ violation => some violation.text

/-- The variant as a JSON object. -/
def toJson (v : Variant) : Json := .obj [
  ("name", .str v.name), ("category", Json.optional (v.category.map Category.word)),
  ("member", Json.optional v.member), ("payload", Json.optional v.payload)]

/-- The type of the numbers of a kind. -/
def numberType : Kind → CodeType
  | .simple .byte => .i8
  | .simple .short => .i16
  | .simple .integer => .i32
  | .simple .long => .i64
  | .simple .float => .f32
  | _ => .f64

/-- The variant of a check of a shape itself. -/
def ofCheck (kind : Kind) : Check → Variant
  | .length _ _ => .own .length sizeType
  | .pattern _ => .own .pattern CodeType.string.text
  | .range _ => .own .range (numberType kind).text

end Variant

namespace Symbols

variable (y : Symbols)

/-- The name of violation types. -/
def violationName : String := "ConstraintViolation"

/-- The symbol of the violations of a shape. -/
def violation (s : Shape) : Except Failure Symbol :=
  let target := y.model.targetOf s
  if y.model.reachesConstrained target then do
    let owner ← y.plain target
    pure ⟨.named (moduleBeside owner.type target) violationName,
      if target.isStruct || y.style.exportConstrained then .exported else .hidden, none⟩
  else .ok (.exported .infallible)

/-- The variant for a member whose values can break a constraint. -/
def nested (member : Shape) (make : CodeType → Variant) : Except Failure (List Variant) :=
  if y.model.reachesConstrained member then do
    let violation ← y.violation member
    pure [make violation.type]
  else .ok []

/-- The variants for a member of a structure or union. -/
def partVariants (ofStruct : Bool) (member : Shape) : Except Failure (List Variant) := do
  let missing := if ofStruct && member.mustBeGiven then [.missing member.id] else []
  let part ← y.nested member fun violation =>
    .part member.id (if y.model.isBoxed member.id then .boxed violation else violation)
  pure (missing ++ part)

/-- The variants for the parts of a shape. -/
def partsVariants (s : Shape) : Except Failure (List Variant) :=
  let of (step : Shape → Except Failure (List Variant)) (members : List Shape) :
      Except Failure (List Variant) := (collect step members).map List.flatten
  match s.kind with
  | .struct _ | .union _ => of (y.partVariants s.isStruct) (y.model.membersOf s)
  | .list item => of (fun member => y.nested member (.item member.id)) (y.model.find? item).toList
  | .map key value => do
    let keys ← of (fun member => y.nested member (.key member.id)) (y.model.find? key).toList
    let values ← of (fun member => y.nested member (.value member.id)) (y.model.find? value).toList
    pure (keys ++ values)
  | _ => .ok []

/-- The ways in which values of a shape, or of a member's target, break constraints. -/
def variants (s : Shape) : Except Failure (List Variant) :=
  let target := y.model.targetOf s
  if y.model.reachesConstrained target then do
    let parts ← y.partsVariants target
    pure (target.checks.map (Variant.ofCheck target.kind) ++ parts)
  else .ok []

end Symbols

end Shapesmith
