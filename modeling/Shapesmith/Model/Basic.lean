import Shapesmith.Failure
import Shapesmith.Graph

/-!
# Models

A model is a list of shapes in the order of their ids, each id once.

* `Model.find?` looks a shape up, `Model.targetOf` follows a member one step, `Model.membersOf`
  gives the members of an aggregate;
* `Model.walk` lists what a shape leads to along all references, in depth-first preorder;
* `Model.isBoxed` says that a structure or union would contain itself by value through a member.
-/

namespace Shapesmith

/-- A model: shapes in the order of their ids. -/
structure Model where
  /-- The shapes. -/
  shapes : List Shape
deriving Repr

/-- The id of the exception that reports violations. -/
def validationExceptionId : ShapeId := ⟨"smithy.framework", "ValidationException", none⟩

/-- The id of the shape without content. -/
def unitId : ShapeId := ⟨"smithy.api", "Unit", none⟩

namespace Model

variable (m : Model)

/-- The shape with an id. -/
def find? (id : ShapeId) : Option Shape := m.shapes.find? fun s => s.id = id

/-- The shape that a member points at; any other shape itself. -/
def targetOf (s : Shape) : Shape := (s.target?.bind m.find?).getD s

/-- The members of an aggregate in order. -/
def membersOf (s : Shape) : List Shape := s.members.filterMap m.find?

/-- The services in the order of their ids. -/
def services : List Shape := m.shapes.filter (·.isService)

/-! ### Walking -/

/-- The shape with an id, a root that need not be one of the model included. -/
def findFrom (root : Shape) (id : ShapeId) : Option Shape :=
  if id = root.id then some root else m.find? id

/-- What a shape with an id refers to. -/
def referencesFrom (root : Shape) (id : ShapeId) : List ShapeId :=
  ((m.findFrom root id).map Shape.references).getD []

/-- How many steps a search from a root through references can take: each shape is entered once. -/
def searchSteps (root : Shape) : Nat := 1 + ((root :: m.shapes).flatMap Shape.references).length

/-- What a shape leads to along its references, the shape first. -/
def walk (root : Shape) : List Shape :=
  (Graph.preorder (m.referencesFrom root) (m.searchSteps root) root.id).filterMap (m.findFrom root)

/-! ### Recursion by value -/

/-- What a structure or union holds by value: the targets of its members. -/
def heldByValue (id : ShapeId) : List ShapeId :=
  match m.find? id with
  | some s =>
    if s.isStruct || s.isUnion then (m.membersOf s).filterMap Shape.target? else []
  | none => []

/-- The structures and unions that have a member. -/
def holders (member : ShapeId) : List Shape :=
  m.shapes.filter fun s => (s.isStruct || s.isUnion) && s.members.contains member

/-- The member's target holds, by value, a structure or union that has the member. -/
def isBoxed (member : ShapeId) : Bool :=
  match (m.find? member).bind Shape.target? with
  | none => false
  | some target => (m.holders member).any fun s =>
      Graph.leadsTo m.heldByValue (fun id => id = s.id) (m.searchSteps s) target

end Model

end Shapesmith
