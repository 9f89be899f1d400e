import Shapesmith.Model.Basic

/-!
# Which shapes are constrained

* `Model.isConstrained` says that a shape itself puts a constraint on its values;
* `Model.reachesConstrained` says that the shape, or anything that its values are made of, does.
-/

namespace Shapesmith.Model

variable (m : Model)

/-- The shape, or the target of a member, puts a constraint on its values: a length on what has
one, a pattern on strings, a range on numbers, or a member that must be given. -/
def isConstrained (s : Shape) : Bool :=
  let s := m.targetOf s
  match s.kind with
  | .simple .string => s.traits.length.isSome || s.traits.pattern.isSome
  | .simple .blob | .list _ | .map _ _ => s.traits.length.isSome
  | .simple t => t.isNumber && s.traits.range.isSome
  | .struct _ => (m.membersOf s).any Shape.mustBeGiven
  | _ => false

/-- What the values of a shape are made of: the targets of its members. -/
def partsFrom (root : Shape) (id : ShapeId) : List ShapeId :=
  match m.findFrom root id with
  | some s => (m.membersOf s).map fun member => (m.targetOf member).id
  | none => []

/-- The shape, or anything that its values are made of at any depth, is constrained. -/
def reachesConstrained (s : Shape) : Bool :=
  let root := m.targetOf s
  Graph.leadsTo (m.partsFrom root) (fun id => (m.findFrom root id).any m.isConstrained)
    (m.searchSteps root) root.id

end Shapesmith.Model
