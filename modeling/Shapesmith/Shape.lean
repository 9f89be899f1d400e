import Shapesmith.Trait

/-!
# Shapes

A shape has an id, a kind and traits. Members of lists, maps, structures and unions are shapes of
their own, which point at their target.

* `Kind` is what a shape is and which shapes it refers to;
* `Shape.members` are the members of an aggregate in order, and `Shape.references` everything that
  a shape refers to;
* `Shape.same` is equality of definitions: the order of members counts, the order of traits does
  not.
-/

namespace Shapesmith

/-- The kinds of shapes that refer to no other. -/
inductive Simple
  | blob | boolean | string | byte | short | integer | long | float | double | timestamp | document
deriving DecidableEq, Repr

/-- The word for a simple kind. -/
def Simple.word : Simple → String
  | .blob => "blob"
  | .boolean => "boolean"
  | .string => "string"
  | .byte => "byte"
  | .short => "short"
  | .integer => "integer"
  | .long => "long"
  | .float => "float"
  | .double => "double"
  | .timestamp => "timestamp"
  | .document => "document"

/-- All simple kinds in order. -/
def Simple.all : List Simple :=
  [.blob, .boolean, .string, .byte, .short, .integer, .long, .float, .double, .timestamp,
    .document]

/-- The kind holds numbers. -/
def Simple.isNumber : Simple → Bool
  | .byte | .short | .integer | .long | .float | .double => true
  | _ => false

/-- What a shape is. -/
inductive Kind
  /-- A value without parts. -/
  | simple (type : Simple)
  /-- A list of one kind of item. -/
  | list (member : ShapeId)
  /-- A map from keys to values. -/
  | map (key value : ShapeId)
  /-- A structure of members. -/
  | struct (members : List ShapeId)
  /-- One of several members. -/
  | union (members : List ShapeId)
  /-- A member, which points at the shape of its values. -/
  | member (target : ShapeId)
  /-- An operation of a service. -/
  | operation (input output : Option ShapeId) (errors : List ShapeId)
  /-- A service. -/
  | service (version : String) (operations : List ShapeId)
deriving DecidableEq, Repr

/-- A shape. -/
structure Shape where
  /-- The id. -/
  id : ShapeId
  /-- What it is. -/
  kind : Kind
  /-- What is said about it. -/
  traits : Traits
deriving DecidableEq, Repr

namespace Shape

variable (s : Shape)

/-- The shape is a member. -/
def isMember : Bool := match s.kind with | .member _ => true | _ => false

/-- The shape is a structure. -/
def isStruct : Bool := match s.kind with | .struct _ => true | _ => false

/-- The shape is a union. -/
def isUnion : Bool := match s.kind with | .union _ => true | _ => false

/-- The shape is a service. -/
def isService : Bool := match s.kind with | .service _ _ => true | _ => false

/-- The shape holds numbers. -/
def isNumber : Bool := match s.kind with | .simple t => t.isNumber | _ => false

/-- The shape is a string. -/
def isString : Bool := match s.kind with | .simple .string => true | _ => false

/-- The ids of the members of an aggregate, in order. -/
def members : List ShapeId :=
  match s.kind with
  | .struct ms | .union ms => ms
  | .list m => [m]
  | .map k v => [k, v]
  | _ => []

/-- The shape that a member points at. -/
def target? : Option ShapeId :=
  match s.kind with
  | .member t => some t
  | _ => none

/-- Every id that the shape refers to, in order. -/
def references : List ShapeId :=
  match s.kind with
  | .member t => [t]
  | .operation input output errors => input.toList ++ output.toList ++ errors
  | .service _ operations => operations
  | _ => s.members

/-- The name of a member, or else of the shape. -/
def memberName : String := s.id.lastName

/-- The word for what the shape is. -/
def typeName : String :=
  match s.kind with
  | .simple t => t.word
  | .list _ => "list"
  | .map _ _ => "map"
  | .struct _ => "structure"
  | .union _ => "union"
  | .member _ => "member"
  | .operation _ _ _ => "operation"
  | .service _ _ => "service"

/-- The member has to be given by the caller: it is required and has no default. -/
def mustBeGiven : Bool := s.traits.isRequired && s.traits.defaultValue.isNone

/-- Equality of definitions. -/
def same (a b : Shape) : Bool :=
  decide (a.id = b.id) && decide (a.kind = b.kind) && Traits.same a.traits b.traits

end Shape

end Shapesmith
