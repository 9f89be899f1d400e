import Shapesmith.Constraint.Acceptance
import Shapesmith.Symbol.Basic
import Shapesmith.Symbol.Naming

/-!
# Plain symbols

The plain symbol of a shape says nothing about its constraints. All other symbols are made from it.

* `Symbols` is an accepted model with what decides on its symbols;
* `Symbols.wrap` puts the box of a recursive member and the option of a member that may be absent
  around a type;
* `Symbols.plain` is the plain symbol of a shape. A list that holds itself without a structure or
  union in between has none.
-/

namespace Shapesmith

/-- Who decides whether a member of a structure may be absent. -/
inductive Nullability
  /-- The client: any member may be. -/
  | client
  /-- The server: members that are required or have a default may not. -/
  | server
deriving DecidableEq, Repr

/-- A member of a structure may be absent. -/
def Model.isNullable (m : Model) (mode : Nullability) (member : Shape) : Bool :=
  (m.find? member.id.withoutMember).any (·.isStruct) &&
    match mode with
    | .client => true
    | .server => !member.traits.isRequired && member.traits.defaultValue.isNone

/-- How symbols are made. -/
structure Style where
  /-- The names of errors end in `Error`. -/
  errorSuffix : Bool
  /-- Who decides whether a member may be absent. -/
  nullability : Nullability
  /-- Constrained types are part of what everyone sees. -/
  exportConstrained : Bool
deriving DecidableEq, Repr

/-- The style of server code. -/
def Style.server (exportConstrained : Bool) : Style := ⟨false, .server, exportConstrained⟩

/-- A model and a service with what decides on the symbols of shapes. -/
structure Symbols where
  /-- The model. -/
  model : Model
  /-- The service. -/
  service : Shape
  /-- How symbols are made. -/
  style : Style
  /-- The modules of shapes that are inputs or outputs of operations. -/
  ends : Table ShapeId Place
deriving Repr

/-- Notes the modules of the input and the output of a shape that is an operation. -/
def notedEnds (ends : Table ShapeId Place) (s : Shape) : Table ShapeId Place :=
  match s.kind with
  | .operation input output _ =>
    let ends := match input with
      | some id => ends.put id .input
      | none => ends
    match output with
    | some id => ends.put id .output
    | none => ends
  | _ => ends

namespace Symbols

/-- The symbols of a model for a service, if the model is accepted for it. -/
def ofModel (m : Model) (service : Shape) (style : Style) (tolerant : Bool) :
    Except Failure Symbols := do
  m.accept service tolerant
  pure ⟨m, service, style, (m.walk service).foldl notedEnds []⟩

variable (y : Symbols)

/-- The module in which the type of a shape is declared. -/
def placeOf (s : Shape) : Place :=
  match s.kind with
  | .operation _ _ _ => .operation
  | .service _ _ => .root
  | _ => if s.traits.error.isSome then .error else (y.ends.get? s.id).getD .model

/-- The word at the end of the names of errors. -/
def errorEnd : String := "Error"

/-- The name of the type of a shape. -/
def typeName (s : Shape) : String :=
  let name := s.camelName
  if y.style.errorSuffix && s.traits.error.isSome && !name.endsWith errorEnd then name ++ errorEnd
  else name

/-- The generated type of a shape. -/
def declared (s : Shape) : CodeType := .named (y.placeOf s).path (y.typeName s)

/-- The type of a member from the type of its target: boxed where the member is recursive by value,
then optional where it may be absent. -/
def wrap (member : Shape) (inner : CodeType) : CodeType :=
  let inner := if y.model.isBoxed member.id then .boxed inner else inner
  if y.model.isNullable y.style.nullability member then .option inner else inner

/-- How many shapes deep a type without repetition can go. -/
def depth : Nat := y.model.shapes.length + 1

/-- The plain symbol of a shape whose type goes at most `depth` shapes deep. -/
def plainAt : Nat → Shape → Option Symbol
  | 0, _ => none
  | depth + 1, s =>
    let typeAt (id : ShapeId) : Option CodeType :=
      (y.model.find? id).bind fun t => (plainAt depth t).map (·.type)
    match s.kind with
    | .simple t => some (.exported (.ofSimple t))
    | .list item => (typeAt item).map fun item => .exported (.vector item)
    | .map key value =>
      (typeAt key).bind fun key => (typeAt value).map fun value => .exported (.table key value)
    | .member target =>
      (typeAt target).map fun inner =>
        ⟨y.wrap s inner.stripped, .exported, s.traits.defaultValue⟩
    | .struct _ | .union _ | .operation _ _ _ | .service _ _ => some (.exported (y.declared s))

/-- Fails for a shape whose type has no end. -/
def finite {α : Type} (s : Shape) : Option α → Except Failure α
  | some a => .ok a
  | none => .error (.endlessType s.id)

/-- The plain symbol of a shape. -/
def plain (s : Shape) : Except Failure Symbol := finite s (y.plainAt y.depth s)

end Symbols

end Shapesmith
