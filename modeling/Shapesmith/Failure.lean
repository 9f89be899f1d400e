import Shapesmith.Constraint.Check
import Shapesmith.Json.Print
import Shapesmith.Sequence

/-!
# Failures

Why a model, its settings or a compilation is refused.

* `Failure` lists the causes; `Unsupported` and `Conflict` detail two of them;
* `Failure.message` is their wording;
* `ShapeId.read` reads an id, or fails.
-/

namespace Shapesmith

/-- A constraint that generated types cannot carry. -/
inductive Unsupported
  /-- A constraint on a member instead of its target. -/
  | onMember (traitId : String)
  /-- A constraint on a kind of shape that it does not measure. -/
  | onKind (traitId typeName : String)
deriving DecidableEq, Repr

/-- The wording of an unsupported constraint. -/
def Unsupported.detail : Unsupported → String
  | .onMember id => "`" ++ id ++ "` on a member; attach it to the target shape"
  | .onKind id typeName => "`" ++ id ++ "` on a " ++ typeName ++ " shape"

/-- A constraint that no value can be held against. -/
inductive Conflict
  /-- The least length is greater than the greatest. -/
  | length (min max : Nat)
  /-- The least value is greater than the greatest. -/
  | range (min max : RangeBound)
  /-- The pattern is none. -/
  | pattern (text : String) (fault : PatternFault)
  /-- The default of a member breaks a constraint of the target. -/
  | default (value : Json) (breach : Breach)
deriving DecidableEq, Repr

/-- The wording of a conflict. -/
def Conflict.detail : Conflict → String
  | .length min max => "length min " ++ toString min ++ " is greater than max " ++ toString max
  | .range min max => "range min " ++ min.text ++ " is greater than max " ++ max.text
  | .pattern text fault => "pattern `" ++ text ++ "` does not compile: " ++ fault.message
  | .default value breach =>
    "default value " ++ value.compact ++ " violates its target: " ++ breach.describe

/-- Why a model, its settings or a compilation is refused. -/
inductive Failure
  /-- The document of a model cannot be read. -/
  | model (fault : Json.Fault)
  /-- The settings cannot be read. -/
  | settings (fault : Json.Fault)
  /-- A text is no shape id. -/
  | badShapeId (text : String)
  /-- A shape refers to one that there is not. -/
  | noShape (missing referencedBy : ShapeId)
  /-- A shape is defined twice, and not in the same way. -/
  | shapeConflict (id : ShapeId)
  /-- The service is not in the model. -/
  | noService (id : ShapeId)
  /-- The shape is no structure. -/
  | notStructure (id : ShapeId)
  /-- A constraint cannot be carried by generated types. -/
  | unsupported (shape : ShapeId) (detail : Unsupported)
  /-- A constraint contradicts itself. -/
  | conflict (shape : ShapeId) (detail : Conflict)
  /-- An operation cannot report the violations of its input. -/
  | noValidationException (operation : ShapeId)
  /-- The service has no protocol that is known. -/
  | noProtocol (service : ShapeId) (supported : List ShapeId)
  /-- The service has several protocols that are known. -/
  | ambiguousProtocol (service : ShapeId) (candidates : List ShapeId)
  /-- The protocol that is asked for is none of the service's. -/
  | badOverride (service protocol : ShapeId) (candidates : List ShapeId)
  /-- The type of a shape has no end: lists and maps contain each other forever. -/
  | endlessType (id : ShapeId)
deriving DecidableEq, Repr

/-- Several ids in a message. -/
def idList (ids : List ShapeId) : String :=
  "[" ++ String.intercalate ", " (ids.map ShapeId.text) ++ "]"

/-- The wording of a failure. -/
def Failure.message : Failure → String
  | .model f =>
    "failed to parse model at JSON path " ++ Json.Path.text f.path ++ ": " ++ f.cause.message
  | .settings f =>
    "failed to parse settings at JSON path " ++ Json.Path.text f.path ++ ": " ++ f.cause.message
  | .badShapeId text => "invalid shape id `" ++ text ++ "`"
  | .noShape missing by_ =>
    "shape `" ++ missing.text ++ "` referenced by `" ++ by_.text ++ "` does not exist in the model"
  | .shapeConflict id => "shape `" ++ id.text ++ "` is defined twice with different definitions"
  | .noService id => "service `" ++ id.text ++ "` not found in the model"
  | .notStructure id => "shape `" ++ id.text ++ "` is not a structure"
  | .unsupported id d => "shape `" ++ id.text ++ "` has an unsupported constraint: " ++ d.detail
  | .conflict id d => "shape `" ++ id.text ++ "` has conflicting constraints: " ++ d.detail
  | .noValidationException op =>
    "operation `" ++ op.text ++ "` takes constrained input but does not list " ++
      "`smithy.framework#ValidationException` among its errors"
  | .noProtocol service ids =>
    "service `" ++ service.text ++ "` has no supported protocol; supported protocols are " ++
      idList ids
  | .ambiguousProtocol service ids =>
    "service `" ++ service.text ++ "` declares several supported protocols " ++ idList ids ++
      "; set `codegen.protocol` to pick one"
  | .badOverride service protocol ids =>
    "protocol override `" ++ protocol.text ++ "` is not usable for service `" ++ service.text ++
      "`; candidates are " ++ idList ids
  | .endlessType id => "the type of shape `" ++ id.text ++ "` has no end"

/-- The id that a text spells. -/
def ShapeId.read (text : String) : Except Failure ShapeId :=
  match ShapeId.parse? text with
  | some id => .ok id
  | none => .error (.badShapeId text)

end Shapesmith
