import Shapesmith.Model.Basic

/-!
# The prelude

The shapes that every model has: the simple shapes, the shape without content, and the exception
by which servers report violations.

* `Model.prelude` lists them in the order in which they are declared.
-/

namespace Shapesmith

namespace Prelude

/-- A shape of the prelude without traits. -/
def simple (name : String) (type : Simple) : Shape := ⟨⟨"smithy.api", name, none⟩, .simple type, []⟩

/-- The id of a shape that the exception is made of. -/
def frameworkId (name : String) : ShapeId := ⟨"smithy.framework", name, none⟩

/-- The id of the string shape. -/
def stringId : ShapeId := ⟨"smithy.api", "String", none⟩

/-- A member of a shape, with its target and its traits. -/
def member (container : ShapeId) (name : String) (target : ShapeId) (traits : Traits) : Shape :=
  ⟨container.withMember name, .member target, traits⟩

/-- The traits of a member that has to be given. -/
def required : Traits := [(Trait.requiredId, .required)]

/-- The list of fields of the exception. -/
def fieldListId : ShapeId := frameworkId "ValidationExceptionFieldList"

/-- A field of the exception. -/
def fieldId : ShapeId := frameworkId "ValidationExceptionField"

/-- The simple shapes. -/
def simples : List Shape := [
  simple "Blob" .blob, simple "Boolean" .boolean, simple "String" .string, simple "Byte" .byte,
  simple "Short" .short, simple "Integer" .integer, simple "Long" .long, simple "Float" .float,
  simple "Double" .double, simple "Timestamp" .timestamp, simple "Document" .document]

/-- The exception that reports violations, with its members. -/
def exception : List Shape := [
  ⟨validationExceptionId,
    .struct [validationExceptionId.withMember "message",
      validationExceptionId.withMember "fieldList"],
    [(Trait.errorId, .error .client)]⟩,
  member validationExceptionId "message" stringId required,
  member validationExceptionId "fieldList" fieldListId [],
  ⟨fieldListId, .list (fieldListId.withMember "member"), []⟩,
  member fieldListId "member" fieldId [],
  ⟨fieldId, .struct [fieldId.withMember "path", fieldId.withMember "message"], []⟩,
  member fieldId "path" stringId required,
  member fieldId "message" stringId required]

end Prelude

/-- The shapes that every model has. -/
def Model.prelude : List Shape :=
  Prelude.simples ++
    ⟨unitId, .struct [], [("smithy.api#unitType", .other (.obj []))]⟩ :: Prelude.exception

end Shapesmith
