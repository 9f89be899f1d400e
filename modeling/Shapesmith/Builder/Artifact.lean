import Shapesmith.Evaluate
import Shapesmith.Symbol.Violations

/-!
# Builder artifacts

An artifact describes what is generated for one structure: its type, the builder that collects the
values of its members, and the type of the violations that its builder fails with.

* `Artifact.toJson` writes an artifact;
* `Artifact.build` does what the described builder does: it takes values for the members and gives
  the structure or everything that is wrong with them.
-/

namespace Shapesmith

/-- A field of a structure. -/
structure StructField where
  /-- The name. -/
  name : String
  /-- The member that it holds. -/
  member : ShapeId
  /-- The type. -/
  symbol : CodeType
  /-- The description. -/
  documentation : Option String
deriving DecidableEq, Repr

/-- The type of a structure. -/
structure StructType where
  /-- The name. -/
  name : String
  /-- The type. -/
  symbol : CodeType
  /-- Who may see it. -/
  visibility : Visibility
  /-- The description. -/
  documentation : Option String
  /-- What the type can do without being told how. -/
  derives : List String
  /-- The fields. -/
  fields : List StructField
deriving DecidableEq, Repr

/-- A function that puts a value into a builder. -/
structure Setter where
  /-- The name. -/
  name : String
  /-- Who may see it. -/
  visibility : Visibility
  /-- The type of what it takes. -/
  accepts : CodeType
deriving DecidableEq, Repr

/-- A field of a builder. -/
structure BuilderField where
  /-- The name. -/
  name : String
  /-- The member that it collects. -/
  member : ShapeId
  /-- The name of the member in the model. -/
  memberName : String
  /-- The shape of the member's values. -/
  target : ShapeId
  /-- The type of what is kept until the structure is built. -/
  stored : CodeType
  /-- The function that everyone may set it with. -/
  setter : Setter
  /-- The function that takes what is kept, where the other takes something else. -/
  internalSetter : Option Setter
  /-- What happens when it is not set. -/
  requirement : Requirement
  /-- The checks of its values. -/
  checks : List Check
  /-- The type that its value is checked into. -/
  validatedAs : Option CodeType
  /-- The checked value is taken out of a hidden wrapper. -/
  unwrapIntoPublic : Bool
deriving DecidableEq, Repr

/-- The function that makes the structure. -/
structure BuildFunction where
  /-- The type of what it makes. -/
  returns : CodeType
  /-- The type of what it fails with, if it can fail. -/
  error : Option CodeType
  /-- All violations are reported together. -/
  exhaustive : Bool
deriving DecidableEq, Repr

/-- A builder. -/
structure BuilderType where
  /-- The module of the builder. -/
  module : String
  /-- The name. -/
  name : String
  /-- The fields. -/
  fields : List BuilderField
  /-- The function that makes the structure. -/
  build : BuildFunction
deriving DecidableEq, Repr

/-- How violations are reported. -/
structure WireMapping where
  /-- The protocol. -/
  protocol : ShapeId
  /-- The exception. -/
  exception : ShapeId
  /-- The spelling of the type of the exception. -/
  exceptionSymbol : String
  /-- The status of the answer. -/
  status : Nat
deriving DecidableEq, Repr

/-- The type of the violations of a structure. -/
structure ViolationType where
  /-- The type. -/
  symbol : CodeType
  /-- Who may see it. -/
  visibility : Visibility
  /-- The ways to break a constraint. -/
  variants : List Variant
  /-- How they are reported. -/
  wire : WireMapping
deriving DecidableEq, Repr

/-- The function on a structure that begins a builder. -/
structure Convenience where
  /-- The structure. -/
  on : String
  /-- The name. -/
  name : String
  /-- The type of the builder. -/
  returns : CodeType
deriving DecidableEq, Repr

/-- What is generated for a structure. -/
structure Artifact where
  /-- The structure. -/
  shape : ShapeId
  /-- Its type. -/
  structType : StructType
  /-- Its builder. -/
  builder : BuilderType
  /-- The type of its violations; structures that always build have none. -/
  violation : Option ViolationType
  /-- The function that begins a builder. -/
  convenience : Convenience
deriving DecidableEq, Repr

/-! ### Writing -/

/-- A type by its spelling. -/
def CodeType.toJson (t : CodeType) : Json := .str t.text

/-- The field as a JSON object. -/
def StructField.toJson (f : StructField) : Json := .obj [
  ("name", .str f.name), ("member", .str f.member.text), ("symbol", f.symbol.toJson),
  ("documentation", Json.optional f.documentation)]

/-- The type of a structure as a JSON object. -/
def StructType.toJson (s : StructType) : Json := .obj [
  ("name", .str s.name), ("symbol", s.symbol.toJson), ("visibility", .str s.visibility.word),
  ("documentation", Json.optional s.documentation), ("derives", Json.strings s.derives),
  ("fields", .arr (s.fields.map StructField.toJson))]

/-- The setter as a JSON object. -/
def Setter.toJson (s : Setter) : Json := .obj [
  ("name", .str s.name), ("visibility", .str s.visibility.word), ("accepts", s.accepts.toJson)]

/-- The field of a builder as a JSON object. -/
def BuilderField.toJson (f : BuilderField) : Json := .obj [
  ("name", .str f.name), ("member", .str f.member.text), ("memberName", .str f.memberName),
  ("target", .str f.target.text), ("stored", f.stored.toJson), ("setter", f.setter.toJson),
  ("internalSetter", Json.orNull Setter.toJson f.internalSetter),
  ("requirement", f.requirement.toJson), ("checks", .arr (f.checks.map Check.toJson)),
  ("validatedAs", Json.orNull CodeType.toJson f.validatedAs),
  ("unwrapIntoPublic", .bool f.unwrapIntoPublic)]

/-- The building function as a JSON object. -/
def BuildFunction.toJson (b : BuildFunction) : Json := .obj [
  ("returns", b.returns.toJson), ("error", Json.orNull CodeType.toJson b.error),
  ("exhaustive", .bool b.exhaustive)]

/-- The builder as a JSON object. -/
def BuilderType.toJson (b : BuilderType) : Json := .obj [
  ("module", .str b.module), ("name", .str b.name),
  ("fields", .arr (b.fields.map BuilderField.toJson)), ("build", b.build.toJson)]

/-- The report of violations as a JSON object. -/
def WireMapping.toJson (w : WireMapping) : Json := .obj [
  ("protocol", .str w.protocol.text), ("exception", .str w.exception.text),
  ("exceptionSymbol", .str w.exceptionSymbol), ("status", .nat w.status)]

/-- The type of violations as a JSON object. -/
def ViolationType.toJson (v : ViolationType) : Json := .obj [
  ("symbol", v.symbol.toJson), ("visibility", .str v.visibility.word),
  ("variants", .arr (v.variants.map Variant.toJson)), ("wire", v.wire.toJson)]

/-- The function that begins a builder as a JSON object. -/
def Convenience.toJson (c : Convenience) : Json :=
  .obj [("on", .str c.on), ("name", .str c.name), ("returns", c.returns.toJson)]

namespace Artifact

/-- The artifact as a JSON object. -/
def toJson (a : Artifact) : Json := .obj [
  ("shape", .str a.shape.text), ("structure", a.structType.toJson),
  ("builder", a.builder.toJson), ("violation", Json.orNull ViolationType.toJson a.violation),
  ("convenience", a.convenience.toJson)]

/-! ### Building -/

/-- The field that collects a member. -/
def field? (a : Artifact) (memberName : String) : Option BuilderField :=
  a.builder.fields.find? fun f => f.memberName == memberName

/-- Why a structure is not built. -/
inductive Refusal
  /-- A value cannot be held against its shape. -/
  | misfit (cause : Misfit)
  /-- Values break constraints. -/
  | violations (all : Violations)
deriving DecidableEq, Repr

/-- The wording of a refusal. -/
def Refusal.message : Refusal → String
  | .misfit cause => cause.message
  | .violations all => Violations.message all

/-- Holds the values of the fields against their shapes, in the order of the fields. -/
def collect (v : Validator) (given : List (String × Json)) :
    List BuilderField → Verdict (List (String × Json))
  | [] => .ok []
  | f :: rest =>
    match v.model.find? f.target with
    | none => .misfit (.unknownMember f.memberName)
    | some target => do
      let value ← v.member f.requirement f.checks target (Table.get? given f.memberName)
        (pointer "" f.memberName)
      let built ← collect v given rest
      pure (match value with
        | some j => (f.memberName, j) :: built
        | none => built)

/-- The structure that the builder makes of some values, or what is wrong with them. -/
def build (a : Artifact) (v : Validator) (given : List (String × Json)) : Except Refusal Json :=
  match given.find? fun e => (a.field? e.1).isNone with
  | some (name, _) => .error (.misfit (.unknownMember name))
  | none =>
    let verdict := collect v given a.builder.fields
    match verdict.outcome, verdict.violations with
    | .error cause, _ => .error (.misfit cause)
    | .ok built, [] => .ok (.obj built)
    | .ok _, all => .error (.violations all)

end Artifact

end Shapesmith
