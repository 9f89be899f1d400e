import Shapesmith.Bisect
import Shapesmith.Builder.Generate
import Shapesmith.Protocol.Registry
import Shapesmith.Settings
import Shapesmith.Symbol.Rows

/-!
# Compilations

A compilation turns a model and settings into the artifacts of every structure that the service
leads to.

* `compile` checks the service, the model and the protocol, in this order, and generates the
  artifacts in the order of their ids;
* `Compilation.table` are the symbols of everything that the service leads to.
-/

namespace Shapesmith

/-- What comes of compiling a service. -/
structure Compilation where
  /-- The symbols of the model. -/
  symbols : Symbols
  /-- The settings. -/
  settings : Settings
  /-- The protocol. -/
  protocol : Protocol
  /-- The artifacts in the order of their ids. -/
  artifacts : List Artifact
deriving Repr

/-- Shapes in the order of their ids. -/
def sortedById (shapes : List Shape) : List Shape :=
  shapes.mergeSort fun a b => a.id.compare b.id != .gt

/-- The structures that a service leads to, apart from the one without content. -/
def Model.structuresFrom (m : Model) (service : Shape) : List Shape :=
  sortedById ((m.walk service).filter fun s => s.isStruct && decide (s.id ≠ unitId))

/-- The service with an id. -/
def Model.service (m : Model) (id : ShapeId) : Except Failure Shape :=
  match (m.find? id).filter (·.isService) with
  | some s => .ok s
  | none => .error (.noService id)

/-- Compiles a service. -/
def compile (m : Model) (settings : Settings) (registry : Registry) :
    Except Failure Compilation := do
  let service ← m.service settings.service
  let symbols ← Symbols.ofModel m service (.server settings.codegen.publicConstrainedTypes)
    settings.codegen.ignoreUnsupportedConstraints
  let protocol ← registry.resolve service settings.codegen.protocol
  let artifacts ← collect (symbols.artifact protocol) (m.structuresFrom service)
  pure ⟨symbols, settings, protocol, artifacts⟩

namespace Compilation

variable (c : Compilation)

/-- The id of the service. -/
def service : ShapeId := c.symbols.service.id

/-- The artifact of a structure, found by its place in the order of ids. -/
def artifact? (shape : ShapeId) : Option Artifact :=
  bisect (fun a => a.shape.compare shape) c.artifacts

/-- The symbols of everything that the service leads to, in the order of the ids. -/
def table : Except Failure (List SymbolRow) :=
  collect c.symbols.row (sortedById (c.symbols.model.walk c.symbols.service))

/-- The compilation as a JSON object. -/
def toJson : Json := .obj [
  ("service", .str c.service.text), ("module", .str c.settings.module),
  ("publicConstrainedTypes", .bool c.settings.codegen.publicConstrainedTypes),
  ("protocol", c.protocol.toJson), ("artifacts", .arr (c.artifacts.map Artifact.toJson))]

end Compilation

end Shapesmith
