import Shapesmith.Failure
import Shapesmith.Json.Read
import Shapesmith.Json.Record

/-!
# Settings

The settings of a compilation: the service, the flags, and what is known about the module that the
generated code goes into.

* `Settings.ofJson` reads settings, either bare or out of the plugins of a build file;
* `Settings.ofText` reads them from a document; `Settings.toJson` writes them.
-/

namespace Shapesmith

/-- The flags of a compilation. -/
structure Options where
  /-- Constrained types are part of what everyone sees. -/
  publicConstrainedTypes : Bool
  /-- Constraints that cannot be carried are tolerated. -/
  ignoreUnsupportedConstraints : Bool
  /-- The protocol, where a service declares several. -/
  protocol : Option ShapeId
deriving DecidableEq, Repr

/-- The settings of a compilation. -/
structure Settings where
  /-- The service. -/
  service : ShapeId
  /-- The module that the generated code goes into. -/
  module : String
  /-- Its version. -/
  moduleVersion : String
  /-- Who works on it. -/
  moduleAuthors : List String
  /-- What it is for. -/
  moduleDescription : Option String
  /-- Where its sources are. -/
  moduleRepository : Option String
  /-- The terms under which it is given out. -/
  license : Option String
  /-- Where there are examples. -/
  examplesUri : Option String
  /-- The flags. -/
  codegen : Options
  /-- Anything else, for those who extend the tool. -/
  customizationConfig : Option Json
deriving DecidableEq, Repr

/-- The flags of a compilation unless told otherwise. -/
def Options.standard : Options := ⟨true, false, none⟩

namespace Settings

/-! ### Reading -/

/-- A shape id. -/
def asShapeId (j : Json) : Except Json.Fault ShapeId := do
  let text ← Json.asText j
  match ShapeId.parse? text with
  | some id => pure id
  | none => Json.refuse (.badShapeId text)

/-- The form of flags. -/
def optionsRecord : Json.Record Options where
  label := "struct ServerCodegenConfig"
  fields := ["publicConstrainedTypes", "ignoreUnsupportedConstraints", "protocol"]
  required := []
  start := .standard
  set o field j :=
    if field == "publicConstrainedTypes" then do
      let flag ← Json.asFlag j
      pure { o with publicConstrainedTypes := flag }
    else if field == "ignoreUnsupportedConstraints" then do
      let flag ← Json.asFlag j
      pure { o with ignoreUnsupportedConstraints := flag }
    else do
      let id ← Json.asOption asShapeId j
      pure { o with protocol := id }

/-- Settings that say nothing yet. -/
def blank : Settings := ⟨⟨"", "", none⟩, "", "", [], none, none, none, none, .standard, none⟩

/-- The settings after one more field. -/
def set (s : Settings) (field : String) (j : Json) : Except Json.Fault Settings :=
  match field with
  | "service" => do
    let id ← asShapeId j
    pure { s with service := id }
  | "module" => do
    let text ← Json.asText j
    pure { s with module := text }
  | "moduleVersion" => do
    let text ← Json.asText j
    pure { s with moduleVersion := text }
  | "moduleAuthors" => do
    let texts ← Json.asList Json.asText j
    pure { s with moduleAuthors := texts }
  | "moduleDescription" => do
    let text ← Json.asOption Json.asText j
    pure { s with moduleDescription := text }
  | "moduleRepository" => do
    let text ← Json.asOption Json.asText j
    pure { s with moduleRepository := text }
  | "license" => do
    let text ← Json.asOption Json.asText j
    pure { s with license := text }
  | "examplesUri" => do
    let text ← Json.asOption Json.asText j
    pure { s with examplesUri := text }
  | "codegen" => do
    let options ← optionsRecord.read Json.fewerInArray j
    pure { s with codegen := options }
  | _ => do
    let value ← Json.asOption .ok j
    pure { s with customizationConfig := value }

/-- The form of settings. -/
def record : Json.Record Settings where
  label := "struct ServerRustSettings"
  fields := ["service", "module", "moduleVersion", "moduleAuthors", "moduleDescription",
    "moduleRepository", "license", "examplesUri", "codegen", "customizationConfig"]
  required := ["service", "module", "moduleVersion"]
  start := blank
  set := set

/-- The place of the settings in a build file. -/
def place : List String := ["plugins", "rust-server-codegen"]

/-- The settings that a value declares, bare or in their place in a build file. -/
def ofJson (j : Json) : Except Json.Fault Settings :=
  record.read Json.fewerInArray ((j.pointer? place).getD j)

/-- The settings that a document declares. -/
def ofText (source : String) : Except Failure Settings :=
  match Json.ofText source with
  | .error f => .error (.settings f)
  | .ok j =>
    match ofJson j with
    | .error f => .error (.settings f)
    | .ok s => .ok s

/-! ### Writing -/

/-- The flags as a JSON object. -/
def optionsJson (o : Options) : Json := .obj [
  ("publicConstrainedTypes", .bool o.publicConstrainedTypes),
  ("ignoreUnsupportedConstraints", .bool o.ignoreUnsupportedConstraints),
  ("protocol", Json.optional (o.protocol.map ShapeId.text))]

/-- The settings as a JSON object. -/
def toJson (s : Settings) : Json := .obj [
  ("service", .str s.service.text), ("module", .str s.module),
  ("moduleVersion", .str s.moduleVersion), ("moduleAuthors", Json.strings s.moduleAuthors),
  ("moduleDescription", Json.optional s.moduleDescription),
  ("moduleRepository", Json.optional s.moduleRepository), ("license", Json.optional s.license),
  ("examplesUri", Json.optional s.examplesUri), ("codegen", optionsJson s.codegen),
  ("customizationConfig", Json.orNull id s.customizationConfig)]

end Settings

end Shapesmith
