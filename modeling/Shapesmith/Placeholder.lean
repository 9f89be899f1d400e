import Shapesmith.Compilation

/-!
# Stand-ins

A model can be looked at before it has a service or a protocol: stand-ins take their places. A
compilation never uses them.

* `Model.firstService` is the first service of a model, or an empty one;
* `Placeholder.protocol` stands for a protocol, and `Placeholder.registry` knows it besides the
  standard ones;
* `Placeholder.loaded` is the protocol of a model's service, `Placeholder.rendered` the artifact of
  a structure.
-/

namespace Shapesmith

namespace Placeholder

/-- The service of a model without services. -/
def service : Shape := ⟨⟨"test", "Service", none⟩, .service "test" [], []⟩

/-- The protocol of a service that does not decide on one. -/
def protocol : Protocol :=
  Registry.protocol "test" "Protocol" .httpBinding "application/json" Registry.errorHeader

/-- The standard protocols and the stand-in. -/
def registry : Registry := Registry.standard.register protocol

end Placeholder

/-- The first service of a model, or an empty one. -/
def Model.firstService (m : Model) : Shape := (m.services.head?).getD Placeholder.service

namespace Placeholder

/-- The protocol that a service is served with, or the stand-in. -/
def protocolFor (service : Shape) (wanted : Option ShapeId) : Protocol :=
  match registry.resolve service wanted with
  | .ok p => p
  | .error _ => protocol

/-- The symbols of a model for a service. -/
def symbols (m : Model) (service : Shape) (options : Options) : Except Failure Symbols :=
  Symbols.ofModel m service (.server options.publicConstrainedTypes)
    options.ignoreUnsupportedConstraints

/-- The symbol of the exception by which a protocol reports violations. -/
def exceptionSymbol (y : Symbols) (p : Protocol) : Except Failure Symbol :=
  match y.model.find? p.validationException with
  | some s => y.surface s
  | none => .error (.noShape p.validationException p.id)

/-- The protocol of the first service of a model, with the symbol of its exception. -/
def loaded (m : Model) : Except Failure (Protocol × Symbol) := do
  let p := protocolFor m.firstService none
  let y ← symbols m m.firstService .standard
  let symbol ← exceptionSymbol y p
  pure (p, symbol)

/-- The artifact of a structure, under the protocol that is asked for if the service declares
it. -/
def rendered (y : Symbols) (wanted : ShapeId) (s : Shape) : Except Failure Artifact :=
  y.artifact (protocolFor y.service (some wanted)) s

end Placeholder

end Shapesmith
