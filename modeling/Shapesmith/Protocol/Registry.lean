import Shapesmith.Protocol.Basic

/-!
# Which protocol a service is served with

A registry holds the protocols that are known, each under the trait by which services declare it.

* `Registry.candidates` are the known protocols that a service declares, in the order of the
  registry;
* `Registry.resolve` picks the one that is asked for, or else the only one.
-/

namespace Shapesmith

/-- Known protocols by their traits, in the order in which they were first registered. -/
abbrev Registry := Table ShapeId Protocol

namespace Registry

/-- Adds a protocol, in the place of one with its trait. -/
def register (r : Registry) (p : Protocol) : Registry := Table.put r p.id p

/-- The registry of some protocols. -/
def ofList (protocols : List Protocol) : Registry := protocols.foldl register []

/-- A protocol that reports violations by the exception of the prelude. -/
def protocol (space name : String) (framing : Framing) (contentType : String)
    (location : ErrorTypeLocation) : Protocol :=
  ⟨⟨space, name, none⟩, framing, contentType, location, validationExceptionId⟩

/-- The header in which answers name their exception. -/
def errorHeader : ErrorTypeLocation := .header "X-Amzn-Errortype"

/-- The protocols that are known from the start. -/
def standard : Registry := ofList [
  protocol "aws.protocols" "restJson1" .httpBinding "application/json" errorHeader,
  protocol "aws.protocols" "restXml" .httpBinding "application/xml" (.body "Code"),
  protocol "aws.protocols" "awsJson1_0" .rpc "application/x-amz-json-1.0" (.body "__type"),
  protocol "aws.protocols" "awsJson1_1" .rpc "application/x-amz-json-1.1" (.body "__type"),
  protocol "smithy.protocols" "rpcv2Cbor" .rpc "application/cbor" (.body "__type")]

variable (r : Registry)

/-- The traits of the protocols that are known. -/
def supported : List ShapeId := Table.keys r

/-- The known protocols that a service declares. -/
def candidates (service : Shape) : List ShapeId :=
  r.supported.filter fun id => Table.has service.traits id.text

/-- The protocol with a trait, if it is known. -/
def protocolOf (service : Shape) (id : ShapeId) : Except Failure Protocol :=
  match Table.get? r id with
  | some p => .ok p
  | none => .error (.noProtocol service.id r.supported)

/-- The protocol that a service is served with. -/
def resolve (service : Shape) (wanted : Option ShapeId) : Except Failure Protocol :=
  let candidates := r.candidates service
  match wanted, candidates with
  | some id, _ =>
    if candidates.contains id then r.protocolOf service id
    else .error (.badOverride service.id id candidates)
  | none, [] => .error (.noProtocol service.id r.supported)
  | none, [only] => r.protocolOf service only
  | none, _ => .error (.ambiguousProtocol service.id candidates)

end Registry

end Shapesmith
