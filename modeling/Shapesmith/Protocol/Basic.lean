import Shapesmith.Constraint.Violation
import Shapesmith.Model.Basic

/-!
# Protocols

A protocol says how a server answers over the wire, and in particular how it reports violations.

* `Protocol.failure` is the answer that reports violations: a document with their wording, and the
  name of the exception in a header or in the document;
* `Protocol.toJson` and `ErrorResponse.toJson` describe both.
-/

namespace Shapesmith

/-- How operations are told apart. -/
inductive Framing
  /-- By routes; members are bound to parts of requests and responses. -/
  | httpBinding
  /-- By name; all of them share one address. -/
  | rpc
deriving DecidableEq, Repr

/-- The word for a framing. -/
def Framing.word : Framing → String
  | .httpBinding => "httpBinding"
  | .rpc => "rpc"

/-- Where an answer names its exception. -/
inductive ErrorTypeLocation
  /-- In a header. -/
  | header (name : String)
  /-- In a member of the document. -/
  | body (key : String)
deriving DecidableEq, Repr

/-- The location as a JSON object. -/
def ErrorTypeLocation.toJson : ErrorTypeLocation → Json
  | .header name => .obj [("in", .str "header"), ("name", .str name)]
  | .body key => .obj [("in", .str "body"), ("name", .str key)]

/-- A protocol. -/
structure Protocol where
  /-- The trait by which a service declares it. -/
  id : ShapeId
  /-- How operations are told apart. -/
  framing : Framing
  /-- The content type of documents. -/
  contentType : String
  /-- Where an answer names its exception. -/
  errorTypeLocation : ErrorTypeLocation
  /-- The exception that reports violations. -/
  validationException : ShapeId
deriving DecidableEq, Repr

/-- An answer that reports an exception. -/
structure ErrorResponse where
  /-- The status. -/
  status : Nat
  /-- The name of the exception. -/
  errorType : String
  /-- The headers. -/
  headers : Table String String
  /-- The document. -/
  document : Json
deriving DecidableEq, Repr

/-- The answer as a JSON object. -/
def ErrorResponse.toJson (r : ErrorResponse) : Json := .obj [
  ("status", .nat r.status), ("errorType", .str r.errorType),
  ("headers", .obj (r.headers.map fun e => (e.1, .str e.2))), ("document", r.document)]

/-- The content of an answer that reports violations. -/
structure Report where
  /-- The status. -/
  status : Nat
  /-- The document. -/
  document : Json
deriving DecidableEq, Repr

/-- The status of answers that report violations. -/
def Report.badRequest : Nat := 400

/-- The entry for one violation in a report. -/
def Report.entry (v : Violation) : Json :=
  .obj [("path", .str v.path), ("message", .str v.text)]

/-- The report of violations: a summary and an entry for each. -/
def Report.of (vs : Violations) : Report where
  status := badRequest
  document := .obj [("message", .str (Violations.message vs)), ("fieldList", .arr (vs.map entry))]

namespace Protocol

/-- The header for the content type. -/
def contentTypeHeader : String := "Content-Type"

/-- The protocol as a JSON object. -/
def toJson (p : Protocol) : Json := .obj [
  ("id", .str p.id.text), ("framing", .str p.framing.word), ("contentType", .str p.contentType),
  ("errorTypeLocation", p.errorTypeLocation.toJson),
  ("validationException", .str p.validationException.text)]

/-- The answer that gives a report. -/
def answer (p : Protocol) (report : Report) : ErrorResponse :=
  let errorType := p.validationException.name
  let headers := [(contentTypeHeader, p.contentType)]
  match p.errorTypeLocation with
  | .header name => ⟨report.status, errorType, Table.put headers name errorType, report.document⟩
  | .body key =>
    let document := match report.document with
      | .obj fields => .obj (Table.put fields key (.str errorType))
      | j => j
    ⟨report.status, errorType, headers, document⟩

/-- The answer that reports violations. -/
def failure (p : Protocol) (vs : Violations) : ErrorResponse := p.answer (.of vs)

end Protocol

end Shapesmith
