import Shapesmith.Model.Document
import Shapesmith.Model.Prelude

/-!
# Assembling models

A model is put together from the prelude and any number of documents. A shape may be declared
several times if it is declared in the same way each time.

* `Declaration.shapes` are the shapes of a declaration: the shape itself, then its members;
* `Model.insert` adds a shape, unless there is another one under its id;
* `Model.assemble` goes through the documents and then looks for references without a shape.
-/

namespace Shapesmith

namespace Declaration

/-- The traits of a shape. -/
def traitsOf (owner : ShapeId) (values : Table String Json) : Except Failure Traits :=
  match Traits.read owner values with
  | .ok ts => .ok ts
  | .error f => .error (.model f)

/-- The shape of a member with its name. -/
def memberShape (container : ShapeId) (declared : String × MemberDeclaration) :
    Except Failure Shape := do
  let id := container.withMember declared.1
  let target ← ShapeId.read declared.2.target
  let traits ← traitsOf id declared.2.traits
  pure ⟨id, .member target, traits⟩

/-- The input or output of an operation; the shape without content is none. -/
def inOutOf : Option String → Except Failure (Option ShapeId)
  | none => .ok none
  | some text => if text = unitId.text then .ok none else (ShapeId.read text).map some

/-- The shape itself with the members that belong to it. -/
def withMembers (id : ShapeId) (kind : List ShapeId → Kind)
    (declared : List (String × MemberDeclaration)) (traits : Table String Json) :
    Except Failure (List Shape) := do
  let members ← collect (memberShape id) declared
  let traits ← traitsOf id traits
  pure (⟨id, kind (members.map (·.id)), traits⟩ :: members)

/-- The shapes of a declaration: the shape itself, then its members in order. -/
def shapes (id : ShapeId) : Declaration → Except Failure (List Shape)
  | .simple type traits => withMembers id (fun _ => .simple type) [] traits
  | .list member traits =>
    withMembers id (fun _ => .list (id.withMember "member")) [("member", member)] traits
  | .map key value traits =>
    withMembers id (fun _ => .map (id.withMember "key") (id.withMember "value"))
      [("key", key), ("value", value)] traits
  | .struct members traits => withMembers id .struct members traits
  | .union members traits => withMembers id .union members traits
  | .operation input output errors traits => do
    let input ← inOutOf input
    let output ← inOutOf output
    let errors ← collect ShapeId.read errors
    withMembers id (fun _ => .operation input output errors) [] traits
  | .service version operations traits => do
    let operations ← collect ShapeId.read operations
    withMembers id (fun _ => .service version operations) [] traits

end Declaration

namespace Model

/-- Adds a shape to shapes in the order of their ids. A shape with its id must have the same
definition. -/
def insert : List Shape → Shape → Except Failure (List Shape)
  | [], s => .ok [s]
  | t :: rest, s =>
    match s.id.compare t.id with
    | .lt => .ok (s :: t :: rest)
    | .eq => if Shape.same t s then .ok (t :: rest) else .error (.shapeConflict s.id)
    | .gt => (insert rest s).map (t :: ·)

/-- Adds several shapes. -/
def insertAll : List Shape → List Shape → Except Failure (List Shape)
  | shapes, [] => .ok shapes
  | shapes, s :: rest => do
    let shapes ← insert shapes s
    insertAll shapes rest

/-- Adds what the declarations of a document declare. -/
def addDeclarations : List Shape → List (String × Declaration) → Except Failure (List Shape)
  | shapes, [] => .ok shapes
  | shapes, (text, d) :: rest => do
    let id ← ShapeId.read text
    let shapes ← insertAll shapes (← d.shapes id)
    addDeclarations shapes rest

/-- A reference of a shape that leads nowhere. -/
def dangling? (shapes : List Shape) (s : Shape) : Option ShapeId :=
  s.references.find? fun id => !(shapes.any fun t => t.id = id)

/-- The model of some shapes, if each of their references leads to one. -/
def close (shapes : List Shape) : Except Failure Model :=
  match shapes.findSome? fun s => (dangling? shapes s).map fun id => (id, s.id) with
  | some (missing, by_) => .error (.noShape missing by_)
  | none => .ok ⟨shapes⟩

/-- Adds the documents of some texts, each read when the ones before have been added. -/
def addSources : List Shape → List String → Except Failure (List Shape)
  | shapes, [] => .ok shapes
  | shapes, source :: rest => do
    let document ← (match Document.ofText source with
      | .ok d => .ok d
      | .error f => .error (.model f))
    let shapes ← addDeclarations shapes document.shapes
    addSources shapes rest

/-- The model of the prelude and the documents of some texts. -/
def assemble (sources : List String) : Except Failure Model := do
  let shapes ← insertAll [] Model.prelude
  let shapes ← addSources shapes sources
  close shapes

end Model

end Shapesmith
