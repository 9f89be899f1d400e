/-!
# Shape ids

A shape id is `namespace#Name`, or `namespace#Name$member` for a member of the shape.

* `ShapeId.parse?` reads an id: dotted identifiers, `#`, an identifier, and perhaps `$` and one
  more identifier;
* `ShapeId.text` writes it; `withMember` takes any text as the name of a member;
* ids are ordered by namespace, then name, then member, an id without a member first.
-/

namespace Shapesmith

/-- An absolute shape id. -/
structure ShapeId where
  /-- The namespace, dots included. -/
  space : String
  /-- The name of the shape. -/
  name : String
  /-- The name of a member of the shape. -/
  member : Option String
deriving DecidableEq, Repr, Inhabited

namespace ShapeId

/-- A letter or an underscore. -/
def isHead (c : Char) : Bool := c.isAlpha || c == '_'

/-- A letter, a digit or an underscore. -/
def isTail (c : Char) : Bool := c.isAlphanum || c == '_'

/-- The text is an identifier. -/
def isIdentifier : List Char → Bool
  | [] => false
  | c :: rest => isHead c && rest.all isTail

/-- The text before and after the first `mark`. -/
def cut? (mark : Char) : List Char → Option (List Char × List Char)
  | [] => none
  | c :: rest =>
    if c = mark then some ([], rest) else (cut? mark rest).map fun p => (c :: p.1, p.2)

/-- The pieces of a text between the `mark`s. -/
def pieces (mark : Char) : List Char → List (List Char)
  | [] => [[]]
  | c :: rest =>
    if c = mark then [] :: pieces mark rest
    else
      match pieces mark rest with
      | [] => [[c]]
      | p :: ps => (c :: p) :: ps

/-- The text is a namespace: identifiers with dots between them. -/
def isNamespace (text : List Char) : Bool := (pieces '.' text).all isIdentifier

/-- The name and the member in the text behind the namespace. -/
def splitMember (text : List Char) : List Char × Option (List Char) :=
  match cut? '$' text with
  | some (name, member) => (name, some member)
  | none => (text, none)

/-- The id that a text spells. -/
def parse? (text : String) : Option ShapeId :=
  match cut? '#' text.toList with
  | none => none
  | some (space, rest) =>
    let (name, member) := splitMember rest
    if isNamespace space && isIdentifier name && member.all isIdentifier then
      some ⟨.ofList space, .ofList name, member.map .ofList⟩
    else none

/-- The text of an id. -/
def text (id : ShapeId) : String :=
  match id.member with
  | none => id.space ++ "#" ++ id.name
  | some m => id.space ++ "#" ++ id.name ++ "$" ++ m

/-- The id of a member of the shape. -/
def withMember (id : ShapeId) (member : String) : ShapeId := { id with member := some member }

/-- The id of the shape that a member belongs to. -/
def withoutMember (id : ShapeId) : ShapeId := { id with member := none }

/-- The order of members, none first. -/
def compareMember : Option String → Option String → Ordering
  | none, none => .eq
  | none, some _ => .lt
  | some _, none => .gt
  | some a, some b => compare a b

/-- The order of ids. -/
protected def compare (a b : ShapeId) : Ordering :=
  (compare a.space b.space).then
    ((compare a.name b.name).then (compareMember a.member b.member))

instance : Ord ShapeId := ⟨ShapeId.compare⟩

/-- The id comes before the other. -/
def before (a b : ShapeId) : Bool := a.compare b == .lt

/-- The member that the id names, or else the shape. -/
def lastName (id : ShapeId) : String := id.member.getD id.name

@[simp] theorem withoutMember_withMember (id : ShapeId) (m : String) :
    (id.withMember m).withoutMember = id.withoutMember := rfl

@[simp] theorem member_withMember (id : ShapeId) (m : String) :
    (id.withMember m).member = some m := rfl

end ShapeId

end Shapesmith
