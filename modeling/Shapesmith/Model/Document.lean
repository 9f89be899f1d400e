import Shapesmith.Json.Read
import Shapesmith.Json.Record
import Shapesmith.Shape

/-!
# Documents of a model

A document declares shapes by their ids. It is read from front to back: the first thing that is
wrong, in its text or in its form, decides the refusal.

* `Declaration` is a shape as it is declared, its targets still being texts;
* `Document.ofText` reads a document;
* a declaration is read as a whole before its form is looked at, except for its `type`.
-/

namespace Shapesmith

/-- A member as it is declared. -/
structure MemberDeclaration where
  /-- The text of the target's id. -/
  target : String
  /-- The values of the traits. -/
  traits : Table String Json

/-- A shape as it is declared. -/
inductive Declaration
  | simple (type : Simple) (traits : Table String Json)
  | list (member : MemberDeclaration) (traits : Table String Json)
  | map (key value : MemberDeclaration) (traits : Table String Json)
  | struct (members : Table String MemberDeclaration) (traits : Table String Json)
  | union (members : Table String MemberDeclaration) (traits : Table String Json)
  | operation (input output : Option String) (errors : List String) (traits : Table String Json)
  | service (version : String) (operations : List String) (traits : Table String Json)

/-- A document: its version and the shapes that it declares. -/
structure Document where
  /-- The version of the format. -/
  version : String
  /-- The declarations by the texts of their ids. -/
  shapes : Table String Declaration

namespace Declaration

open Json

/-! ### Parts of declarations -/

/-- The values of traits. -/
def readTraits : Json → Except Fault (Table String Json) := asTable fun j => .ok j.unique

/-- The form of a member. -/
def memberRecord : Record (Option String × Table String Json) where
  label := "struct AstMember"
  fields := ["target", "traits"]
  required := ["target"]
  start := (none, [])
  set s field j :=
    if field == "target" then (asText j).map fun t => (some t, s.2)
    else (readTraits j).map fun ts => (s.1, ts)

/-- A member. -/
def readMember (j : Json) : Except Fault MemberDeclaration :=
  (memberRecord.read countInSequence j).map fun s => ⟨s.1.getD "", s.2⟩

/-- The form of a reference. -/
def targetRecord : Record (Option String) where
  label := "struct AstTarget"
  fields := ["target"]
  required := ["target"]
  start := none
  set _ _ j := (asText j).map some

/-- A reference. -/
def readTarget (j : Json) : Except Fault String :=
  (targetRecord.read countInSequence j).map fun s => s.getD ""

/-! ### The forms of declarations -/

/-- What declarations of all kinds can hold. -/
structure Parts where
  /-- The member of a list, or the key of a map. -/
  first : Option MemberDeclaration := none
  /-- The value of a map. -/
  second : Option MemberDeclaration := none
  /-- The members of a structure or a union. -/
  members : Table String MemberDeclaration := []
  /-- The input of an operation. -/
  input : Option String := none
  /-- The output of an operation. -/
  output : Option String := none
  /-- The errors of an operation, or the operations of a service. -/
  targets : List String := []
  /-- The version of a service. -/
  version : String := ""
  /-- The values of the traits. -/
  traits : Table String Json := []

/-- Adds a field to the parts of a declaration. -/
def Parts.set (p : Parts) (field : String) (j : Json) : Except Fault Parts :=
  if field == "member" || field == "key" then
    (readMember j).map fun m => { p with first := some m }
  else if field == "value" then (readMember j).map fun m => { p with second := some m }
  else if field == "members" then
    (asTable readMember j).map fun ms => { p with members := ms }
  else if field == "input" then
    (asOption readTarget j).map fun t => { p with input := t }
  else if field == "output" then
    (asOption readTarget j).map fun t => { p with output := t }
  else if field == "errors" || field == "operations" then
    (asList readTarget j).map fun ts => { p with targets := ts }
  else if field == "version" then (asText j).map fun v => { p with version := v }
  else (readTraits j).map fun ts => { p with traits := ts }

/-- The form of a declaration with some fields. -/
def form (label : String) (fields required : List String) : Record Parts where
  label
  fields
  required
  start := {}
  set p field j := p.set field j

/-- The words for the types of declarations, in order. -/
def typeWords : List String :=
  Simple.all.map Simple.word ++ ["list", "map", "structure", "union", "operation", "service"]

/-- The declaration of a type with some parts. -/
def ofParts (type : String) (p : Parts) : Declaration :=
  let first := p.first.getD ⟨"", []⟩
  match Simple.all.find? fun t => t.word == type with
  | some t => .simple t p.traits
  | none =>
    if type == "list" then .list first p.traits
    else if type == "map" then .map first (p.second.getD ⟨"", []⟩) p.traits
    else if type == "structure" then .struct p.members p.traits
    else if type == "union" then .union p.members p.traits
    else if type == "operation" then .operation p.input p.output p.targets p.traits
    else .service p.version p.targets p.traits

/-- The form of declarations of a type. -/
def formOf (type : String) : Record Parts :=
  if type == "list" then
    form "struct variant AstShape::List" ["member", "traits"] ["member"]
  else if type == "map" then
    form "struct variant AstShape::Map" ["key", "value", "traits"] ["key", "value"]
  else if type == "structure" || type == "union" then
    form "struct AstAggregate" ["members", "traits"] []
  else if type == "operation" then
    form "struct variant AstShape::Operation" ["input", "output", "errors", "traits"] []
  else if type == "service" then
    form "struct variant AstShape::Service" ["version", "operations", "traits"] []
  else form "struct AstSimple" ["traits"] []

/-- The declaration of a type whose other fields a value holds. Its faults do not say where in the
value they were met. -/
def ofContent (type : String) (content : Json) : Except Fault Declaration :=
  match (formOf type).read countInSequence content with
  | .ok p => .ok (ofParts type p)
  | .error f => refuse f.cause

/-! ### Reading declarations -/

/-- Reads the type of a declaration. -/
def readType (text : List Char) : Except Fault (String × List Char) :=
  match skipBlank text with
  | '"' :: rest => do
    let (word, rest) ← readString [] rest
    if typeWords.contains word then pure (word, rest) else refuse (.unknownWord word typeWords)
  | _ => refuseNext "variant identifier" text

/-- Reads the members of a declaration; `done` holds those before backwards, without the type. -/
def readObject : Nat → Nat → Bool → Option String → List (String × Json) → List Char →
    Except Fault (Declaration × List Char)
  | 0, _, _, _, _, _ => malformed .objectEnds
  | fuel + 1, depth, first, type, done, text => do
    let (key, rest) ← readKey first text
    match key with
    | none =>
      match type with
      | none => refuse (.missing "type")
      | some type =>
        let d ← ofContent type (.obj done.reverse)
        pure (d, rest)
    | some key =>
      if key == "type" then
        if type.isSome then refuse (.duplicate "type")
        let rest ← readColon rest
        let (word, rest) ← under (.key key) (readType rest)
        readObject fuel depth false (some word) done rest
      else
        let rest ← readColon rest
        let (value, rest) ← under (.key key) (readWhole depth rest)
        readObject fuel depth false type ((key, value) :: done) rest

/-- Reads a declaration inside at most `depth` lists and objects. -/
def read (depth : Nat) (text : List Char) : Except Fault (Declaration × List Char) :=
  match skipBlank text with
  | '{' :: rest =>
    if depth ≤ 1 then malformed .tooDeep
    else readObject (rest.length + 1) (depth - 1) true none [] rest
  | '[' :: rest =>
    if depth ≤ 1 then malformed .tooDeep
    else do
      let (more, rest) ← nextItem true rest
      if !more then refuse (.missing "type")
      let (word, rest) ← under (.index 0) (readType rest)
      let (content, rest) ← readItems (2 * rest.length + 2) (depth - 1) 1 [] rest
      let d ← ofContent word content
      pure (d, rest)
  | _ => refuseNext "internally tagged enum AstShape" text

/-- Reads the declarations of a document; `done` holds those before. -/
def readAll : Nat → Nat → Bool → Table String Declaration → List Char →
    Except Fault (Table String Declaration × List Char)
  | 0, _, _, _, _ => malformed .objectEnds
  | fuel + 1, depth, first, done, text => do
    let (key, rest) ← readKey first text
    match key with
    | none => pure (done, rest)
    | some key =>
      let rest ← readColon rest
      let (d, rest) ← under (.key key) (read depth rest)
      readAll fuel depth false (done.put key d) rest

end Declaration

namespace Document

open Json

/-- The form of a document in messages. -/
def label : String := "struct AstModel"

/-- Reads the version of a document. -/
def readVersion (text : List Char) : Except Fault (String × List Char) :=
  match skipBlank text with
  | '"' :: rest => readString [] rest
  | _ => refuseNext "a string" text

/-- Reads the table of declarations. -/
def readShapes (depth : Nat) (text : List Char) :
    Except Fault (Table String Declaration × List Char) :=
  match skipBlank text with
  | '{' :: rest => Declaration.readAll (rest.length + 1) (depth - 1) true [] rest
  | _ => refuseNext "a map" text

/-- Reads the members of a document. -/
def readMembers : Nat → Nat → Bool → Option String → Option (Table String Declaration) →
    List Char → Except Fault Document
  | 0, _, _, _, _, _ => malformed .objectEnds
  | fuel + 1, depth, first, version, shapes, text => do
    let (key, rest) ← readKey first text
    match key with
    | none =>
      match version with
      | none => refuse (.missing "smithy")
      | some version => pure ⟨version, shapes.getD []⟩
    | some key =>
      if key == "smithy" then
        if version.isSome then refuse (.duplicate key)
        let rest ← readColon rest
        let (v, rest) ← under (.key key) (readVersion rest)
        readMembers fuel depth false (some v) shapes rest
      else if key == "shapes" then
        if shapes.isSome then refuse (.duplicate key)
        let rest ← readColon rest
        let (ds, rest) ← under (.key key) (readShapes depth rest)
        readMembers fuel depth false version (some ds) rest
      else
        let rest ← readColon rest
        let (_, rest) ← under (.key key) (skipValue rest)
        readMembers fuel depth false version shapes rest

/-- Reads the end of a list that holds all it may. -/
def readListEnd (text : List Char) : Except Fault Unit :=
  match skipBlank text with
  | [] => malformed .listEnds
  | ']' :: _ => pure ()
  | ',' :: rest =>
    match skipBlank rest with
    | ']' :: _ => malformed .commaAtEnd
    | _ => malformed .moreItems
  | _ => malformed .moreItems

/-- Reads the items of a document that is given as a list. -/
def readList (depth : Nat) (text : List Char) : Except Fault Document := do
  let (more, rest) ← nextItem true text
  if !more then refuse (.wrongLength 0 (label ++ " with 2 elements"))
  let (version, rest) ← under (.index 0) (readVersion rest)
  let (more, rest) ← nextItem false rest
  if !more then pure ⟨version, []⟩
  else
    let (shapes, rest) ← under (.index 1) (readShapes depth rest)
    readListEnd rest
    pure ⟨version, shapes⟩

/-- The document that a text begins with. -/
def ofText (source : String) : Except Fault Document :=
  let text := source.toList
  match skipBlank text with
  | '{' :: rest => readMembers (rest.length + 1) (depthLimit - 1) true none none rest
  | '[' :: rest => readList (depthLimit - 1) rest
  | _ => refuseNext label text

end Document

end Shapesmith
