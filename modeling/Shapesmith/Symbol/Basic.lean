import Shapesmith.Json.Print
import Shapesmith.Symbol.CodeType

/-!
# Symbols

A symbol is a type of the generated code with what its users have to know: who may see it, and
which default a value of it takes.

* `Symbol.toJson` describes a symbol; `Symbol.detailed` adds what follows from its type.
-/

namespace Shapesmith

/-- Who may see a type or a function of the generated code. -/
inductive Visibility
  /-- Everyone. -/
  | exported
  /-- The generated code itself. -/
  | hidden
deriving DecidableEq, Repr

/-- The word for a visibility. -/
def Visibility.word : Visibility → String
  | .exported => "public"
  | .hidden => "pubCrate"

/-- A type with its visibility and the default of its values. -/
structure Symbol where
  /-- The type. -/
  type : CodeType
  /-- Who may see it. -/
  visibility : Visibility
  /-- The value of a member that is not given. -/
  default : Option Json
deriving DecidableEq, Repr

namespace Symbol

/-- A type that everyone may see, without a default. -/
def exported (type : CodeType) : Symbol := ⟨type, .exported, none⟩

/-- The default as a JSON object; a value is given as its text. -/
def defaultJson : Option Json → Json
  | none => .obj [("kind", .str "none")]
  | some value => .obj [("kind", .str "literal"), ("value", .str value.compact)]

/-- The symbol as JSON members. -/
def fields (s : Symbol) : List (String × Json) :=
  [("rustType", .str s.type.text), ("visibility", .str s.visibility.word),
    ("default", defaultJson s.default)]

/-- The symbol as a JSON object. -/
def toJson (s : Symbol) : Json := .obj s.fields

/-- The symbol with what follows from its type. -/
def detailed (s : Symbol) : Json :=
  .obj (s.fields ++ [("name", .str s.type.name), ("optional", .bool s.type.isOption),
    ("boxed", .bool s.type.isBoxed)])

end Symbol

end Shapesmith
