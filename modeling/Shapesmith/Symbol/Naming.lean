import Shapesmith.Shape
import Shapesmith.Text.Words

/-!
# Names in the generated code

* `escaped` keeps a name from being a keyword;
* `Shape.fieldName` is the name of a member's field and setter, `Shape.camelName` and
  `Shape.snakeName` are the name of a shape as a type and as a module;
* `Place` lists the modules in which generated types are declared.
-/

namespace Shapesmith

/-- The keywords of the generated code. -/
def keywords : List String := [
  "as", "async", "await", "break", "const", "continue", "crate", "dyn", "else", "enum", "extern",
  "false", "fn", "for", "gen", "if", "impl", "in", "let", "loop", "match", "mod", "move", "mut",
  "pub", "ref", "return", "self", "static", "struct", "super", "trait", "true", "type", "unsafe",
  "use", "where", "while", "yield"]

/-- The keywords that stay keywords behind the mark `r#`. -/
def pathKeywords : List String := ["self", "super", "crate"]

/-- The mark before a keyword that is used as a name. -/
def rawMark : String := "r#"

/-- A name that is not a keyword. -/
def escaped (name : String) : String :=
  if pathKeywords.contains name then name ++ "_"
  else if keywords.contains name then rawMark ++ name
  else name

/-- The name of the field and the setter of a member. -/
def Shape.fieldName (member : Shape) : String := escaped (Text.snakeCase member.memberName)

/-- The name of a shape as a type. -/
def Shape.camelName (s : Shape) : String := Text.camelCase s.id.name

/-- The name of a shape as a module. -/
def Shape.snakeName (s : Shape) : String := Text.snakeCase s.id.name

/-- A path one step longer. -/
def Text.joined (path step : String) : String := path ++ "::" ++ step

/-- A module in which generated types are declared. -/
inductive Place
  | root | model | input | output | error | operation | constrained | unconstrained
deriving DecidableEq, Repr

/-- The path of a module. -/
def Place.path : Place → String
  | .root => "crate"
  | .model => "crate::model"
  | .input => "crate::input"
  | .output => "crate::output"
  | .error => "crate::error"
  | .operation => "crate::operation"
  | .constrained => "crate::constrained"
  | .unconstrained => "crate::unconstrained"

end Shapesmith
