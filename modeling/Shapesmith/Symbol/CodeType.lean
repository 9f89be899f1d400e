import Shapesmith.Shape

/-!
# Types of the generated code

`CodeType` is a type as the generated code spells it out, with full paths.

* `CodeType.text` spells a type;
* `CodeType.stripped` takes the options and boxes around a type away;
* `CodeType.space?` is the module in which a generated type is declared.
-/

namespace Shapesmith

/-- A type of the generated code. -/
inductive CodeType
  | string | bool | i8 | i16 | i32 | i64 | f32 | f64 | blob | dateTime | document
  /-- A sequence of items. -/
  | vector (item : CodeType)
  /-- A table from keys to values. -/
  | table (key value : CodeType)
  /-- A value that may be absent. -/
  | option (inner : CodeType)
  /-- A value behind a pointer of its own. -/
  | boxed (inner : CodeType)
  /-- The type without values, for what cannot go wrong. -/
  | infallible
  /-- A generated type in a module. -/
  | named (space name : String)
deriving DecidableEq, Repr, Inhabited

namespace CodeType

/-- The spelling of a type. -/
def text : CodeType → String
  | .string => "::std::string::String"
  | .bool => "bool"
  | .i8 => "i8"
  | .i16 => "i16"
  | .i32 => "i32"
  | .i64 => "i64"
  | .f32 => "f32"
  | .f64 => "f64"
  | .blob => "::aws_smithy_types::Blob"
  | .dateTime => "::aws_smithy_types::DateTime"
  | .document => "::aws_smithy_types::Document"
  | .vector item => "::std::vec::Vec<" ++ item.text ++ ">"
  | .table key value => "::std::collections::HashMap<" ++ key.text ++ ", " ++ value.text ++ ">"
  | .option inner => "::std::option::Option<" ++ inner.text ++ ">"
  | .boxed inner => "::std::boxed::Box<" ++ inner.text ++ ">"
  | .infallible => "::std::convert::Infallible"
  | .named space name => space ++ "::" ++ name

/-- The value may be absent. -/
def isOption : CodeType → Bool
  | .option _ => true
  | _ => false

/-- The value is behind a pointer, perhaps inside an option. -/
def isBoxed : CodeType → Bool
  | .boxed _ => true
  | .option inner => inner.isBoxed
  | _ => false

/-- The type without the options and boxes around it. -/
def stripped : CodeType → CodeType
  | .option inner => inner.stripped
  | .boxed inner => inner.stripped
  | t => t

/-- The module in which a generated type is declared. -/
def space? (t : CodeType) : Option String :=
  match t.stripped with
  | .named space _ => some space
  | _ => none

/-- The last part of the path of a generated type; the spelling of any other type. -/
def name (t : CodeType) : String :=
  match t.stripped with
  | .named _ name => name
  | t => t.text

/-- The type of the values of a simple kind. -/
def ofSimple : Simple → CodeType
  | .blob => .blob
  | .boolean => .bool
  | .string => .string
  | .byte => .i8
  | .short => .i16
  | .integer => .i32
  | .long => .i64
  | .float => .f32
  | .double => .f64
  | .timestamp => .dateTime
  | .document => .document

@[simp] theorem stripped_option (t : CodeType) : (option t).stripped = t.stripped := rfl

@[simp] theorem stripped_boxed (t : CodeType) : (boxed t).stripped = t.stripped := rfl

/-- Nothing is left to strip. -/
theorem stripped_stripped (t : CodeType) : t.stripped.stripped = t.stripped := by
  induction t with
  | option inner ih => exact ih
  | boxed inner ih => exact ih
  | _ => rfl

end CodeType

end Shapesmith
