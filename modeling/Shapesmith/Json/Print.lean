import Shapesmith.Json.Basic

/-!
# JSON text

* `Json.compact` writes a value without blanks;
* `Json.pretty` writes one member or item to a line, indented by two blanks for each level;
* `Json.quoted` writes a string: the quote, the backslash and control characters are escaped,
  everything else stands for itself.
-/

namespace Shapesmith.Json

/-- A hexadecimal digit in lower case. -/
def hexDigit (n : Nat) : Char := Char.ofNat (if n < 10 then 48 + n else 87 + n)

/-- A character inside a string. -/
def quotedChar (c : Char) : List Char :=
  if c = '"' then ['\\', '"']
  else if c = '\\' then ['\\', '\\']
  else if c = '\n' then ['\\', 'n']
  else if c = '\r' then ['\\', 'r']
  else if c = '\t' then ['\\', 't']
  else if c.toNat = 8 then ['\\', 'b']
  else if c.toNat = 12 then ['\\', 'f']
  else if c.toNat < 32 then ['\\', 'u', '0', '0', hexDigit (c.toNat / 16), hexDigit (c.toNat % 16)]
  else [c]

/-- A string with its quotes. -/
def quoted (text : String) : String :=
  String.ofList ('"' :: text.toList.flatMap quotedChar ++ ['"'])

mutual

/-- The text without blanks. -/
def compact : Json → String
  | .null => "null"
  | .bool true => "true"
  | .bool false => "false"
  | .num n => n.text
  | .str s => quoted s
  | .arr items => "[" ++ compactItems items ++ "]"
  | .obj fields => "\x7b" ++ compactFields fields ++ "\x7d"

/-- The items between the brackets. -/
def compactItems : List Json → String
  | [] => ""
  | [x] => compact x
  | x :: y :: rest => compact x ++ "," ++ compactItems (y :: rest)

/-- The members between the braces. -/
def compactFields : List (String × Json) → String
  | [] => ""
  | [(key, x)] => quoted key ++ ":" ++ compact x
  | (key, x) :: y :: rest => quoted key ++ ":" ++ compact x ++ "," ++ compactFields (y :: rest)

end

/-- A new line at a level of indentation. -/
def newline (level : Nat) : String := String.ofList ('\n' :: List.replicate (2 * level) ' ')

mutual

/-- The text over several lines, from a level of indentation on. -/
def prettyAt (level : Nat) : Json → String
  | .arr [] => "[]"
  | .obj [] => "\x7b\x7d"
  | .arr (x :: xs) => "[" ++ prettyItems (level + 1) (x :: xs) ++ newline level ++ "]"
  | .obj (x :: xs) => "\x7b" ++ prettyFields (level + 1) (x :: xs) ++ newline level ++ "\x7d"
  | .null => "null"
  | .bool b => if b then "true" else "false"
  | .num n => n.text
  | .str s => quoted s

/-- The items, each on its own line. -/
def prettyItems (level : Nat) : List Json → String
  | [] => ""
  | [x] => newline level ++ prettyAt level x
  | x :: y :: rest => newline level ++ prettyAt level x ++ "," ++ prettyItems level (y :: rest)

/-- The members, each on its own line. -/
def prettyFields (level : Nat) : List (String × Json) → String
  | [] => ""
  | [(key, x)] => newline level ++ quoted key ++ ": " ++ prettyAt level x
  | (key, x) :: y :: rest =>
    newline level ++ quoted key ++ ": " ++ prettyAt level x ++ "," ++ prettyFields level (y :: rest)

end

/-- The text over several lines. -/
def pretty (j : Json) : String := prettyAt 0 j

end Shapesmith.Json
