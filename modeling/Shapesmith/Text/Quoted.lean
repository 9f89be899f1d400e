import Shapesmith.Unicode.Category

/-!
# Texts quoted in messages

* `quotedForReader` puts a text between double quotes for a message: quotes, backslashes, line
  ends and tabs are escaped by a letter, and characters that do not show on their own by their
  code point.
-/

namespace Shapesmith.Text

/-- A character inside a quoted text. -/
def escapedChar (c : Char) : List Char :=
  if c = '\x00' then ['\\', '0']
  else if c = '\t' then ['\\', 't']
  else if c = '\r' then ['\\', 'r']
  else if c = '\n' then ['\\', 'n']
  else if c = '"' then ['\\', '"']
  else if c = '\\' then ['\\', '\\']
  else if Unicode.isExtending c || !Unicode.isPrintable c then
    ['\\', 'u', '\x7b'] ++ Nat.toDigits 16 c.toNat ++ ['\x7d']
  else [c]

/-- A text between double quotes, with what does not show on its own escaped. -/
def quotedForReader (text : String) : String :=
  String.ofList ('"' :: text.toList.flatMap escapedChar ++ ['"'])

end Shapesmith.Text
