import Shapesmith.Unicode.Category
import Shapesmith.Unicode.Case

/-!
# Names in snake case and in camel case

A text is cut into words at every character that is neither alphabetic nor a number, after a
lower-case letter that an upper-case one follows, and before the last upper-case letter of a run
that a lower-case one follows. A caseless character never makes a cut and keeps the case that its
word had before it.

* `words` is the list of words;
* `snakeCase` lowers them and joins them by underscores;
* `camelCase` capitalises each and joins them.
-/

namespace Shapesmith.Text

open Unicode

/-- The case of the last cased character of a word so far. -/
inductive Mode
  | none | lower | upper
deriving DecidableEq, Repr

/-- The runs of alphanumeric characters of a text, empty ones included. -/
def runs : List Char → List (List Char)
  | [] => [[]]
  | c :: rest =>
    if isAlphanumeric c then
      match runs rest with
      | [] => [[c]]
      | r :: rs => (c :: r) :: rs
    else [] :: runs rest

/-- The case of a word after one more character. -/
def Mode.after (m : Mode) (c : Char) : Mode :=
  if isLowercase c then .lower else if isUppercase c then .upper else m

/-- Cuts a run into words; `word` holds the current one backwards. -/
def cut : Mode → List Char → List Char → List (List Char)
  | _, _, [] => []
  | _, word, [c] => [(c :: word).reverse]
  | m, word, c :: next :: rest =>
    if m.after c = .lower ∧ isUppercase next then
      (c :: word).reverse :: cut .none [] (next :: rest)
    else if m = .upper ∧ isUppercase c ∧ isLowercase next then
      word.reverse :: cut .none [c] (next :: rest)
    else cut (m.after c) (c :: word) (next :: rest)

/-- The words of a text. -/
def words (text : String) : List (List Char) := (runs text.toList).flatMap (cut .none [])

/-- A word in lower case; a capital sigma at its end becomes the final small one. -/
def lowerWord : List Char → List Char
  | [] => []
  | ['Σ'] => ['ς']
  | c :: rest => lower c ++ lowerWord rest

/-- A word with its first character in upper case and the rest in lower case. -/
def capitalWord : List Char → List Char
  | [] => []
  | c :: rest => upper c ++ lowerWord rest

/-- The name in snake case: `HTTPServer2x` becomes `http_server2x`. -/
def snakeCase (text : String) : String :=
  String.ofList (['_'].intercalate ((words text).map lowerWord))

/-- The name in camel case with a capital: `http_server` becomes `HttpServer`. -/
def camelCase (text : String) : String :=
  String.ofList ((words text).flatMap capitalWord)

end Shapesmith.Text
