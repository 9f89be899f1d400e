import Shapesmith.Unicode.CategoryRuns
import Shapesmith.Unicode.ScriptRuns
import Shapesmith.Unicode.PropertyRuns

/-!
# Categories, properties and scripts of code points

The tables of runs as functions on code points.

* `categoryOf` looks a code point up in its run;
* `runsWhere` lists the ranges of the runs with some labels;
* `CodeSet` is a set of code points given by categories and by the exceptions to them, and
  `CodeSet.has` its membership;
* `isAlphabetic`, `isUppercase`, `isLowercase`, `isWhite` and `isAlphanumeric` answer for
  characters, directly for ASCII and from the tables for the rest.
-/

namespace Shapesmith.Unicode

/-- The general categories. -/
inductive Category
  | lu | ll | lt | lm | lo
  | mn | mc | me
  | nd | nl | no
  | pc | pd | ps | pe | pi | pf | po
  | sm | sc | sk | so
  | zs | zl | zp
  | cc | cf | cs | co | cn
deriving DecidableEq, Repr

/-- The general categories with their two letters. -/
def Category.codes : List (String × Category) := [
  ("Lu", .lu), ("Ll", .ll), ("Lt", .lt), ("Lm", .lm), ("Lo", .lo),
  ("Mn", .mn), ("Mc", .mc), ("Me", .me),
  ("Nd", .nd), ("Nl", .nl), ("No", .no),
  ("Pc", .pc), ("Pd", .pd), ("Ps", .ps), ("Pe", .pe), ("Pi", .pi), ("Pf", .pf), ("Po", .po),
  ("Sm", .sm), ("Sc", .sc), ("Sk", .sk), ("So", .so),
  ("Zs", .zs), ("Zl", .zl), ("Zp", .zp),
  ("Cc", .cc), ("Cf", .cf), ("Cs", .cs), ("Co", .co), ("Cn", .cn)]

/-- The category that two letters name; unassigned when they name none. -/
def Category.ofCode (code : String) : Category :=
  ((Category.codes.find? fun e => e.1 == code).map (·.2)).getD .cn

/-! ### Runs -/

/-- The words of a text, between which there are blanks and ends of lines. -/
def words (text : String) : List String :=
  let step (c : Char) : List (List Char) → List (List Char)
    | [] => [[c]]
    | w :: ws => if c = ' ' || c = '\n' then [] :: w :: ws else (c :: w) :: ws
  ((text.toList.foldr step [[]]).filter fun w => !w.isEmpty).map String.ofList

/-- The value of a decimal or hexadecimal digit. -/
def digitValue (c : Char) : Nat :=
  if c.isDigit then c.toNat - '0'.toNat
  else if c.isLower then c.toNat - 'a'.toNat + 10
  else c.toNat - 'A'.toNat + 10

/-- The number that digits of a base spell. -/
def numberOf (base : Nat) (digits : List Char) : Nat :=
  digits.foldl (fun n c => n * base + digitValue c) 0

/-- Runs with the code point at which each begins. -/
def indexRuns (text : String) : Array (Nat × String) :=
  let step (acc : Nat × Array (Nat × String)) (w : String) : Nat × Array (Nat × String) :=
    let name := w.toList.takeWhile Char.isAlpha
    (acc.1 + numberOf 10 (w.toList.dropWhile Char.isAlpha),
      acc.2.push (acc.1, String.ofList name))
  ((words text).foldl step (0, #[])).2

/-- The last index from `low` on, before `high`, whose run begins at or before `n`. -/
def lastRun {α : Type} (runs : Array (Nat × α)) (n : Nat) : Nat → Nat → Nat → Nat
  | 0, low, _ => low
  | fuel + 1, low, high =>
    if high ≤ low + 1 then low
    else
      let middle := (low + high) / 2
      match runs[middle]? with
      | none => low
      | some (start, _) =>
        if start ≤ n then lastRun runs n fuel middle high else lastRun runs n fuel low middle

/-- What the run that holds `n` is labelled with. -/
def runAt {α : Type} (runs : Array (Nat × α)) (n : Nat) : Option α :=
  (runs[lastRun runs n 24 0 runs.size]?).map (·.2)

/-- The ranges of the runs whose label is one of those looked for. -/
def runsWhere {α : Type} (runs : Array (Nat × α)) (wanted : α → Bool) : List (Nat × Nat) :=
  let starts := runs.toList
  let ends := (starts.drop 1).map (·.1) ++ [0x110000]
  (starts.zip ends).filterMap fun (run, behind) =>
    if wanted run.2 then some (run.1, behind - 1) else none

/-- The ranges that a text of hexadecimal numbers and spans gives. -/
def rangesOf (text : String) : List (Nat × Nat) :=
  (words text).filterMap fun w =>
    match w.toList.span (· ≠ '-') with
    | ([], _) => none
    | (low, []) => some (numberOf 16 low, numberOf 16 low)
    | (low, _ :: high) => some (numberOf 16 low, numberOf 16 high)

/-- Whether a number lies in one of the ranges. -/
def inRanges (ranges : List (Nat × Nat)) (n : Nat) : Bool :=
  ranges.any fun r => decide (r.1 ≤ n) && decide (n ≤ r.2)

/-- The runs of the general categories. -/
def categoryIndex : Array (Nat × Category) :=
  (indexRuns categoryRuns).map fun e => (e.1, Category.ofCode e.2)

/-- The runs of the scripts. -/
def scriptIndex : Array (Nat × String) := indexRuns scriptRuns

/-- The general category of a code point. -/
def categoryOf (n : Nat) : Category := (runAt categoryIndex n).getD .cn

/-! ### Sets of code points -/

/-- Code points given by categories, save for the exceptions. -/
structure CodeSet where
  /-- The categories covered. -/
  categories : List Category
  /-- Where the categories give the wrong answer. -/
  exceptions : List (Nat × Nat)
deriving DecidableEq, Repr

/-- Membership in a set of code points. -/
def CodeSet.has (s : CodeSet) (n : Nat) : Bool :=
  (!s.categories.isEmpty && s.categories.contains (categoryOf n)) != inRanges s.exceptions n

/-- The set that a property's runs describe. -/
def CodeSet.ofRuns (p : PropertyRuns) : CodeSet where
  categories := (words p.categories).filterMap fun w =>
    if w.isEmpty then none else some (Category.ofCode w)
  exceptions := rangesOf p.exceptions

/-- The set of a property by its long name; empty for a name that there is not. -/
def CodeSet.named (name : String) : CodeSet :=
  match propertyRuns.find? fun p => p.name == name with
  | some p => .ofRuns p
  | none => ⟨[], []⟩

/-- The alphabetic code points. -/
def alphabetic : CodeSet := .named "Alphabetic"
/-- The upper-case code points. -/
def uppercase : CodeSet := .named "Uppercase"
/-- The lower-case code points. -/
def lowercase : CodeSet := .named "Lowercase"
/-- The white space. -/
def white : CodeSet := .named "White_Space"
/-- The code points that extend the character before them. -/
def extending : CodeSet := .named "Grapheme_Extend"

/-! ### Characters -/

/-- The character is alphabetic. -/
def isAlphabetic (c : Char) : Bool :=
  if c.toNat < 128 then c.isAlpha else alphabetic.has c.toNat

/-- The character is an upper-case letter or counts as one. -/
def isUppercase (c : Char) : Bool :=
  if c.toNat < 128 then c.isUpper else uppercase.has c.toNat

/-- The character is a lower-case letter or counts as one. -/
def isLowercase (c : Char) : Bool :=
  if c.toNat < 128 then c.isLower else lowercase.has c.toNat

/-- The character is white space. -/
def isWhite (c : Char) : Bool :=
  if c.toNat < 128 then decide (c = ' ' ∨ (9 ≤ c.toNat ∧ c.toNat ≤ 13)) else white.has c.toNat

/-- The character is alphabetic or a number of some kind. -/
def isAlphanumeric (c : Char) : Bool :=
  if c.toNat < 128 then c.isAlphanum
  else alphabetic.has c.toNat || [.nd, .nl, .no].contains (categoryOf c.toNat)

/-- The character belongs to a word: alphabetic, a mark, a decimal digit, connecting punctuation
or a joiner. -/
def isWord (c : Char) : Bool :=
  if c.toNat < 128 then c.isAlphanum || c == '_'
  else alphabetic.has c.toNat || [.mn, .mc, .me, .nd, .pc].contains (categoryOf c.toNat) ||
    c.toNat == 0x200c || c.toNat == 0x200d

/-- The character shows on its own: not a control, an unassigned code point or a separator other
than the blank. -/
def isPrintable (c : Char) : Bool :=
  if c.toNat < 128 then decide (32 ≤ c.toNat ∧ c.toNat < 127)
  else !([.cc, .cf, .cs, .co, .cn, .zl, .zp, .zs] : List Category).contains (categoryOf c.toNat)

/-- The character extends the one before it. -/
def isExtending (c : Char) : Bool :=
  if c.toNat < 128 then false else extending.has c.toNat

end Shapesmith.Unicode
