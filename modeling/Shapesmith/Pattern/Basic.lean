import Shapesmith.Pattern.Class

/-!
# Matching

A pattern matches a text if it matches some part of it.

* `Regex` is a pattern; `Regex.nullable` says whether it matches the empty text between two
  characters, and `Regex.after` what is left of it once it has taken one;
* `Regex.matches` follows all that can be left of the pattern through the text.
-/

namespace Shapesmith

/-- A condition on the place between two characters. -/
inductive Assertion
  | textStart | textEnd
  | lineStart | lineEnd
  | crlfStart | crlfEnd
  | boundary (ascii : Bool) | noBoundary (ascii : Bool)
  | wordStart (ascii : Bool) | wordEnd (ascii : Bool)
  | wordStartHalf (ascii : Bool) | wordEndHalf (ascii : Bool)
deriving DecidableEq, Repr

/-- The character belongs to a word; there is none at the ends of the text. -/
def wordAt (ascii : Bool) : Option Char → Bool
  | none => false
  | some c => if ascii then c.isAlphanum || c == '_' else Unicode.isWord c

/-- Whether a condition holds between two characters. -/
def Assertion.holds (before after : Option Char) : Assertion → Bool
  | .textStart => before.isNone
  | .textEnd => after.isNone
  | .lineStart => before.isNone || before == some '\n'
  | .lineEnd => after.isNone || after == some '\n'
  | .crlfStart =>
    before.isNone || before == some '\n' || (before == some '\r' && after != some '\n')
  | .crlfEnd =>
    after.isNone || after == some '\r' || (after == some '\n' && before != some '\r')
  | .boundary ascii => wordAt ascii before != wordAt ascii after
  | .noBoundary ascii => wordAt ascii before == wordAt ascii after
  | .wordStart ascii => !wordAt ascii before && wordAt ascii after
  | .wordEnd ascii => wordAt ascii before && !wordAt ascii after
  | .wordStartHalf ascii => !wordAt ascii before
  | .wordEndHalf ascii => !wordAt ascii after

/-- A pattern. -/
inductive Regex
  /-- The empty text. -/
  | empty
  /-- A text as it stands. -/
  | text (chars : List Char)
  /-- One character of a class. -/
  | one (chars : CharClass)
  /-- The empty text where a condition holds. -/
  | assert (condition : Assertion)
  /-- One pattern and then the other. -/
  | seq (a b : Regex)
  /-- One pattern or the other. -/
  | alt (a b : Regex)
  /-- A pattern at least and at most so many times, of which a reluctant one prefers fewer. -/
  | repeated (r : Regex) (least : Nat) (most : Option Nat) (reluctant : Bool)
  /-- A pattern whose match is captured under a number. -/
  | group (number : Nat) (r : Regex)
deriving DecidableEq, Repr

namespace Regex

/-- The pattern matches the empty text between two characters. -/
def nullable (before after : Option Char) : Regex → Bool
  | .empty => true
  | .text chars => chars.isEmpty
  | .one _ => false
  | .assert a => a.holds before after
  | .seq a b => a.nullable before after && b.nullable before after
  | .alt a b => a.nullable before after || b.nullable before after
  | .repeated r least _ _ => least == 0 || r.nullable before after
  | .group _ r => r.nullable before after

/-- The pattern of a text. -/
def ofText : List Char → Regex
  | [] => .empty
  | chars => .text chars

/-- One pattern and then the other, without an empty first one. -/
def andThen : Regex → Regex → Regex
  | .empty, b => b
  | a, b => .seq a b

/-- What can be left of the pattern after it has taken `c`, which stands behind `before`. -/
def after (before : Option Char) (c : Char) : Regex → List Regex
  | .empty | .assert _ | .text [] => []
  | .text (d :: rest) => if d = c then [ofText rest] else []
  | .one chars => if chars.has c.toNat then [.empty] else []
  | .seq a b =>
    (after before c a).map (·.andThen b) ++
      (if a.nullable before (some c) then after before c b else [])
  | .alt a b => after before c a ++ after before c b
  | .repeated r least most reluctant =>
    if most = some 0 then []
    else
      let least := if r.nullable before (some c) then 0 else least - 1
      (after before c r).map (·.andThen (.repeated r least (most.map (· - 1)) reluctant))
  | .group _ r => after before c r

/-- Whether one of `left`, or the whole pattern from here or from further on, matches. -/
def search (whole : Regex) : Option Char → List Regex → List Char → Bool
  | before, left, [] => (whole :: left).any (·.nullable before none)
  | before, left, c :: rest =>
    let all := whole :: left
    all.any (·.nullable before (some c)) ||
      search whole (some c) (all.flatMap (after before c)).eraseDups rest

/-- Whether the pattern matches some part of a text. -/
def isMatch (r : Regex) (text : String) : Bool := r.search none [] text.toList

end Regex

end Shapesmith
