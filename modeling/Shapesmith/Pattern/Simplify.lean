import Shapesmith.Pattern.Basic

/-!
# Simple patterns

Patterns are simplified while they are put together: sequences and choices do not nest, texts that
stand side by side are one text, and a class of one character is a text. A sequence in a `Regex`
is `seq a (seq b …)` and a choice `alt a (alt b …)`.

* `Regex.sequence`, `Regex.choice`, `Regex.repetition` and `Regex.oneOf` put patterns together;
* `Regex.leastLength` and `Regex.mayTake` say how much a pattern takes of a text.
-/

namespace Shapesmith.Regex

/-- How many characters a pattern takes at least; none if it matches nothing. -/
def leastLength : Regex → Option Nat
  | .empty | .assert _ => some 0
  | .text chars => some chars.length
  | .one c => if c.spans.isEmpty then none else some 1
  | .seq a b => do return (← a.leastLength) + (← b.leastLength)
  | .alt a b => do return min (← a.leastLength) (← b.leastLength)
  | .repeated r least _ _ => r.leastLength.map (least * ·)
  | .group _ r => r.leastLength

/-- The pattern is not one of the empty text alone. -/
def mayTake : Regex → Bool
  | .empty | .assert _ => false
  | .text _ | .one _ => true
  | .seq a b | .alt a b => a.mayTake || b.mayTake
  | .repeated r _ _ _ | .group _ r => r.mayTake

/-- One character of a class. -/
def oneOf (c : CharClass) : Regex :=
  match c.spans with
  | [(low, high)] => if low = high then .text [Char.ofNat low] else .one c
  | _ => .one c

/-! ### Sequences -/

/-- The parts of a sequence. -/
def parts : Regex → List Regex
  | .empty => []
  | .seq a b => a :: b.parts
  | r => [r]

/-- Parts with one more in front, which joins a text. -/
def consPart : Regex → List Regex → List Regex
  | .text a, .text b :: rest => .text (a ++ b) :: rest
  | r, rest => r :: rest

/-- The sequence of some parts. -/
def ofParts : List Regex → Regex
  | [] => .empty
  | [r] => r
  | r :: rest => .seq r (ofParts rest)

/-- Patterns one after the other. -/
def sequence (rs : List Regex) : Regex := ofParts ((rs.flatMap parts).foldr consPart [])

/-! ### Choices -/

/-- The branches of a choice. -/
def branches : Regex → List Regex
  | .alt a b => a :: b.branches
  | r => [r]

/-- The choice of some branches. -/
def ofBranches : List Regex → Regex
  | [] => .one .none
  | [r] => r
  | r :: rest => .alt r (ofBranches rest)

/-- The character of a text of one. -/
def char? : Regex → Option Char
  | .text [c] => some c
  | _ => none

/-- The class of a pattern of one character, unless it is a text. -/
def class? : Regex → Option CharClass
  | .one c => some c
  | _ => none

/-- The class that branches make if they are characters alone or classes alone. -/
def merged? (rs : List Regex) : Option CharClass :=
  match rs.mapM char?, rs.mapM class? with
  | some chars, _ => some (.ofRanges (chars.map fun c => (c.toNat, c.toNat)))
  | _, some classes => some (classes.foldr .union .none)
  | _, _ => none

/-- The parts with which two sequences begin alike. -/
def alike : List Regex → List Regex → List Regex
  | a :: as, b :: bs => if a = b then a :: alike as bs else []
  | _, _ => []

/-- The parts with which several branches begin alike, if all of them are sequences. -/
def shared : List Regex → List Regex
  | r :: s :: rest =>
    if (r :: s :: rest).all fun r => decide (2 ≤ r.parts.length) then
      ((s :: rest).map parts).foldl alike r.parts
    else []
  | _ => []

/-- Branches as a class or as they are. -/
def merge (rs : List Regex) : Regex :=
  let flat := rs.flatMap branches
  match flat with
  | [r] => r
  | _ =>
    match merged? flat with
    | some c => oneOf c
    | none => ofBranches flat

/-- One pattern or another. What all of them begin with is not repeated. -/
def choice (rs : List Regex) : Regex :=
  let flat := rs.flatMap branches
  match shared flat with
  | [] => merge flat
  | first =>
    sequence (first ++ [merge (flat.map fun r => sequence (r.parts.drop first.length))])

/-! ### Repetitions -/

/-- A pattern several times. One of the empty text alone is not repeated more than once. -/
def repetition (r : Regex) (least : Nat) (most : Option Nat) (reluctant : Bool) : Regex :=
  let (least, most) :=
    if r.mayTake then (least, most) else (min least 1, some (min (most.getD 1) 1))
  if most = some 0 then .empty
  else if least = 1 ∧ most = some 1 then r
  else .repeated r least most reluctant

end Shapesmith.Regex
