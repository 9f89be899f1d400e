import Shapesmith.Power

/-!
# Finite binary64 numbers

A finite binary64 number is a whole number of steps of `2 ^ -1074`, the least positive one, with a
sign. The sign is kept apart because zero has two of them.

* `Binary64.compare` is the order of the numbers, so the two zeros are equal;
* `nearest` rounds a quotient to the 53 significant bits of the format, a tie going to the even
  neighbour; `ofInt`, `mul` and `div` are the exact results so rounded;
* `Decimal.shortest` finds the fewest decimal digits that read back as the same number.
-/

namespace Shapesmith

/-- A finite binary64 number: a sign and a count of steps of `2 ^ -1074`. -/
structure Binary64 where
  /-- The sign; zero may carry it too. -/
  negative : Bool
  /-- The magnitude, in steps of `2 ^ -1074`. -/
  steps : Nat
deriving DecidableEq, Repr, Inhabited

namespace Binary64

/-- Steps in one. -/
def one : Nat := twoTo 1074

/-- The first magnitude that the format cannot hold, in steps. -/
def limit : Nat := twoTo (1024 + 1074)

/-- How far apart the format's numbers lie around `steps`, as a power of two. -/
def gap (steps : Nat) : Nat := steps.log2 - 52

/-- The format's number nearest to `num / den` steps; a tie goes to the even significand. -/
def nearest (num den : Nat) : Nat :=
  let unit := twoTo (gap (num / den))
  let significand := num / (den * unit)
  let rest := num % (den * unit)
  let up := decide (den * unit < 2 * rest) ||
    (decide (den * unit = 2 * rest) && decide (significand % 2 = 1))
  (if up then significand + 1 else significand) * unit

/-- The number as a signed count of steps. -/
def signed (x : Binary64) : Int := if x.negative then -(x.steps : Int) else x.steps

/-- The order of two numbers; the zeros are equal. -/
def compare (x y : Binary64) : Ordering := Ord.compare x.signed y.signed

/-- The number nearest to an integer. -/
def ofInt (n : Int) : Binary64 := ⟨decide (n < 0), nearest (n.natAbs * one) 1⟩

/-- The number nearest to a power of ten with a natural exponent. -/
def powerOfTen (n : Nat) : Binary64 := ⟨false, nearest (tenTo n * one) 1⟩

/-- The magnitude has outgrown the format. -/
def isInfinite (x : Binary64) : Bool := decide (limit ≤ x.steps)

/-- The rounded product. -/
def mul (x y : Binary64) : Binary64 :=
  ⟨x.negative != y.negative, nearest (x.steps * y.steps) one⟩

/-- The rounded quotient by a number other than zero. -/
def div (x y : Binary64) : Binary64 :=
  ⟨x.negative != y.negative, nearest (x.steps * one) y.steps⟩

/-- The opposite number. -/
def neg (x : Binary64) : Binary64 := { x with negative := !x.negative }

/-- The number has no fractional part. -/
def isWhole (x : Binary64) : Bool := decide (x.steps % one = 0)

/-- The number without its fractional part. -/
def truncate (x : Binary64) : Int :=
  let n := x.steps / one
  if x.negative then -(n : Int) else n

end Binary64

/-- Decimal digits and the power of ten that the last of them counts. -/
structure Decimal where
  /-- The digits, read as one natural number. -/
  digits : Nat
  /-- The exponent of the last digit. -/
  exponent : Int
deriving DecidableEq, Repr

namespace Decimal

/-- The digits as characters. -/
def text (d : Decimal) : List Char := Nat.toDigits 10 d.digits

/-- The exponent of the first digit. -/
def leading (d : Decimal) : Int := d.exponent + (d.text.length : Int) - 1

/-- The numerator and the denominator, in steps, of `10 ^ k`. -/
def grid (k : Int) : Nat × Nat :=
  if 0 ≤ k then (tenTo k.toNat * Binary64.one, 1) else (Binary64.one, tenTo (-k).toNat)

/-- Whether a distance of `distance / den` steps below or above stays with the same number. -/
def within (distance den quarters : Nat) (closed : Bool) : Bool :=
  decide (4 * distance < quarters * den) || (closed && decide (4 * distance = quarters * den))

/-- The multiple of `10 ^ k` that reads back as `steps`, if there is one; the nearer of two, and of
two equally near ones the even. -/
def onGrid (steps : Nat) (k : Int) : Option Decimal :=
  let gap := Binary64.gap steps
  let unit := twoTo gap
  let significand := steps / unit
  let closed := decide (significand % 2 = 0)
  let quartersUp := 2 * unit
  let quartersDown := if significand = twoTo 52 ∧ 0 < gap then unit else 2 * unit
  let (num, den) := grid k
  let d := steps * den / num
  let below := steps * den - d * num
  let above := (d + 1) * num - steps * den
  let low := within below den quartersDown closed && decide (0 < d)
  let high := within above den quartersUp closed
  match low, high with
  | true, true =>
    if below < above ∨ (below = above ∧ d % 2 = 0) then some ⟨d, k⟩ else some ⟨d + 1, k⟩
  | true, false => some ⟨d, k⟩
  | false, true => some ⟨d + 1, k⟩
  | false, false => none

/-- The first grid that holds the number, from `10 ^ k` down. -/
def search (steps : Nat) : Nat → Int → Option Decimal
  | 0, _ => none
  | fuel + 1, k =>
    match onGrid steps k with
    | some d => some d
    | none => search steps fuel (k - 1)

/-- The exponent of ten of the first digit of `steps / den` steps, for a magnitude below one. -/
def belowOne (steps : Nat) : Nat → Int → Int
  | 0, k => k
  | fuel + 1, k => if Binary64.one ≤ steps then k else belowOne (steps * 10) fuel (k - 1)

/-- The exponent of ten of the first digit of a magnitude. -/
def magnitude (steps : Nat) : Int :=
  if Binary64.one ≤ steps then ((Nat.toDigits 10 (steps / Binary64.one)).length : Int) - 1
  else belowOne steps 400 0

/-- Moves zeros at the end into the exponent. -/
def trim : Nat → Decimal → Decimal
  | 0, d => d
  | fuel + 1, d =>
    if d.digits % 10 = 0 ∧ 0 < d.digits then trim fuel ⟨d.digits / 10, d.exponent + 1⟩ else d

/-- The fewest digits that read back as `steps`, and of those the nearest. -/
def shortest (steps : Nat) : Decimal :=
  if steps = 0 then ⟨0, 0⟩
  else
    match search steps 18 (magnitude steps) with
    | some d => trim 20 d
    | none => ⟨steps, 0⟩

/-- The digits in positional notation, with zeros up to the point; `point` asks for a fractional
part even when there is none. -/
def positional (d : Decimal) (point : Bool) : List Char :=
  let ds := d.text
  if 0 ≤ d.exponent then
    ds ++ List.replicate d.exponent.toNat '0' ++ (if point then ['.', '0'] else [])
  else
    let places := (-d.exponent).toNat
    if places < ds.length then
      ds.take (ds.length - places) ++ '.' :: ds.drop (ds.length - places)
    else '0' :: '.' :: (List.replicate (places - ds.length) '0' ++ ds)

/-- The digits in scientific notation, the sign of the exponent always written. -/
def scientific (d : Decimal) : List Char :=
  let e := d.leading
  let mark := if 0 ≤ e then ['e', '+'] else ['e', '-']
  let mantissa := match d.text with
    | [] => []
    | [c] => [c]
    | c :: rest => c :: '.' :: rest
  mantissa ++ mark ++ Nat.toDigits 10 e.natAbs

end Decimal

namespace Binary64

/-- The number in positional notation, whatever its size: `0.0000001`, `18446744073709552000`. -/
def plainText (x : Binary64) : String :=
  String.ofList ((if x.negative then ['-'] else []) ++
    (Decimal.shortest x.steps).positional false)

/-- The number in a document: positional when the first digit stands for `10 ^ -5` to `10 ^ 15`,
with at least one digit after the point, and scientific otherwise. -/
def documentText (x : Binary64) : String :=
  let d := Decimal.shortest x.steps
  let body := if -5 ≤ d.leading ∧ d.leading ≤ 15 then d.positional true else d.scientific
  String.ofList ((if x.negative then ['-'] else []) ++ body)

end Binary64

end Shapesmith
