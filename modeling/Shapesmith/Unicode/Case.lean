import Shapesmith.Unicode.CaseRuns

/-!
# Case mappings of characters

* `lower` and `upper` are the full mappings of one character, which may give several;
* `standIn` is the character that stands for a letter and its other cases, and `cases` lists all
  characters that share it;
* `foldings` are the letters that another one stands for, each with that one.
-/

namespace Shapesmith.Unicode

/-- Where a run sends a code point, if it maps it. -/
def CaseRun.image? (r : CaseRun) (n : Nat) : Option Nat :=
  if r.first ≤ n ∧ n ≤ r.last ∧ (n - r.first) % r.stride = 0 then some ((n : Int) + r.shift).toNat
  else none

/-- The code point that a run sends to `n`, if there is one. -/
def CaseRun.source? (r : CaseRun) (n : Nat) : Option Nat :=
  let m := ((n : Int) - r.shift).toNat
  if r.image? m = some n then some m else none

/-- The code points that a run maps. -/
def CaseRun.points (r : CaseRun) : List Nat :=
  (List.range ((r.last - r.first) / r.stride + 1)).map fun i => r.first + r.stride * i

/-- Where runs send a code point: the first one that maps it decides. -/
def mapBy (runs : List CaseRun) (n : Nat) : Nat := (runs.findSome? (·.image? n)).getD n

/-- The lower-case form of a character. -/
def lower (c : Char) : List Char :=
  if c.toNat < 128 then [c.toLower]
  else if c.toNat = 0x130 then ['i', Char.ofNat 0x307]
  else [Char.ofNat (mapBy lowerRuns c.toNat)]

/-- The upper-case form of a character. -/
def upper (c : Char) : List Char :=
  if c.toNat < 128 then [c.toUpper]
  else
    match upperSeveral.find? fun e => e.1 == c.toNat with
    | some (_, ns) => ns.map Char.ofNat
    | none => [Char.ofNat (mapBy upperRuns c.toNat)]

/-- The code point that stands for all cases of a letter. -/
def standIn (n : Nat) : Nat := mapBy foldRuns n

/-- All code points that differ from `n` in case alone, `n` among them. -/
def cases (n : Nat) : List Nat :=
  let s := standIn n
  s :: foldRuns.filterMap (·.source? s)

/-- The code points that another one stands for, each with that one. -/
def foldings : List (Nat × Nat) :=
  foldRuns.flatMap fun r => r.points.map fun n => (n, ((n : Int) + r.shift).toNat)

end Shapesmith.Unicode
