import Shapesmith.Binary64
import Shapesmith.Table

/-!
# JSON values

`Json` is the tree of a document. The members of an object stay in the order in which they were
written, and a number written without point and exponent stays exact.

* `Json.same` is equality of values: the order of object members does not count, the kind of a
  number does, and the two zeros are equal;
* `Json.nodes` counts the values in a tree, `Json.find?` and `Json.pointer?` look members up.
-/

namespace Shapesmith

/-- A JSON number: exact when it was written as an integer of 64 bits, else a binary fraction. -/
inductive Number where
  /-- An integer from `-2 ^ 63` up to, but not including, `2 ^ 64`. -/
  | int (value : Int)
  /-- Any other number. -/
  | float (value : Binary64)
deriving DecidableEq, Repr

namespace Number

/-- The number as an unsigned integer of 64 bits. -/
def nat64? : Number → Option Nat
  | .int n => if 0 ≤ n then some n.toNat else none
  | .float _ => none

/-- The number as a binary fraction. -/
def toBinary64 : Number → Binary64
  | .int n => .ofInt n
  | .float x => x

/-- Equality of numbers of one kind; the zeros are equal. -/
def same : Number → Number → Bool
  | .int m, .int n => decide (m = n)
  | .float x, .float y => decide (x.signed = y.signed)
  | _, _ => false

/-- The number as it is written in a document. -/
def text : Number → String
  | .int n => toString n
  | .float x => x.documentText

end Number

/-- A JSON value. -/
inductive Json where
  | null
  | bool (value : Bool)
  | num (value : Number)
  | str (text : String)
  | arr (items : List Json)
  | obj (fields : List (String × Json))
deriving Repr, Inhabited

namespace Json

mutual

/-- Decides equality of trees, order of members included. -/
def decEq : (a b : Json) → Decidable (a = b)
  | .null, .null => isTrue rfl
  | .bool a, .bool b => if h : a = b then isTrue (h ▸ rfl) else isFalse (by simp [h])
  | .num a, .num b => if h : a = b then isTrue (h ▸ rfl) else isFalse (by simp [h])
  | .str a, .str b => if h : a = b then isTrue (h ▸ rfl) else isFalse (by simp [h])
  | .arr a, .arr b =>
    match decEqItems a b with
    | isTrue h => isTrue (h ▸ rfl)
    | isFalse h => isFalse (by simp [h])
  | .obj a, .obj b =>
    match decEqFields a b with
    | isTrue h => isTrue (h ▸ rfl)
    | isFalse h => isFalse (by simp [h])
  | .null, .bool _ | .null, .num _ | .null, .str _ | .null, .arr _ | .null, .obj _
  | .bool _, .null | .bool _, .num _ | .bool _, .str _ | .bool _, .arr _ | .bool _, .obj _
  | .num _, .null | .num _, .bool _ | .num _, .str _ | .num _, .arr _ | .num _, .obj _
  | .str _, .null | .str _, .bool _ | .str _, .num _ | .str _, .arr _ | .str _, .obj _
  | .arr _, .null | .arr _, .bool _ | .arr _, .num _ | .arr _, .str _ | .arr _, .obj _
  | .obj _, .null | .obj _, .bool _ | .obj _, .num _ | .obj _, .str _ | .obj _, .arr _ =>
    isFalse (by simp)

/-- Decides equality of lists of trees. -/
def decEqItems : (a b : List Json) → Decidable (a = b)
  | [], [] => isTrue rfl
  | x :: xs, y :: ys =>
    match decEq x y with
    | isFalse h => isFalse (by simp [h])
    | isTrue h =>
      match decEqItems xs ys with
      | isTrue hs => isTrue (h ▸ hs ▸ rfl)
      | isFalse hs => isFalse (by simp [hs])
  | [], _ :: _ | _ :: _, [] => isFalse (by simp)

/-- Decides equality of lists of members. -/
def decEqFields : (a b : List (String × Json)) → Decidable (a = b)
  | [], [] => isTrue rfl
  | (j, x) :: xs, (k, y) :: ys =>
    if hk : j = k then
      match decEq x y with
      | isFalse h => isFalse (by simp [h])
      | isTrue h =>
        match decEqFields xs ys with
        | isTrue hs => isTrue (hk ▸ h ▸ hs ▸ rfl)
        | isFalse hs => isFalse (by simp [hs])
    else isFalse (by simp [hk])
  | [], _ :: _ | _ :: _, [] => isFalse (by simp)

end

instance : DecidableEq Json := decEq

mutual

/-- Equality of values: members of objects may come in any order. -/
def same : Json → Json → Bool
  | .null, .null => true
  | .bool a, .bool b => a == b
  | .num a, .num b => a.same b
  | .str a, .str b => decide (a = b)
  | .arr a, .arr b => sameItems a b
  | .obj a, .obj b => a.length == b.length && sameFields a b
  | _, _ => false

/-- Equality of values item by item. -/
def sameItems : List Json → List Json → Bool
  | [], [] => true
  | x :: xs, y :: ys => same x y && sameItems xs ys
  | _, _ => false

/-- Every member is found with the same value among the others. -/
def sameFields : List (String × Json) → List (String × Json) → Bool
  | [], _ => true
  | (key, x) :: xs, ys =>
    (match Table.get? ys key with
      | some y => same x y
      | none => false) && sameFields xs ys

end

mutual

/-- How many values a tree holds, itself included. -/
def nodes : Json → Nat
  | .arr items => 1 + nodesItems items
  | .obj fields => 1 + nodesFields fields
  | _ => 1

/-- How many values the items hold. -/
def nodesItems : List Json → Nat
  | [] => 0
  | x :: xs => nodes x + nodesItems xs

/-- How many values the members hold. -/
def nodesFields : List (String × Json) → Nat
  | [] => 0
  | (_, x) :: xs => nodes x + nodesFields xs

end

mutual

/-- The tree with each key once: the last value of a key at its first place. -/
def unique : Json → Json
  | .arr items => .arr (uniqueItems items)
  | .obj fields => .obj (Table.ofEntries (uniqueFields fields))
  | other => other

/-- Each item with each key once. -/
def uniqueItems : List Json → List Json
  | [] => []
  | x :: xs => unique x :: uniqueItems xs

/-- Each member's value with each key once. -/
def uniqueFields : List (String × Json) → List (String × Json)
  | [] => []
  | (key, x) :: xs => (key, unique x) :: uniqueFields xs

end

/-- The member of an object under `key`. -/
def find? (j : Json) (key : String) : Option Json :=
  match j with
  | .obj fields => Table.get? fields key
  | _ => none

/-- The value that a path of keys leads to through objects. -/
def pointer? (j : Json) : List String → Option Json
  | [] => some j
  | key :: rest =>
    match j with
    | .obj fields =>
      match Table.get? fields key with
      | some value => pointer? value rest
      | none => none
    | _ => none

/-- The number of a natural number. -/
def nat (n : Nat) : Json := .num (.int n)

/-- The value, or null for none. -/
def orNull {α : Type} (encode : α → Json) : Option α → Json
  | some a => encode a
  | none => .null

/-- An optional text. -/
def optional (text : Option String) : Json := orNull .str text

/-- An array of texts. -/
def strings (texts : List String) : Json := .arr (texts.map .str)

end Json

end Shapesmith
