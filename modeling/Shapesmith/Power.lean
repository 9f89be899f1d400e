/-!
# Powers

The powers that formats of numbers are described by.

* `twoTo` are the powers of two, `tenTo` those of ten.
-/

namespace Shapesmith

/-- A power of two. -/
def twoTo (n : Nat) : Nat := Nat.pow 2 n

/-- A power of ten. -/
def tenTo (n : Nat) : Nat := Nat.pow 10 n

end Shapesmith
