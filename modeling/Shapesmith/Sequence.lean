/-!
# Steps in a row

Steps that may fail, one for each entry of a list. The first failure ends the row.

* `tryEach` does the steps for what they check;
* `collect` keeps what they give.
-/

namespace Shapesmith

variable {ε α β : Type}

/-- Does a step for each entry of a list, in order. -/
def tryEach (step : α → Except ε Unit) : List α → Except ε Unit
  | [] => .ok ()
  | a :: rest => do
    step a
    tryEach step rest

/-- Does a step for each entry of a list, in order, and keeps the results. -/
def collect (step : α → Except ε β) : List α → Except ε (List β)
  | [] => .ok []
  | a :: rest => do
    let b ← step a
    let bs ← collect step rest
    pure (b :: bs)

/-- All steps go well exactly when each of them does. -/
theorem tryEach_eq_ok_iff (step : α → Except ε Unit) (as : List α) :
    tryEach step as = .ok () ↔ ∀ a ∈ as, step a = .ok () := by
  induction as with
  | nil => simp [tryEach]
  | cons a rest ih =>
    cases h : step a with
    | error e => simp [tryEach, bind, Except.bind, h]
    | ok u => simp [tryEach, bind, Except.bind, h, ih]

end Shapesmith
