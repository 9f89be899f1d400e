/-!
# Depth-first search

A search runs one worklist: a node taken from it is skipped when it has been seen and otherwise
entered, its successors along `next` going in front of what waits.

* `preorder` lists what `root` leads to, each node once, in the order in which it is entered;
* `leadsTo` looks for a node that passes a test and stops at the first one;
* `leadsTo_eq` says that both search alike. The number of steps is a bound on the entries that the
  worklist takes in: one for the root and one for each edge are enough.
-/

namespace Shapesmith.Graph

variable {α : Type} [DecidableEq α]

/-- Works `waiting` off, at most `steps` entries of it, adding to the nodes `seen` so far. -/
def visit (next : α → List α) : Nat → List α → List α → List α
  | 0, _, seen => seen
  | _ + 1, [], seen => seen
  | steps + 1, a :: waiting, seen =>
    if a ∈ seen then visit next steps waiting seen
    else visit next steps (next a ++ waiting) (seen ++ [a])

/-- What `root` leads to, in depth-first preorder. -/
def preorder (next : α → List α) (steps : Nat) (root : α) : List α := visit next steps [root] []

/-- Works `waiting` off, at most `steps` entries of it, up to a node that passes. -/
def meets (next : α → List α) (test : α → Bool) : Nat → List α → List α → Bool
  | 0, _, _ => false
  | _ + 1, [], _ => false
  | steps + 1, a :: waiting, seen =>
    if a ∈ seen then meets next test steps waiting seen
    else test a || meets next test steps (next a ++ waiting) (a :: seen)

/-- Something that `root` leads to passes. -/
def leadsTo (next : α → List α) (test : α → Bool) (steps : Nat) (root : α) : Bool :=
  meets next test steps [root] []

theorem visit_nil (next : α → List α) (steps : Nat) (seen : List α) :
    visit next steps [] seen = seen := by
  cases steps <;> rfl

theorem visit_cons_of_mem (next : α → List α) (steps : Nat) {a : α} (waiting : List α)
    {seen : List α} (h : a ∈ seen) :
    visit next (steps + 1) (a :: waiting) seen = visit next steps waiting seen := by
  simp [visit, h]

theorem visit_cons_of_not_mem (next : α → List α) (steps : Nat) {a : α} (waiting : List α)
    {seen : List α} (h : a ∉ seen) :
    visit next (steps + 1) (a :: waiting) seen =
      visit next steps (next a ++ waiting) (seen ++ [a]) := by
  simp [visit, h]

/-- A search that stops early finds what the whole search adds; `met` lists the nodes of `seen` in
any order. -/
theorem any_visit (next : α → List α) (test : α → Bool) (steps : Nat) (waiting seen met : List α)
    (h : ∀ a, a ∈ met ↔ a ∈ seen) :
    (visit next steps waiting seen).any test =
      (seen.any test || meets next test steps waiting met) := by
  induction steps generalizing waiting seen met with
  | zero => simp [visit, meets]
  | succ steps ih =>
    cases waiting with
    | nil => simp [visit, meets]
    | cons a waiting =>
      by_cases ha : a ∈ seen
      · rw [visit_cons_of_mem next steps waiting ha, ih waiting seen met h]
        simp [meets, (h a).2 ha]
      · have hm : a ∉ met := fun hm => ha ((h a).1 hm)
        rw [visit_cons_of_not_mem next steps waiting ha,
          ih (next a ++ waiting) (seen ++ [a]) (a :: met) (by simp [h, or_comm])]
        simp [meets, hm, Bool.or_assoc]

/-- Looking for a node is looking through all nodes. -/
theorem leadsTo_eq (next : α → List α) (test : α → Bool) (steps : Nat) (root : α) :
    leadsTo next test steps root = (preorder next steps root).any test := by
  simp [leadsTo, preorder, any_visit next test steps [root] [] [] (by simp)]

end Shapesmith.Graph
