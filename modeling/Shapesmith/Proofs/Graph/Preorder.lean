import Shapesmith.Proofs.Graph.Reachable

/-!
# A preorder is decided by what it lists

The nodes of a preorder come once each, and their order depends only on the successors of the nodes
that are listed: neither on the rest of the graph nor on the number of steps, once there are enough.

* `Graph.nodup_preorder` : no node is listed twice;
* `Graph.visit_eq_of_le` : steps beyond those that are paid for change nothing;
* `Graph.preorder_congr` : graphs that agree on a part that is never left have the same preorders
  there.
-/

namespace Shapesmith.Graph

open Relation

variable {α : Type} [DecidableEq α] {next next' : α → List α}

omit [DecidableEq α] in
/-- Entering a node that has not been seen keeps nodes apart. -/
theorem nodup_enter {seen : List α} {a : α} (ha : a ∉ seen) (h : seen.Nodup) :
    (seen ++ [a]).Nodup := by
  refine List.nodup_append.2 ⟨h, List.pairwise_singleton _ a, fun b hb c hc => ?_⟩
  rw [List.mem_singleton.1 hc]
  exact fun hba => ha (hba ▸ hb)

theorem nodup_visit {steps : Nat} {waiting seen : List α} (h : seen.Nodup) :
    (visit next steps waiting seen).Nodup := by
  induction steps generalizing waiting seen with
  | zero => exact h
  | succ steps ih =>
    cases waiting with
    | nil => exact h
    | cons a waiting =>
      by_cases ha : a ∈ seen
      · rw [visit_cons_of_mem next steps waiting ha]
        exact ih h
      · rw [visit_cons_of_not_mem next steps waiting ha]
        exact ih (nodup_enter ha h)

theorem nodup_preorder (next : α → List α) (steps : Nat) (root : α) :
    (preorder next steps root).Nodup := nodup_visit List.nodup_nil

/-- Steps beyond those that are paid for change nothing. -/
theorem visit_eq_of_le {nodes : List (α × Nat)} (hp : PaidBy next nodes) {steps steps' : Nat}
    {waiting seen : List α} (hsteps : waiting.length + budget nodes seen ≤ steps)
    (hle : steps ≤ steps') :
    visit next steps' waiting seen = visit next steps waiting seen := by
  induction steps generalizing steps' waiting seen with
  | zero =>
    obtain rfl : waiting = [] := List.length_eq_zero_iff.1 (by omega)
    rw [visit_nil, visit_nil]
  | succ steps ih =>
    -- both searches have a step left, and what is waiting has been paid for
    obtain ⟨more, rfl⟩ := Nat.exists_eq_add_of_lt (Nat.lt_of_succ_le hle)
    cases waiting with
    | nil => rw [visit_nil, visit_nil]
    | cons a waiting =>
      simp only [List.length_cons] at hsteps
      by_cases ha : a ∈ seen
      · rw [visit_cons_of_mem _ _ _ ha, visit_cons_of_mem _ _ _ ha]
        exact ih (by omega) (by omega)
      · have hpay := budget_enter_le hp ha
        rw [visit_cons_of_not_mem _ _ _ ha, visit_cons_of_not_mem _ _ _ ha]
        exact ih (by simp only [List.length_append]; omega) (by omega)

/-- A search that stays inside a part of the graph sees nothing of the rest. -/
theorem visit_congr {part : α → Prop} (hnext : ∀ a, part a → next' a = next a)
    (hpart : ∀ a, part a → ∀ b ∈ next a, part b) {steps : Nat} {waiting seen : List α}
    (hwaiting : ∀ a ∈ waiting, part a) :
    visit next' steps waiting seen = visit next steps waiting seen := by
  induction steps generalizing waiting seen with
  | zero => rfl
  | succ steps ih =>
    cases waiting with
    | nil => rw [visit_nil, visit_nil]
    | cons a waiting =>
      have ha := hwaiting a List.mem_cons_self
      have hrest : ∀ b ∈ waiting, part b := fun b hb => hwaiting b (List.mem_cons_of_mem _ hb)
      by_cases hseen : a ∈ seen
      · rw [visit_cons_of_mem _ _ _ hseen, visit_cons_of_mem _ _ _ hseen]
        exact ih hrest
      · rw [visit_cons_of_not_mem _ _ _ hseen, visit_cons_of_not_mem _ _ _ hseen, hnext a ha]
        refine ih fun b hb => ?_
        rcases List.mem_append.1 hb with hb | hb
        · exact hpart a ha b hb
        · exact hrest b hb

/-- Graphs that agree on a part that is never left have the same preorders there, each with its own
number of steps. -/
theorem preorder_congr {part : α → Prop} (hnext : ∀ a, part a → next' a = next a)
    (hpart : ∀ a, part a → ∀ b ∈ next a, part b) {nodes nodes' : List (α × Nat)}
    (hp : PaidBy next nodes) (hp' : PaidBy next' nodes') {steps steps' : Nat}
    (hsteps : 1 + (nodes.map (·.2)).sum ≤ steps) (hsteps' : 1 + (nodes'.map (·.2)).sum ≤ steps')
    {root : α} (hroot : part root) :
    preorder next' steps' root = preorder next steps root := by
  have hbudget : [root].length + budget nodes ([] : List α) ≤ steps := by
    simpa [budget_nil] using hsteps
  have hbudget' : [root].length + budget nodes' ([] : List α) ≤ steps' := by
    simpa [budget_nil] using hsteps'
  have hwaiting : ∀ a ∈ [root], part a := by simpa using hroot
  calc preorder next' steps' root
      = visit next' (max steps steps') [root] [] :=
        (visit_eq_of_le hp' hbudget' (Nat.le_max_right _ _)).symm
    _ = visit next (max steps steps') [root] [] := visit_congr hnext hpart hwaiting
    _ = preorder next steps root := visit_eq_of_le hp hbudget (Nat.le_max_left _ _)

end Shapesmith.Graph
