import Mathlib.Algebra.GroupWithZero.Nat
import Mathlib.Logic.Relation
import Shapesmith.Graph

/-!
# Depth-first search finds exactly what can be reached

`Graph.preorder` works a list of waiting nodes off with a bounded number of steps. The bound is
harmless as long as it pays for one entry of the list per edge.

* `Graph.Edge` is one step of the search, `Graph.PaidBy` says that a list of weighted nodes pays for
  the edges of a graph;
* `Graph.mem_preorder_iff` : the nodes of the preorder are those that can be reached;
* `Graph.leadsTo_iff` : a search for a node that passes a test finds one exactly when one can be
  reached.
-/

namespace Shapesmith.Graph

open Relation

variable {α : Type}

/-- One node follows another. -/
def Edge (next : α → List α) (a b : α) : Prop := b ∈ next a

/-- Every node with successors is listed with a weight that is at least their number. -/
def PaidBy (next : α → List α) (nodes : List (α × Nat)) : Prop :=
  ∀ a, next a ≠ [] → ∃ w, (a, w) ∈ nodes ∧ (next a).length ≤ w

variable [DecidableEq α] {next : α → List α}

/-- The weights of the nodes that have not been seen. -/
def budget (nodes : List (α × Nat)) (seen : List α) : Nat :=
  ((nodes.filter fun n => n.1 ∉ seen).map (·.2)).sum

theorem budget_nil (nodes : List (α × Nat)) : budget nodes [] = (nodes.map (·.2)).sum := by
  rw [budget, List.filter_eq_self.2 (by simp)]

theorem budget_cons (n : α × Nat) (nodes : List (α × Nat)) (seen : List α) :
    budget (n :: nodes) seen = (if n.1 ∈ seen then 0 else n.2) + budget nodes seen := by
  by_cases h : n.1 ∈ seen <;> simp [budget, h]

theorem budget_append_le (nodes : List (α × Nat)) (seen : List α) (a : α) :
    budget nodes (seen ++ [a]) ≤ budget nodes seen := by
  induction nodes with
  | nil => simp [budget]
  | cons n nodes ih =>
    simp only [budget_cons, List.mem_append, List.mem_singleton]
    by_cases hn : n.1 ∈ seen
    · simpa [hn] using ih
    · simp only [hn, false_or, if_false]
      split <;> omega

theorem budget_append_add_le {nodes : List (α × Nat)} {seen : List α} {a : α} {w : Nat}
    (hw : (a, w) ∈ nodes) (ha : a ∉ seen) :
    budget nodes (seen ++ [a]) + w ≤ budget nodes seen := by
  induction nodes with
  | nil => cases hw
  | cons n nodes ih =>
    simp only [budget_cons, List.mem_append, List.mem_singleton]
    rcases List.mem_cons.1 hw with rfl | hw
    · have := budget_append_le nodes seen a
      simp only [ha, or_true, if_true, if_false]
      omega
    · have := ih hw
      by_cases hn : n.1 ∈ seen
      · simpa [hn] using this
      · simp only [hn, false_or, if_false]
        split <;> omega

/-- Entering a node pays for its successors. -/
theorem budget_enter_le {nodes : List (α × Nat)} (hp : PaidBy next nodes) {seen : List α} {a : α}
    (ha : a ∉ seen) :
    budget nodes (seen ++ [a]) + (next a).length ≤ budget nodes seen := by
  by_cases hnil : next a = []
  · simpa [hnil] using budget_append_le nodes seen a
  · obtain ⟨w, hw, hle⟩ := hp a hnil
    have := budget_append_add_le hw ha
    omega

/-- Nothing is found that was not seen before and cannot be reached from what waits. -/
theorem reached_of_mem_visit {steps : Nat} {waiting seen : List α} {a : α}
    (h : a ∈ visit next steps waiting seen) :
    a ∈ seen ∨ ∃ w ∈ waiting, ReflTransGen (Edge next) w a := by
  induction steps generalizing waiting seen with
  | zero => exact .inl h
  | succ steps ih =>
    cases waiting with
    | nil => exact .inl h
    | cons b waiting =>
      by_cases hb : b ∈ seen
      · rw [visit_cons_of_mem next steps waiting hb] at h
        rcases ih h with h | ⟨w, hw, hr⟩
        · exact .inl h
        · exact .inr ⟨w, List.mem_cons_of_mem _ hw, hr⟩
      · rw [visit_cons_of_not_mem next steps waiting hb] at h
        rcases ih h with h | ⟨w, hw, hr⟩
        · rcases List.mem_append.1 h with h | h
          · exact .inl h
          · obtain rfl := List.mem_singleton.1 h
            exact .inr ⟨a, List.mem_cons_self, .refl⟩
        · rcases List.mem_append.1 hw with hw | hw
          · exact .inr ⟨b, List.mem_cons_self, .head hw hr⟩
          · exact .inr ⟨w, List.mem_cons_of_mem _ hw, hr⟩

/-- With enough steps the search keeps what it was given and ends with nodes whose successors are
all among them. The invariant is that successors of seen nodes are seen or wait. -/
theorem visit_closed {nodes : List (α × Nat)} (hp : PaidBy next nodes) {steps : Nat}
    {waiting seen : List α} (hsteps : waiting.length + budget nodes seen ≤ steps)
    (hinv : ∀ a ∈ seen, ∀ b ∈ next a, b ∈ seen ∨ b ∈ waiting) :
    (∀ a, a ∈ seen ∨ a ∈ waiting → a ∈ visit next steps waiting seen) ∧
      ∀ a ∈ visit next steps waiting seen, ∀ b ∈ next a, b ∈ visit next steps waiting seen := by
  induction steps generalizing waiting seen with
  | zero =>
    obtain rfl : waiting = [] := List.length_eq_zero_iff.1 (by omega)
    simpa [visit] using hinv
  | succ steps ih =>
    cases waiting with
    | nil => simpa [visit] using hinv
    | cons b waiting =>
      simp only [List.length_cons] at hsteps
      by_cases hb : b ∈ seen
      · rw [visit_cons_of_mem next steps waiting hb]
        have hinv' : ∀ a ∈ seen, ∀ c ∈ next a, c ∈ seen ∨ c ∈ waiting := by
          intro a ha c hc
          rcases hinv a ha c hc with h | h
          · exact .inl h
          · rcases List.mem_cons.1 h with rfl | h
            · exact .inl hb
            · exact .inr h
        obtain ⟨hkeep, hclosed⟩ := ih (by omega) hinv'
        refine ⟨fun a ha => hkeep a ?_, hclosed⟩
        rcases ha with ha | ha
        · exact .inl ha
        · rcases List.mem_cons.1 ha with rfl | ha
          · exact .inl hb
          · exact .inr ha
      -- the node pays for its successors, which wait from now on
      · rw [visit_cons_of_not_mem next steps waiting hb]
        have hpay := budget_enter_le hp hb
        have hinv' : ∀ a ∈ seen ++ [b], ∀ c ∈ next a,
            c ∈ seen ++ [b] ∨ c ∈ next b ++ waiting := by
          intro a ha c hc
          simp only [List.mem_append, List.mem_singleton] at ha ⊢
          rcases ha with ha | rfl
          · rcases hinv a ha c hc with h | h
            · exact .inl (.inl h)
            · rcases List.mem_cons.1 h with rfl | h
              · exact .inl (.inr rfl)
              · exact .inr (.inr h)
          · exact .inr (.inl hc)
        obtain ⟨hkeep, hclosed⟩ := ih (by simp only [List.length_append]; omega) hinv'
        refine ⟨fun a ha => hkeep a ?_, hclosed⟩
        simp only [List.mem_append, List.mem_singleton]
        rcases ha with ha | ha
        · exact .inl (.inl ha)
        · rcases List.mem_cons.1 ha with rfl | ha
          · exact .inl (.inr rfl)
          · exact .inr (.inr ha)

/-- The preorder lists exactly what the root leads to. -/
theorem mem_preorder_iff {nodes : List (α × Nat)} (hp : PaidBy next nodes) {steps : Nat}
    (hsteps : 1 + (nodes.map (·.2)).sum ≤ steps) {root a : α} :
    a ∈ preorder next steps root ↔ ReflTransGen (Edge next) root a := by
  have hbudget : [root].length + budget nodes ([] : List α) ≤ steps := by
    simpa [budget_nil] using hsteps
  have hnone : ∀ b ∈ ([] : List α), ∀ c ∈ next b, c ∈ [] ∨ c ∈ [root] := by simp
  obtain ⟨hkeep, hclosed⟩ := visit_closed hp hbudget hnone
  constructor
  · intro h
    rcases reached_of_mem_visit h with h | ⟨w, hw, hr⟩
    · cases h
    · obtain rfl := List.mem_singleton.1 hw
      exact hr
  · intro h
    induction h with
    | refl => exact hkeep root (.inr List.mem_cons_self)
    | tail _ hbc ih => exact hclosed _ ih _ hbc

/-- A search finds a node that passes exactly when the root leads to one. -/
theorem leadsTo_iff {nodes : List (α × Nat)} (hp : PaidBy next nodes) {test : α → Bool}
    {steps : Nat} (hsteps : 1 + (nodes.map (·.2)).sum ≤ steps) {root : α} :
    leadsTo next test steps root = true ↔ ∃ a, ReflTransGen (Edge next) root a ∧ test a = true := by
  rw [leadsTo_eq, List.any_eq_true]
  simp only [mem_preorder_iff hp hsteps]

end Shapesmith.Graph
