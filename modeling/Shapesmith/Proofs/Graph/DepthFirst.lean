import Mathlib.Logic.Function.Iterate
import Shapesmith.Proofs.Graph.Preorder

/-!
# Depth-first search by recursion

The recursive search enters a node the first time that it comes to it, then goes through the
successors of the node, each with all that lies below it, and then through what is left.

* `Graph.Search` is that search, as a relation between the nodes entered before and after;
* `Graph.search_preorder` : from a root it enters the nodes of `Graph.preorder`, in that order;
* `Graph.turn` is one turn of a loop that keeps a stack of nodes, marks a node when it is taken from
  the stack and pushes successors the last first; `Graph.Search.iterate_turn` says that the loop
  comes to the same nodes, and after how many turns;
* `Graph.Seek` is a recursive search that stops at the first node that passes a test;
  `Graph.Search.seek_iff` says that it finds one exactly when the whole search comes to one.
-/

namespace Shapesmith.Graph

variable {α β : Type}

/-- The recursive search: after `seen` it goes through `nodes`, and has then entered `out`. -/
inductive Search (next : α → List α) : List α → List α → List α → Prop
  /-- No node is left. -/
  | done {seen} : Search next seen [] seen
  /-- The node has been entered before. -/
  | skip {seen a nodes out} (ha : a ∈ seen) (rest : Search next seen nodes out) :
      Search next seen (a :: nodes) out
  /-- The node is entered, and what lies below it comes before the rest. -/
  | enter {seen a nodes mid out} (ha : a ∉ seen) (below : Search next (seen ++ [a]) (next a) mid)
      (rest : Search next mid nodes out) : Search next seen (a :: nodes) out

/-- The recursive search for a node that passes: after `seen` it goes through `nodes` and stops where
it finds one; it has then entered `out`, and its verdict is `found`. A node that has been entered
before is not looked at again. -/
inductive Seek (next : α → List α) (test : α → Bool) : List α → List α → List α → Bool → Prop
  /-- No node is left. -/
  | done {seen} : Seek next test seen [] seen false
  /-- The node has been entered before. -/
  | skip {seen a nodes out found} (ha : a ∈ seen) (rest : Seek next test seen nodes out found) :
      Seek next test seen (a :: nodes) out found
  /-- The node passes. -/
  | hit {seen a nodes} (ha : a ∉ seen) (htest : test a = true) :
      Seek next test seen (a :: nodes) (seen ++ [a]) true
  /-- Something below the node passes. -/
  | deep {seen a nodes out} (ha : a ∉ seen) (htest : test a = false)
      (below : Seek next test (seen ++ [a]) (next a) out true) :
      Seek next test seen (a :: nodes) out true
  /-- Neither the node nor anything below it passes. -/
  | on {seen a nodes mid out found} (ha : a ∉ seen) (htest : test a = false)
      (below : Seek next test (seen ++ [a]) (next a) mid false)
      (rest : Seek next test mid nodes out found) : Seek next test seen (a :: nodes) out found

variable {next : α → List α} {test : α → Bool} {seen nodes out : List α}

namespace Search

/-- The search is a function of the nodes entered before. -/
theorem unique {out' : List α} (h : Search next seen nodes out) (h' : Search next seen nodes out') :
    out = out' := by
  induction h generalizing out' with
  | done =>
    cases h'
    rfl
  | skip ha _ ih =>
    cases h' with
    | skip _ rest => exact ih rest
    | enter hna _ _ => exact absurd ha hna
  | enter hna _ _ ihbelow ihrest =>
    cases h' with
    | skip ha _ => exact absurd ha hna
    | enter _ below rest =>
      obtain rfl := ihbelow below
      exact ihrest rest

/-- What was entered before stays in front. -/
theorem exists_append (h : Search next seen nodes out) : ∃ new, out = seen ++ new := by
  induction h with
  | done => exact ⟨[], (List.append_nil _).symm⟩
  | skip _ _ ih => exact ih
  | @enter seen a _ _ _ _ _ _ ihbelow ihrest =>
    obtain ⟨below, rfl⟩ := ihbelow
    obtain ⟨rest, rfl⟩ := ihrest
    exact ⟨a :: (below ++ rest), by simp⟩

theorem subset (h : Search next seen nodes out) : seen ⊆ out := by
  obtain ⟨new, rfl⟩ := h.exists_append
  exact List.subset_append_left seen new

/-- No node is entered twice. -/
theorem nodup (h : Search next seen nodes out) (hseen : seen.Nodup) : out.Nodup := by
  induction h with
  | done => exact hseen
  | skip _ _ ih => exact ih hseen
  | enter ha _ _ ihbelow ihrest =>
    exact ihrest (ihbelow (nodup_enter ha hseen))

/-- The root comes first. -/
theorem head?_eq {root : α} (h : Search next [] [root] out) : out.head? = some root := by
  cases h with
  | skip ha _ => cases ha
  | enter _ below rest =>
    obtain ⟨new, rfl⟩ := below.exists_append
    obtain ⟨new', rfl⟩ := rest.exists_append
    rfl

/-- Nodes are gone through one after the other. -/
theorem append_iff {rest : List α} :
    Search next seen (nodes ++ rest) out ↔
      ∃ mid, Search next seen nodes mid ∧ Search next mid rest out := by
  constructor
  · intro h
    induction nodes generalizing seen with
    | nil => exact ⟨seen, .done, h⟩
    | cons a nodes ih =>
      cases h with
      | skip ha h =>
        obtain ⟨mid, hnodes, hrest⟩ := ih h
        exact ⟨mid, .skip ha hnodes, hrest⟩
      | enter ha below h =>
        obtain ⟨mid, hnodes, hrest⟩ := ih h
        exact ⟨mid, .enter ha below hnodes, hrest⟩
  · rintro ⟨mid, hnodes, hrest⟩
    induction hnodes with
    | done => exact hrest
    | skip ha _ ih => exact .skip ha (ih hrest)
    | enter ha below _ _ ih => exact .enter ha below (ih hrest)

/-- A search among the images of nodes is the image of a search among the nodes, on a part of the
graph where the images tell nodes apart. -/
theorem of_map {f : α → β} {next' : β → List β} {part : α → Prop}
    (hnext : ∀ a, part a → next' (f a) = (next a).map f)
    (hpart : ∀ a, part a → ∀ b ∈ next a, part b)
    (hf : ∀ a b, part a → part b → f a = f b → a = b) {seen' nodes' out' : List β}
    (h : Search next' seen' nodes' out') {seen nodes : List α} (hseen : seen.map f = seen')
    (hnodes : nodes.map f = nodes') (hps : ∀ a ∈ seen, part a) (hpn : ∀ a ∈ nodes, part a) :
    ∃ out, out.map f = out' ∧ (∀ a ∈ out, part a) ∧ Search next seen nodes out := by
  induction h generalizing seen nodes with
  | done =>
    obtain rfl := List.map_eq_nil_iff.1 hnodes
    exact ⟨seen, hseen, hps, .done⟩
  | skip ha _ ih =>
    obtain ⟨a, nodes, rfl, rfl, rfl⟩ := List.map_eq_cons_iff.1 hnodes
    subst hseen
    have hpa : part a := hpn a List.mem_cons_self
    obtain ⟨b, hb, hba⟩ := List.mem_map.1 ha
    obtain rfl := hf b a (hps b hb) hpa hba
    obtain ⟨out, hout, hpo, hrest⟩ :=
      ih rfl rfl hps fun c hc => hpn c (List.mem_cons_of_mem _ hc)
    exact ⟨out, hout, hpo, .skip hb hrest⟩
  | enter ha _ _ ihbelow ihrest =>
    obtain ⟨a, nodes, rfl, rfl, rfl⟩ := List.map_eq_cons_iff.1 hnodes
    subst hseen
    have hpa : part a := hpn a List.mem_cons_self
    have hps' : ∀ b ∈ seen ++ [a], part b := fun b hb => by
      rcases List.mem_append.1 hb with hb | hb
      · exact hps b hb
      · exact List.mem_singleton.1 hb ▸ hpa
    obtain ⟨mid, hmid, hpm, hbelow⟩ :=
      ihbelow (by simp) (hnext a hpa).symm hps' (hpart a hpa)
    obtain ⟨out, hout, hpo, hrest⟩ :=
      ihrest hmid rfl hpm fun c hc => hpn c (List.mem_cons_of_mem _ hc)
    exact ⟨out, hout, hpo, .enter (fun hmem => ha (List.mem_map_of_mem hmem)) hbelow hrest⟩

end Search

/-! ### Stopping early -/

/-- The search that stops is a function of the nodes entered before. -/
theorem Seek.unique {out' : List α} {found found' : Bool} (h : Seek next test seen nodes out found)
    (h' : Seek next test seen nodes out' found') : out = out' ∧ found = found' := by
  induction h generalizing out' found' with
  | done =>
    cases h'
    exact ⟨rfl, rfl⟩
  | skip ha _ ih =>
    cases h' with
    | skip _ rest => exact ih rest
    | hit hna _ | deep hna _ _ | on hna _ _ _ => exact absurd ha hna
  | hit hna htest =>
    cases h' with
    | skip ha _ => exact absurd ha hna
    | hit _ _ => exact ⟨rfl, rfl⟩
    | deep _ hfails _ | on _ hfails _ _ => exact absurd htest (by simp [hfails])
  | deep hna hfails _ ih =>
    cases h' with
    | skip ha _ => exact absurd ha hna
    | hit _ htest => exact absurd htest (by simp [hfails])
    | deep _ _ hbelow => exact ih hbelow
    | on _ _ hbelow _ => exact absurd (ih hbelow).2 (by simp)
  | on hna hfails _ _ ihbelow ihrest =>
    cases h' with
    | skip ha _ => exact absurd ha hna
    | hit _ htest => exact absurd htest (by simp [hfails])
    | deep _ _ hbelow => exact absurd (ihbelow hbelow).2 (by simp)
    | on _ _ hbelow rest =>
      obtain ⟨rfl, -⟩ := ihbelow hbelow
      exact ihrest rest

namespace Search

/-- Where nothing passes, the search that stops early goes the whole way; it ends either way. -/
theorem exists_seek (h : Search next seen nodes out) (hseen : seen.any test = false) :
    ∃ met, Seek next test seen nodes met (out.any test) ∧ (out.any test = false → met = out) := by
  induction h with
  | done => exact ⟨_, hseen ▸ .done, fun _ => rfl⟩
  | skip ha _ ih =>
    obtain ⟨met, hseek, hmet⟩ := ih hseen
    exact ⟨met, .skip ha hseek, hmet⟩
  | @enter seen a nodes mid out ha hbelow hrest ihbelow ihrest =>
    have hup {xs ys : List α} (hsub : xs ⊆ ys) (hx : xs.any test = true) : ys.any test = true := by
      obtain ⟨b, hb, htest⟩ := List.any_eq_true.1 hx
      exact List.any_eq_true.2 ⟨b, hsub hb, htest⟩
    cases hpass : test a with
    | true =>
      have hout : out.any test = true :=
        hup hrest.subset (hup hbelow.subset (by simp [hpass]))
      rw [hout]
      exact ⟨_, .hit ha hpass, nofun⟩
    | false =>
      obtain ⟨met, hseek, hmet⟩ := ihbelow (by simp [hseen, hpass])
      cases hmid : mid.any test with
      | true =>
        rw [hmid] at hseek
        rw [hup hrest.subset hmid]
        exact ⟨met, .deep ha hpass hseek, nofun⟩
      | false =>
        obtain rfl := hmet hmid
        rw [hmid] at hseek
        obtain ⟨met', hseek', hmet'⟩ := ihrest hmid
        exact ⟨met', .on ha hpass hseek hseek', hmet'⟩

/-- The verdict of the search that stops early is whether the whole search comes to a node that
passes. -/
theorem seek_iff {root : α} (h : Search next [] [root] out) {found : Bool} :
    (∃ met, Seek next test [] [root] met found) ↔ found = out.any test := by
  have hnone : ([] : List α).any test = false := rfl
  obtain ⟨met, hseek, -⟩ := h.exists_seek hnone
  constructor
  · rintro ⟨met', hseek'⟩
    exact (hseek'.unique hseek).2
  · rintro rfl
    exact ⟨met, hseek⟩

end Search

/-! ### The worklist -/

variable [DecidableEq α]

/-- Working a list off is the recursive search, as long as the steps are paid for. What waits behind
the successors of a node is what the recursion leaves for later. -/
theorem search_visit {payers : List (α × Nat)} (hp : PaidBy next payers) {steps : Nat}
    {waiting : List α} (hsteps : waiting.length + budget payers seen ≤ steps) :
    Search next seen waiting (visit next steps waiting seen) := by
  induction steps generalizing waiting seen with
  | zero =>
    obtain rfl : waiting = [] := List.length_eq_zero_iff.1 (by omega)
    exact .done
  | succ steps ih =>
    cases waiting with
    | nil => exact .done
    | cons a waiting =>
      simp only [List.length_cons] at hsteps
      by_cases ha : a ∈ seen
      · rw [visit_cons_of_mem _ _ _ ha]
        exact .skip ha (ih (by omega))
      · have hpay := budget_enter_le hp ha
        rw [visit_cons_of_not_mem _ _ _ ha]
        have hpaid : (next a ++ waiting).length + budget payers (seen ++ [a]) ≤ steps := by
          rw [List.length_append]
          omega
        obtain ⟨mid, hbelow, hrest⟩ := Search.append_iff.1 (ih hpaid)
        exact .enter ha hbelow hrest

/-- From a root the recursive search enters the nodes of the preorder, one after the other. -/
theorem search_preorder {payers : List (α × Nat)} (hp : PaidBy next payers) {steps : Nat}
    (hsteps : 1 + (payers.map (·.2)).sum ≤ steps) {root : α} :
    Search next [] [root] (preorder next steps root) := by
  have hbudget : [root].length + budget payers ([] : List α) ≤ steps := by
    simpa [budget_nil] using hsteps
  exact search_visit hp hbudget

/-! ### The stack -/

/-- How far a loop with a stack has come. -/
structure Progress (α : Type) where
  /-- The nodes that wait, the top of the stack first. -/
  stack : List α
  /-- The nodes that have been entered, in order. -/
  entered : List α

/-- Pushes nodes that have not been entered, the last of them first. -/
def push (entered nodes stack : List α) : List α :=
  nodes.reverse.foldl (fun stack a => if a ∈ entered then stack else a :: stack) stack

/-- One turn: takes the top from the stack, and enters it if that has not been done. -/
def turn (next : α → List α) (p : Progress α) : Progress α :=
  match p.stack with
  | [] => p
  | a :: stack =>
    if a ∈ p.entered then ⟨stack, p.entered⟩
    else ⟨push (p.entered ++ [a]) (next a) stack, p.entered ++ [a]⟩

/-- Pushing the last first leaves the first on top. -/
theorem push_eq (entered nodes stack : List α) :
    push entered nodes stack = nodes.filter (· ∉ entered) ++ stack := by
  induction nodes with
  | nil => rfl
  | cons a nodes ih =>
    rw [push, List.reverse_cons, List.foldl_append, ← push, ih]
    by_cases ha : a ∈ entered <;> simp [ha]

theorem turn_nil (next : α → List α) (entered : List α) :
    turn next ⟨[], entered⟩ = ⟨[], entered⟩ := rfl

theorem turn_cons_of_mem {a : α} {stack entered : List α} (h : a ∈ entered) :
    turn next ⟨a :: stack, entered⟩ = ⟨stack, entered⟩ := if_pos h

theorem turn_cons_of_not_mem {a : α} {stack entered : List α} (h : a ∉ entered) :
    turn next ⟨a :: stack, entered⟩ =
      ⟨(next a).filter (· ∉ entered ++ [a]) ++ stack, entered ++ [a]⟩ := by
  rw [← push_eq]
  exact if_neg h

/-- A loop whose stack is empty has come to its end. -/
theorem iterate_turn_nil (next : α → List α) (entered : List α) (turns : Nat) :
    (turn next)^[turns] ⟨[], entered⟩ = ⟨[], entered⟩ :=
  Function.iterate_fixed (turn_nil next entered) turns

namespace Search

/-- The loop takes from its stack what the recursive search goes through. Nodes that had been
entered when the others were pushed may be missing (`keep`), and each turn is paid for by a node
that was there or by an edge from a node that is entered. -/
theorem exists_iterate_turn (h : Search next seen nodes out) (keep : α → Bool)
    (hkeep : ∀ a ∈ nodes, keep a = false → a ∈ seen) (stack : List α) :
    ∃ new, out = seen ++ new ∧ ∃ turns ≤ nodes.length + (new.flatMap next).length,
      (turn next)^[turns] ⟨nodes.filter keep ++ stack, seen⟩ = ⟨stack, out⟩ := by
  induction h generalizing keep stack with
  | done => exact ⟨[], (List.append_nil _).symm, 0, Nat.zero_le _, rfl⟩
  | @skip seen a nodes out ha _ ih =>
    obtain ⟨new, hnew, turns, hle, hrun⟩ :=
      ih keep (fun b hb => hkeep b (List.mem_cons_of_mem _ hb)) stack
    by_cases hka : keep a = true
    · refine ⟨new, hnew, turns + 1, by simp only [List.length_cons]; omega, ?_⟩
      rw [List.filter_cons_of_pos hka, List.cons_append, Function.iterate_succ_apply,
        turn_cons_of_mem ha, hrun]
    · refine ⟨new, hnew, turns, by simp only [List.length_cons]; omega, ?_⟩
      rw [List.filter_cons_of_neg hka, hrun]
  | @enter seen a nodes mid out ha hbelow _ ihbelow ihrest =>
    have hka : keep a = true := by
      cases hka : keep a with
      | true => rfl
      | false => exact absurd (hkeep a List.mem_cons_self hka) ha
    have hentered : ∀ b ∈ next a, decide (b ∉ seen ++ [a]) = false → b ∈ seen ++ [a] :=
      fun b _ hb => Decidable.not_not.1 (of_decide_eq_false hb)
    obtain ⟨below, hmid, turns, hle, hrun⟩ := ihbelow _ hentered (nodes.filter keep ++ stack)
    have hkeep' : ∀ b ∈ nodes, keep b = false → b ∈ mid := fun b hb hkb =>
      hbelow.subset (List.mem_append_left _ (hkeep b (List.mem_cons_of_mem _ hb) hkb))
    obtain ⟨rest, hout, turns', hle', hrun'⟩ := ihrest keep hkeep' stack
    refine ⟨a :: (below ++ rest), by simp [hout, hmid], turns' + turns + 1, ?_, ?_⟩
    · simp only [List.flatMap_cons, List.flatMap_append, List.length_append, List.length_cons]
      omega
    · rw [List.filter_cons_of_pos hka, List.cons_append, Function.iterate_succ_apply,
        turn_cons_of_not_mem ha, Function.iterate_add_apply, hrun, hrun']

/-- The loop ends with the nodes that the recursive search enters: one turn for the root and one for
each edge are enough. -/
theorem iterate_turn {root : α} (h : Search next [] [root] out) {turns : Nat}
    (hle : 1 + (out.flatMap next).length ≤ turns) :
    (turn next)^[turns] ⟨[root], []⟩ = ⟨[], out⟩ := by
  obtain ⟨new, rfl, turns', hle', hrun⟩ :=
    h.exists_iterate_turn (fun _ => true) (fun _ _ h => nomatch h) []
  obtain ⟨more, rfl⟩ := Nat.exists_eq_add_of_le' (Nat.le_trans hle' hle)
  calc (turn next)^[more + turns'] ⟨[root], []⟩
      = (turn next)^[more] ((turn next)^[turns'] ⟨[root], []⟩) :=
        Function.iterate_add_apply _ _ _ _
    _ = (turn next)^[more] ⟨[], out⟩ := congrArg _ hrun
    _ = ⟨[], out⟩ := iterate_turn_nil next _ more

end Search

end Shapesmith.Graph
