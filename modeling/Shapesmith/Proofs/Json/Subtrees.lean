import Shapesmith.Json.Basic

/-!
# The values inside a value

* `Json.subtrees` lists all values in a tree, itself included; there are `Json.nodes` of them
  (`Json.length_subtrees`);
* `Json.mem_subtrees_trans` : what is inside of something inside is inside.
-/

namespace Shapesmith.Json

mutual

/-- All values in a tree, itself included. -/
def subtrees : Json → List Json
  | .arr items => .arr items :: subtreesItems items
  | .obj fields => .obj fields :: subtreesFields fields
  | j => [j]

/-- All values in the items. -/
def subtreesItems : List Json → List Json
  | [] => []
  | x :: xs => subtrees x ++ subtreesItems xs

/-- All values in the members. -/
def subtreesFields : List (String × Json) → List Json
  | [] => []
  | (_, x) :: xs => subtrees x ++ subtreesFields xs

end

theorem self_mem_subtrees (j : Json) : j ∈ j.subtrees := by
  cases j <;> exact List.mem_cons_self

theorem mem_subtreesItems_iff {items : List Json} {j : Json} :
    j ∈ subtreesItems items ↔ ∃ x ∈ items, j ∈ x.subtrees := by
  induction items with
  | nil => simp [subtreesItems]
  | cons x items ih => simp [subtreesItems, ih]

theorem mem_subtreesFields_iff {fields : List (String × Json)} {j : Json} :
    j ∈ subtreesFields fields ↔ ∃ f ∈ fields, j ∈ f.2.subtrees := by
  induction fields with
  | nil => simp [subtreesFields]
  | cons f fields ih => simp [subtreesFields, ih]

theorem item_mem_subtrees {items : List Json} {x : Json} (h : x ∈ items) :
    x ∈ (arr items).subtrees :=
  List.mem_cons_of_mem _ (mem_subtreesItems_iff.2 ⟨x, h, self_mem_subtrees x⟩)

theorem field_mem_subtrees {fields : List (String × Json)} {f : String × Json} (h : f ∈ fields) :
    f.2 ∈ (obj fields).subtrees :=
  List.mem_cons_of_mem _ (mem_subtreesFields_iff.2 ⟨f, h, self_mem_subtrees f.2⟩)

mutual

/-- There are as many values in a tree as it has nodes. -/
theorem length_subtrees : (j : Json) → j.subtrees.length = j.nodes
  | .arr items => by
    rw [subtrees, List.length_cons, length_subtreesItems items, nodes, Nat.add_comm]
  | .obj fields => by
    rw [subtrees, List.length_cons, length_subtreesFields fields, nodes, Nat.add_comm]
  | .null | .bool _ | .num _ | .str _ => rfl

theorem length_subtreesItems : (items : List Json) →
    (subtreesItems items).length = nodesItems items
  | [] => rfl
  | x :: xs => by
    rw [subtreesItems, List.length_append, length_subtrees x, length_subtreesItems xs, nodesItems]

theorem length_subtreesFields : (fields : List (String × Json)) →
    (subtreesFields fields).length = nodesFields fields
  | [] => rfl
  | (_, x) :: xs => by
    rw [subtreesFields, List.length_append, length_subtrees x, length_subtreesFields xs,
      nodesFields]

end

mutual

/-- What is inside of something inside is inside. -/
theorem mem_subtrees_trans {a b : Json} (hab : a ∈ b.subtrees) :
    (c : Json) → b ∈ c.subtrees → a ∈ c.subtrees
  | .arr items, hbc => by
    rcases List.mem_cons.1 hbc with rfl | hbc
    · exact hab
    · exact List.mem_cons_of_mem _ (mem_subtreesItems_trans hab items hbc)
  | .obj fields, hbc => by
    rcases List.mem_cons.1 hbc with rfl | hbc
    · exact hab
    · exact List.mem_cons_of_mem _ (mem_subtreesFields_trans hab fields hbc)
  | .null, hbc | .bool _, hbc | .num _, hbc | .str _, hbc => by
    obtain rfl := List.mem_singleton.1 hbc
    exact hab

theorem mem_subtreesItems_trans {a b : Json} (hab : a ∈ b.subtrees) :
    (items : List Json) → b ∈ subtreesItems items → a ∈ subtreesItems items
  | [], hbc => by cases hbc
  | x :: xs, hbc => by
    rcases List.mem_append.1 hbc with hbc | hbc
    · exact List.mem_append_left _ (mem_subtrees_trans hab x hbc)
    · exact List.mem_append_right _ (mem_subtreesItems_trans hab xs hbc)

theorem mem_subtreesFields_trans {a b : Json} (hab : a ∈ b.subtrees) :
    (fields : List (String × Json)) → b ∈ subtreesFields fields → a ∈ subtreesFields fields
  | [], hbc => by cases hbc
  | (_, x) :: xs, hbc => by
    rcases List.mem_append.1 hbc with hbc | hbc
    · exact List.mem_append_left _ (mem_subtrees_trans hab x hbc)
    · exact List.mem_append_right _ (mem_subtreesFields_trans hab xs hbc)

end

/-- A value inside of another has at most as many nodes. -/
theorem nodes_le_of_mem_items {items : List Json} {x : Json} (h : x ∈ items) :
    x.nodes ≤ nodesItems items := by
  induction items with
  | nil => cases h
  | cons y items ih =>
    rw [nodesItems]
    rcases List.mem_cons.1 h with rfl | h
    · exact Nat.le_add_right _ _
    · exact Nat.le_trans (ih h) (Nat.le_add_left _ _)

theorem nodes_le_of_mem_fields {fields : List (String × Json)} {f : String × Json}
    (h : f ∈ fields) : f.2.nodes ≤ nodesFields fields := by
  induction fields with
  | nil => cases h
  | cons g fields ih =>
    rw [nodesFields]
    rcases List.mem_cons.1 h with rfl | h
    · exact Nat.le_add_right _ _
    · exact Nat.le_trans (ih h) (Nat.le_add_left _ _)

theorem nodes_pos (j : Json) : 0 < j.nodes := by
  cases j <;> simp only [nodes] <;> omega

end Shapesmith.Json
