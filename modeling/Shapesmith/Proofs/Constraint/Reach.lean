import Shapesmith.Constraint.Reach
import Shapesmith.Proofs.Graph.Reachable
import Shapesmith.Proofs.Model.Assembled

/-!
# What searches through a model find

Searches go from id to id and count their steps. In a sound model they find what the relations
between shapes say.

* `Model.HasPart` : values of a shape are made of values of another;
* `Model.HoldsByValue` : the same for structures and unions, which hold their parts in place;
* `Model.reachesConstrained_iff` : a search for a constrained shape finds one that can be reached;
* `Model.CanBreak` says that one can be reached, without a search;
* `Model.isBoxed_iff` : a member is boxed when a structure or union would hold itself through it.
-/

namespace Shapesmith.Model

open Relation

variable {m : Model}

/-- The values of a shape are made of values of the other, the target of a member. -/
def HasPart (m : Model) (s t : Shape) : Prop := ∃ e ∈ m.membersOf s, t = m.targetOf e

/-- The shape is a structure or union and holds values of the other in place. -/
def HoldsByValue (m : Model) (s t : Shape) : Prop :=
  (s.isStruct = true ∨ s.isUnion = true) ∧ m.HasPart s t

theorem HasPart.mem (hm : m.Sound) {s t : Shape} (h : m.HasPart s t) : t ∈ m.shapes := by
  obtain ⟨e, he, rfl⟩ := h
  exact hm.targetOf_mem (hm.mem_membersOf_iff.1 he).1

theorem HoldsByValue.mem (hm : m.Sound) {s t : Shape} (h : m.HoldsByValue s t) : t ∈ m.shapes :=
  h.2.mem hm

/-- A relation that leads to shapes of the model does not leave it. -/
theorem mem_of_reflTransGen {R : Shape → Shape → Prop} (hmem : ∀ {s t}, R s t → t ∈ m.shapes)
    {s t : Shape} (hs : s ∈ m.shapes) (h : ReflTransGen R s t) : t ∈ m.shapes := by
  cases h with
  | refl => exact hs
  | tail _ hlast => exact hmem hlast

/-! ### Steps -/

theorem members_length_le (s : Shape) : s.members.length ≤ s.references.length := by
  unfold Shape.references
  split <;> simp_all [Shape.members]

/-- The shapes that pay for a search from a root: each with the number of its references. -/
def payers (m : Model) (root : Shape) : List (ShapeId × Nat) :=
  (root :: m.shapes).map fun s => (s.id, s.references.length)

theorem le_searchSteps (root : Shape) :
    1 + ((m.payers root).map (·.2)).sum ≤ m.searchSteps root := by
  rw [searchSteps, List.length_flatMap, payers, List.map_map]
  exact Nat.le_refl _

theorem paidBy_of_members {next : ShapeId → List ShapeId} {root : Shape}
    (h : ∀ id, next id ≠ [] → ∃ s ∈ root :: m.shapes, s.id = id ∧
      (next id).length ≤ s.members.length) : Graph.PaidBy next (m.payers root) := by
  intro id hne
  obtain ⟨s, hs, rfl, hle⟩ := h id hne
  exact ⟨_, List.mem_map.2 ⟨s, hs, rfl⟩, Nat.le_trans hle (members_length_le s)⟩

theorem length_membersOf_le (s : Shape) : (m.membersOf s).length ≤ s.members.length :=
  List.length_filterMap_le _ _

theorem paidBy_partsFrom (root : Shape) :
    Graph.PaidBy (m.partsFrom root) (m.payers root) := by
  refine paidBy_of_members fun id hne => ?_
  rw [partsFrom] at hne ⊢
  rw [findFrom] at hne ⊢
  split at hne
  · rename_i s hs
    refine ⟨s, ?_, ?_, ?_⟩
    · split at hs
      · exact Option.some.inj hs ▸ List.mem_cons_self
      · exact List.mem_cons_of_mem _ (List.mem_of_find?_eq_some hs)
    · split at hs
      · rename_i hid
        rw [← Option.some.inj hs, hid]
      · simpa using List.find?_some hs
    · simpa using length_membersOf_le s
  · exact absurd rfl hne

theorem paidBy_heldByValue (root : Shape) : Graph.PaidBy m.heldByValue (m.payers root) := by
  refine paidBy_of_members fun id hne => ?_
  rw [heldByValue] at hne ⊢
  split at hne
  · rename_i s hs
    refine ⟨s, List.mem_cons_of_mem _ (List.mem_of_find?_eq_some hs), ?_, ?_⟩
    · simpa using List.find?_some hs
    · split
      · exact Nat.le_trans (List.length_filterMap_le _ _) (length_membersOf_le s)
      · exact Nat.zero_le _
  · exact absurd rfl hne

/-! ### Relations between shapes -/

/-- What can be reached from id to id is what can be reached from shape to shape. -/
theorem reflTransGen_id_iff {R : Shape → Shape → Prop} {next : ShapeId → List ShapeId}
    (hmem : ∀ {s t}, R s t → t ∈ m.shapes)
    (hnext : ∀ s ∈ m.shapes, ∀ id, id ∈ next s.id ↔ ∃ t, R s t ∧ t.id = id) {s : Shape}
    (hs : s ∈ m.shapes) {id : ShapeId} :
    ReflTransGen (Graph.Edge next) s.id id ↔ ∃ t, ReflTransGen R s t ∧ t.id = id := by
  constructor
  · intro h
    induction h with
    | refl => exact ⟨s, .refl, rfl⟩
    | tail _ hstep ih =>
      obtain ⟨t, ht, rfl⟩ := ih
      have htmem := mem_of_reflTransGen hmem hs ht
      obtain ⟨u, hu, rfl⟩ := (hnext t htmem _).1 hstep
      exact ⟨u, ht.tail hu, rfl⟩
  · rintro ⟨t, ht, rfl⟩
    induction ht with
    | refl => exact .refl
    | @tail t u ht hu ih =>
      have htmem := mem_of_reflTransGen hmem hs ht
      exact ih.tail ((hnext t htmem _).2 ⟨u, hu, rfl⟩)

theorem findFrom_eq (hm : m.Sound) {root : Shape} (hr : root ∈ m.shapes) (id : ShapeId) :
    m.findFrom root id = m.find? id := by
  rw [findFrom]
  split
  · rename_i hid
    rw [hid, hm.find?_id hr]
  · rfl

theorem mem_partsFrom_iff (hm : m.Sound) {root s : Shape} (hr : root ∈ m.shapes)
    (hs : s ∈ m.shapes) (id : ShapeId) :
    id ∈ m.partsFrom root s.id ↔ ∃ t, m.HasPart s t ∧ t.id = id := by
  rw [partsFrom, findFrom_eq hm hr, hm.find?_id hs]
  simp only [List.mem_map, HasPart]
  constructor
  · rintro ⟨e, he, rfl⟩
    exact ⟨_, ⟨e, he, rfl⟩, rfl⟩
  · rintro ⟨t, ⟨e, he, rfl⟩, rfl⟩
    exact ⟨e, he, rfl⟩

/-- A search for a constrained shape finds one that can be reached. -/
theorem reachesConstrained_iff (hm : m.Sound) {s : Shape} (hs : s ∈ m.shapes) :
    m.reachesConstrained s = true ↔
      ∃ t, ReflTransGen m.HasPart (m.targetOf s) t ∧ m.isConstrained t = true := by
  have hr := hm.targetOf_mem hs
  rw [reachesConstrained, Graph.leadsTo_iff (paidBy_partsFrom _) (le_searchSteps _)]
  constructor
  · rintro ⟨id, hreach, htest⟩
    obtain ⟨t, ht, rfl⟩ :=
      (reflTransGen_id_iff (fun h => h.mem hm) (fun s hs => mem_partsFrom_iff hm hr hs) hr).1 hreach
    have htmem := mem_of_reflTransGen (fun h => HasPart.mem hm h) hr ht
    rw [findFrom_eq hm hr, hm.find?_id htmem, Option.any_some] at htest
    exact ⟨t, ht, htest⟩
  · rintro ⟨t, ht, hc⟩
    have htmem := mem_of_reflTransGen (fun h => HasPart.mem hm h) hr ht
    refine ⟨t.id, ?_, ?_⟩
    · exact (reflTransGen_id_iff (fun h => h.mem hm) (fun s hs => mem_partsFrom_iff hm hr hs)
        hr).2 ⟨t, ht, rfl⟩
    · rwa [findFrom_eq hm hr, hm.find?_id htmem, Option.any_some]

/-- Values of the shape, or of a member's target, are made of values of a constrained shape. -/
def CanBreak (m : Model) (s : Shape) : Prop :=
  ∃ t, ReflTransGen m.HasPart (m.targetOf s) t ∧ m.isConstrained t = true

theorem canBreak_iff (hm : m.Sound) {s : Shape} (hs : s ∈ m.shapes) :
    m.CanBreak s ↔ m.reachesConstrained s = true :=
  (reachesConstrained_iff hm hs).symm

theorem reachesConstrained_of_isConstrained (hm : m.Sound) {s : Shape} (hs : s ∈ m.shapes)
    (hk : s.isMember = false) (h : m.isConstrained s = true) : m.reachesConstrained s = true := by
  refine (reachesConstrained_iff hm hs).2 ⟨s, ?_, h⟩
  rw [targetOf_of_not_isMember hk]

/-! ### Boxes -/

theorem target?_eq (hm : m.Sound) {s e : Shape} (hs : s ∈ m.shapes) (he : e ∈ m.membersOf s) :
    e.target? = some (m.targetOf e).id := by
  obtain ⟨id, hk⟩ := Shape.isMember_iff.1 (hm.isMember_of_mem hs he)
  have htarget : e.target? = some id := by rw [Shape.target?, hk]
  have hfound := hm.find?_target (hm.mem_membersOf_iff.1 he).1 htarget
  rw [htarget, (hm.find?_eq_some_iff.1 hfound).2]

theorem mem_heldByValue_iff (hm : m.Sound) {s : Shape} (hs : s ∈ m.shapes) (id : ShapeId) :
    id ∈ m.heldByValue s.id ↔ ∃ t, m.HoldsByValue s t ∧ t.id = id := by
  rw [heldByValue, hm.find?_id hs]
  dsimp only
  by_cases hk : s.isStruct = true ∨ s.isUnion = true
  · rw [if_pos (by simpa using hk), List.mem_filterMap]
    constructor
    · rintro ⟨e, he, ht⟩
      rw [target?_eq hm hs he] at ht
      exact ⟨_, ⟨hk, e, he, rfl⟩, Option.some.inj ht⟩
    · rintro ⟨t, ⟨-, e, he, rfl⟩, rfl⟩
      exact ⟨e, he, target?_eq hm hs he⟩
  · rw [if_neg (by simpa using hk)]
    constructor
    · intro h
      cases h
    · rintro ⟨t, ⟨hk', -⟩, -⟩
      exact absurd hk' hk

/-- A member is boxed when a structure or union that has it would hold itself through it. -/
theorem isBoxed_iff (hm : m.Sound) {s e : Shape} (hs : s ∈ m.shapes) (he : e ∈ m.membersOf s) :
    m.isBoxed e.id = true ↔ ∃ h ∈ m.shapes, (h.isStruct = true ∨ h.isUnion = true) ∧
      e ∈ m.membersOf h ∧ ReflTransGen m.HoldsByValue (m.targetOf e) h := by
  have hmem := (hm.mem_membersOf_iff.1 he).1
  rw [isBoxed, hm.find?_id hmem, Option.bind_some, target?_eq hm hs he, List.any_eq_true]
  simp only [Graph.leadsTo_iff (paidBy_heldByValue _) (le_searchSteps _),
    reflTransGen_id_iff (fun h => HoldsByValue.mem hm h) (fun s hs => mem_heldByValue_iff hm hs)
      (hm.targetOf_mem hmem), holders, List.mem_filter, decide_eq_true_eq]
  constructor
  · rintro ⟨h, ⟨hh, hk⟩, id, ⟨t, ht, rfl⟩, hid⟩
    rw [Bool.and_eq_true, Bool.or_eq_true, List.contains_iff_mem] at hk
    have htmem := mem_of_reflTransGen (fun h => HoldsByValue.mem hm h) (hm.targetOf_mem hmem) ht
    obtain rfl := hm.eq_of_id_eq htmem hh hid
    exact ⟨t, hh, hk.1, hm.mem_membersOf_iff.2 ⟨hmem, hk.2⟩, ht⟩
  · rintro ⟨h, hh, hk, heh, ht⟩
    refine ⟨h, ⟨hh, ?_⟩, h.id, ⟨h, ht, rfl⟩, rfl⟩
    rw [Bool.and_eq_true, Bool.or_eq_true, List.contains_iff_mem]
    exact ⟨hk, (hm.mem_membersOf_iff.1 heh).2⟩

end Shapesmith.Model
