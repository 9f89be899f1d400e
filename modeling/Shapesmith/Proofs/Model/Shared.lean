import Shapesmith.Proofs.Model.Boxing
import Shapesmith.Proofs.Model.Walk
import Shapesmith.Symbol.Plain

/-!
# Models with a part in common

Two models have what a root leads to in common. Whatever is asked about a shape of that part has
one answer in both, also where the answer is looked for in the whole model.

* `Model.Shares` says that two models have such a part in common;
* `Model.Shares.walk_eq`, `Model.Shares.membersOf_eq`, `Model.Shares.targetOf_eq` : walks, members
  and targets;
* `Model.Shares.reachesConstrained_eq` : what can be reached;
* `Model.Shares.isBoxed_eq`, `Model.Shares.isNullable_eq` : members that are boxed, and those that
  may be absent.
-/

namespace Shapesmith.Model

open Relation

/-- Two models have what a root leads to in common. In both, members belong to one shape each and
do not point at members. -/
structure Shares (m n : Model) (root : Shape) : Prop where
  /-- The first model is sound. -/
  sound : m.Sound
  /-- So is the second. -/
  sound' : n.Sound
  /-- Members of the first model belong to one shape each. -/
  paired : m.Paired
  /-- So do those of the second. -/
  paired' : n.Paired
  /-- Members of the first model do not point at members. -/
  direct : ∀ e ∈ m.shapes, (m.targetOf e).isMember = false
  /-- Nor do those of the second. -/
  direct' : ∀ e ∈ n.shapes, (n.targetOf e).isMember = false
  /-- The root is in the first model. -/
  starts : root ∈ m.shapes
  /-- It is in the second. -/
  starts' : root ∈ n.shapes
  /-- It leads to the same shapes in both. -/
  same : ∀ s, ReflTransGen m.Refers root s ↔ ReflTransGen n.Refers root s

/-- A member is named after the shape that has it. -/
theorem Paired.find?_owner {m : Model} (hp : m.Paired) (hm : m.Sound) {c e : Shape}
    (hc : c ∈ m.shapes) (he : e ∈ m.membersOf c) : m.find? e.id.withoutMember = some c := by
  obtain ⟨hmem, hid⟩ := hm.mem_membersOf_iff.1 he
  obtain ⟨s, hs, -, -, howner⟩ := hp e hmem (hm.isMember_of_mem hc he)
  rw [hs, howner c hc hid]

namespace Shares

variable {m n : Model} {root s t c e : Shape} {id : ShapeId}

theorem symm (h : m.Shares n root) : n.Shares m root :=
  ⟨h.sound', h.sound, h.paired', h.paired, h.direct', h.direct, h.starts', h.starts,
    fun s => (h.same s).symm⟩

/-- Walks from the root are the same. -/
theorem walk_eq (h : m.Shares n root) : n.walk root = m.walk root :=
  Sound.walk_congr h.sound h.sound' h.starts h.starts' fun s hs =>
    mem_of_reflTransGen Refers.mem h.starts' ((h.same s).1 hs)

theorem mem (h : m.Shares n root) (hs : s ∈ m.walk root) : s ∈ m.shapes :=
  mem_of_mem_walk h.starts hs

theorem mem' (h : m.Shares n root) (hs : s ∈ m.walk root) : s ∈ n.shapes :=
  mem_of_mem_walk h.starts' (h.walk_eq ▸ hs)

/-! ### References -/

/-- What a shape of the part refers to is in the part. -/
theorem exists_find? (h : m.Shares n root) (hs : s ∈ m.walk root) (hid : id ∈ s.references) :
    ∃ t ∈ m.walk root, m.find? id = some t ∧ n.find? id = some t := by
  obtain ⟨t, ht, hf, rfl⟩ := h.sound.exists_find? (h.mem hs) hid
  have hwalk : t ∈ m.walk root := by
    rw [h.sound.mem_walk_iff h.starts] at hs ⊢
    exact hs.tail ⟨ht, hid⟩
  exact ⟨t, hwalk, hf, h.sound'.find?_id (h.mem' hwalk)⟩

theorem membersOf_eq (h : m.Shares n root) (hs : s ∈ m.walk root) :
    n.membersOf s = m.membersOf s := by
  refine List.filterMap_congr fun id hid => ?_
  obtain ⟨t, -, hm, hn⟩ := h.exists_find? hs (s.members_subset_references hid)
  rw [hm, hn]

theorem mem_walk_of_mem_membersOf (h : m.Shares n root) (hs : s ∈ m.walk root)
    (he : e ∈ m.membersOf s) : e ∈ m.walk root := by
  obtain ⟨hmem, hid⟩ := h.sound.mem_membersOf_iff.1 he
  obtain ⟨t, ht, hf, -⟩ := h.exists_find? hs (s.members_subset_references hid)
  rw [h.sound.find?_id hmem] at hf
  exact Option.some.inj hf ▸ ht

theorem targetOf_eq (h : m.Shares n root) (hs : s ∈ m.walk root) :
    n.targetOf s = m.targetOf s ∧ m.targetOf s ∈ m.walk root := by
  cases hk : s.isMember with
  | false =>
    rw [targetOf_of_not_isMember hk, targetOf_of_not_isMember hk]
    exact ⟨rfl, hs⟩
  | true =>
    obtain ⟨id, hkind⟩ := Shape.isMember_iff.1 hk
    have hid : id ∈ s.references := by
      rw [Shape.references, hkind]
      exact List.mem_singleton_self id
    obtain ⟨t, ht, hm, hn⟩ := h.exists_find? hs hid
    have htarget : s.target? = some id := by rw [Shape.target?, hkind]
    rw [targetOf, targetOf, htarget, Option.bind_some, Option.bind_some, hm, hn]
    exact ⟨rfl, ht⟩

/-! ### Constraints -/

/-- The values of the shapes of the part are made of values of shapes of the part, in both models
of the same. -/
theorem hasPart (h : m.Shares n root) (hs : s ∈ m.walk root) (hst : m.HasPart s t) :
    t ∈ m.walk root ∧ n.HasPart s t := by
  obtain ⟨e, he, rfl⟩ := hst
  obtain ⟨htarget, hwalk⟩ := h.targetOf_eq (h.mem_walk_of_mem_membersOf hs he)
  exact ⟨hwalk, e, (h.membersOf_eq hs).symm ▸ he, htarget.symm⟩

/-- Chains of steps that stay in the part are chains in the other model. -/
theorem reflTransGen {R R' : Shape → Shape → Prop}
    (hstep : ∀ {s t}, s ∈ m.walk root → R s t → t ∈ m.walk root ∧ R' s t)
    (hs : s ∈ m.walk root) (hst : ReflTransGen R s t) :
    t ∈ m.walk root ∧ ReflTransGen R' s t := by
  induction hst with
  | refl => exact ⟨hs, .refl⟩
  | tail _ hlast ih =>
    obtain ⟨hmem, hrest⟩ := ih
    obtain ⟨hmem', hlast'⟩ := hstep hmem hlast
    exact ⟨hmem', hrest.tail hlast'⟩

theorem isConstrained_eq (h : m.Shares n root) (hs : s ∈ m.walk root) :
    n.isConstrained s = m.isConstrained s := by
  obtain ⟨htarget, hwalk⟩ := h.targetOf_eq hs
  rw [isConstrained, isConstrained, htarget, h.membersOf_eq hwalk]

theorem canBreak (h : m.Shares n root) (hs : s ∈ m.walk root) (hbreak : m.CanBreak s) :
    n.CanBreak s := by
  obtain ⟨t, ht, hc⟩ := hbreak
  obtain ⟨htarget, hwalk⟩ := h.targetOf_eq hs
  obtain ⟨hmem, ht'⟩ := reflTransGen (fun hs => h.hasPart hs) hwalk ht
  exact ⟨t, htarget.symm ▸ ht', (h.isConstrained_eq hmem).symm ▸ hc⟩

theorem reachesConstrained_eq (h : m.Shares n root) (hs : s ∈ m.walk root) :
    n.reachesConstrained s = m.reachesConstrained s := by
  -- the searches of the two models differ in their steps, the chains do not
  rw [Bool.eq_iff_iff, ← canBreak_iff h.sound' (h.mem' hs), ← canBreak_iff h.sound (h.mem hs)]
  exact ⟨h.symm.canBreak (h.walk_eq.symm ▸ hs), h.canBreak hs⟩

/-! ### Members -/

theorem holdsByValue (h : m.Shares n root) (hs : s ∈ m.walk root) (hst : m.HoldsByValue s t) :
    t ∈ m.walk root ∧ n.HoldsByValue s t := by
  obtain ⟨hk, hpart⟩ := hst
  obtain ⟨hwalk, hpart'⟩ := h.hasPart hs hpart
  exact ⟨hwalk, hk, hpart'⟩

/-- Members of shapes of the part are boxed in both models or in none. -/
theorem isBoxed_eq (h : m.Shares n root) (hc : c ∈ m.walk root) (he : e ∈ m.membersOf c) :
    n.isBoxed e.id = m.isBoxed e.id := by
  obtain ⟨htarget, hwalk⟩ := h.targetOf_eq (h.mem_walk_of_mem_membersOf hc he)
  have he' : e ∈ n.membersOf c := (h.membersOf_eq hc).symm ▸ he
  rw [Bool.eq_iff_iff, isBoxed_iff_of_paired h.sound' h.paired' (h.mem' hc) he',
    isBoxed_iff_of_paired h.sound h.paired (h.mem hc) he, htarget]
  refine and_congr_right fun _ => ⟨fun hback => ?_, fun hback => ?_⟩
  · exact (reflTransGen (fun hs => h.symm.holdsByValue hs) (h.walk_eq.symm ▸ hwalk) hback).2
  · exact (reflTransGen (fun hs => h.holdsByValue hs) hwalk hback).2

/-- Members of shapes of the part may be absent in both models or in none. -/
theorem isNullable_eq (h : m.Shares n root) (mode : Nullability) (hc : c ∈ m.walk root)
    (he : e ∈ m.membersOf c) : n.isNullable mode e = m.isNullable mode e := by
  have he' : e ∈ n.membersOf c := (h.membersOf_eq hc).symm ▸ he
  unfold isNullable
  rw [h.paired.find?_owner h.sound (h.mem hc) he,
    h.paired'.find?_owner h.sound' (h.mem' hc) he']

end Shares

end Shapesmith.Model
