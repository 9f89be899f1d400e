import Shapesmith.Proofs.Model.Shared
import Shapesmith.Proofs.Sequence.Concur
import Shapesmith.Proofs.Symbol.Stages
import Shapesmith.Symbol.Violations

/-!
# Symbols of a part that models have in common

Two models have what a root leads to in common. The symbols of that part are the same in both,
as far as they have any: the rest of a model can only decide on how deep a type may go.

* `Symbols.onto` : the symbols of another model for the same service;
* `Model.Shares.Owned` : the shapes whose symbols are spelled out on the way, members with the shape
  that has them;
* `Model.Shares.concur_surface`, `Model.Shares.concur_unconstrained`,
  `Model.Shares.concur_variants` : what concurs.
-/

namespace Shapesmith

/-- The symbols of another model for the same service, in the same style. -/
def Symbols.onto (y : Symbols) (n : Model) : Symbols := { y with model := n }

@[simp] theorem Symbols.model_onto (y : Symbols) (n : Model) : (y.onto n).model = n := rfl

@[simp] theorem Symbols.style_onto (y : Symbols) (n : Model) : (y.onto n).style = y.style := rfl

@[simp] theorem Symbols.declared_onto (y : Symbols) (n : Model) :
    (y.onto n).declared = y.declared := rfl

theorem Symbols.concur_finite {s : Shape} {x x' : Option Symbol} (hx : Option.Concur x x') :
    Except.Concur (finite s x) (finite s x') :=
  fun _ _ ha ha' => hx _ _ (finite_eq_ok_iff.1 ha) (finite_eq_ok_iff.1 ha')

namespace Model.Shares

open Symbols

/-- A shape of the part other than a member, or a member that one of the part has. -/
inductive Owned (m : Model) (root : Shape) : Shape → Prop
  /-- A shape other than a member. -/
  | whole {s : Shape} (hs : s ∈ m.walk root) (hk : s.isMember = false) : Owned m root s
  /-- A member. -/
  | part {c e : Shape} (hc : c ∈ m.walk root) (he : e ∈ m.membersOf c) : Owned m root e

variable {y : Symbols} {n : Model} {root s c e : Shape} {id : ShapeId} {depth depth' : Nat}
  {visibility : Visibility} (h : y.model.Shares n root)

/-- Members are in the part with a shape that has them. -/
theorem Owned.exists_container (hs : Owned y.model root s) (hk : s.kind = .member id) :
    ∃ c ∈ y.model.walk root, s ∈ y.model.membersOf c := by
  cases hs with
  | whole _ hno => simp [Shape.isMember, hk] at hno
  | part hc he => exact ⟨_, hc, he⟩

include h

theorem Owned.mem_walk (hs : Owned y.model root s) : s ∈ y.model.walk root := by
  cases hs with
  | whole hs => exact hs
  | part hc he => exact h.mem_walk_of_mem_membersOf hc he

theorem owned_targetOf (hs : s ∈ y.model.walk root) : Owned y.model root (y.model.targetOf s) :=
  .whole (h.targetOf_eq hs).2 (h.direct s (h.mem hs))

theorem exists_owned_of_member (hs : Owned y.model root s) (hk : s.kind = .member id) :
    ∃ t, y.model.find? id = some t ∧ n.find? id = some t ∧ Owned y.model root t := by
  have hid : id ∈ s.references := by
    rw [Shape.references, hk]
    exact List.mem_singleton_self id
  obtain ⟨t, ht, hm, hn⟩ := h.exists_find? (hs.mem_walk h) hid
  have htarget : y.model.targetOf s = t := by
    rw [targetOf, Shape.target?, hk, Option.bind_some, hm, Option.getD_some]
  exact ⟨t, hm, hn, htarget ▸ owned_targetOf h (hs.mem_walk h)⟩

theorem exists_owned_of_members (hs : s ∈ y.model.walk root) (hid : id ∈ s.members) :
    ∃ e, y.model.find? id = some e ∧ n.find? id = some e ∧ Owned y.model root e := by
  obtain ⟨e, he, hm, hn⟩ := h.exists_find? hs (s.members_subset_references hid)
  have hmem := (h.sound.find?_eq_some_iff.1 hm)
  refine ⟨e, hm, hn, .part hs (h.sound.mem_membersOf_iff.2 ⟨hmem.1, hmem.2.symm ▸ hid⟩)⟩

/-! ### Plain symbols -/

theorem wrap_onto (hs : Owned y.model root s) (hk : s.kind = .member id) :
    (y.onto n).wrap s = y.wrap s := by
  obtain ⟨c, hc, he⟩ := hs.exists_container hk
  funext inner
  rw [wrap, wrap, model_onto, style_onto, h.isBoxed_eq hc he, h.isNullable_eq _ hc he]

/-- At the same depth, plain symbols are the same. -/
theorem plainAt_onto (hs : Owned y.model root s) :
    (y.onto n).plainAt depth s = y.plainAt depth s := by
  induction depth generalizing s with
  | zero => rfl
  | succ depth ih =>
    rw [plainAt, plainAt, model_onto, declared_onto]
    cases hk : s.kind with
    | list item =>
      have hitem : item ∈ s.members := by simp [Shape.members, hk]
      obtain ⟨e, hm, hn, he⟩ := exists_owned_of_members h (hs.mem_walk h) hitem
      dsimp only
      rw [hm, hn, Option.bind_some, Option.bind_some, ih he]
    | map key value =>
      have hkey : key ∈ s.members := by simp [Shape.members, hk]
      have hvalue : value ∈ s.members := by simp [Shape.members, hk]
      obtain ⟨e, hm, hn, he⟩ := exists_owned_of_members h (hs.mem_walk h) hkey
      obtain ⟨e', hm', hn', he'⟩ := exists_owned_of_members h (hs.mem_walk h) hvalue
      dsimp only
      rw [hm, hn, hm', hn', Option.bind_some, Option.bind_some, Option.bind_some, Option.bind_some,
        ih he, ih he']
    | member target =>
      obtain ⟨t, hm, hn, ht⟩ := exists_owned_of_member h hs hk
      dsimp only
      rw [hm, hn, Option.bind_some, Option.bind_some, ih ht, wrap_onto h hs hk]
    | _ => rfl

theorem concur_plainAt (hs : Owned y.model root s) :
    Option.Concur (y.plainAt depth s) ((y.onto n).plainAt depth' s) := by
  intro symbol symbol' hsymbol hsymbol'
  rw [plainAt_onto h hs] at hsymbol'
  exact plainAt_unique hsymbol' hsymbol

theorem concur_plain (hs : Owned y.model root s) :
    Except.Concur (y.plain s) ((y.onto n).plain s) :=
  concur_finite (concur_plainAt h hs)

/-! ### Checked values -/

theorem concur_constrainedAt (hs : Owned y.model root s) :
    Option.Concur (y.constrainedAt visibility depth s)
      ((y.onto n).constrainedAt visibility depth' s) := by
  -- each model reads plain symbols at a depth of its own, so that the depths differ throughout
  induction depth generalizing depth' s with
  | zero => exact fun _ _ ha => nomatch ha
  | succ depth ih =>
    cases depth' with
    | zero => exact fun _ _ _ ha' => nomatch ha'
    | succ depth' =>
      have hwalk := hs.mem_walk h
      have hplain : Option.Concur (y.plainAt y.depth s) ((y.onto n).plainAt (y.onto n).depth s) :=
        concur_plainAt h hs
      have htype {id : ShapeId} (hid : id ∈ s.members) :
          Option.Concur
            ((y.model.find? id).bind fun t => (y.constrainedAt visibility depth t).map (·.type))
            ((n.find? id).bind fun t =>
              ((y.onto n).constrainedAt visibility depth' t).map (·.type)) := by
        obtain ⟨e, hm, hn, he⟩ := exists_owned_of_members h hwalk hid
        rw [hm, hn]
        exact (ih he).map _
      rw [constrainedAt, constrainedAt, model_onto, h.isConstrained_eq hwalk,
        h.reachesConstrained_eq hwalk]
      cases hk : s.kind with
      | struct | union => exact hplain
      | member target =>
        obtain ⟨t, hm, hn, ht⟩ := exists_owned_of_member h hs hk
        dsimp only
        rw [hm, hn, Option.bind_some, Option.bind_some, wrap_onto h hs hk]
        exact (ih ht).map _
      | list item =>
        dsimp only
        split_ifs
        · exact Option.concur_refl _
        · exact (htype (by simp [Shape.members, hk])).map _
        · exact hplain
      | map key value =>
        dsimp only
        split_ifs
        · exact Option.concur_refl _
        · exact (htype (by simp [Shape.members, hk])).bind fun _ =>
            (htype (by simp [Shape.members, hk])).map _
        · exact hplain
      | _ =>
        dsimp only
        split_ifs
        · exact Option.concur_refl _
        · exact hplain
        · exact hplain

theorem concur_constrained (hs : Owned y.model root s) :
    Except.Concur (y.constrained visibility s) ((y.onto n).constrained visibility s) :=
  concur_finite (concur_constrainedAt h hs)

theorem concur_surface (hs : Owned y.model root s) :
    Except.Concur (y.surface s) ((y.onto n).surface s) := by
  rw [surface, surface, style_onto]
  split
  · exact concur_constrained h hs
  · exact concur_plain h hs

/-! ### Unchecked values -/

theorem any_reachesConstrained (hs : s ∈ y.model.walk root) :
    (n.membersOf s).any n.reachesConstrained =
      (y.model.membersOf s).any y.model.reachesConstrained := by
  rw [h.membersOf_eq hs, Bool.eq_iff_iff, List.any_eq_true, List.any_eq_true]
  refine exists_congr fun e => and_congr_right fun he => ?_
  rw [h.reachesConstrained_eq (h.mem_walk_of_mem_membersOf hs he)]

theorem concur_unconstrainedOf (hs : Owned y.model root s) :
    Option.Concur (y.unconstrainedOf s) ((y.onto n).unconstrainedOf s) := by
  have hwalk := hs.mem_walk h
  have hplain : Option.Concur (y.plainAt y.depth s) ((y.onto n).plainAt (y.onto n).depth s) :=
    concur_plainAt h hs
  rw [unconstrainedOf, unconstrainedOf, model_onto, h.reachesConstrained_eq hwalk,
    any_reachesConstrained h hwalk]
  split
  · cases s.kind with
    | struct => exact hplain.map _
    | union => exact Option.concur_refl _
    | list | map =>
      dsimp only
      split
      · exact Option.concur_refl _
      · exact hplain
    | _ => exact hplain
  · exact hplain

theorem concur_unconstrainedAt (hs : Owned y.model root s) :
    Option.Concur (y.unconstrainedAt depth s) ((y.onto n).unconstrainedAt depth' s) := by
  induction depth generalizing depth' s with
  | zero => exact fun _ _ ha => nomatch ha
  | succ depth ih =>
    cases depth' with
    | zero => exact fun _ _ _ ha' => nomatch ha'
    | succ depth' =>
      rw [unconstrainedAt, unconstrainedAt, model_onto]
      cases hk : s.kind with
      | member target =>
        obtain ⟨t, hm, hn, ht⟩ := exists_owned_of_member h hs hk
        obtain ⟨c, hc, he⟩ := hs.exists_container hk
        dsimp only
        rw [hm, hn, Option.bind_some, Option.bind_some, h.isBoxed_eq hc he]
        exact (ih ht).map _
      | _ => exact concur_unconstrainedOf h hs

theorem concur_unconstrained (hs : Owned y.model root s) :
    Except.Concur (y.unconstrained s) ((y.onto n).unconstrained s) :=
  concur_finite (concur_unconstrainedAt h hs)

/-! ### Violations -/

theorem concur_violation (hs : s ∈ y.model.walk root) :
    Except.Concur (y.violation s) ((y.onto n).violation s) := by
  obtain ⟨htarget, hwalk⟩ := h.targetOf_eq hs
  rw [violation, violation, model_onto, style_onto, htarget, h.reachesConstrained_eq hwalk]
  split
  · exact (concur_plain h (owned_targetOf h hs)).bind fun _ => Except.concur_refl _
  · exact Except.concur_refl _

theorem concur_nested (hs : s ∈ y.model.walk root) (make : CodeType → Variant) :
    Except.Concur (y.nested s make) ((y.onto n).nested s make) := by
  rw [nested, nested, model_onto, h.reachesConstrained_eq hs]
  split
  · exact (concur_violation h hs).bind fun _ => Except.concur_refl _
  · exact Except.concur_refl _

theorem concur_partVariants (ofStruct : Bool) (hc : c ∈ y.model.walk root)
    (he : e ∈ y.model.membersOf c) :
    Except.Concur (y.partVariants ofStruct e) ((y.onto n).partVariants ofStruct e) := by
  rw [partVariants, partVariants, model_onto, h.isBoxed_eq hc he]
  exact (concur_nested h (h.mem_walk_of_mem_membersOf hc he) _).bind fun _ => Except.concur_refl _

theorem concur_partsVariants (hs : s ∈ y.model.walk root) :
    Except.Concur (y.partsVariants s) ((y.onto n).partsVariants s) := by
  have hmember {id : ShapeId} (hid : id ∈ s.members) (make : ShapeId → CodeType → Variant) :
      Except.Concur
        ((collect (fun e => y.nested e (make e.id)) (y.model.find? id).toList).map List.flatten)
        ((collect (fun e => (y.onto n).nested e (make e.id)) (n.find? id).toList).map
          List.flatten) := by
    obtain ⟨e, hm, hn, he⟩ := exists_owned_of_members h hs hid
    rw [hm, hn]
    exact (concur_collect fun t ht =>
      concur_nested h (List.mem_singleton.1 ht ▸ he.mem_walk h) _).map _
  rw [partsVariants, partsVariants, model_onto, h.membersOf_eq hs]
  cases hk : s.kind with
  | struct | union =>
    exact (concur_collect fun e he => concur_partVariants h _ hs he).map _
  | list item => exact hmember (by simp [Shape.members, hk]) _
  | map key value =>
    refine (hmember (by simp [Shape.members, hk]) _).bind fun _ => ?_
    exact (hmember (by simp [Shape.members, hk]) _).bind fun _ => Except.concur_refl _
  | _ => exact Except.concur_refl _

theorem concur_variants (hs : s ∈ y.model.walk root) :
    Except.Concur (y.variants s) ((y.onto n).variants s) := by
  obtain ⟨htarget, hwalk⟩ := h.targetOf_eq hs
  rw [variants, variants, model_onto, htarget, h.reachesConstrained_eq hwalk]
  split
  · exact (concur_partsVariants h hwalk).bind fun _ => Except.concur_refl _
  · exact Except.concur_refl _

end Model.Shares

end Shapesmith
