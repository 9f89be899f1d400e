import Shapesmith.Proofs.Json.Same
import Shapesmith.Proofs.Model.Assembled

/-!
# Equality of definitions is an equivalence

Shapes count as equal when they have the same id, the same kind and equal traits in any order.

* `Traits.Distinct` : traits give each id and, in their values, each key once. The traits of
  declared shapes do (`Declaration.distinct_of_shapes`);
* `Shape.same_refl`, `Shape.same_symm`, `Shape.same_trans` : among shapes with such traits, equality
  of definitions is an equivalence;
* `Model.distinct_of_assembled` : the shapes of assembled models have such traits.
-/

namespace Shapesmith

/-! ### Traits -/

namespace RangeBound

theorem same_refl (a : RangeBound) : a.same a = true := by
  cases a <;> simp [same]

theorem same_symm {a b : RangeBound} (h : a.same b = true) : b.same a = true := by
  cases a <;> cases b <;> simp_all [same]

theorem same_trans {a b c : RangeBound} (hab : a.same b = true) (hbc : b.same c = true) :
    a.same c = true := by
  cases a <;> cases b <;> cases c <;> simp_all [same]

end RangeBound

namespace Trait

theorem sameBound_refl (a : Option RangeBound) : sameBound a a = true := by
  cases a with
  | none => rfl
  | some a => exact a.same_refl

theorem sameBound_symm {a b : Option RangeBound} (h : sameBound a b = true) :
    sameBound b a = true := by
  cases a <;> cases b <;> simp_all [sameBound, RangeBound.same_symm]

theorem sameBound_trans {a b c : Option RangeBound} (hab : sameBound a b = true)
    (hbc : sameBound b c = true) : sameBound a c = true := by
  cases a <;> cases b <;> cases c <;> simp_all [sameBound]
  exact RangeBound.same_trans hab hbc

/-- The value that the trait holds gives each key once. -/
def Distinct : Trait → Prop
  | .default value | .other value => value.Distinct
  | _ => True

instance : DecidablePred Distinct := fun t => by
  unfold Distinct
  split <;> infer_instance

theorem distinct_of_read {id : String} {value : Json} (hv : value.Distinct) {t : Trait}
    (h : read id value = .ok t) : t.Distinct := by
  unfold read at h
  split_ifs at h
  · cases h
    trivial
  · cases h
    exact hv
  · obtain ⟨b, -, rfl⟩ := Except.map_eq_ok_iff.1 h
    trivial
  · obtain ⟨b, -, rfl⟩ := Except.map_eq_ok_iff.1 h
    trivial
  · obtain ⟨p, -, rfl⟩ := Except.map_eq_ok_iff.1 h
    trivial
  · obtain ⟨d, -, rfl⟩ := Except.map_eq_ok_iff.1 h
    trivial
  · obtain ⟨b, -, rfl⟩ := Except.map_eq_ok_iff.1 h
    trivial
  · cases h
    exact hv

theorem same_refl {t : Trait} (h : t.Distinct) : t.same t = true := by
  cases t with
  | default v | other v => exact Json.same_refl (j := v) h
  | range b => simp [same, sameBound_refl]
  | _ => simp [same]

theorem same_symm {a b : Trait} (ha : a.Distinct) (hb : b.Distinct) (h : a.same b = true) :
    b.same a = true := by
  cases a with
  | default v =>
    cases b with
    | default w => exact Json.same_symm (a := v) ha hb h
    | _ => simp [same] at h
  | other v =>
    cases b with
    | other w => exact Json.same_symm (a := v) ha hb h
    | _ => simp [same] at h
  | range v =>
    cases b with
    | range w =>
      rw [same, Bool.and_eq_true] at h ⊢
      exact ⟨sameBound_symm h.1, sameBound_symm h.2⟩
    | _ => simp [same] at h
  | _ => cases b <;> simp_all [same]

theorem same_trans {a b c : Trait} (ha : a.Distinct) (hb : b.Distinct) (hc : c.Distinct)
    (hab : a.same b = true) (hbc : b.same c = true) : a.same c = true := by
  cases b with
  | default w =>
    cases a with
    | default v =>
      cases c with
      | default u => exact Json.same_trans (a := v) (b := w) ha hb hc hab hbc
      | _ => simp [same] at hbc
    | _ => simp [same] at hab
  | other w =>
    cases a with
    | other v =>
      cases c with
      | other u => exact Json.same_trans (a := v) (b := w) ha hb hc hab hbc
      | _ => simp [same] at hbc
    | _ => simp [same] at hab
  | range w =>
    cases a with
    | range v =>
      cases c with
      | range u =>
        rw [same, Bool.and_eq_true] at hab hbc ⊢
        exact ⟨sameBound_trans hab.1 hbc.1, sameBound_trans hab.2 hbc.2⟩
      | _ => simp [same] at hbc
    | _ => simp [same] at hab
  | _ => cases a <;> cases c <;> simp_all [same]

end Trait

namespace Traits

/-- Each id is given once, and each key in the values. -/
structure Distinct (ts : Traits) : Prop where
  /-- The ids. -/
  ids : (Table.keys ts).Nodup
  /-- The values. -/
  values : ∀ e ∈ ts, e.2.Distinct

theorem nodup_of_read {owner : ShapeId} {entries : List (String × Json)} {ts : Traits}
    (h : read owner entries = .ok ts) : (Table.keys ts).Nodup := by
  suffices hgo : ∀ (rest : List (String × Json)) (done : Traits), (Table.keys done).Nodup →
      read.go owner done rest = .ok ts → (Table.keys ts).Nodup from
    hgo entries [] List.nodup_nil h
  intro rest
  induction rest with
  | nil =>
    intro done hdone h
    cases h
    exact hdone
  | cons e rest ih =>
    intro done hdone h
    rw [read.go] at h
    split at h
    · cases h
    · exact ih _ (Table.nodup_keys_put hdone _ _) h

/-- Equality of traits is equality under every id. -/
theorem same_iff {a b : Traits} (ha : a.Distinct) (hb : b.Distinct) :
    same a b = true ↔ Table.Agree (fun s t => Trait.same s t = true) a b := by
  rw [Table.agree_iff ha.ids hb.ids, same, Bool.and_eq_true, beq_iff_eq, List.all_eq_true]
  refine and_congr_right fun _ => forall₂_congr fun e _ => ?_
  cases Table.get? b e.1 <;> simp

end Traits

/-! ### Shapes -/

namespace Shape

/-- Equal definitions have the same id, the same kind and equal traits. -/
theorem same_iff {s t : Shape} (hs : s.traits.Distinct) (ht : t.traits.Distinct) :
    s.same t = true ↔ s.id = t.id ∧ s.kind = t.kind ∧
      Table.Agree (fun a b => Trait.same a b = true) s.traits t.traits := by
  rw [same, Bool.and_eq_true, Bool.and_eq_true, decide_eq_true_eq, decide_eq_true_eq, and_assoc,
    Traits.same_iff hs ht]

theorem id_eq_of_same {s t : Shape} (h : s.same t = true) : s.id = t.id := by
  simp only [same, Bool.and_eq_true, decide_eq_true_eq] at h
  exact h.1.1

theorem kind_eq_of_same {s t : Shape} (h : s.same t = true) : s.kind = t.kind := by
  simp only [same, Bool.and_eq_true, decide_eq_true_eq] at h
  exact h.1.2

theorem same_refl {s : Shape} (h : s.traits.Distinct) : s.same s = true :=
  (same_iff h h).2 ⟨rfl, rfl, .refl fun e he => Trait.same_refl (h.values e he)⟩

theorem same_symm {s t : Shape} (hs : s.traits.Distinct) (ht : t.traits.Distinct)
    (h : s.same t = true) : t.same s = true := by
  obtain ⟨hid, hkind, hagree⟩ := (same_iff hs ht).1 h
  exact (same_iff ht hs).2 ⟨hid.symm, hkind.symm, hagree.symm fun e he f hf =>
    Trait.same_symm (hs.values e he) (ht.values f hf)⟩

theorem same_trans {s t u : Shape} (hs : s.traits.Distinct) (ht : t.traits.Distinct)
    (hu : u.traits.Distinct) (hst : s.same t = true) (htu : t.same u = true) :
    s.same u = true := by
  obtain ⟨hid, hkind, hagree⟩ := (same_iff hs ht).1 hst
  obtain ⟨hid', hkind', hagree'⟩ := (same_iff ht hu).1 htu
  exact (same_iff hs hu).2 ⟨hid.trans hid', hkind.trans hkind', hagree.trans hagree'
    fun e he f hf g hg =>
      Trait.same_trans (hs.values e he) (ht.values f hf) (hu.values g hg)⟩

end Shape

/-! ### Declared shapes -/

namespace Declaration

theorem distinct_of_traitsOf {owner : ShapeId} {values : Table String Json}
    (hv : DistinctTraits values) {ts : Traits} (h : traitsOf owner values = .ok ts) :
    ts.Distinct := by
  unfold traitsOf at h
  split at h
  · rename_i hread
    cases h
    refine ⟨Traits.nodup_of_read hread, fun e he => ?_⟩
    obtain ⟨value, hmem, hvalue⟩ := Traits.exists_of_mem_read hread he
    exact Trait.distinct_of_read (hv _ hmem) hvalue
  · cases h

/-- The shapes of a declaration give each trait and each key once. -/
theorem distinct_of_shapes {id : ShapeId} {d : Declaration} (hd : d.Tidy) {group : List Shape}
    (h : d.shapes id = .ok group) : ∀ s ∈ group, s.traits.Distinct := by
  obtain ⟨kind, declared, values, h, -, htidy⟩ := exists_withMembers h
  obtain ⟨-, hdeclared, hvalues⟩ := htidy hd
  simp only [withMembers, Except.bind_eq_ok_iff, Except.pure_eq_ok_iff] at h
  obtain ⟨members, hmembers, traits, htraits, rfl⟩ := h
  intro s hs
  rcases List.mem_cons.1 hs with rfl | hs
  · exact distinct_of_traitsOf hvalues htraits
  · obtain ⟨e, he, hstep⟩ := exists_of_mem_collect hmembers hs
    simp only [memberShape, Except.bind_eq_ok_iff, Except.pure_eq_ok_iff] at hstep
    obtain ⟨target, -, traits, htraits, rfl⟩ := hstep
    exact distinct_of_traitsOf (hdeclared e he) htraits

end Declaration

namespace Model

theorem distinct_prelude : ∀ s ∈ Model.prelude, s.traits.Distinct := by
  have hids : ∀ s ∈ Model.prelude, (Table.keys s.traits).Nodup := by decide
  have hvalues : ∀ s ∈ Model.prelude, ∀ e ∈ s.traits, e.2.Distinct := by decide
  exact fun s hs => ⟨hids s hs, hvalues s hs⟩

/-- Adding shapes that give each trait and each key once keeps it so. -/
theorem distinct_of_insertAll {shapes group out : List Shape}
    (hshapes : ∀ s ∈ shapes, s.traits.Distinct) (hgroup : ∀ s ∈ group, s.traits.Distinct)
    (h : insertAll shapes group = .ok out) : ∀ s ∈ out, s.traits.Distinct := by
  intro s hs
  rcases (of_insertAll h).1 s hs with hs | hs
  · exact hshapes s hs
  · exact hgroup s hs

/-- The shapes of an assembled model give each trait and each key once. -/
theorem distinct_of_assembled {m : Model} (h : m.Assembled) :
    ∀ s ∈ m.shapes, s.traits.Distinct := by
  obtain ⟨sources, h⟩ := h
  simp only [assemble, Except.bind_eq_ok_iff] at h
  obtain ⟨start, hstart, shapes, hshapes, hclose⟩ := h
  rw [(of_close hclose).1]
  refine addSources_induct (P := fun shapes => ∀ s ∈ shapes, s.traits.Distinct) ?_
    (distinct_of_insertAll (by simp) distinct_prelude hstart) hshapes
  intro source _ d hd e he id group shapes out _ hgroup hP hinsert
  exact distinct_of_insertAll hP
    (Declaration.distinct_of_shapes (Document.tidy_of_ofText hd e he) hgroup) hinsert

end Model

end Shapesmith
