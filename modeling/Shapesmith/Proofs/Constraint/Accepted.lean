import Shapesmith.Constraint.Acceptance
import Shapesmith.Proofs.Model.Assembled

/-!
# Checks in accepted models

A model that is accepted without tolerance has its constraints where they measure something.

* `Check.Suits` : a length on what has one, a range on numbers, a pattern on strings;
* `Model.suits_of_accept` : without tolerance, all checks are of that sort;
* `Model.isConstrained_of_suits` : a shape with such a check is constrained.
-/

namespace Shapesmith

/-- A check stands for a length, a range or a pattern of the shape. -/
theorem Shape.of_mem_checks {s : Shape} {c : Check} (h : c ∈ s.checks) :
    (∃ b, s.traits.length = some b ∧ c = .length b (.of s.kind)) ∨
      (∃ b, s.traits.range = some b ∧ c = .range b) ∨
        ∃ p, s.traits.pattern = some p ∧ c = .pattern p := by
  obtain ⟨id, -, hc⟩ := List.mem_filterMap.1 h
  rw [checkOf] at hc
  split_ifs at hc
  · obtain ⟨b, hb, rfl⟩ := Option.map_eq_some_iff.1 hc
    exact .inl ⟨b, hb, rfl⟩
  · obtain ⟨b, hb, rfl⟩ := Option.map_eq_some_iff.1 hc
    exact .inr (.inl ⟨b, hb, rfl⟩)
  · obtain ⟨p, hp, rfl⟩ := Option.map_eq_some_iff.1 hc
    exact .inr (.inr ⟨p, hp, rfl⟩)

/-- A trait that stands for a check is one of the shape. -/
theorem Shape.mem_keys_of_checkOf {s : Shape} {id : String} {c : Check}
    (h : s.checkOf id = some c) : id ∈ Table.keys s.traits := by
  have hfound {trait : Trait} (hget : Table.get? s.traits id = some trait) :
      id ∈ Table.keys s.traits := Table.mem_keys_of_mem (Table.mem_of_get? hget)
  rw [checkOf] at h
  split_ifs at h with hid hid hid <;> subst hid <;>
    obtain ⟨b, hb, -⟩ := Option.map_eq_some_iff.1 h
  · rw [Traits.length] at hb
    split at hb
    · exact hfound ‹_›
    · cases hb
  · rw [Traits.range] at hb
    split at hb
    · exact hfound ‹_›
    · cases hb
  · rw [Traits.pattern] at hb
    split at hb
    · exact hfound ‹_›
    · cases hb

/-- The checks of a shape are those that its traits stand for. -/
theorem Shape.mem_checks_iff {s : Shape} {c : Check} :
    c ∈ s.checks ↔ ∃ id, s.checkOf id = some c := by
  rw [checks, List.mem_filterMap]
  exact ⟨fun ⟨id, _, hc⟩ => ⟨id, hc⟩, fun ⟨id, hc⟩ => ⟨id, mem_keys_of_checkOf hc, hc⟩⟩

/-- The kind of shape is one whose values the check is made for. -/
def Check.Suits (k : Kind) : Check → Prop
  | .length _ _ => k = .simple .string ∨ k = .simple .blob ∨ (∃ id, k = .list id) ∨
      ∃ key value, k = .map key value
  | .range _ => ∃ t, k = .simple t ∧ t.isNumber = true
  | .pattern _ => k = .simple .string

/-- No check is made for structures. -/
theorem Check.not_suits_struct {c : Check} {ids : List ShapeId} : ¬ c.Suits (.struct ids) := by
  cases c <;> simp [Suits]

/-- No check is made for members. -/
theorem Check.Suits.isMember_eq {c : Check} {s : Shape} (h : c.Suits s.kind) :
    s.isMember = false := by
  unfold Shape.isMember
  split
  · rename_i id hk
    cases c <;> simp [Suits, hk] at h
  · rfl

namespace Model

variable {m : Model}

theorem acceptShape_of_accept {service : Shape} {tolerant : Bool}
    (h : m.accept service tolerant = .ok ()) {s : Shape} (hs : s ∈ m.shapes) :
    acceptShape tolerant s = .ok () := by
  obtain ⟨_, hshapes, -⟩ := Except.bind_eq_ok_iff.1 h
  exact (tryEach_eq_ok_iff _ _).1 hshapes s hs

theorem of_acceptLength {s : Shape} {b : LengthBounds} (h : acceptLength false s b = .ok ())
    (unit : LengthUnit) : (Check.length b unit).Suits s.kind := by
  by_contra hn
  rw [acceptLength, if_pos] at h
  · cases h
  · rw [Check.Suits] at hn
    split <;> simp_all

theorem of_acceptRange {s : Shape} {b : RangeBounds} (h : acceptRange false s b = .ok ()) :
    (Check.range b).Suits s.kind := by
  by_contra hn
  rw [acceptRange, if_pos] at h
  · cases h
  · rw [Check.Suits] at hn
    unfold Shape.isNumber
    split <;> simp_all

theorem of_acceptPattern {s : Shape} {p : String} (h : acceptPattern false s p = .ok ()) :
    (Check.pattern p).Suits s.kind := by
  by_contra hn
  rw [acceptPattern, if_pos] at h
  · cases h
  · rw [Check.Suits] at hn
    unfold Shape.isString
    split <;> simp_all

theorem checks_of_acceptMember {s : Shape} (h : acceptMember false s = .ok ()) :
    s.checks = [] := by
  refine List.eq_nil_iff_forall_not_mem.2 fun c hc => ?_
  obtain ⟨id, hid, hc⟩ := List.mem_filterMap.1 hc
  have hmem : id ∈ [Trait.lengthId, Trait.rangeId, Trait.patternId] := by
    rw [Shape.checkOf] at hc
    split_ifs at hc <;> simp_all
  have hstep := (tryEach_eq_ok_iff _ _).1 h id hmem
  rw [if_pos ((Table.has_iff _ _).2 hid)] at hstep
  cases hstep

/-- In a model that is accepted without tolerance, checks suit their shapes. -/
theorem suits_of_accept {service : Shape} (h : m.accept service false = .ok ()) {s : Shape}
    (hs : s ∈ m.shapes) {c : Check} (hc : c ∈ s.checks) : c.Suits s.kind := by
  have haccept := acceptShape_of_accept h hs
  cases hk : s.isMember with
  | true =>
    rw [acceptShape, if_pos hk] at haccept
    rw [checks_of_acceptMember haccept] at hc
    cases hc
  | false =>
    rw [acceptShape, hk] at haccept
    obtain ⟨_, hlength, haccept⟩ := Except.bind_eq_ok_iff.1 haccept
    obtain ⟨_, hrange, hpattern⟩ := Except.bind_eq_ok_iff.1 haccept
    obtain ⟨b, hb, rfl⟩ | ⟨b, hb, rfl⟩ | ⟨p, hp, rfl⟩ := Shape.of_mem_checks hc
    · rw [hb] at hlength
      exact of_acceptLength hlength _
    · rw [hb] at hrange
      exact of_acceptRange hrange
    · rw [hp] at hpattern
      exact of_acceptPattern hpattern

/-- A shape with a check that suits it is constrained. -/
theorem isConstrained_of_suits {s : Shape} {c : Check} (hc : c ∈ s.checks)
    (hsuits : c.Suits s.kind) : m.isConstrained s = true := by
  rw [isConstrained, targetOf_of_not_isMember hsuits.isMember_eq]
  obtain ⟨b, hb, rfl⟩ | ⟨b, hb, rfl⟩ | ⟨p, hp, rfl⟩ := Shape.of_mem_checks hc
  · obtain hkind | hkind | ⟨id, hkind⟩ | ⟨k, w, hkind⟩ := hsuits <;> simp [hkind, hb]
  · obtain ⟨t, hkind, ht⟩ := hsuits
    rw [hkind]
    cases t <;> simp_all [Simple.isNumber]
  · simp [show s.kind = .simple .string from hsuits, hp]

/-- A shape with a check is constrained. -/
theorem isConstrained_of_checks {service : Shape} (h : m.accept service false = .ok ()) {s : Shape}
    (hs : s ∈ m.shapes) {c : Check} (hc : c ∈ s.checks) : m.isConstrained s = true :=
  isConstrained_of_suits hc (suits_of_accept h hs hc)

/-- Structures have no checks of their own. -/
theorem checks_of_isStruct {service : Shape} (h : m.accept service false = .ok ()) {s : Shape}
    (hs : s ∈ m.shapes) (hstruct : s.isStruct = true) : s.checks = [] := by
  obtain ⟨ids, hkind⟩ := Shape.isStruct_iff.1 hstruct
  refine List.eq_nil_iff_forall_not_mem.2 fun c hc => ?_
  have hsuits := suits_of_accept h hs hc
  rw [hkind] at hsuits
  exact Check.not_suits_struct hsuits

end Model

end Shapesmith
