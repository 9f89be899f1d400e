import Shapesmith.Proofs.Evaluation.Depth
import Shapesmith.Proofs.Sequence.Places

/-!
# Completed structures

An object is completed for a structure when it has the members that are given or have defaults, in
the order of the structure.

* `Shape.takes_or_absent` : a member takes a value, or has to, or may stay away;
* `Model.Completes` : an object has the members that another one gives or that have defaults, and
  `Model.Completes.keys_unique` : its names and their order are settled by that;
* `Model.Completes.again` : what has been completed stays as it is.
-/

namespace Shapesmith

namespace Shape

variable {e : Shape} {fields : List (String × Json)}

/-- A member has a value, or has to have one, or may stay away. -/
theorem takes_or_absent (e : Shape) (fields : List (String × Json)) :
    (∃ x, e.Takes fields x) ∨ e.AbsentFrom fields ∧
      (Requirement.of e = .required ∨ Requirement.of e = .optional) := by
  by_cases habs : e.AbsentFrom fields
  · cases hreq : Requirement.of e with
    | required => exact .inr ⟨habs, .inl rfl⟩
    | default x => exact .inl ⟨x, .default habs (Requirement.of_eq_default_iff.1 hreq)⟩
    | optional => exact .inr ⟨habs, .inr rfl⟩
  · simp only [AbsentFrom, not_forall] at habs
    obtain ⟨x, hx, hnull⟩ := habs
    exact .inl ⟨x, .given hx hnull⟩

/-- A member takes one value. -/
theorem Takes.unique (hkeys : (Table.keys fields).Nodup) {x y : Json} (hx : e.Takes fields x)
    (hy : e.Takes fields y) : x = y := by
  cases hx with
  | given hx hnull =>
    cases hy with
    | given hy _ => exact Table.value_unique hkeys hx hy
    | default habs _ => exact absurd (habs x hx) hnull
  | default habs hx =>
    cases hy with
    | given hy hnull => exact absurd (habs y hy) hnull
    | default _ hy => exact Option.some.inj (hx.symm.trans hy)

/-- A member does not take null, which counts as no default. -/
theorem Takes.ne_null {x : Json} (h : e.Takes fields x) : x ≠ .null := by
  cases h with
  | given _ hnull => exact hnull
  | default _ hx =>
    rintro rfl
    unfold Traits.defaultValue at hx
    split at hx <;> simp_all

/-- A member that an object does not give takes its default. -/
theorem AbsentFrom.takes_iff (h : e.AbsentFrom fields) {x : Json} :
    e.Takes fields x ↔ Requirement.of e = .default x := by
  rw [Requirement.of_eq_default_iff]
  constructor
  · rintro (⟨hx, hnull⟩ | ⟨-, hx⟩)
    · exact absurd (h x hx) hnull
    · exact hx
  · exact .default h

/-- A member with a default takes a value from any object. -/
theorem exists_takes_of_default (e : Shape) (fields : List (String × Json)) {x : Json}
    (h : e.traits.defaultValue = some x) : ∃ y, e.Takes fields y := by
  by_cases habs : e.AbsentFrom fields
  · exact ⟨x, .default habs h⟩
  · simp only [AbsentFrom, not_forall] at habs
    obtain ⟨y, hy, hnull⟩ := habs
    exact ⟨y, .given hy hnull⟩

/-- A member of a model takes values that give each key once from an object that does. -/
theorem Takes.distinct {m : Model} (hm : m.Sound) (he : e ∈ m.shapes)
    (hd : (Json.obj fields).Distinct) {x : Json} (h : e.Takes fields x) : x.Distinct := by
  cases h with
  | given hx _ => exact (Json.distinct_obj_iff.1 hd).2 _ hx
  | default _ hx => exact (hm.tidy e he).default x hx

end Shape

/-! ### Completed structures -/

namespace Model

variable (m : Model)

/-- An object has the members of a structure that another object gives or that have a default. -/
structure Completes (s : Shape) (fields built : List (String × Json)) : Prop where
  /-- Nothing is given that is not a member. -/
  known : ∀ name ∈ Table.keys fields, ∃ e ∈ m.membersOf s, e.memberName = name
  /-- Nothing is missing that has to be given. -/
  needed : ∀ e ∈ m.membersOf s, e.AbsentFrom fields → Requirement.of e ≠ .required
  /-- The members come in the order in which the structure declares them. -/
  order : (Table.keys built).Sublist ((m.membersOf s).map Shape.memberName)
  /-- A member is there when it is given or has a default. -/
  members : ∀ e ∈ m.membersOf s, e.memberName ∈ Table.keys built ↔ ∃ x, e.Takes fields x

variable {m} {s : Shape}

namespace Completes

variable {fields built : List (String × Json)}

/-- A name stands once in the result. -/
theorem nodup_keys (h : m.Completes s fields built) (hm : m.Sound) (hs : s ∈ m.shapes) :
    (Table.keys built).Nodup :=
  h.order.nodup (hm.nodup_memberNames hs)

/-- Which names are in the result, and in which order, is settled. -/
theorem keys_unique (h : m.Completes s fields built) (hm : m.Sound) (hs : s ∈ m.shapes)
    {built' : List (String × Json)} (h' : m.Completes s fields built') :
    Table.keys built' = Table.keys built := by
  refine eq_of_sublist_of_mem_iff (hm.nodup_memberNames hs) h'.order h.order fun name hname => ?_
  obtain ⟨e, he, rfl⟩ := List.mem_map.1 hname
  exact (h'.members e he).trans (h.members e he).symm

/-- What the result has belongs to a member that takes a value. -/
theorem exists_member (h : m.Completes s fields built) {name : String} {w : Json}
    (hw : (name, w) ∈ built) :
    ∃ e ∈ m.membersOf s, e.memberName = name ∧ ∃ x, e.Takes fields x := by
  have hname := Table.mem_keys_of_mem hw
  obtain ⟨e, he, rfl⟩ := List.mem_map.1 (h.order.subset hname)
  exact ⟨e, he, rfl, (h.members e he).1 hname⟩

/-- A member that takes a value has one in the result. -/
theorem exists_mem (h : m.Completes s fields built) {e : Shape} (he : e ∈ m.membersOf s) {x : Json}
    (hx : e.Takes fields x) : ∃ w, (e.memberName, w) ∈ built := by
  obtain ⟨f, hf, hname⟩ := List.mem_map.1 ((h.members e he).2 ⟨x, hx⟩)
  exact ⟨f.2, hname ▸ hf⟩

/-- Without nulls, what a member takes from the result is what is in it. -/
theorem takes_iff (h : m.Completes s fields built) (hnull : ∀ name, (name, .null) ∉ built)
    {e : Shape} (he : e ∈ m.membersOf s) {x : Json} :
    e.Takes built x ↔ (e.memberName, x) ∈ built := by
  constructor
  · rintro (⟨hx, -⟩ | ⟨habs, hx⟩)
    · exact hx
    · -- the default was filled in already
      obtain ⟨y, hy⟩ := e.exists_takes_of_default fields hx
      obtain ⟨w, hw⟩ := h.exists_mem he hy
      exact absurd (habs w hw ▸ hw) (hnull _)
  · intro hx
    exact .given hx fun hx' => hnull _ (hx' ▸ hx)

/-- What has been completed stays as it is, if there are no nulls in it. -/
theorem again (h : m.Completes s fields built) (hnull : ∀ name, (name, .null) ∉ built) :
    m.Completes s built built := by
  refine ⟨fun name hname => List.mem_map.1 (h.order.subset hname), fun e he habs hreq => ?_,
    h.order, fun e he => ?_⟩
  · -- what had to be given was given, and its value is not null
    refine h.needed e he (fun z hz => ?_) hreq
    by_contra hz'
    obtain ⟨y, hy⟩ := h.exists_mem he (.given hz hz')
    exact hnull _ (habs y hy ▸ hy)
  · simp only [h.takes_iff hnull he]
    constructor
    · intro hname
      obtain ⟨x, hx⟩ := (h.members e he).1 hname
      exact h.exists_mem he hx
    · rintro ⟨x, hx⟩
      exact Table.mem_keys_of_mem hx

/-- A member is there unless it may stay away and is not given. -/
theorem mem_keys_iff (h : m.Completes s fields built) {e : Shape} (he : e ∈ m.membersOf s) :
    e.memberName ∈ Table.keys built ↔
      Requirement.of e ≠ .optional ∨ ¬ e.AbsentFrom fields := by
  rw [h.members e he]
  constructor
  · rintro ⟨x, ⟨hx, hnull⟩ | ⟨-, hx⟩⟩
    · exact .inr fun habs => hnull (habs x hx)
    · rw [Requirement.of_eq_default_iff.2 hx]
      exact .inl Requirement.noConfusion
  · rintro h'
    rcases e.takes_or_absent fields with htakes | ⟨habs, hreq | hreq⟩
    · exact htakes
    · exact absurd hreq (h.needed e he habs)
    · exact absurd h' (by simp [hreq, habs])

end Completes

end Model

end Shapesmith
