import Shapesmith.Proofs.Evaluation.Position
import Shapesmith.Proofs.Symbol.Variants

/-!
# Violations in terms of variants

A violation is found by going from the shape at the top to the shapes of parts, step by step. Its
variants express it when each shape on the way has one for the step that is taken, and the last one
has one for what is broken.

* `Model.Follows` : the member that a step goes to, and `Model.Leads` the shape at the end of a
  trail of steps;
* `Symbols.Expresses` : the variants express a category of violations at the end of a trail;
* `Symbols.expresses_append_iff` : they do when the members of all shapes on the way have types, if
  the last shape can break a constraint.
-/

namespace Shapesmith

open Relation

namespace Model

theorem reachesConstrained_of_targetOf {m : Model} (hm : m.Sound) {e : Shape} (he : e ∈ m.shapes)
    (hk : (m.targetOf e).isMember = false) (h : m.reachesConstrained (m.targetOf e) = true) :
    m.reachesConstrained e = true := by
  rw [reachesConstrained_iff hm (hm.targetOf_mem he), targetOf_of_not_isMember hk] at h
  exact (reachesConstrained_iff hm he).2 h

variable (m : Model)

/-- A step from a value of a shape goes to the value of a member. -/
inductive Follows (s : Shape) : Spot.Step → Shape → Prop
  /-- An item of a list. -/
  | item {e : Shape} {id : ShapeId} {i : Nat} (hs : s.kind = .list id) (he : m.find? id = some e) :
    Follows s (.item i) e
  /-- A key of a map. -/
  | key {e : Shape} {k w : ShapeId} {i : Nat} (hs : s.kind = .map k w) (he : m.find? k = some e) :
    Follows s (.key i) e
  /-- A value of a map. -/
  | value {e : Shape} {k w : ShapeId} {i : Nat} (hs : s.kind = .map k w)
    (he : m.find? w = some e) : Follows s (.value i) e
  /-- A member of a structure or union. -/
  | member {e : Shape} {i : Nat} (hs : s.isStruct = true ∨ s.isUnion = true)
    (he : (m.membersOf s)[i]? = some e) : Follows s (.member i) e

/-- A trail of steps from values of a shape leads to values of another. -/
inductive Leads : Shape → List Spot.Step → Shape → Prop
  | here (s : Shape) : Leads s [] s
  | deeper {s e t : Shape} {step : Spot.Step} {trail : List Spot.Step} (h : m.Follows s step e)
    (ht : Leads (m.targetOf e) trail t) : Leads s (step :: trail) t

variable {m}

theorem Follows.mem (hm : m.Sound) {s e : Shape} {step : Spot.Step} (h : m.Follows s step e) :
    e ∈ m.membersOf s := by
  have hfound {id : ShapeId} (he : m.find? id = some e) (hid : id ∈ s.members) :
      e ∈ m.membersOf s := by
    obtain ⟨hmem, rfl⟩ := hm.find?_eq_some_iff.1 he
    exact hm.mem_membersOf_iff.2 ⟨hmem, hid⟩
  cases h with
  | item hk he | key hk he | value hk he => exact hfound he (by simp [Shape.members, hk])
  | member _ he => exact List.mem_of_getElem? he

/-- A step goes to one member only. -/
theorem Follows.unique {s d e : Shape} {step : Spot.Step} (hd : m.Follows s step d)
    (he : m.Follows s step e) : d = e := by
  cases hd with
  | item hs hd =>
    cases he with
    | item hs' he =>
      cases hs.symm.trans hs'
      exact Option.some.inj (hd.symm.trans he)
  | key hs hd =>
    cases he with
    | key hs' he =>
      cases hs.symm.trans hs'
      exact Option.some.inj (hd.symm.trans he)
  | value hs hd =>
    cases he with
    | value hs' he =>
      cases hs.symm.trans hs'
      exact Option.some.inj (hd.symm.trans he)
  | member _ hd =>
    cases he with
    | member _ he => exact Option.some.inj (hd.symm.trans he)

/-- What can break a constraint through a step can break one. -/
theorem Follows.reachesConstrained (hm : m.Sound) {s e : Shape} (hs : s ∈ m.shapes)
    (hk : s.isMember = false) {step : Spot.Step} (h : m.Follows s step e)
    (hr : m.reachesConstrained e = true) : m.reachesConstrained s = true := by
  refine reachesConstrained_of_membersOf hm hs ?_ hr
  rw [targetOf_of_not_isMember hk]
  exact h.mem hm

/-- A part of a value is held against the target of the member that the step goes to. -/
theorem Part.follows {p q : Spot} {step : Spot.Step} (h : m.Part p step q) :
    ∃ e, m.Follows p.shape step e ∧ q.shape = m.targetOf e := by
  cases h with
  | item hs he => exact ⟨_, .item hs he, rfl⟩
  | key hs he => exact ⟨_, .key hs he, rfl⟩
  | value hs he => exact ⟨_, .value hs he, rfl⟩
  | member hs he => exact ⟨_, .member (.inl hs) he, rfl⟩
  | choice hs he => exact ⟨_, .member (.inr hs) he, rfl⟩

theorem Position.leads {p q : Spot} {trail : List Spot.Step} (h : m.Position p trail q) :
    m.Leads p.shape trail q.shape := by
  induction h with
  | here p => exact .here p.shape
  | deeper hpart _ ih =>
    obtain ⟨e, he, hq⟩ := hpart.follows
    exact .deeper he (hq ▸ ih)

end Model

/-- A variant is the one for a step to the value of a member. -/
def Variant.IsFor (w : Variant) (e : Shape) (step : Spot.Step) : Prop :=
  w.category = none ∧ match step with
    | .item _ => w.name = "Member"
    | .key _ => w.name = "Key"
    | .value _ => w.name = "Value"
    | .member _ => w.member = some e.memberName

namespace Symbols

variable (y : Symbols)

/-- Violations of a category at the end of a trail are expressed by variants, beginning with those
of a shape. -/
inductive Expresses (c : Category) : Shape → List Spot.Step → Prop
  /-- The shape has a variant for what its own value breaks. -/
  | own {s : Shape} {vs : List Variant} {w : Variant} (hc : c ≠ .missingRequired)
    (hvs : y.variants s = .ok vs) (hw : w ∈ vs) (hcategory : w.category = some c) :
    Expresses c s []
  /-- The shape has a variant for a member that is missing. -/
  | missing {s e : Shape} {i : Nat} {vs : List Variant} {w : Variant} (hc : c = .missingRequired)
    (hvs : y.variants s = .ok vs) (hw : w ∈ vs) (hcategory : w.category = some c)
    (hs : y.model.Follows s (.member i) e) (hmember : w.member = some e.memberName) :
    Expresses c s [.member i]
  /-- The shape has a variant for the step, and the rest is expressed by those of the part. -/
  | nested {s e : Shape} {step : Spot.Step} {trail : List Spot.Step} {vs : List Variant}
    {w : Variant} (hvs : y.variants s = .ok vs) (hw : w ∈ vs) (hs : y.model.Follows s step e)
    (hfor : w.IsFor e step) (ht : Expresses c (y.model.targetOf e) trail) :
    Expresses c s (step :: trail)

variable {y} {s e : Shape} {step : Spot.Step} {trail : List Spot.Step} {c : Category}

/-- A shape that expresses something has variants. -/
theorem Expresses.exists_variants (h : y.Expresses c s trail) : ∃ vs, y.variants s = .ok vs := by
  cases h with
  | own _ hvs | missing _ hvs | nested hvs => exact ⟨_, hvs⟩

/-- A shape that can break a constraint has variants when the members that can have types. -/
theorem exists_variants_iff (hm : y.model.Sound) (hs : s ∈ y.model.shapes)
    (hk : s.isMember = false) (hr : y.model.reachesConstrained s = true) :
    (∃ vs, y.variants s = .ok vs) ↔ y.model.PartsHaveTypes s := by
  rw [variants_isOk_iff hm hs, Model.targetOf_of_not_isMember hk]
  exact ⟨fun h => h hr, fun h _ => h⟩

/-- A shape has the variant for a step to a member that can break a constraint. -/
theorem exists_isFor (hm : y.model.Sound) (hs : s ∈ y.model.shapes) (hk : s.isMember = false)
    {vs : List Variant} (hvs : y.variants s = .ok vs) (hf : y.model.Follows s step e)
    (hr : y.model.reachesConstrained e = true) : ∃ w ∈ vs, w.IsFor e step := by
  have he := hf.mem hm
  have hemem := (hm.mem_membersOf_iff.1 he).1
  have hreach := hf.reachesConstrained hm hs hk hr
  have htypes := (exists_variants_iff hm hs hk hreach).1 ⟨vs, hvs⟩
  obtain ⟨symbol, hsymbol⟩ := (violation_isOk_iff hm hemem hr).2
    (htypes e he ((Model.canBreak_iff hm hemem).2 hr))
  have hmem {w : Variant} (hw : y.Nests s e symbol.type w) : w ∈ vs :=
    (mem_variants_iff hm hs (Model.targetOf_of_not_isMember hk).symm hvs).2
      ⟨hreach, .inr (.inr ⟨e, he, hr, symbol, hsymbol, hw⟩)⟩
  cases hf with
  | item hs hf =>
    obtain ⟨-, rfl⟩ := hm.find?_eq_some_iff.1 hf
    exact ⟨_, hmem (.item hs), rfl, rfl⟩
  | key hs hf =>
    obtain ⟨-, rfl⟩ := hm.find?_eq_some_iff.1 hf
    exact ⟨_, hmem (.key hs), rfl, rfl⟩
  | value hs hf =>
    obtain ⟨-, rfl⟩ := hm.find?_eq_some_iff.1 hf
    exact ⟨_, hmem (.value hs), rfl, rfl⟩
  | member hs _ => exact ⟨_, hmem (.part hs), rfl, rfl⟩

/-! ### One step -/

theorem expresses_cons_iff (hm : y.model.Sound) (hs : s ∈ y.model.shapes)
    (hk : s.isMember = false) (hf : y.model.Follows s step e)
    (hr : y.model.reachesConstrained e = true) (hc : c = .missingRequired → trail ≠ []) :
    y.Expresses c s (step :: trail) ↔
      y.model.PartsHaveTypes s ∧ y.Expresses c (y.model.targetOf e) trail := by
  rw [← exists_variants_iff hm hs hk (hf.reachesConstrained hm hs hk hr)]
  constructor
  · intro h
    refine ⟨h.exists_variants, ?_⟩
    cases h with
    -- the variant for a missing member ends the trail
    | missing hmissing => exact absurd rfl (hc hmissing)
    | nested _ _ hf' _ ht =>
      obtain rfl := hf'.unique hf
      exact ht
  · rintro ⟨⟨vs, hvs⟩, ht⟩
    obtain ⟨w, hw, hfor⟩ := exists_isFor hm hs hk hvs hf hr
    exact .nested hvs hw hf hfor ht

/-- A shape has the variant for a check of its own. -/
theorem expresses_own_iff (hm : y.model.Sound) (hs : s ∈ y.model.shapes) (hk : s.isMember = false)
    (hr : y.model.reachesConstrained s = true) {check : Check} (hcheck : check ∈ s.checks)
    {value : Json} {breach : Breach} (hb : check.Breaks value breach) :
    y.Expresses breach.category s [] ↔ y.model.PartsHaveTypes s := by
  rw [← exists_variants_iff hm hs hk hr]
  constructor
  · exact Expresses.exists_variants
  · rintro ⟨vs, hvs⟩
    have hw := (mem_variants_iff hm hs (Model.targetOf_of_not_isMember hk).symm hvs).2
      ⟨hr, .inl ⟨check, hcheck, rfl⟩⟩
    cases hb with
    | short | long | low | high | mismatch => exact .own (by simp [Breach.category]) hvs hw rfl

/-- A structure has the variant for a member that has to be given. -/
theorem expresses_missing_iff (hm : y.model.Sound) (hs : s ∈ y.model.shapes)
    (hr : y.model.reachesConstrained s = true) (hstruct : s.isStruct = true) {i : Nat}
    (he : (y.model.membersOf s)[i]? = some e) (hneed : e.mustBeGiven = true) :
    y.Expresses .missingRequired s [.member i] ↔ y.model.PartsHaveTypes s := by
  have hk := Shape.isMember_of_holder (.inl hstruct)
  rw [← exists_variants_iff hm hs hk hr]
  constructor
  · exact Expresses.exists_variants
  · rintro ⟨vs, hvs⟩
    have hw := (mem_variants_iff hm hs (Model.targetOf_of_not_isMember hk).symm hvs).2
      ⟨hr, .inr (.inl ⟨e, List.mem_of_getElem? he, hstruct, hneed, rfl⟩)⟩
    exact .missing rfl hvs hw rfl (.member (.inl hstruct) he) rfl

/-! ### Trails -/

section Trails

variable {t : Shape} (hm : y.model.Sound)
  (hdirect : ∀ e ∈ y.model.shapes, (y.model.targetOf e).isMember = false)
include hm hdirect

theorem mem_of_leads (hs : s ∈ y.model.shapes) (hk : s.isMember = false)
    (hl : y.model.Leads s trail t) : t ∈ y.model.shapes ∧ t.isMember = false := by
  induction hl with
  | here => exact ⟨hs, hk⟩
  | deeper hf _ ih =>
    have he := (hm.mem_membersOf_iff.1 (hf.mem hm)).1
    exact ih (hm.targetOf_mem he) (hdirect _ he)

/-- What can break a constraint at the end of a trail can do so at its beginning. -/
theorem reachesConstrained_of_leads (hs : s ∈ y.model.shapes) (hk : s.isMember = false)
    (hl : y.model.Leads s trail t) (hr : y.model.reachesConstrained t = true) :
    y.model.reachesConstrained s = true := by
  induction hl with
  | here => exact hr
  | @deeper s e t step trail hf _ ih =>
    have he := (hm.mem_membersOf_iff.1 (hf.mem hm)).1
    have hr := ih (hm.targetOf_mem he) (hdirect e he) hr
    exact hf.reachesConstrained hm hs hk
      (Model.reachesConstrained_of_targetOf hm he (hdirect e he) hr)

/-- Going on from the end of a trail is expressed when going on is expressed there and the shapes on
the way have variants. -/
theorem expresses_append_iff (hs : s ∈ y.model.shapes) (hk : s.isMember = false)
    (hl : y.model.Leads s trail t) (hr : y.model.reachesConstrained t = true)
    {rest : List Spot.Step} (hc : c = .missingRequired → rest ≠ [])
    (hlast : y.Expresses c t rest ↔ y.model.PartsHaveTypes t) :
    y.Expresses c s (trail ++ rest) ↔
      ∀ way u, way <+: trail → y.model.Leads s way u → y.model.PartsHaveTypes u := by
  induction hl with
  | here s =>
    rw [List.nil_append, hlast]
    constructor
    · intro h way u hway hu
      obtain rfl := List.prefix_nil.1 hway
      cases hu
      exact h
    · exact fun h => h [] s List.prefix_rfl (.here s)
  | @deeper s e t step trail hf hl ih =>
    have he := (hm.mem_membersOf_iff.1 (hf.mem hm)).1
    have hmem := hm.targetOf_mem he
    have hreach := Model.reachesConstrained_of_targetOf hm he (hdirect e he)
      (reachesConstrained_of_leads hm hdirect hmem (hdirect e he) hl hr)
    have hc' : c = .missingRequired → trail ++ rest ≠ [] := by
      intro hmissing
      simp [hc hmissing]
    rw [List.cons_append, expresses_cons_iff hm hs hk hf hreach hc',
      ih hmem (hdirect e he) hr hlast]
    constructor
    · rintro ⟨hhere, hbelow⟩ way u hway hu
      cases hu with
      | here => exact hhere
      | deeper hf' hu =>
        obtain ⟨rfl, hrest⟩ := List.cons_prefix_cons.1 hway
        obtain rfl := hf'.unique hf
        exact hbelow _ u hrest hu
    · intro h
      exact ⟨h [] s List.nil_prefix (.here s), fun way u hway hu =>
        h (step :: way) u (List.cons_prefix_cons.2 ⟨rfl, hway⟩) (.deeper hf hu)⟩

end Trails

end Symbols

end Shapesmith
