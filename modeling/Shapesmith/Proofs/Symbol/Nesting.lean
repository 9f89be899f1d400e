import Shapesmith.Placeholder
import Shapesmith.Proofs.Symbol.Variants

/-!
# Violation types within violation types

The violation type of a shape holds those of its parts. Those of structures and unions stand behind
a pointer where structures and unions alone lead back to the owner of the member. Those of lists and
maps never do, although a violation of a list holds the violation of one item and not a list of
them.

* `Symbols.HoldsViolation` : the violation type of a shape holds that of another in place;
* `Model.Embeds` : what this comes down to in the model;
* `Symbols.holdsViolation_self_iff` : the violation type of a shape holds itself in place exactly by
  way of a shape that is neither a structure nor a union;
* `exists_holdsViolation_self` : a list of structures that hold such lists is accepted.
-/

namespace Shapesmith

open Relation

/-- The violation type of a shape holds that of the other, the target of a member, in place: a
variant for the member carries it as it is. -/
def Symbols.HoldsViolation (y : Symbols) (s t : Shape) : Prop :=
  ∃ vs w symbol, y.variants s = .ok vs ∧ w ∈ vs ∧ ∃ e ∈ y.model.shapes,
    w.nested? = some (e.id, symbol.type) ∧ y.violation e = .ok symbol ∧ t = y.model.targetOf e

namespace Model

variable {m : Model}

/-- A structure or union that has the member holds itself through it, by way of structures and
unions only. -/
def LeadsBack (m : Model) (e : Shape) : Prop :=
  ∃ h ∈ m.shapes, (h.isStruct = true ∨ h.isUnion = true) ∧ e ∈ m.membersOf h ∧
    ReflTransGen m.HoldsByValue (m.targetOf e) h

/-- A shape, or its target, has a member with the other as its target that can break a constraint.
If it is a structure or union, the member does not lead back. -/
def Embeds (m : Model) (s t : Shape) : Prop :=
  m.PartsHaveTypes (m.targetOf s) ∧ ∃ e ∈ m.membersOf (m.targetOf s),
    m.CanBreak e ∧ t = m.targetOf e ∧
      ((m.targetOf s).isStruct = true ∨ (m.targetOf s).isUnion = true → ¬ m.LeadsBack e)

theorem Embeds.mem (hm : m.Sound) {s t : Shape} (h : m.Embeds s t) : t ∈ m.shapes := by
  obtain ⟨-, e, he, -, rfl, -⟩ := h
  exact hm.targetOf_mem (hm.mem_membersOf_iff.1 he).1

/-- A relation that leads to shapes of the model is followed by one that it implies there. -/
theorem transGen_mono {R R' : Shape → Shape → Prop} (hmem : ∀ {s t}, R s t → t ∈ m.shapes)
    (himp : ∀ {s t}, s ∈ m.shapes → R s t → R' s t) {s t : Shape} (hs : s ∈ m.shapes)
    (h : TransGen R s t) : TransGen R' s t := by
  induction h with
  | single hst => exact .single (himp hs hst)
  | tail hst hlast ih =>
    exact ih.tail (himp (mem_of_reflTransGen hmem hs hst.to_reflTransGen) hlast)

end Model

namespace Symbols

variable {y : Symbols}

theorem HoldsViolation.mem (hm : y.model.Sound) {s t : Shape} (h : y.HoldsViolation s t) :
    t ∈ y.model.shapes := by
  obtain ⟨-, -, -, -, -, e, he, -, -, rfl⟩ := h
  exact hm.targetOf_mem he

/-- Of the member variants, those of members that lead back do not hold the type in place. -/
theorem nested?_eq_iff (hm : y.model.Sound) {s e : Shape} (hs : s ∈ y.model.shapes)
    (he : e ∈ y.model.membersOf s) {violation : CodeType} {w : Variant}
    (hw : y.Nests s e violation w) : w.nested? = some (e.id, violation) ↔
      (s.isStruct = true ∨ s.isUnion = true → ¬ y.model.LeadsBack e) := by
  rw [hw.nested?, Model.LeadsBack, ← Model.isBoxed_iff hm hs he]
  by_cases hk : s.isStruct = true ∨ s.isUnion = true
  · by_cases hb : y.model.isBoxed e.id = true
    · have hne : CodeType.boxed violation ≠ violation := fun h => by
        simpa using congrArg sizeOf h
      simp [hk, hb, hne]
    · simp [hb]
  · have hk' : (s.isStruct || s.isUnion) = false := by simpa using hk
    simp [hk', hk]

theorem holdsViolation_iff (hm : y.model.Sound) {s t : Shape} (hs : s ∈ y.model.shapes) :
    y.HoldsViolation s t ↔ y.model.Embeds s t := by
  have hmem := hm.targetOf_mem hs
  constructor
  · rintro ⟨vs, w, symbol, hvs, hw, e, he, hnested, hsymbol, rfl⟩
    obtain ⟨hr, hw⟩ := (mem_variants_iff hm hs rfl hvs).1 hw
    have htypes := (variants_isOk_iff hm hs).1 ⟨vs, hvs⟩ hr
    -- variants for checks and missing members carry no other violation
    rcases hw with ⟨c, -, rfl⟩ | ⟨_, -, -, -, rfl⟩ | ⟨d, hd, hreach, symbol', hsymbol', hn⟩
    · rw [Variant.nested?_ofCheck] at hnested
      cases hnested
    · cases hnested
    · have hid := hn.nested?.symm.trans hnested
      obtain rfl : d = e := hm.eq_of_id_eq (hm.mem_membersOf_iff.1 hd).1 he
        (congrArg Prod.fst (Option.some.inj hid))
      obtain rfl := Except.ok.inj (hsymbol'.symm.trans hsymbol)
      exact ⟨htypes, d, hd, (Model.canBreak_iff hm he).2 hreach, rfl,
        (nested?_eq_iff hm hmem hd hn).1 hnested⟩
  · rintro ⟨htypes, e, he, hbreak, rfl, hback⟩
    have hemem := (hm.mem_membersOf_iff.1 he).1
    have hreach := (Model.canBreak_iff hm hemem).1 hbreak
    obtain ⟨vs, hvs⟩ := (variants_isOk_iff hm hs).2 fun _ => htypes
    obtain ⟨symbol, hsymbol⟩ := (violation_isOk_iff hm hemem hreach).2 (htypes e he hbreak)
    obtain ⟨w, hw⟩ := exists_nests hm he symbol.type
    have hr := Model.reachesConstrained_of_membersOf hm hs he hreach
    have hr := Model.reachesConstrained_targetOf hm hs hr
    exact ⟨vs, w, symbol, hvs,
      (mem_variants_iff hm hs rfl hvs).2 ⟨hr, .inr (.inr ⟨e, he, hreach, symbol, hsymbol, hw⟩)⟩,
      e, hemem, (nested?_eq_iff hm hmem he hw).2 hback, hsymbol, rfl⟩

/-- Going on from type to type is going on from shape to shape. -/
theorem transGen_embeds_iff (hm : y.model.Sound) {s t : Shape} (hs : s ∈ y.model.shapes) :
    TransGen y.HoldsViolation s t ↔ TransGen y.model.Embeds s t := by
  constructor
  · exact Model.transGen_mono (fun h => h.mem hm) (fun hs h => (holdsViolation_iff hm hs).1 h) hs
  · exact Model.transGen_mono (fun h => h.mem hm) (fun hs h => (holdsViolation_iff hm hs).2 h) hs

end Symbols

/-! ### A list of structures that hold such lists -/

/-- A structure with one member, a list that has to be given. -/
def treeShape : Shape := ⟨⟨"a", "Tree", none⟩, .struct [⟨"a", "Tree", some "branches"⟩], []⟩

/-- A list of such structures. -/
def branchesShape : Shape := ⟨⟨"a", "Branches", none⟩, .list ⟨"a", "Branches", some "member"⟩, []⟩

/-- The member of the structures. -/
def treeMember : Shape :=
  ⟨⟨"a", "Tree", some "branches"⟩, .member branchesShape.id, [(Trait.requiredId, .required)]⟩

/-- The member of the list. -/
def branchesMember : Shape := ⟨⟨"a", "Branches", some "member"⟩, .member treeShape.id, []⟩

/-- The model of both. -/
def Model.forest : Model :=
  ⟨[branchesShape, branchesMember, treeShape, treeMember] ++ bare.shapes⟩

/-- The document of that model. -/
def forestSource : String := "[\"2\",\x7b\"a#Tree\":[\"structure\",\x7b\"branches\":[" ++
  "\"a#Branches\",\x7b\"smithy.api#required\":1\x7d]\x7d]," ++
  "\"a#Branches\":[\"list\",[\"a#Tree\"]]\x7d]"

theorem Model.assembled_forest : forest.Assembled := by
  refine assembled_of_list forestSource (by
    delta forestSource
    repeat rw [String.toList_append]
    repeat rw [String.toList_ofList]
    rfl) ?_ (by decide)
  decide +kernel

namespace Symbols

/-- The symbols of that model. -/
def forest : Symbols := ⟨.forest, Placeholder.service, .server true, []⟩

theorem ofModel_forest : ofModel .forest Placeholder.service (.server true) false = .ok forest :=
  ofModel_eq_ok (by decide) (by decide)

theorem holdsViolation_forest : forest.HoldsViolation treeShape branchesShape ∧
    forest.HoldsViolation branchesShape treeShape := by
  have htree : forest.variants treeShape = .ok [.missing ⟨"a", "Tree", some "branches"⟩,
      .part ⟨"a", "Tree", some "branches"⟩
        (.named "crate::model::branches" "ConstraintViolation")] := by decide
  have hbranches : forest.variants branchesShape = .ok [.item ⟨"a", "Branches", some "member"⟩
      (.named "crate::model::tree" "ConstraintViolation")] := by decide
  have htreeSymbol : forest.violation branchesMember =
      .ok (.exported (.named "crate::model::tree" "ConstraintViolation")) := by decide
  have hbranchesSymbol : forest.violation treeMember =
      .ok (.exported (.named "crate::model::branches" "ConstraintViolation")) := by decide
  constructor
  · exact ⟨_, _, _, htree, List.mem_cons_of_mem _ List.mem_cons_self, treeMember, by decide, rfl,
      hbranchesSymbol, by decide⟩
  · exact ⟨_, _, _, hbranches, List.mem_cons_self, branchesMember, by decide, rfl, htreeSymbol,
      by decide⟩

end Symbols

/-! ### Circles -/

namespace Model

variable {m : Model} {s : Shape}

/-- A circle of structures and unions is a circle of values in place. -/
theorem reflTransGen_holdsByValue (hall : ∀ t, TransGen m.Embeds s t → TransGen m.Embeds t s →
    t.isStruct = true ∨ t.isUnion = true) {t : Shape} (hst : TransGen m.Embeds s t)
    (hts : ReflTransGen m.Embeds t s) : ReflTransGen m.HoldsByValue t s := by
  induction hts using ReflTransGen.head_induction_on with
  | refl => exact .refl
  | @head a b hab hbs ih =>
    have hk := hall a hst (.head' hab hbs)
    obtain ⟨-, e, he, -, hb, -⟩ := id hab
    rw [targetOf_of_holder hk] at he
    exact .head ⟨hk, e, he, hb⟩ (ih (hst.tail hab))

/-- Structures and unions alone do not embed each other in a circle, since the members on the circle
lead back. -/
theorem exists_of_embeds_self (hs : s ∈ m.shapes) (h : TransGen m.Embeds s s) :
    ∃ t, t.isStruct = false ∧ t.isUnion = false ∧ TransGen m.Embeds s t ∧
      TransGen m.Embeds t s := by
  by_contra hnone
  have hall : ∀ t, TransGen m.Embeds s t → TransGen m.Embeds t s →
      t.isStruct = true ∨ t.isUnion = true := by
    intro t hst hts
    by_contra hk
    rw [not_or, Bool.not_eq_true, Bool.not_eq_true] at hk
    exact hnone ⟨t, hk.1, hk.2, hst, hts⟩
  have hk := hall s h h
  obtain ⟨t, hst, hts⟩ := TransGen.head'_iff.1 h
  -- the rest of the circle leads the first member back to its owner
  have hway := reflTransGen_holdsByValue hall (.single hst) hts
  obtain ⟨-, e, he, -, rfl, hback⟩ := hst
  rw [targetOf_of_holder hk] at he hback
  exact hback hk ⟨s, hs, hk, he, hway⟩

end Model

/-- The violation type of a shape holds itself in place exactly by way of a shape that is neither a
structure nor a union: a list, a map, or a member that another member targets. -/
theorem Symbols.holdsViolation_self_iff {m : Model} (hm : m.Assembled) {service : Shape}
    {style : Style} {tolerant : Bool} {y : Symbols} (hy : ofModel m service style tolerant = .ok y)
    {s : Shape} (hs : s ∈ m.shapes) : TransGen y.HoldsViolation s s ↔
      ∃ t, t.isStruct = false ∧ t.isUnion = false ∧ TransGen m.Embeds s t ∧
        TransGen m.Embeds t s := by
  obtain ⟨rfl, -⟩ := of_ofModel hy
  have hm := Model.sound_of_assembled hm
  rw [transGen_embeds_iff hm hs]
  constructor
  · exact Model.exists_of_embeds_self hs
  · rintro ⟨t, -, -, hst, hts⟩
    exact hst.trans hts

theorem Symbols.holdsViolation_self_tree : ∃ t, t.isStruct = false ∧ t.isUnion = false ∧
    TransGen Model.forest.Embeds treeShape t ∧ TransGen Model.forest.Embeds t treeShape :=
  (holdsViolation_self_iff Model.assembled_forest ofModel_forest (by decide)).1
    (.tail (.single holdsViolation_forest.1) holdsViolation_forest.2)

/-- An accepted model can have a structure whose violation type holds itself in place. -/
theorem Symbols.exists_holdsViolation_self : ∃ m service style y, m.Assembled ∧
    ofModel m service style false = .ok y ∧ ∃ s ∈ m.shapes, s.isStruct = true ∧
      TransGen y.HoldsViolation s s :=
  ⟨.forest, _, _, forest, Model.assembled_forest, ofModel_forest, treeShape, by decide, rfl,
    .tail (.single holdsViolation_forest.1) holdsViolation_forest.2⟩

end Shapesmith
