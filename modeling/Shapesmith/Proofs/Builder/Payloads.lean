import Shapesmith.Proofs.Builder.Fields

/-!
# What violation types carry

The violations of structures are for everyone. Those of other shapes are hidden where constrained
types are hidden, also when the violations of a structure carry them.

* `Symbols.Carries` : a variant carries the violation type of a member;
* `Symbols.CarriedFor` : that type is for everyone exactly if constrained types are, or if it is
  that of a structure;
* `Compilation.carriedFor_of_compile` : so are all types that the violations of a compilation carry;
* `Compilation.exists_carried_hidden` : the violations of a structure can carry a hidden type.
-/

namespace Shapesmith

namespace Symbols

variable {y : Symbols} {p : Protocol} {s e : Shape} {symbol : Symbol}

/-- A variant carries the violation type of a member, which is also that of the member's target. -/
structure Carries (y : Symbols) (w : Variant) (e : Shape) (symbol : Symbol) : Prop where
  /-- The symbol of the violations of the member. -/
  member : y.violation e = .ok symbol
  /-- Its target has the same symbol. -/
  target : (y.model.targetOf e).isMember = false → y.violation (y.model.targetOf e) = .ok symbol
  /-- The type is generated for violations. -/
  generated : ∃ module, symbol.type = .named module violationName
  /-- The variant carries the type, as it is or boxed. -/
  payload : w.nested? = some (e.id, symbol.type) ∨ w.nested? = some (e.id, .boxed symbol.type)

/-- The violation type that a variant carries is for everyone exactly if constrained types are, or
if it is that of a structure. -/
def CarriedFor (y : Symbols) (publicTypes : Bool) (w : Variant) : Prop :=
  ∃ e ∈ y.model.shapes, ∃ symbol, y.Carries w e symbol ∧ (symbol.visibility = .exported ↔
    publicTypes = true ∨ (y.model.targetOf e).isStruct = true)

/-- Who may see the violation type of a member depends on its target alone. -/
theorem violation_of_reaches (hr : y.model.reachesConstrained (y.model.targetOf e) = true)
    (h : y.violation e = .ok symbol) : (∃ module, symbol.type = .named module violationName) ∧
      (symbol.visibility = .exported ↔
        y.style.exportConstrained = true ∨ (y.model.targetOf e).isStruct = true) := by
  rw [violation, if_pos hr] at h
  simp only [Except.bind_eq_ok_iff, Except.pure_eq_ok_iff] at h
  obtain ⟨owner, -, rfl⟩ := h
  refine ⟨⟨_, rfl⟩, ?_⟩
  cases hstruct : (y.model.targetOf e).isStruct <;>
    cases hexport : y.style.exportConstrained <;> simp

theorem violation_targetOf (hdirect : (y.model.targetOf e).isMember = false) :
    y.violation (y.model.targetOf e) = y.violation e := by
  simp only [violation, Model.targetOf_of_not_isMember hdirect]

/-- A variant with the violations of another shape carries those of a member. -/
theorem carriedFor_of_variants (hm : y.model.Sound) (hs : s ∈ y.model.shapes) {vs : List Variant}
    (hvs : y.variants s = .ok vs) {w : Variant} (hw : w ∈ vs) (hnested : w.nested?.isSome = true) :
    y.CarriedFor y.style.exportConstrained w := by
  obtain ⟨-, hcases⟩ := (mem_variants_iff hm hs rfl hvs).1 hw
  rcases hcases with ⟨check, -, rfl⟩ | ⟨_, -, -, -, rfl⟩ | ⟨e, he, hr, symbol, hsymbol, hnests⟩
  -- failed checks and missing members carry no type of violations
  · rw [Variant.nested?_ofCheck] at hnested
    cases hnested
  · cases hnested
  · have hmem := (hm.mem_membersOf_iff.1 he).1
    have hrt := Model.reachesConstrained_targetOf hm hmem hr
    obtain ⟨hgenerated, hvisible⟩ := violation_of_reaches hrt hsymbol
    have hpayload := hnests.nested?
    refine ⟨e, hmem, symbol, ⟨hsymbol, fun h => ?_, hgenerated, ?_⟩, hvisible⟩
    · rwa [violation_targetOf h]
    · split at hpayload
      · exact .inr hpayload
      · exact .inl hpayload

theorem visibility_of_violationType (hstruct : s.isStruct = true) {v : ViolationType}
    (h : y.violationType p s = .ok (some v)) : v.visibility = .exported := by
  have htarget := Model.targetOf_of_holder (m := y.model) (.inl hstruct)
  unfold violationType at h
  split at h
  · rename_i hr
    simp only [Except.bind_eq_ok_iff, Except.pure_eq_ok_iff, Option.some.injEq] at h
    obtain ⟨symbol, hsymbol, _, -, _, -, rfl⟩ := h
    rw [← htarget] at hr hstruct
    exact (violation_of_reaches hr hsymbol).2.2 (.inr hstruct)
  · cases h

end Symbols

namespace Compilation

/-- The violations of the structures of a compilation are for everyone. The types that they carry,
or that the violations of any other shape carry, are so exactly if constrained types are, or if they
are those of structures. -/
theorem carriedFor_of_compile {m : Model} (hm : m.Assembled) {settings : Settings}
    {registry : Registry} {c : Compilation} (hc : compile m settings registry = .ok c) :
    (∀ a ∈ c.artifacts, ∀ v, a.violation = some v → v.visibility = .exported ∧
      ∀ w ∈ v.variants, w.nested?.isSome = true →
        c.symbols.CarriedFor settings.codegen.publicConstrainedTypes w) ∧
    ∀ s ∈ m.shapes, ∀ vs, c.symbols.variants s = .ok vs → ∀ w ∈ vs, w.nested?.isSome = true →
      c.symbols.CarriedFor settings.codegen.publicConstrainedTypes w := by
  obtain ⟨rfl, -, hartifacts⟩ := of_compile hc
  have hm := Model.sound_of_assembled hm
  have hstyle : c.symbols.style.exportConstrained = settings.codegen.publicConstrainedTypes := by
    rw [(compilation_of_compile hc).style, Style.server]
  rw [← hstyle]
  refine ⟨fun a ha v hv => ?_, fun s hs vs hvs w => Symbols.carriedFor_of_variants hm hs hvs⟩
  obtain ⟨s, hs, hartifact⟩ := hartifacts a ha
  have hg := Symbols.generates_of_artifact hartifact
  have hviolation := hg.violation
  rw [hv] at hviolation
  obtain ⟨-, -, hvs⟩ := Symbols.of_violationType hviolation
  exact ⟨Symbols.visibility_of_violationType hg.struct hviolation,
    fun w => Symbols.carriedFor_of_variants hm hs hvs⟩

/-- What crates carry of their tags. -/
def tagsVariant : Variant :=
  .part ⟨"a", "Crate", some "tags"⟩ (.named "crate::model::tags" "ConstraintViolation")

/-- The violations of crates carry those of inner crates and of tags. -/
theorem exists_violation_depot : ∃ c, compile .depot depotSettings .standard = .ok c ∧
    c.symbols = .depot ∧ ∃ a ∈ c.artifacts, ∃ v, a.violation = some v ∧
      v.visibility = .exported ∧ tagsVariant ∈ v.variants := by
  obtain ⟨crateArtifact, lidArtifact, hc, -, -, hcrate⟩ := exists_compile_depot
  have hviolation := (Symbols.generates_of_artifact hcrate).violation
  have hvariants : (Symbols.depot.violationType clockProtocol crateShape).map
      (Option.map fun v => (v.visibility, decide (tagsVariant ∈ v.variants))) =
        .ok (some (.exported, true)) := by decide
  rw [hviolation] at hvariants
  obtain ⟨v, hv, hpair⟩ := Option.map_eq_some_iff.1 (Except.ok.inj hvariants)
  obtain ⟨hvisible, hmem⟩ := Prod.mk.inj hpair
  exact ⟨_, hc, rfl, crateArtifact, List.mem_cons_self, v, hv, hvisible, of_decide_eq_true hmem⟩

theorem carriedFor_of_compile_depot : ∃ c, compile .depot depotSettings .standard = .ok c ∧
    ∃ a ∈ c.artifacts, ∃ v, a.violation = some v ∧ tagsVariant ∈ v.variants ∧
      c.symbols.CarriedFor false tagsVariant := by
  obtain ⟨c, hc, -, a, ha, v, hv, -, hw⟩ := exists_violation_depot
  have hcarried := ((carriedFor_of_compile Model.assembled_depot hc).1 a ha v hv).2
  exact ⟨c, hc, a, ha, v, hv, hw, hcarried tagsVariant hw rfl⟩

/-- The violations of crates are for everyone, and those of the tags that they carry are hidden. -/
theorem exists_carried_hidden : ∃ c, compile .depot depotSettings .standard = .ok c ∧
    ∃ a ∈ c.artifacts, ∃ v, a.violation = some v ∧ v.visibility = .exported ∧
      ∃ w ∈ v.variants, ∃ e ∈ c.symbols.model.shapes, ∃ symbol,
        c.symbols.Carries w e symbol ∧ symbol.visibility = .hidden := by
  obtain ⟨c, hc, hsymbols, a, ha, v, hv, hvisible, hw⟩ := exists_violation_depot
  have htags : Symbols.depot.Carries tagsVariant (plainMember "Crate" "tags" tagsShape.id)
      ⟨.named "crate::model::tags" "ConstraintViolation", .hidden, none⟩ :=
    ⟨by decide, fun _ => by decide, ⟨_, rfl⟩, .inl rfl⟩
  refine ⟨c, hc, a, ha, v, hv, hvisible, tagsVariant, hw, ?_⟩
  rw [hsymbols]
  exact ⟨_, by decide, _, htags, rfl⟩

end Compilation

end Shapesmith
