import Shapesmith.Proofs.Builder.Fields
import Shapesmith.Proofs.Builder.Order

/-!
# Artifacts refer to artifacts

A field whose values are structures names types of the artifact of another structure. Each artifact
makes up the names of its own types, and those who use them make them up again.

* `Symbols.surface_of_struct`, `Symbols.unconstrained_of_struct` : the types of a structure by name;
* `Compilation.Resolves` : a field and an artifact agree on the types of a structure;
* `Compilation.exists_resolves` : the artifact of each structure that a field holds is there, and
  agrees with the field.
-/

namespace Shapesmith

/-! ### Types by name -/

namespace Symbols

variable {y : Symbols} {p : Protocol} {s e : Shape} {a a' : Artifact} {symbol : Symbol}

theorem plain_of_struct (hs : s.isStruct = true) (h : y.plain s = .ok symbol) :
    symbol = .exported (y.declared s) := by
  obtain ⟨ids, hk⟩ := Shape.isStruct_iff.1 hs
  rw [plain_eq_ok_iff, depth, plainAt] at h
  simp only [hk] at h
  exact (Option.some.inj h).symm

/-- Everyone sees a structure under its name. -/
theorem surface_of_struct (hs : s.isStruct = true) (h : y.surface s = .ok symbol) :
    symbol = .exported (y.declared s) := by
  obtain ⟨ids, hk⟩ := Shape.isStruct_iff.1 hs
  unfold surface at h
  split at h
  · rw [constrained_eq_ok_iff, depth, constrainedAt] at h
    simp only [hk] at h
    exact plain_of_struct hs (plain_eq_ok_iff.2 h)
  · exact plain_of_struct hs h

/-- A structure that can break a constraint is kept as its builder, another one as it is. -/
theorem unconstrained_of_struct (hs : s.isStruct = true) (h : y.unconstrained s = .ok symbol) :
    symbol.type = if y.model.reachesConstrained s then
      .named (moduleBeside (y.declared s) s) builderName else y.declared s := by
  obtain ⟨ids, hk⟩ := Shape.isStruct_iff.1 hs
  rw [unconstrained_eq_ok_iff (Shape.isMember_of_holder (.inl hs)), unconstrainedOf] at h
  by_cases hr : y.model.reachesConstrained s = true
  · simp only [if_pos hr, hk] at h ⊢
    obtain ⟨plain, hplain, rfl⟩ := Option.map_eq_some_iff.1 h
    rw [plain_of_struct hs (plain_eq_ok_iff.2 hplain)]
    rfl
  · rw [if_neg hr] at h ⊢
    rw [plain_of_struct hs (plain_eq_ok_iff.2 h)]
    rfl

/-- The violations of a structure have a type beside its own. -/
theorem violation_of_struct (hs : (y.model.targetOf s).isStruct = true)
    (hr : y.model.reachesConstrained (y.model.targetOf s) = true)
    (h : y.violation s = .ok symbol) : symbol.type =
      .named (moduleBeside (y.declared (y.model.targetOf s)) (y.model.targetOf s))
        violationName := by
  rw [violation, if_pos hr] at h
  obtain ⟨plain, hplain, h⟩ := Except.bind_eq_ok_iff.1 h
  obtain rfl := Except.ok.inj h
  rw [plain_of_struct hs hplain]
  rfl

/-! ### Artifacts by name -/

namespace Generates

/-- The type of a structure has the name of the structure. -/
theorem symbol_eq (h : y.Generates p s a) : a.structType.symbol = y.declared s := by
  obtain ⟨symbol, hsymbol, heq⟩ := h.symbol
  rw [heq, surface_of_struct h.struct hsymbol]
  rfl

/-- The builder is where those look for it that keep builders of the structure. -/
theorem returns_eq (h : y.Generates p s a) : a.convenience.returns =
    .named (moduleBeside (y.declared s) s) builderName := by
  rw [h.begins, h.module, h.symbol_eq]

/-- The violations are beside the builder. -/
theorem violation_eq (h : y.Generates p s a) {v : ViolationType} (hv : a.violation = some v) :
    v.symbol = .named a.builder.module violationName := by
  obtain ⟨hr, ⟨symbol, hsymbol, heq⟩, -⟩ := of_violationType (hv ▸ h.violation)
  have htarget : y.model.targetOf s = s := Model.targetOf_of_holder (.inl h.struct)
  have htype := violation_of_struct (htarget.symm ▸ h.struct) (htarget.symm ▸ hr) hsymbol
  rw [heq, htype, htarget, h.module, h.symbol_eq]

/-- Members whose values are structures name the types of violations of their artifacts. -/
theorem exists_violation (h : y.Generates p (y.model.targetOf e) a)
    (hr : y.model.reachesConstrained (y.model.targetOf e) = true)
    (hsymbol : y.violation e = .ok symbol) :
    ∃ v, a.violation = some v ∧ v.symbol = symbol.type := by
  cases hv : a.violation with
  | none =>
    rw [(violationType_none_iff h.violation).1 hv] at hr
    cases hr
  | some v =>
    refine ⟨v, rfl, ?_⟩
    rw [h.violation_eq hv, violation_of_struct h.struct hr hsymbol, h.module, h.symbol_eq]

/-- The variant for the parts of such a member carries them, in a box if the member is boxed. -/
theorem eq_part_of_variant (h : y.Generates p s a) (h' : y.Generates p (y.model.targetOf e) a')
    (hm : y.model.Sound) (hs : s ∈ y.model.shapes) (he : e ∈ y.model.membersOf s)
    {v : ViolationType} (hv : a.violation = some v) {w : Variant} (hw : w ∈ v.variants)
    (hcategory : w.category = none) (hname : w.member = some e.memberName) :
    ∃ v', a'.violation = some v' ∧ w = .part e.id
      (if y.model.isBoxed e.id then .boxed v'.symbol else v'.symbol) := by
  obtain ⟨-, -, hvs⟩ := of_violationType (hv ▸ h.violation)
  obtain ⟨d, hd, heq, hr, symbol, hsymbol, rfl⟩ :=
    mem_variants_of_member hm hs h.struct hvs hw hcategory hname
  obtain rfl : d = e := List.inj_on_of_nodup_map (hm.nodup_memberNames hs) hd he heq
  have hreach := Model.reachesConstrained_targetOf hm (hm.mem_membersOf_iff.1 he).1 hr
  obtain ⟨v', hv', heq⟩ := h'.exists_violation hreach hsymbol
  exact ⟨v', hv', by rw [heq]⟩

/-- The structure has a field for the member, with the type that the builder's is set with. -/
theorem exists_field (h : y.Generates p s a) (he : e ∈ y.model.membersOf s) {f : BuilderField}
    {seen kept : Symbol} (hf : y.Passes e f seen kept) :
    ∃ g ∈ a.structType.fields, g.member = f.member ∧ g.symbol = f.setter.accepts := by
  obtain ⟨g, hg, hfield⟩ := exists_mem_collect (collect_eq_ok_iff.2 h.fields) he
  obtain ⟨symbol, hsymbol, haccepts⟩ := hf.set
  rw [structField, hsymbol] at hfield
  obtain rfl := Except.ok.inj hfield
  exact ⟨_, hg, hf.member.symm, haccepts.symm⟩

end Generates

end Symbols

/-! ### References -/

theorem CodeType.text_named {space name step : String} (h : "::" ++ name = step) :
    (CodeType.named space name).text = space ++ step := by
  rw [← h, ← String.append_assoc]
  rfl

namespace Compilation

variable {m : Model} {settings : Settings} {registry : Registry} {c : Compilation} {s d : Shape}

/-- The artifacts of a compilation can be looked up. -/
theorem Of.exists_artifact? (h : c.Of m settings) (hm : m.Sound)
    (hd : d ∈ m.structuresFrom c.symbols.service) :
    ∃ a, c.artifact? d.id = some a ∧ c.symbols.Generates c.protocol d a := by
  obtain ⟨a, ha, hartifact⟩ := exists_mem_collect h.artifacts hd
  have hg := Symbols.generates_of_artifact hartifact
  exact ⟨a, (h.artifact?_eq_some_iff hm).2 ⟨ha, hg.shape⟩, hg⟩

/-- The types that a field names are those of the artifact of a structure. -/
structure Resolves (c : Compilation) (a : Artifact) (f : BuilderField) (d : Shape)
    (a' : Artifact) : Prop where
  /-- The artifact is there. -/
  found : c.artifact? d.id = some a'
  /-- The field is set with the structure. -/
  accepts : f.setter.accepts.stripped = a'.structType.symbol
  /-- The field of the built structure has the type that the field is set with. -/
  seen : ∃ g ∈ a.structType.fields, g.member = f.member ∧ g.symbol = f.setter.accepts
  /-- The field keeps a builder, if the structure can break a constraint. -/
  stored : f.stored.stripped = if c.symbols.model.reachesConstrained d then a'.convenience.returns
    else a'.structType.symbol
  /-- The variant for the values of the field carries the violations of the structure, in a box if
  the member is boxed. -/
  nested : ∀ v, a.violation = some v → ∀ w ∈ v.variants, w.category = none →
    w.member = some f.memberName → ∃ v', a'.violation = some v' ∧ w = .part f.member
      (if c.symbols.model.isBoxed f.member then .boxed v'.symbol else v'.symbol)

/-- Artifacts name their builders and violations alike, and what they name of the structures that
they hold are the types of the artifacts of these. -/
theorem exists_resolves (hm : m.Assembled)
    (hdirect : ∀ e ∈ m.shapes, (m.targetOf e).isMember = false)
    (hc : compile m settings registry = .ok c) {a : Artifact} (ha : a ∈ c.artifacts) :
    (∀ f ∈ a.builder.fields, ∀ d, m.find? f.target = some d → d.isStruct = true →
      d.id ≠ unitId → ∃ a', c.Resolves a f d a') ∧
    a.convenience.returns.text = a.builder.module ++ "::Builder" ∧
    ∀ v, a.violation = some v → v.symbol.text = a.builder.module ++ "::ConstraintViolation" := by
  have hof := compilation_of_compile hc
  obtain rfl := hof.model
  have hm := Model.sound_of_assembled hm
  obtain ⟨s, hs, hartifact⟩ := exists_of_mem_collect hof.artifacts ha
  have hwalk := (Model.mem_structuresFrom_iff.1 hs).1
  have hsmem := Model.mem_of_mem_walk hof.service hwalk
  have hg := Symbols.generates_of_artifact hartifact
  refine ⟨fun f hf d hd hstruct hunit => ?_, ?_, fun v hv => ?_⟩
  · obtain ⟨e, he, hcollects, seen, kept, hpasses⟩ := hg.exists_passes hm hsmem hdirect hf
    obtain rfl : c.symbols.model.targetOf e = d := Option.some.inj
      ((hcollects.find?_target hm (hm.mem_membersOf_iff.1 he).1).symm.trans hd)
    have htarget := hm.targetOf_mem_walk hof.service hwalk he
    obtain ⟨a', hfound, hg'⟩ :=
      hof.exists_artifact? hm (Model.mem_structuresFrom_iff.2 ⟨htarget, hstruct, hunit⟩)
    refine ⟨a', hfound, ?_, hg.exists_field he hpasses, ?_, fun v hv w hw hcategory hname => ?_⟩
    · rw [hpasses.accepts, Symbols.surface_of_struct hstruct hpasses.surface, hg'.symbol_eq]
      rfl
    · rw [hpasses.stored, Symbols.unconstrained_of_struct hstruct hpasses.unconstrained,
        hg'.returns_eq, hg'.symbol_eq]
    · rw [hcollects.name] at hname
      rw [hpasses.member]
      exact hg.eq_part_of_variant hg' hm hsmem he hv hw hcategory hname
  · rw [hg.begins]
    exact CodeType.text_named (by decide)
  · rw [hg.violation_eq hv]
    exact CodeType.text_named (by decide)

theorem exists_resolves_depot : ∃ c a inner lid,
    compile .depot depotSettings .standard = .ok c ∧ a ∈ c.artifacts ∧
      innerField ∈ a.builder.fields ∧ c.Resolves a innerField crateShape inner ∧
      lidField ∈ a.builder.fields ∧ c.Resolves a lidField lidShape lid ∧
      a.convenience.returns.text = a.builder.module ++ "::Builder" ∧
      ∃ v, a.violation = some v ∧ v.symbol.text = a.builder.module ++ "::ConstraintViolation" := by
  obtain ⟨crateArtifact, lidArtifact, hc, hfields, hviolation, -⟩ := exists_compile_depot
  have ha : crateArtifact ∈ [crateArtifact, lidArtifact] := List.mem_cons_self
  have hinner : innerField ∈ crateArtifact.builder.fields := by simp [hfields]
  have hlid : lidField ∈ crateArtifact.builder.fields := by simp [hfields]
  obtain ⟨hall, hreturns, hviolations⟩ :=
    exists_resolves Model.assembled_depot (by decide) hc ha
  obtain ⟨inner, hinner'⟩ := hall innerField hinner crateShape (by decide) rfl (by decide)
  obtain ⟨lid, hlid'⟩ := hall lidField hlid lidShape (by decide) rfl (by decide)
  obtain ⟨v, hv⟩ := Option.isSome_iff_exists.1 hviolation
  exact ⟨_, crateArtifact, inner, lid, hc, ha, hinner, hinner', hlid, hlid', hreturns, v, hv,
    hviolations v hv⟩

end Compilation

end Shapesmith
