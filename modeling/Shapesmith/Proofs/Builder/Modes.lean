import Shapesmith.Proofs.Builder.Fields
import Shapesmith.Proofs.Model.Integrity
import Shapesmith.Proofs.Symbol.Modes

/-!
# Both modes build the same values

Constrained types are part of what everyone sees, or they are hidden. The mode decides on the types
of fields and on what setters take. It decides neither on what builders keep nor on what they
report.

* `StructField.SameBut`, `BuilderField.SameBut`, `Artifact.SameBut` : what the mode can change;
* `Artifact.build_eq_of_sameBut` : it does not change what is built;
* `Symbols.agrees_artifact` : artifacts of a structure in both modes;
* `Compilation.agrees_compile` : both compilations fail alike, or have artifacts of the same
  structures that build the same values.
-/

namespace Shapesmith

open Relation

/-- The fields are the same, but for their types. -/
def StructField.SameBut (f g : StructField) : Prop := g = { f with symbol := g.symbol }

/-- The fields are the same, but for what the setter takes, the setter for what is kept, and the
type that values are checked into. -/
def BuilderField.SameBut (f g : BuilderField) : Prop :=
  g = { f with
    setter := { f.setter with accepts := g.setter.accepts }
    internalSetter := g.internalSetter
    validatedAs := g.validatedAs
    unwrapIntoPublic := g.unwrapIntoPublic }

-- Both lemmas are about fields that are made up of their parts: with these as variables, `rfl` has
-- no name of a field to compute.
theorem StructField.sameBut_mk {name : String} {member : ShapeId} {symbol symbol' : CodeType}
    {documentation : Option String} :
    SameBut ⟨name, member, symbol, documentation⟩ ⟨name, member, symbol', documentation⟩ := rfl

theorem BuilderField.sameBut_mk {name memberName : String} {member target : ShapeId}
    {stored accepts accepts' : CodeType} {setterName : String} {visibility : Visibility}
    {internal internal' : Option Setter} {requirement : Requirement} {checks : List Check}
    {validatedAs validatedAs' : Option CodeType} {unwrap unwrap' : Bool} :
    SameBut
      ⟨name, member, memberName, target, stored, ⟨setterName, visibility, accepts⟩, internal,
        requirement, checks, validatedAs, unwrap⟩
      ⟨name, member, memberName, target, stored, ⟨setterName, visibility, accepts'⟩, internal',
        requirement, checks, validatedAs', unwrap'⟩ := rfl

/-- The artifacts are the same, but for what their fields may differ in. -/
structure Artifact.SameBut (a b : Artifact) : Prop where
  /-- Everything but the fields. -/
  rest : b = { a with
    structType := { a.structType with fields := b.structType.fields }
    builder := { a.builder with fields := b.builder.fields } }
  /-- The fields of the structure, one for one. -/
  fields : List.Forall₂ StructField.SameBut a.structType.fields b.structType.fields
  /-- The fields of the builder, one for one. -/
  collected : List.Forall₂ BuilderField.SameBut a.builder.fields b.builder.fields

/-! ### Builds -/

/-- What a build depends on is the same. -/
theorem BuilderField.SameBut.eq {f g : BuilderField} (h : f.SameBut g) :
    g.memberName = f.memberName ∧ g.target = f.target ∧ g.requirement = f.requirement ∧
      g.checks = f.checks := by
  rw [SameBut] at h
  rw [h]
  exact ⟨rfl, rfl, rfl, rfl⟩

namespace Artifact

variable {v : Validator} {given : List (String × Json)} {a b : Artifact}

/-- Values are collected alike. -/
theorem collect_eq_of_sameBut {fs gs : List BuilderField}
    (h : List.Forall₂ BuilderField.SameBut fs gs) : collect v given gs = collect v given fs := by
  induction h with
  | nil => rfl
  | cons hfg _ ih =>
    obtain ⟨hname, htarget, hrequirement, hchecks⟩ := hfg.eq
    rw [collect, collect, ih, hname, htarget, hrequirement, hchecks]

theorem find?_isNone_of_sameBut {fs gs : List BuilderField}
    (h : List.Forall₂ BuilderField.SameBut fs gs) (name : String) :
    (gs.find? fun g => g.memberName == name).isNone =
      (fs.find? fun f => f.memberName == name).isNone := by
  induction h with
  | nil => rfl
  | cons hfg _ ih =>
    rw [List.find?_cons, List.find?_cons, hfg.eq.1]
    split
    · rfl
    · exact ih

/-- Artifacts that are the same but for types build the same values and report the same. -/
theorem build_eq_of_sameBut (h : a.SameBut b) : b.build v given = a.build v given := by
  have hstray : (fun e : String × Json => (b.field? e.1).isNone) =
      fun e => (a.field? e.1).isNone := by
    funext e
    exact find?_isNone_of_sameBut h.collected e.1
  rw [build, build, hstray, collect_eq_of_sameBut h.collected]

end Artifact

/-! ### Artifacts -/

/-- The exception by which a protocol reports violations is a structure, if it is there at all. -/
def Protocol.ReportsIn (p : Protocol) (m : Model) : Prop :=
  ∀ s, m.find? p.validationException = some s → s.isStruct = true

namespace Symbols

variable {y : Symbols} {p : Protocol} {s e : Shape} {exported : Bool}

theorem agrees_structField (hm : y.model.Sound) (he : e ∈ y.model.shapes)
    (htype : y.model.HasType e) : Except.Agrees StructField.SameBut (y.structField e)
      ((y.exporting exported).structField e) := by
  refine (agrees_surface hm he htype).bind fun symbol symbol' _ => ?_
  exact StructField.sameBut_mk

theorem agrees_builderField (hm : y.model.Sound) (he : e ∈ y.model.shapes)
    (htypes : ∀ t ∈ y.model.shapes, y.model.HasType t) :
    Except.Agrees BuilderField.SameBut (y.builderField e)
      ((y.exporting exported).builderField e) := by
  have htarget := hm.targetOf_mem he
  unfold builderField
  rw [unconstrained_exporting, model_exporting]
  refine (agrees_surface hm he (htypes e he)).bind fun surface surface' _ => ?_
  refine Except.agrees_bind fun stored _ => ?_
  refine (agrees_validation hm htarget (htypes _ htarget)).bind fun checked checked' _ => ?_
  exact BuilderField.sameBut_mk

theorem violationType_exporting (hs : s.isStruct = true) (hp : p.ReportsIn y.model) :
    (y.exporting exported).violationType p s = y.violationType p s := by
  have hexception : (y.exporting exported).exceptionText p.validationException =
      y.exceptionText p.validationException := by
    unfold exceptionText
    rw [model_exporting]
    split
    · rename_i t ht
      rw [surface_exporting_of_isStruct (hp t ht)]
    · rfl
  rw [violationType, violationType, violation_exporting_of_isStruct hs, variants_exporting,
    hexception, model_exporting]

/-- Artifacts of a structure in both modes are the same but for types. -/
theorem agrees_artifact (hm : y.model.Sound) (htypes : ∀ t ∈ y.model.shapes, y.model.HasType t)
    (hp : p.ReportsIn y.model) :
    Except.Agrees Artifact.SameBut (y.artifact p s) ((y.exporting exported).artifact p s) := by
  have hmembers : ∀ e ∈ y.model.membersOf s, e ∈ y.model.shapes :=
    fun e he => (hm.mem_membersOf_iff.1 he).1
  unfold artifact
  by_cases hs : s.isStruct = true
  · rw [if_pos hs, if_pos hs, surface_exporting_of_isStruct hs, violationType_exporting hs hp,
      model_exporting]
    -- of the four parts of an artifact, symbol and violations are made by equal runs
    refine Except.agrees_bind fun symbol _ => ?_
    refine (agrees_collect fun e he =>
      agrees_structField hm (hmembers e he) (htypes e (hmembers e he))).bind
        fun fields fields' hfields => ?_
    refine Except.agrees_bind fun violation _ => ?_
    refine (agrees_collect fun e he =>
      agrees_builderField hm (hmembers e he) htypes).bind fun collected collected' hcollected => ?_
    exact Except.agrees_of_ok rfl rfl ⟨rfl, hfields, hcollected⟩
  · rw [if_neg hs, if_neg hs]
    exact Except.agrees_error_iff.2 rfl

end Symbols

/-! ### Compilations -/

/-- The settings with constrained types as part of what everyone sees, or not. -/
def Settings.exporting (settings : Settings) (exported : Bool) : Settings :=
  { settings with codegen := { settings.codegen with publicConstrainedTypes := exported } }

/-- All protocols of the registry report violations by structures. -/
def Registry.ReportsIn (r : Registry) (m : Model) : Prop := ∀ e ∈ r, e.2.ReportsIn m

theorem Registry.exists_of_resolve {r : Registry} {service : Shape} {wanted : Option ShapeId}
    {p : Protocol} (h : r.resolve service wanted = .ok p) : ∃ e ∈ r, e.2 = p := by
  have hof {id : ShapeId} (h : r.protocolOf service id = .ok p) : ∃ e ∈ r, e.2 = p := by
    unfold protocolOf at h
    split at h
    · rename_i q hget
      cases h
      exact ⟨_, Table.mem_of_get? hget, rfl⟩
    · cases h
  unfold resolve at h
  dsimp only at h
  split at h
  · split at h
    · exact hof h
    · cases h
  · cases h
  · exact hof h
  · cases h

theorem Model.prelude_mem {m : Model} (hm : m.Assembled) : ∀ s ∈ prelude, s ∈ m.shapes := by
  obtain ⟨sources, h⟩ := hm
  rw [assemble_eq_bind_close] at h
  obtain ⟨shapes, hmerged, hclose⟩ := Except.bind_eq_ok_iff.1 h
  obtain ⟨rfl, -⟩ := of_close hclose
  exact prelude_mem_of_merged hmerged

/-- The exception of the prelude is in all models. -/
theorem Model.find?_validationException {m : Model} (hm : m.Assembled) :
    m.find? validationExceptionId = some Prelude.exceptionShape :=
  (sound_of_assembled hm).find?_id (prelude_mem hm Prelude.exceptionShape (by decide))

/-- The exception of the prelude is a structure. -/
theorem Protocol.reportsIn_of_prelude {p : Protocol} {m : Model} (hm : m.Assembled)
    (hp : p.validationException = validationExceptionId) : p.ReportsIn m := by
  intro s hs
  rw [hp, Model.find?_validationException hm] at hs
  obtain rfl := Option.some.inj hs
  rfl

/-- All protocols of the registry report violations by the exception of the prelude. -/
def Registry.ReportsByPrelude (r : Registry) : Prop :=
  ∀ e ∈ r, e.2.validationException = validationExceptionId

theorem Registry.reportsByPrelude_standard : Registry.standard.ReportsByPrelude := by
  unfold ReportsByPrelude
  decide

theorem Registry.reportsIn_standard {m : Model} (hm : m.Assembled) :
    Registry.standard.ReportsIn m :=
  fun e he => Protocol.reportsIn_of_prelude hm (reportsByPrelude_standard e he)

namespace Compilation

/-- The artifacts of the compilations are the same, one for one, but for types, and they build the
same values and report the same. -/
def Matches (c d : Compilation) : Prop :=
  List.Forall₂ (fun a b => a.SameBut b ∧ ∀ v given, b.build v given = a.build v given)
    c.artifacts d.artifacts

theorem agrees_ofModel {m : Model} {service : Shape} {settings : Settings} {exported : Bool} :
    Except.Agrees (fun y y' => y.model = m ∧ y' = y.exporting exported)
      (Symbols.ofModel m service (.server settings.codegen.publicConstrainedTypes)
        settings.codegen.ignoreUnsupportedConstraints)
      (Symbols.ofModel m service
        (.server (settings.exporting exported).codegen.publicConstrainedTypes)
        (settings.exporting exported).codegen.ignoreUnsupportedConstraints) := by
  exact Except.agrees_bind fun _ _ => ⟨rfl, rfl⟩

/-- If no shape leads back to itself through lists, maps and members alone, compilations in both
modes fail alike, or have artifacts of the same structures that build the same values. This is so
for all protocols that report violations by a structure, as the standard ones do. -/
theorem agrees_compile {m : Model} (hm : m.Assembled)
    (hends : ∀ s ∈ m.shapes, ¬ TransGen m.Spells s s) (settings : Settings) (exported : Bool) :
    (∀ registry : Registry, registry.ReportsIn m →
      Except.Agrees Matches (compile m settings registry)
        (compile m (settings.exporting exported) registry)) ∧
    Registry.standard.ReportsIn m := by
  refine ⟨fun registry hregistry => ?_, Registry.reportsIn_standard hm⟩
  have hm := Model.sound_of_assembled hm
  unfold compile
  refine Except.agrees_bind fun service _ => ?_
  refine agrees_ofModel.bind fun y _ hy => ?_
  obtain ⟨rfl, rfl⟩ := hy
  have htypes : ∀ t ∈ y.model.shapes, y.model.HasType t := by
    intro t ht
    refine Symbols.hasType_of_acyclic hm ht fun u hu => hends u ?_
    exact Model.mem_of_reflTransGen (fun h => h.mem hm) ht hu
  refine Except.agrees_bind fun p hp => ?_
  -- the protocol is one of the registry, and the mode has no part in the choice
  have hreports : p.ReportsIn y.model := by
    obtain ⟨e, he, rfl⟩ := Registry.exists_of_resolve hp
    exact hregistry e he
  refine (agrees_collect fun s _ => Symbols.agrees_artifact hm htypes hreports).bind
    fun artifacts artifacts' hartifacts => ?_
  refine Except.agrees_of_ok rfl rfl (hartifacts.imp fun a b hab => ?_)
  exact ⟨hab, fun v given => Artifact.build_eq_of_sameBut hab⟩

/-- Crates are built from the same tags, whether or not the type of tags is hidden. -/
theorem agrees_compile_depot : ∃ c d,
    compile .depot (depotSettings.exporting true) .standard = .ok c ∧
    compile .depot depotSettings .standard = .ok d ∧ c.Matches d := by
  have htypes : ∀ s ∈ Model.depot.shapes,
      (Symbols.depot.plainAt Symbols.depot.depth s).isSome = true := by decide
  have hsound := Model.sound_of_assembled Model.assembled_depot
  have hends : ∀ s ∈ Model.depot.shapes, ¬ TransGen Model.depot.Spells s s :=
    fun s hs => (Symbols.hasType_of_plainAt hsound hs (htypes s hs)).not_transGen
  obtain ⟨hagrees, hstandard⟩ :=
    agrees_compile Model.assembled_depot hends (depotSettings.exporting true) false
  obtain ⟨crateArtifact, lidArtifact, hd, -⟩ := exists_compile_depot
  have hsame : (depotSettings.exporting true).exporting false = depotSettings := rfl
  have hboth := hagrees .standard hstandard
  rw [hsame, hd] at hboth
  obtain ⟨c, hc, hmatches⟩ := Except.agrees_ok_iff.1 hboth
  exact ⟨c, _, hc, hd, hmatches⟩

end Compilation

end Shapesmith
