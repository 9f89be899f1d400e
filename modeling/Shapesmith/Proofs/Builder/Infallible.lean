import Shapesmith.Compilation
import Shapesmith.Proofs.Builder.Reported
import Shapesmith.Proofs.Constraint.Accepted
import Shapesmith.Proofs.Model.Walk
import Shapesmith.Proofs.Symbol.Expression

/-!
# Structures without a type of violations

A structure gets a type of violations when its values can break a constraint, as far as kinds of
shapes go: a length counts on what has one, a range on numbers, a pattern on strings. An evaluation
runs all checks, whatever the kind. The two differ on constraints that are tolerated where they
measure nothing.

* `Model.BreaksForeign` : a part of a value breaks a check that is not made for its kind of shape;
* `Model.exists_failing_below_iff` : where no constraint can be reached, nothing else fails;
* `Artifact.build_of_infallible` : what a builder can report that has no type of violations. In a
  model that is accepted without tolerance it never reports any.
-/

namespace Shapesmith

open Relation

namespace Model

variable {m : Model}

/-- The values of a part's shape are what values of the shape are made of. -/
theorem Position.reflTransGen (hm : m.Sound) {p q : Spot} {trail : List Spot.Step}
    (h : m.Position p trail q) : ReflTransGen m.HasPart p.shape q.shape := by
  induction h with
  | here p => exact .refl
  | deeper hpart _ ih =>
    obtain ⟨e, he, hq⟩ := hpart.follows
    exact .head ⟨e, he.mem hm, hq⟩ ih

/-- A part of a value breaks a check that is not made for its kind of shape. -/
def BreaksForeign (m : Model) (root : Spot) : Prop :=
  ∃ trail q, trail ≠ [] ∧ m.Position root trail q ∧
    ∃ c ∈ q.shape.checks, ¬ c.Suits q.shape.kind ∧ ∃ breach, c.Breaks q.value breach

/-- Below a shape that leads to no constraint, checks fail only where they are not made for the
kind of shape. -/
theorem exists_failing_below_iff (hm : m.Sound) {p : Spot} (hp : p.shape ∈ m.shapes)
    (hk : p.shape.isMember = false) (hr : m.reachesConstrained p.shape = false) :
    (∃ site, m.Failing p site ∧ site.trail ≠ []) ↔ m.BreaksForeign p := by
  have hfree {trail : List Spot.Step} {q : Spot} (hpos : m.Position p trail q) :
      ¬ m.isConstrained q.shape = true := by
    intro hq
    have hreach := (reachesConstrained_iff hm hp).2
      ⟨q.shape, (targetOf_of_not_isMember (m := m) hk).symm ▸ hpos.reflTransGen hm, hq⟩
    rw [hr] at hreach
    cases hreach
  constructor
  · rintro ⟨site, hsite, hne⟩
    cases hsite with
    | check hpos hc hb =>
      have hcheck := List.mem_of_getElem? hc
      exact ⟨_, _, hne, hpos, _, hcheck,
        fun hsuits => hfree hpos (isConstrained_of_suits hcheck hsuits), _, hb⟩
    | missing hpos he => exact absurd he.isConstrained (hfree hpos)
  · rintro ⟨trail, q, hne, hpos, c, hc, -, breach, hb⟩
    obtain ⟨k, hk⟩ := List.getElem?_of_mem hc
    exact ⟨_, .check hpos hk hb, hne⟩

/-- In a model that is accepted without tolerance, all checks are made for their shapes. -/
theorem not_breaksForeign (hm : m.Sound) {service : Shape}
    (haccept : m.accept service false = .ok ()) {p : Spot} (hp : p.shape ∈ m.shapes) :
    ¬ m.BreaksForeign p := by
  rintro ⟨trail, q, -, hpos, c, hc, hforeign, -⟩
  have hq := mem_of_reflTransGen (fun h => HasPart.mem hm h) hp (hpos.reflTransGen hm)
  exact hforeign (suits_of_accept haccept hq hc)

end Model

/-! ### Artifacts -/

namespace Symbols

variable {y : Symbols} {p : Protocol} {s : Shape} {a : Artifact}

/-- The type of violations is what the building function fails with. -/
theorem error_of_artifact (h : y.artifact p s = .ok a) :
    a.shape = s.id ∧ a.builder.build.error = a.violation.map (·.symbol) :=
  ⟨(generates_of_artifact h).shape, (generates_of_artifact h).error⟩

/-- Structures that lead to no constraint have no type of violations. -/
theorem violationType_none_iff {t : Option ViolationType} (h : y.violationType p s = .ok t) :
    t = none ↔ y.model.reachesConstrained s = false := by
  unfold violationType at h
  split at h
  · rename_i hr
    simp only [Except.bind_eq_ok_iff, Except.pure_eq_ok_iff] at h
    obtain ⟨symbol, -, variants, -, exception, -, rfl⟩ := h
    simp [hr]
  · rename_i hr
    cases h
    simpa using hr

end Symbols

theorem Model.mem_structuresFrom_iff {m : Model} {service s : Shape} :
    s ∈ m.structuresFrom service ↔ s ∈ m.walk service ∧ s.isStruct = true ∧ s.id ≠ unitId := by
  rw [structuresFrom, sortedById, List.mem_mergeSort, List.mem_filter, Bool.and_eq_true,
    decide_eq_true_eq]

/-- What a compilation of a model with some settings is made of. -/
structure Compilation.Of (c : Compilation) (m : Model) (settings : Settings) : Prop where
  /-- The model. -/
  model : c.symbols.model = m
  /-- The settings. -/
  under : c.settings = settings
  /-- The style of the symbols. -/
  style : c.symbols.style = .server settings.codegen.publicConstrainedTypes
  /-- The service is one of the model. -/
  service : c.symbols.service ∈ m.shapes
  /-- The model is accepted for the service. -/
  accepted : m.accept c.symbols.service settings.codegen.ignoreUnsupportedConstraints = .ok ()
  /-- The artifacts are those of the structures that the service leads to. -/
  artifacts : collect (c.symbols.artifact c.protocol) (m.structuresFrom c.symbols.service) =
    .ok c.artifacts

variable {m : Model} {settings : Settings} {registry : Registry} {c : Compilation}

theorem compilation_of_compile (h : compile m settings registry = .ok c) : c.Of m settings := by
  simp only [compile, Except.bind_eq_ok_iff, Except.pure_eq_ok_iff] at h
  obtain ⟨service, hservice, y, hy, p, -, artifacts, hartifacts, rfl⟩ := h
  obtain ⟨_, haccept, heq⟩ := Except.bind_eq_ok_iff.1 hy
  obtain rfl := Except.ok.inj heq
  refine ⟨rfl, rfl, rfl, ?_, haccept, hartifacts⟩
  unfold Model.service at hservice
  split at hservice
  · rename_i t hfound
    cases hservice
    exact List.mem_of_find?_eq_some (Option.filter_eq_some_iff.1 hfound).1
  · cases hservice

/-- A service is compiled when all steps go well. -/
theorem compile_eq_ok {service : Shape} {y : Symbols} {p : Protocol} {artifacts : List Artifact}
    (hservice : m.service settings.service = .ok service)
    (hy : Symbols.ofModel m service (.server settings.codegen.publicConstrainedTypes)
      settings.codegen.ignoreUnsupportedConstraints = .ok y)
    (hp : registry.resolve service settings.codegen.protocol = .ok p)
    (hartifacts : collect (y.artifact p) (m.structuresFrom service) = .ok artifacts) :
    compile m settings registry = .ok ⟨y, settings, p, artifacts⟩ := by
  simp only [compile, Except.bind_eq_ok_iff, Except.pure_eq_ok_iff]
  exact ⟨service, hservice, y, hy, p, hp, artifacts, hartifacts, rfl⟩

/-- Structures that a walk comes to in order are not moved. -/
theorem Model.structuresFrom_eq {service : Shape} {shapes : List Shape}
    (hwalk : ((m.walk service).filter fun s => s.isStruct && decide (s.id ≠ unitId)) = shapes)
    (hsorted : shapes.Pairwise fun a b => a.id.compare b.id != .gt) :
    m.structuresFrom service = shapes := by
  rw [structuresFrom, hwalk, sortedById]
  exact List.mergeSort_of_pairwise hsorted

/-- A compilation is of the model, and its artifacts are those of structures of the model. -/
theorem of_compile (h : compile m settings registry = .ok c) : c.symbols.model = m ∧
    m.accept c.symbols.service settings.codegen.ignoreUnsupportedConstraints = .ok () ∧
    ∀ a ∈ c.artifacts, ∃ s ∈ m.shapes, c.symbols.artifact c.protocol s = .ok a := by
  have hc := compilation_of_compile h
  refine ⟨hc.model, hc.accepted, fun a ha => ?_⟩
  obtain ⟨s, hs, hartifact⟩ := exists_of_mem_collect hc.artifacts ha
  exact ⟨s, Model.mem_of_mem_walk hc.service (Model.mem_structuresFrom_iff.1 hs).1, hartifact⟩

/-! ### A time with a length -/

/-- The only service of the model below. -/
def clockService : Shape :=
  ⟨⟨"a", "Clock", none⟩, .service "1" [⟨"a", "Read", none⟩],
    [("aws.protocols#restJson1", .other (.obj []))]⟩

/-- A structure with one member, a time. -/
def tickShape : Shape := ⟨⟨"a", "Tick", none⟩, .struct [⟨"a", "Tick", some "at"⟩], []⟩

/-- A model with a time that must have length zero, although times have no length. -/
def Model.clock : Model := ⟨[clockService,
  ⟨⟨"a", "Moment", none⟩, .simple .timestamp, [(Trait.lengthId, .length ⟨none, some 0⟩)]⟩,
  ⟨⟨"a", "Read", none⟩, .operation (some tickShape.id) none [], []⟩, tickShape,
  ⟨⟨"a", "Tick", some "at"⟩, .member ⟨"a", "Moment", none⟩, []⟩] ++ bare.shapes⟩

/-- The document of that model. -/
def clockSource : String := "[\"2\",\x7b" ++
  "\"a#Clock\":[\"service\",\"1\",[[\"a#Read\"]],\x7b\"aws.protocols#restJson1\":\x7b\x7d\x7d]," ++
  "\"a#Read\":[\"operation\",[\"a#Tick\"]]," ++
  "\"a#Tick\":[\"structure\",\x7b\"at\":[\"a#Moment\"]\x7d]," ++
  "\"a#Moment\":[\"timestamp\",\x7b\"smithy.api#length\":[null,0]\x7d]\x7d]"

theorem Model.assembled_clock : clock.Assembled := by
  refine assembled_of_list clockSource (by
    delta clockSource
    repeat rw [String.toList_append]
    repeat rw [String.toList_ofList]
    rfl) ?_ (by decide)
  decide +kernel

/-- Settings that tolerate constraints where they measure nothing. -/
def clockSettings : Settings :=
  { Settings.blank with
    service := clockService.id
    codegen := { Options.standard with ignoreUnsupportedConstraints := true } }

/-- The symbols of the model. -/
def Symbols.clock : Symbols := ⟨.clock, clockService, .server true, [(tickShape.id, .input)]⟩

/-- The protocol of the service. -/
def clockProtocol : Protocol :=
  Registry.protocol "aws.protocols" "restJson1" .httpBinding "application/json" Registry.errorHeader

/-- A time that is given as a text. -/
def textTime : List (String × Json) := [("at", .str "x")]

/-- The compilation has one artifact. It has no type of violations, and its builder reports that the
text is too long. -/
theorem exists_compile_clock : ∃ a, Symbols.clock.artifact clockProtocol tickShape = .ok a ∧
    compile .clock clockSettings .standard =
      .ok ⟨.clock, clockSettings, clockProtocol, [a]⟩ ∧ a.violation = none ∧
    a.build ⟨.clock, []⟩ textTime =
      .error (.violations [⟨"/at", .length 1 ⟨none, some 0⟩⟩]) := by
  have hservice : Model.clock.service clockSettings.service = .ok clockService := by decide
  have hshapes : Model.clock.structuresFrom clockService = [tickShape] :=
    Model.structuresFrom_eq (by decide) (by decide)
  have hartifact : (Symbols.clock.artifact clockProtocol tickShape).map
      (fun a => (a.violation, a.build ⟨.clock, []⟩ textTime)) =
        .ok (none, .error (.violations [⟨"/at", .length 1 ⟨none, some 0⟩⟩])) := by decide
  obtain ⟨a, ha, hpair⟩ := Except.map_eq_ok_iff.1 hartifact
  obtain ⟨hnone, hbuild⟩ := Prod.mk.inj hpair
  refine ⟨a, ha, compile_eq_ok hservice ?_ ?_ ?_, hnone, hbuild⟩
  · exact Symbols.ofModel_eq_ok (by decide) (by decide)
  · decide
  · rw [hshapes]
    exact collect_eq_ok_iff.2 (.cons ha .nil)

/-! ### Builds -/

/-- A structure without a type of violations is built without one, and its builder reports
violations when there are no misfits and a part breaks a check that is not made for its kind of
shape. Without tolerance for such checks it never does. -/
theorem Artifact.build_of_infallible {m : Model} (hm : m.Assembled) {settings : Settings}
    {registry : Registry} {c : Compilation} (hc : compile m settings registry = .ok c)
    {v : Validator} (hv : Validator.ofModel m = .ok v) {a : Artifact} (ha : a ∈ c.artifacts)
    {s : Shape} (hs : m.find? a.shape = some s) :
    (a.violation = none ↔ a.builder.build.error = none) ∧
    (a.violation = none → ∀ given, (Json.obj given).Distinct →
      ((∃ vs, a.build v given = .error (.violations vs)) ↔
        (∀ cause, a.build v given ≠ .error (.misfit cause)) ∧
          m.BreaksForeign ⟨s, .obj given, ""⟩) ∧
      (settings.codegen.ignoreUnsupportedConstraints = false →
        ∀ vs, a.build v given ≠ .error (.violations vs))) := by
  obtain ⟨rfl, hcompiled⟩ := Validator.of_ofModel hv
  obtain ⟨hmodel, haccept, hartifacts⟩ := of_compile hc
  obtain ⟨t, ht, hartifact⟩ := hartifacts a ha
  have hm := Model.sound_of_assembled hm
  obtain ⟨hshape, herror⟩ := Symbols.error_of_artifact hartifact
  obtain rfl : t = s := by
    rw [hshape, hm.find?_id ht] at hs
    exact Option.some.inj hs
  obtain ⟨hstruct, hfields, hviolation⟩ := Symbols.of_artifact hartifact
  rw [hmodel] at hfields
  refine ⟨by rw [herror, Option.map_eq_none_iff], fun hnone given hd => ?_⟩
  have hr := (Symbols.violationType_none_iff hviolation).1 hnone
  rw [hmodel] at hr
  have hiff := violations_of_build_iff hm ht hstruct hfields hd hcompiled
  rw [Model.exists_failing_below_iff hm ht (Shape.isMember_of_holder (.inl hstruct)) hr] at hiff
  refine ⟨hiff, fun hstrict vs hvs => ?_⟩
  rw [hstrict] at haccept
  exact Model.not_breaksForeign hm haccept ht (hiff.1 ⟨vs, hvs⟩).2

theorem Artifact.build_of_infallible_clock : ∃ c a, compile .clock clockSettings .standard = .ok c ∧
    a ∈ c.artifacts ∧ a.violation = none ∧ a.builder.build.error = none ∧
    Model.clock.BreaksForeign ⟨tickShape, .obj textTime, ""⟩ := by
  obtain ⟨a, ha, hcompile, hnone, hbuild⟩ := exists_compile_clock
  have hmem : a ∈ [a] := List.mem_singleton_self a
  have hv : Validator.ofModel .clock = .ok ⟨.clock, []⟩ :=
    Validator.ofModel_of_pattern_eq_none (by decide)
  have hs : Model.clock.find? a.shape = some tickShape := by
    rw [(Symbols.error_of_artifact ha).1]
    decide
  obtain ⟨hdeclared, hreports⟩ := build_of_infallible Model.assembled_clock hcompile hv hmem hs
  obtain ⟨hiff, -⟩ := hreports hnone textTime (by decide)
  exact ⟨_, a, hcompile, hmem, hnone, hdeclared.1 hnone, (hiff.1 ⟨_, hbuild⟩).2⟩

/-- A builder without a type of violations can report one, when constraints are tolerated. -/
theorem exists_violations_of_infallible : ∃ m settings registry c v a given vs,
    m.Assembled ∧ compile m settings registry = .ok c ∧ Validator.ofModel m = .ok v ∧
      a ∈ c.artifacts ∧ a.violation = none ∧ a.builder.build.error = none ∧
      (Json.obj given).Distinct ∧ a.build v given = .error (.violations vs) := by
  obtain ⟨a, ha, hcompile, hnone, hbuild⟩ := exists_compile_clock
  have hv : Validator.ofModel .clock = .ok ⟨.clock, []⟩ :=
    Validator.ofModel_of_pattern_eq_none (by decide)
  have herror : a.builder.build.error = none := by
    rw [(Symbols.error_of_artifact ha).2, hnone, Option.map_none]
  exact ⟨.clock, clockSettings, .standard, _, _, a, _, _, Model.assembled_clock, hcompile, hv,
    List.mem_singleton_self a, hnone, herror, by decide, hbuild⟩

end Shapesmith
