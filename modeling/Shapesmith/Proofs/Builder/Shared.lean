import Shapesmith.Proofs.Builder.Coverage
import Shapesmith.Proofs.Builder.Modes
import Shapesmith.Proofs.Symbol.Shared

/-!
# Compilations see only what the service leads to

Generation asks the whole model: for the structures and unions that have a member, for the owner of
a member, for the exception that reports violations. The answers for what the service leads to are
the same in all models that have it in common, and so are the compilations.

* `Model.Shares.concur_artifact` : artifacts of structures that models have in common;
* `compile_shared` : compilations of models that have all in common that the service leads to.
-/

namespace Shapesmith

open Relation

namespace Model.Shares

open Symbols

variable {y : Symbols} {n : Model} {root s c e : Shape} {p : Protocol}

/-- A structure is seen under its name, whether or not it is in a part. -/
theorem concur_surface_of_isStruct (hs : s.isStruct = true) :
    Except.Concur (y.surface s) ((y.onto n).surface s) := by
  intro symbol symbol' hsymbol hsymbol'
  rw [surface_of_struct hs hsymbol, surface_of_struct hs hsymbol', declared_onto]

variable (h : y.model.Shares n root)

include h

theorem concur_structField (he : Owned y.model root e) :
    Except.Concur (y.structField e) ((y.onto n).structField e) :=
  (concur_surface h he).bind fun _ => Except.concur_refl _

theorem concur_validation (hs : Owned y.model root s) :
    Except.Concur (y.validation s) ((y.onto n).validation s) := by
  rw [validation, validation, model_onto, h.reachesConstrained_eq (hs.mem_walk h)]
  split
  · exact (concur_constrained h hs).bind fun _ =>
      (concur_surface h hs).bind fun _ => Except.concur_refl _
  · exact Except.concur_refl _

theorem concur_builderField (he : Owned y.model root e) :
    Except.Concur (y.builderField e) ((y.onto n).builderField e) := by
  have hwalk := he.mem_walk h
  rw [builderField, builderField, model_onto, (h.targetOf_eq hwalk).1]
  exact (concur_surface h he).bind fun _ => (concur_unconstrained h he).bind fun _ =>
    (concur_validation h (owned_targetOf h hwalk)).bind fun _ => Except.concur_refl _

variable (hreports : p.ReportsIn y.model)
  (hfound : n.find? p.validationException = y.model.find? p.validationException)

include hreports hfound

theorem concur_violationType (hs : s ∈ y.model.walk root) :
    Except.Concur (y.violationType p s) ((y.onto n).violationType p s) := by
  have hexception : Except.Concur (y.exceptionText p.validationException)
      ((y.onto n).exceptionText p.validationException) := by
    rw [exceptionText, exceptionText, model_onto, hfound]
    split
    · exact (concur_surface_of_isStruct (hreports _ ‹_›)).map _
    · exact Except.concur_refl _
  rw [violationType, violationType, model_onto, h.reachesConstrained_eq hs]
  split
  · exact (concur_violation h hs).bind fun _ => (concur_variants h hs).bind fun _ =>
      hexception.bind fun _ => Except.concur_refl _
  · exact Except.concur_refl _

/-- Artifacts of a structure that models have in common are the same. -/
theorem concur_artifact (hs : s ∈ y.model.walk root) :
    Except.Concur (y.artifact p s) ((y.onto n).artifact p s) := by
  rw [artifact, artifact, model_onto, h.membersOf_eq hs]
  split
  · rename_i hstruct
    refine (concur_surface_of_isStruct hstruct).bind fun symbol => ?_
    refine (concur_collect fun e he => concur_structField h (.part hs he)).bind fun fields => ?_
    refine (concur_violationType h hreports hfound hs).bind fun violation => ?_
    exact (concur_collect fun e he => concur_builderField h (.part hs he)).bind fun _ =>
      Except.concur_refl _
  · exact Except.concur_refl _

end Model.Shares

/-! ### Compilations -/

namespace Model.Shares

variable {y : Symbols} {n : Model} {root : Shape} {p : Protocol}

theorem structuresFrom_eq {m : Model} (h : m.Shares n root) :
    n.structuresFrom root = m.structuresFrom root := by
  rw [structuresFrom, structuresFrom, h.walk_eq]

/-- The artifacts of the structures that the service leads to are the same, if violations are
reported by the exception of the prelude. -/
theorem concur_artifacts (h : y.model.Shares n root) (hm : y.model.Assembled) (hn : n.Assembled)
    (hp : p.validationException = validationExceptionId) :
    Except.Concur (collect (y.artifact p) (y.model.structuresFrom root))
      (collect ((y.onto n).artifact p) (n.structuresFrom root)) := by
  have hfound : n.find? p.validationException = y.model.find? p.validationException := by
    rw [hp, find?_validationException hn, find?_validationException hm]
  rw [h.structuresFrom_eq]
  refine concur_collect fun s hs => ?_
  have hreports := Protocol.reportsIn_of_prelude hm hp
  exact h.concur_artifact hreports hfound (mem_structuresFrom_iff.1 hs).1

/-- The compilations of models that have in common what the service leads to are the same, but for
the models. -/
theorem compile_eq {m : Model} {settings : Settings} {registry : Registry} {service : Shape}
    {c d : Compilation} (h : m.Shares n service) (hm : m.Assembled) (hn : n.Assembled)
    (hregistry : registry.ReportsByPrelude) (hfound : m.find? settings.service = some service)
    (hfound' : n.find? settings.service = some service)
    (hc : compile m settings registry = .ok c) (hd : compile n settings registry = .ok d) :
    d = { c with symbols := c.symbols.onto n } := by
  have hcof := compilation_of_compile hc
  have hdof := compilation_of_compile hd
  obtain ⟨hservice, hp, hy⟩ := found_of_compile hc
  obtain ⟨hservice', hp', hy'⟩ := found_of_compile hd
  obtain ⟨y, under, p, artifacts⟩ := c
  obtain ⟨y', under', p', artifacts'⟩ := d
  dsimp only at hservice hp hy hservice' hp' hy'
  obtain rfl : service = y.service :=
    Option.some.inj (hfound.symm.trans (service_eq_ok_iff.1 hservice).1)
  -- both are of one service, so that their symbols differ in the model only
  have hsame : y.service = y'.service :=
    Option.some.inj (hfound'.symm.trans (service_eq_ok_iff.1 hservice').1)
  rw [← hsame, h.walk_eq] at hy'
  obtain rfl : y' = y.onto n := hy'.trans (by rw [hy]; rfl)
  obtain rfl : p' = p := Except.ok.inj (hp'.symm.trans hp)
  obtain rfl : under' = under := hdof.under.trans hcof.under.symm
  obtain rfl : y.model = m := hcof.model
  obtain ⟨e, he, rfl⟩ := Registry.exists_of_resolve hp
  obtain rfl : artifacts' = artifacts :=
    h.concur_artifacts hm hn (hregistry e he) _ _ hcof.artifacts hdof.artifacts
  rfl

end Model.Shares

/-- What comes of compiling a service depends on what the service leads to, and on nothing else in
the model, if violations are reported by the exception of the prelude. -/
theorem compile_shared {sources sources' : List String} {m n : Model}
    (hm : Model.assemble sources = .ok m) (hn : Model.assemble sources' = .ok n)
    (hdocs : ∀ source ∈ sources ++ sources', ∀ d, Document.ofText source = .ok d →
      d.DeclaresShapes)
    (hdirect : ∀ e ∈ m.shapes, (m.targetOf e).isMember = false)
    (hdirect' : ∀ e ∈ n.shapes, (n.targetOf e).isMember = false)
    {settings : Settings} {service : Shape}
    (hfound : m.find? settings.service = some service)
    (hfound' : n.find? settings.service = some service)
    (hsame : ∀ s, ReflTransGen m.Refers service s ↔ ReflTransGen n.Refers service s) :
    (∀ registry : Registry, registry.ReportsByPrelude → ∀ c d,
      compile m settings registry = .ok c → compile n settings registry = .ok d →
        d = { c with symbols := c.symbols.onto n } ∧ d.toJson = c.toJson) ∧
    Registry.standard.ReportsByPrelude := by
  refine ⟨fun registry hregistry c d hc hd => ?_, Registry.reportsByPrelude_standard⟩
  have hshares : m.Shares n service := {
    sound := Model.sound_of_assembled ⟨_, hm⟩
    sound' := Model.sound_of_assembled ⟨_, hn⟩
    paired := Model.paired_of_assemble hm fun source hs => hdocs source (List.mem_append_left _ hs)
    paired' :=
      Model.paired_of_assemble hn fun source hs => hdocs source (List.mem_append_right _ hs)
    direct := hdirect
    direct' := hdirect'
    starts := List.mem_of_find?_eq_some hfound
    starts' := List.mem_of_find?_eq_some hfound'
    same := hsame }
  obtain rfl := hshares.compile_eq ⟨_, hm⟩ ⟨_, hn⟩ hregistry hfound hfound' hc hd
  exact ⟨rfl, rfl⟩

/-! ### A shelf beside the depot -/

/-- A structure that nothing leads to, with a crate. -/
def shelfShape : Shape :=
  ⟨⟨"a", "Shelf", none⟩, .struct [⟨"a", "Shelf", some "crate"⟩], []⟩

/-- A document that declares it. -/
def shelfSource : String :=
  "[\"2\",\x7b\"a#Shelf\":[\"structure\",\x7b\"crate\":[\"a#Crate\"]\x7d]\x7d]"

/-- The model of the depot and the shelf. -/
def Model.shelved : Model := ⟨depot.shapes.take 7 ++
  [shelfShape, plainMember "Shelf" "crate" crateShape.id] ++ depot.shapes.drop 7⟩

/-- The shelf changes nothing for the depot. -/
theorem compile_shared_depot : shelfShape ∈ Model.shelved.shapes ∧
    ∃ c d, compile .depot depotSettings .standard = .ok c ∧
      compile .shelved depotSettings .standard = .ok d ∧ d.toJson = c.toJson := by
  have hdepot : Document.ofText depotSource = Document.readList (Json.depthLimit - 1) _ :=
    Document.ofText_list (by
      delta depotSource
      repeat rw [String.toList_append]
      repeat rw [String.toList_ofList]
      rfl)
  have hshelf : Document.ofText shelfSource = Document.readList (Json.depthLimit - 1) _ :=
    Document.ofText_list (by
      delta shelfSource
      rw [String.toList_ofList])
  have hm : Model.assemble [depotSource] = .ok .depot := by
    refine Model.assemble_of_ofText ?_ (by decide)
    rw [hdepot]
    decide +kernel
  have hn : Model.assemble [depotSource, shelfSource] = .ok .shelved := by
    refine Model.assemble_of_addSources ?_ (by decide)
    simp only [Model.addSources, hdepot, hshelf]
    decide +kernel
  have hdocs : ∀ source ∈ [depotSource] ++ [depotSource, shelfSource],
      ∀ d, Document.ofText source = .ok d → d.DeclaresShapes := by
    have hdecide : ∀ source ∈ [depotSource] ++ [depotSource, shelfSource],
        (Document.ofText source).map (fun d => decide d.DeclaresShapes) = .ok true := by
      simp only [List.cons_append, List.nil_append, List.forall_mem_cons, hdepot, hshelf]
      decide +kernel
    intro source hs d hd
    have hdeclares := hdecide source hs
    rw [hd] at hdeclares
    exact of_decide_eq_true (Except.ok.inj hdeclares)
  have hsound := Model.sound_of_assembled ⟨_, hm⟩
  have hsound' := Model.sound_of_assembled ⟨_, hn⟩
  have hsame : ∀ s, ReflTransGen Model.depot.Refers depotService s ↔
      ReflTransGen Model.shelved.Refers depotService s := by
    intro s
    rw [← hsound.mem_walk_iff (by decide), ← hsound'.mem_walk_iff (by decide)]
    have hwalk : Model.shelved.walk depotService = Model.depot.walk depotService := by decide
    rw [hwalk]
  obtain ⟨crateArtifact, lidArtifact, hc, -⟩ := exists_compile_depot
  have htypes : ∀ s ∈ Model.shelved.shapes, Model.shelved.HasType s := by
    have hplain : ∀ s ∈ Model.shelved.shapes,
        ((Symbols.depot.onto .shelved).plainAt Symbols.depot.depth s).isSome = true := by decide
    exact fun s hs => Symbols.hasType_of_plainAt hsound' hs (hplain s hs)
  have hservice : Model.shelved.service depotSettings.service = .ok depotService := by decide
  have hprotocol : Registry.standard.resolve depotService depotSettings.codegen.protocol =
      .ok clockProtocol := by decide
  obtain ⟨d, hd⟩ := exists_compile hsound' htypes hservice (by decide) hprotocol
  have hfound : Model.depot.find? depotSettings.service = some depotService := by decide
  have hfound' : Model.shelved.find? depotSettings.service = some depotService := by decide
  obtain ⟨hshared, hstandard⟩ :=
    compile_shared hm hn hdocs (by decide) (by decide) hfound hfound' hsame
  exact ⟨by decide, _, d, hc, hd, (hshared .standard hstandard _ d hc hd).2⟩

end Shapesmith
