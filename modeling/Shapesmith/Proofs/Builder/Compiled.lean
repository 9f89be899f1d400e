import Shapesmith.Proofs.Builder.Infallible
import Shapesmith.Proofs.Constraint.Compiled
import Shapesmith.Proofs.Evaluation.Congruence

/-!
# Evaluations compile no patterns

The checks of an artifact are copied from the shapes of its model when it is made, and a build comes
to other shapes of the model further down. A validator of the model has compiled the patterns of all
of them before.

* `Artifact.Of` : an artifact is generated from a model;
* `Artifact.build_congr` : builds depend on what checks find, like evaluations;
* `Validator.patterns_suffice` : what a validator has compiled is found by every check that is
  evaluated with it, and makes no difference to what is found.
-/

namespace Shapesmith

/-! ### Artifacts of a model -/

/-- The artifact is generated from the model. -/
inductive Artifact.Of (a : Artifact) (m : Model) : Prop
  /-- It is the artifact of a structure. -/
  | single {y : Symbols} {p : Protocol} {s : Shape} (hy : y.model = m) (hs : s ∈ m.shapes)
    (ha : y.artifact p s = .ok a)
  /-- It is one of the artifacts of a compilation. -/
  | compiled {settings : Settings} {registry : Registry} {c : Compilation}
    (hc : compile m settings registry = .ok c) (ha : a ∈ c.artifacts)

/-- The fields of the builder are made from members of the model. -/
theorem Artifact.Of.exists_collects {a : Artifact} {m : Model} (hm : m.Sound) (h : a.Of m)
    {f : BuilderField} (hf : f ∈ a.builder.fields) : ∃ e ∈ m.shapes, f.Collects m e := by
  have hmade {y : Symbols} {p : Protocol} {s : Shape} (hy : y.model = m)
      (ha : y.artifact p s = .ok a) : ∃ e ∈ m.shapes, f.Collects m e := by
    subst hy
    obtain ⟨e, he, hcollects⟩ := Symbols.exists_collects ha hf
    exact ⟨e, (hm.mem_membersOf_iff.1 he).1, hcollects⟩
  cases h with
  | single hy _ ha => exact hmade hy ha
  | compiled hc ha =>
    obtain ⟨hmodel, -, hartifacts⟩ := of_compile hc
    obtain ⟨s, -, hartifact⟩ := hartifacts a ha
    exact hmade hmodel hartifact

/-! ### Builds -/

namespace Artifact

variable {v w : Validator} (hm : v.model.Sound) (h : w.Twin v)
include hm h

theorem collect_congr {fields : List BuilderField}
    (hfields : ∀ f ∈ fields, w.SameChecks v f.checks) (given : List (String × Json)) :
    collect w given fields = collect v given fields := by
  induction fields with
  | nil => rfl
  | cons f fields ih =>
    have hrest := ih fun g hg => hfields g (List.mem_cons_of_mem _ hg)
    rw [collect, collect, h.model, hrest]
    cases ht : v.model.find? f.target with
    | none => rfl
    | some target =>
      have htarget := List.mem_of_find?_eq_some ht
      dsimp only
      rw [Validator.member_congr hm h htarget (hfields f List.mem_cons_self)]

/-- Twins build alike, if the checks of the fields find the same. -/
theorem build_congr {a : Artifact} (hfields : ∀ f ∈ a.builder.fields, w.SameChecks v f.checks)
    (given : List (String × Json)) : a.build w given = a.build v given := by
  rw [build, build, collect_congr hm h hfields]

end Artifact

namespace Validator

variable {m : Model} {v w : Validator}

/-- The checks of an artifact are served by a validator of its model. -/
theorem serves_of_mem_fields (hm : m.Sound) (hv : ofModel m = .ok v) {a : Artifact} (ha : a.Of m)
    {f : BuilderField} (hf : f ∈ a.builder.fields) {c : Check} (hc : c ∈ f.checks) :
    v.Serves c := by
  obtain ⟨e, he, hcollects⟩ := ha.exists_collects hm hf
  rw [hcollects.checks] at hc
  exact serves_of_mem_checks hv (hm.targetOf_mem he) hc

/-- Validators that follow the validator of a model are its twins. -/
theorem Follows.twin (h : w.Follows v) (hv : ofModel m = .ok v) : w.Twin v := by
  obtain ⟨rfl, -⟩ := of_ofModel hv
  exact ⟨h.model, fun s hs c hc => h.evaluate_eq (serves_of_mem_checks hv hs hc)⟩

end Validator

/-! ### A flight -/

/-- A flight has a gate and seats. -/
def flightShape : Shape :=
  ⟨⟨"a", "Flight", none⟩, .struct [⟨"a", "Flight", some "gate"⟩, ⟨"a", "Flight", some "seats"⟩], []⟩

/-- Gates and seats are named by a letter and a digit. -/
def letterDigit : String := "[A-Z][0-9]"

/-- The name of a seat. -/
def seatShape : Shape :=
  ⟨⟨"a", "Seat", none⟩, .simple .string, [(Trait.patternId, .pattern letterDigit)]⟩

/-- A model in which two shapes have the same pattern. -/
def Model.flight : Model := ⟨[flightShape,
  ⟨⟨"a", "Flight", some "gate"⟩, .member ⟨"a", "Gate", none⟩, []⟩,
  ⟨⟨"a", "Flight", some "seats"⟩, .member ⟨"a", "Seats", none⟩, []⟩,
  ⟨⟨"a", "Gate", none⟩, .simple .string, [(Trait.patternId, .pattern letterDigit)]⟩,
  seatShape, ⟨⟨"a", "Seats", none⟩, .list ⟨"a", "Seats", some "member"⟩, []⟩,
  ⟨⟨"a", "Seats", some "member"⟩, .member ⟨"a", "Seat", none⟩, []⟩] ++ bare.shapes⟩

/-- The document of that model. -/
def flightSource : String := "[\"2\",\x7b" ++
  "\"a#Flight\":[\"structure\",\x7b\"gate\":[\"a#Gate\"],\"seats\":[\"a#Seats\"]\x7d]," ++
  "\"a#Gate\":[\"string\",\x7b\"smithy.api#pattern\":\"[A-Z][0-9]\"\x7d]," ++
  "\"a#Seat\":[\"string\",\x7b\"smithy.api#pattern\":\"[A-Z][0-9]\"\x7d]," ++
  "\"a#Seats\":[\"list\",[\"a#Seat\"]]\x7d]"

theorem Model.assembled_flight : flight.Assembled := by
  refine assembled_of_list flightSource (by
    delta flightSource
    repeat rw [String.toList_append]
    repeat rw [String.toList_ofList]
    rfl) ?_ (by decide)
  decide +kernel

/-- The symbols of the model on a server. -/
def Symbols.flight : Symbols := ⟨.flight, Placeholder.service, .server true, []⟩

/-- A flight with a seat that is not named well. -/
def misnamedFlight : List (String × Json) :=
  [("gate", .str "B7"), ("seats", .arr [.str "C3", .str "x"])]

/-- A validator that has nothing but a pattern under a text that is none, and that matches
everything. -/
def Validator.misled : Validator := ⟨.flight, [("(", .empty)]⟩

/-- Both patterns compile. -/
theorem Validator.ofModel_flight : ∃ v, ofModel .flight = .ok v := by
  have hpattern : ∀ s ∈ Model.flight.shapes,
      s.traits.pattern = none ∨ s.traits.pattern = some letterDigit := by
    decide
  have hcompiles : (Pattern.compile letterDigit).isOk = true := by decide +kernel
  refine ofModel_isOk_iff.2 fun s hs p hp => ?_
  rcases hpattern s hs with hnone | hsome
  · rw [hnone] at hp
    cases hp
  · obtain rfl : letterDigit = p := Option.some.inj (hsome.symm.trans hp)
    cases hr : Pattern.compile letterDigit with
    | ok r => exact ⟨r, rfl⟩
    | error fault =>
      rw [hr] at hcompiles
      cases hcompiles

theorem Validator.follows_misled {v : Validator} (hv : ofModel .flight = .ok v) :
    misled.Follows v := by
  refine ⟨(of_ofModel hv).1.symm, fun p r hp => .inr ?_⟩
  obtain ⟨-, hr⟩ := (get?_patterns_iff hv).1 hp
  have hne : "(" ≠ p := by
    rintro rfl
    cases hr
  exact if_neg hne

/-! ### What is compiled -/

/-- A validator of a model has compiled the patterns of its shapes, and nothing else. Each check of a
shape or of an artifact finds its pattern under its text, and finds the same in every value as a
check that compiles it anew. So neither evaluations nor builds ever come to a pattern that is not
compiled: they stay the same with validators that have nothing compiled, and with those that have
anything else under other texts. -/
theorem Validator.patterns_suffice {m : Model} (hm : m.Assembled) {v : Validator}
    (hv : ofModel m = .ok v) :
    (∀ p r, v.patterns.get? p = some r ↔
      (∃ s ∈ m.shapes, s.traits.pattern = some p) ∧ Pattern.compile p = .ok r) ∧
    (∀ s ∈ m.shapes, ∀ c ∈ s.checks, v.Serves c) ∧
    (∀ a : Artifact, a.Of m → ∀ f ∈ a.builder.fields, ∀ c ∈ f.checks, v.Serves c) ∧
    ∀ w : Validator, w.Follows v →
      (∀ s ∈ m.shapes, ∀ value path, w.validate s value path = v.validate s value path) ∧
      ∀ a : Artifact, a.Of m → ∀ given, a.build w given = a.build v given := by
  have hm := Model.sound_of_assembled hm
  have hserves {a : Artifact} (ha : a.Of m) :
      ∀ f ∈ a.builder.fields, ∀ c ∈ f.checks, v.Serves c :=
    fun f hf c hc => serves_of_mem_fields hm hv ha hf hc
  refine ⟨fun p r => get?_patterns_iff hv, fun s hs c hc => serves_of_mem_checks hv hs hc,
    fun a ha => hserves ha, fun w hw => ?_⟩
  have htwin := hw.twin hv
  obtain ⟨rfl, -⟩ := of_ofModel hv
  constructor
  · intro s hs value path
    exact validate_congr hm htwin hs value path
  · intro a ha given
    have hsame : ∀ f ∈ a.builder.fields, w.SameChecks v f.checks :=
      fun f hf c hc => hw.evaluate_eq (hserves ha f hf c hc)
    exact Artifact.build_congr hm htwin hsame given

/-- The seat is found to be misnamed with the pattern that is compiled for gates and seats, and with
validators that have to compile it for each of them. -/
theorem Validator.patterns_suffice_flight : ∃ v a, ofModel .flight = .ok v ∧
    Symbols.flight.artifact Placeholder.protocol flightShape = .ok a ∧
    (∃ r, v.patterns.get? letterDigit = some r ∧ Pattern.compile letterDigit = .ok r) ∧
    a.build v misnamedFlight = .error (.violations [⟨"/seats/1", .pattern "x" letterDigit⟩]) ∧
    a.build ⟨.flight, []⟩ misnamedFlight = a.build v misnamedFlight ∧
    a.build misled misnamedFlight = a.build v misnamedFlight := by
  obtain ⟨v, hv⟩ := ofModel_flight
  have hbuild : (Symbols.flight.artifact Placeholder.protocol flightShape).map
      (fun a => a.build ⟨.flight, []⟩ misnamedFlight) =
        .ok (.error (.violations [⟨"/seats/1", .pattern "x" letterDigit⟩])) := by
    decide +kernel
  obtain ⟨a, ha, hbuild⟩ := Except.map_eq_ok_iff.1 hbuild
  have hof : a.Of .flight := .single rfl (by decide) ha
  obtain ⟨-, hserves, -, hruns⟩ := patterns_suffice Model.assembled_flight hv
  have hseat : v.Serves (.pattern letterDigit) := hserves seatShape (by decide) _ (by decide)
  obtain ⟨-, hbare⟩ := hruns _ (follows_nil (of_ofModel hv).1)
  obtain ⟨-, hmisled⟩ := hruns misled (follows_misled hv)
  have hsame := hbare a hof misnamedFlight
  exact ⟨v, a, hv, ha, hseat.found _ rfl, hsame.symm.trans hbuild, hsame,
    hmisled a hof misnamedFlight⟩

end Shapesmith
