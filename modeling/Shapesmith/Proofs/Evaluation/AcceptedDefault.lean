import Shapesmith.Placeholder
import Shapesmith.Proofs.Constraint.Accepted
import Shapesmith.Proofs.Evaluation.Report

/-!
# Defaults of members in accepted models

A model is accepted when the default of each member passes the checks of its target. An evaluation
asks more of a default: its type, its parts and the members that it must give.

* `Validator.validate_clean_iff` : when an evaluation finds nothing wrong;
* `Model.not_breaks_of_accept` : what acceptance guarantees of a default;
* `Validator.accepted_default_iff` : when an accepted default is a value of its target. For targets
  without parts it is enough that the default has the right type.
-/

namespace Shapesmith

/-- The checks of its target do not fail for an accepted default. -/
theorem Model.not_breaks_of_accept {m : Model} {service : Shape} {tolerant : Bool}
    (h : m.accept service tolerant = .ok ()) {e : Shape} (he : e ∈ m.shapes)
    (hk : e.isMember = true) {d : Json} (hd : e.traits.defaultValue = some d) {c : Check}
    (hc : c ∈ (m.targetOf e).checks) (breach : Breach) : ¬ c.Breaks d breach := by
  obtain ⟨_, -, hrest⟩ := Except.bind_eq_ok_iff.1 h
  obtain ⟨_, hdefaults, -⟩ := Except.bind_eq_ok_iff.1 hrest
  have hdefault := (tryEach_eq_ok_iff _ _).1 hdefaults e (List.mem_filter.2 ⟨he, hk⟩)
  rw [acceptDefault, hd, withTrait] at hdefault
  split at hdefault
  · cases hdefault
  · rename_i hnone
    rw [← Check.evaluate_eq_some_iff, List.findSome?_eq_none_iff.1 hnone c hc]
    exact (Option.some_ne_none breach).symm

namespace Validator

variable {v : Validator} {m : Model}

/-- An evaluation gives a value and no violations when it ends, everything fits and no check
fails. -/
theorem validate_clean_iff (hm : m.Sound) (hv : ofModel m = .ok v) {s : Shape} (hs : s ∈ m.shapes)
    {value : Json} (hd : value.Distinct) (path : String) :
    (∃ built, v.validate s value path = ⟨[], .ok built⟩) ↔
      v.Ends s value path ∧ (∀ cause, ¬ m.Misfitting (m.spot s value path) cause) ∧
        ¬ ∃ site, m.Failing (m.spot s value path) site := by
  obtain ⟨rfl, hc⟩ := of_ofModel hv
  have hp := proper_spot hm hs hd path
  -- where the evaluation goes well, its violations are the failing checks
  have hgood {built : Json} (ho : (v.validate s value path).outcome = .ok built) :
      (∀ cause, ¬ v.model.Misfitting (v.model.spot s value path) cause) ∧
        ((v.validate s value path).violations = [] ↔
          ¬ ∃ site, v.model.Failing (v.model.spot s value path) site) := by
    have hhold := Verdict.forget_outcome_eq_ok_iff.2 ⟨built, ho⟩
    rw [forget_validate] at hhold
    refine ⟨not_misfitting_of_ok hm hp hhold, ?_⟩
    rw [← Verdict.forget_violations, forget_validate, violations_eq_sitesWithin hm hc hp hhold,
      List.map_eq_nil_iff, List.eq_nil_iff_forall_not_mem]
    simp only [mem_sitesWithin_iff hm hp hhold, not_exists]
  constructor
  · rintro ⟨built, h⟩
    have ho : (v.validate s value path).outcome = .ok built := by rw [h]
    obtain ⟨hfit, hclean⟩ := hgood ho
    refine ⟨(ends_iff hm hs hd).2 ?_, hfit, hclean.1 (by rw [h])⟩
    simp [ho]
  · rintro ⟨hend, hfit, hno⟩
    cases ho : (v.validate s value path).outcome with
    | error cause =>
      have hhold := Verdict.forget_outcome_eq_error_iff.2 ho
      rw [forget_validate] at hhold
      have hne : cause ≠ .endless := fun heq => (ends_iff hm hs hd).1 hend (heq ▸ ho)
      exact absurd (exists_misfitting_of_error hm hp hhold hne) (hfit cause)
    | ok built =>
      obtain ⟨-, hclean⟩ := hgood ho
      refine ⟨built, ?_⟩
      rw [← ho, ← hclean.2 hno]

section Default

variable {service : Shape} {tolerant : Bool}
  (haccept : v.model.accept service tolerant = .ok ()) {e : Shape} (he : e ∈ v.model.shapes)
  (hk : e.isMember = true) {d : Json} (hd : e.traits.defaultValue = some d) (path : String)
include haccept he hk hd

/-- No check fails for an accepted default itself, but for its parts, or if the target is a member
in turn. -/
theorem exists_failing_default_iff :
    (∃ site, v.model.Failing (v.model.spot (v.model.targetOf e) d path) site) ↔
      ∃ site, v.model.Failing (v.model.spot (v.model.targetOf e) d path) site ∧
        (site.trail ≠ [] ∨ (v.model.targetOf e).isMember = true) := by
  refine ⟨fun ⟨site, hsite⟩ => ⟨site, hsite, ?_⟩, fun ⟨site, hsite, _⟩ => ⟨site, hsite⟩⟩
  by_contra hn
  rw [not_or, not_not, Bool.not_eq_true] at hn
  obtain ⟨htop, hdirect⟩ := hn
  rw [Model.failing_iff, Model.spot, Model.targetOf_of_not_isMember hdirect] at hsite
  obtain ⟨k, c, breach, hc, hb, rfl⟩ | ⟨i, e', -, rfl⟩ | ⟨step, q, y, -, -, rfl⟩ := hsite
  · exact Model.not_breaks_of_accept haccept he hk hd (List.mem_of_getElem? hc) breach hb
  · cases htop
  · cases htop

/-- An accepted default of a target without parts is a value of the target if it has the right
type. -/
theorem validate_simple_default_iff (hc : Compiled v.patterns) {t : Simple}
    (ht : (v.model.targetOf e).kind = .simple t) :
    v.validate (v.model.targetOf e) d path = ⟨[], .ok d⟩ ↔ (Kind.simple t).Accepts d := by
  have hdirect : (v.model.targetOf e).isMember = false := by simp [Shape.isMember, ht]
  have hnone : v.violationsOf (v.model.targetOf e).checks d path = [] := by
    refine List.filterMap_eq_nil_iff.2 fun c hcheck => ?_
    rw [evaluate_compiledOf hc, Option.map_eq_none_iff, Option.eq_none_iff_forall_ne_some]
    intro breach hb
    exact Model.not_breaks_of_accept haccept he hk hd hcheck breach
      (Check.evaluate_eq_some_iff.1 hb)
  have hdescend : v.descend (v.depthBound d) (v.model.targetOf e) d path = .ok d := by
    rw [depthBound]
    simp only [descend, ht]
  rw [validate, Model.targetOf_of_not_isMember hdirect, ← ht]
  by_cases ha : (v.model.targetOf e).kind.Accepts d
  · simp [checkValue_of_accepts ha, hnone, hdescend, ha, Verdict.ok]
  · simp [checkValue_of_not_accepts ha, ha, Verdict.misfit]

end Default

end Validator

/-! ### A box with defaults -/

/-- A member of the structure below with a default. -/
def boxMember (name : String) (target : ShapeId) (default : Json) : Shape :=
  ⟨⟨"a", "Box", some name⟩, .member target, [(Trait.defaultId, .default default)]⟩

/-- A member whose default has the right type and passes the check of its target. -/
def sizeMember : Shape := boxMember "size" ⟨"a", "Size", none⟩ (.num (.int 3))

/-- A member whose default has the wrong type. -/
def labelMember : Shape := boxMember "label" ⟨"smithy.api", "Integer", none⟩ (.str "x")

/-- A member whose default lacks what its target must be given. -/
def partMember : Shape := boxMember "part" ⟨"a", "Part", none⟩ (.obj [])

/-- A model with a structure of these members. -/
def Model.box : Model := ⟨[
  ⟨⟨"a", "Box", none⟩, .struct [sizeMember.id, labelMember.id, partMember.id], []⟩,
  labelMember, partMember, sizeMember,
  ⟨⟨"a", "Part", none⟩, .struct [⟨"a", "Part", some "name"⟩], []⟩,
  ⟨⟨"a", "Part", some "name"⟩, .member Prelude.stringId, Prelude.required⟩,
  ⟨⟨"a", "Size", none⟩, .simple .integer, [(Trait.rangeId, .range ⟨some (.int 0), none⟩)]⟩] ++
    bare.shapes⟩

/-- The document of that model. -/
def boxSource : String := "[\"2\",\x7b" ++
  "\"a#Box\":[\"structure\",\x7b\"size\":[\"a#Size\",\x7b\"smithy.api#default\":3\x7d]," ++
    "\"label\":[\"smithy.api#Integer\",\x7b\"smithy.api#default\":\"x\"\x7d]," ++
    "\"part\":[\"a#Part\",\x7b\"smithy.api#default\":\x7b\x7d\x7d]\x7d]," ++
  "\"a#Part\":[\"structure\",\x7b\"name\":[\"smithy.api#String\"," ++
    "\x7b\"smithy.api#required\":\x7b\x7d\x7d]\x7d]," ++
  "\"a#Size\":[\"integer\",\x7b\"smithy.api#range\":[0]\x7d]\x7d]"

namespace Model

theorem assembled_box : box.Assembled := by
  refine assembled_of_list boxSource (by
    delta boxSource
    repeat rw [String.toList_append]
    repeat rw [String.toList_ofList]
    rfl) ?_ (by decide)
  decide +kernel

theorem accept_box : box.accept Placeholder.service false = .ok () := by decide

end Model

namespace Validator

theorem ofModel_box : ofModel .box = .ok ⟨.box, []⟩ :=
  ofModel_of_pattern_eq_none (by decide)

/-! ### Defaults -/

/-- An accepted default is a value of its target without violations exactly when its evaluation
ends, everything in it fits, and no check fails for a part of it. If the target has no parts, it
is enough that the default has the right type. -/
theorem accepted_default_iff (hm : m.Assembled) {service : Shape} {tolerant : Bool}
    (haccept : m.accept service tolerant = .ok ()) (hv : ofModel m = .ok v) {e : Shape}
    (he : e ∈ m.shapes) (hk : e.isMember = true) {d : Json}
    (hd : e.traits.defaultValue = some d) (path : String) :
    ((∃ built, v.validate (m.targetOf e) d path = ⟨[], .ok built⟩) ↔
      v.Ends (m.targetOf e) d path ∧
        (∀ cause, ¬ m.Misfitting (m.spot (m.targetOf e) d path) cause) ∧
        ¬ ∃ site, m.Failing (m.spot (m.targetOf e) d path) site ∧
          (site.trail ≠ [] ∨ (m.targetOf e).isMember = true)) ∧
    ∀ t, (m.targetOf e).kind = .simple t →
      (v.validate (m.targetOf e) d path = ⟨[], .ok d⟩ ↔ (Kind.simple t).Accepts d) := by
  have hm := Model.sound_of_assembled hm
  have hdistinct := (hm.tidy e he).default d hd
  have hclean := validate_clean_iff hm hv (hm.targetOf_mem he) hdistinct path
  obtain ⟨rfl, hc⟩ := of_ofModel hv
  rw [exists_failing_default_iff haccept he hk hd path] at hclean
  exact ⟨hclean, fun t ht => validate_simple_default_iff haccept he hk hd path hc ht⟩

theorem accepted_default_size : (Kind.simple .integer).Accepts (.num (.int 3)) ∧
    (⟨.box, []⟩ : Validator).validate (Model.box.targetOf sizeMember) (.num (.int 3)) "/size" =
      ⟨[], .ok (.num (.int 3))⟩ := by
  have ha : (Kind.simple .integer).Accepts (.num (.int 3)) := .integer (by decide)
  obtain ⟨-, hsimple⟩ := accepted_default_iff Model.assembled_box Model.accept_box ofModel_box
    (e := sizeMember) (by decide) rfl rfl "/size"
  exact ⟨ha, (hsimple .integer (by decide)).2 ha⟩

/-- A model can be accepted although a default has the wrong type, and another one lacks a member
that its target must be given. -/
theorem exists_invalid_default : ∃ (m : Model) (service : Shape) (v : Validator) (e f : Shape)
    (d g : Json), m.Assembled ∧ m.accept service false = .ok () ∧ ofModel m = .ok v ∧
      e ∈ m.shapes ∧ e.isMember = true ∧ e.traits.defaultValue = some d ∧
      f ∈ m.shapes ∧ f.isMember = true ∧ f.traits.defaultValue = some g ∧
      (v.validate (m.targetOf e) d "").outcome = .error (.wrongType "/" "integer") ∧
      (v.validate (m.targetOf f) g "").violations = [⟨"/name", .missingRequired⟩] := by
  refine ⟨.box, Placeholder.service, ⟨.box, []⟩, labelMember, partMember, .str "x", .obj [],
    Model.assembled_box, Model.accept_box, ofModel_box, by decide, rfl, rfl, by decide, rfl, rfl,
    ?_, ?_⟩
  · decide
  · decide

end Validator

end Shapesmith
