import Shapesmith.Proofs.Builder.Build
import Shapesmith.Proofs.Evaluation.Report

/-!
# What a build reports

A build that is not refused reports the failing checks of the values that it collects: those below
the structure, and not those of the structure itself.

* `Model.failing_below_iff` : the failing checks below a value;
* `Artifact.mem_violations_iff` : the violations that a build has collected are theirs;
* `Artifact.violations_of_build_iff` : a build reports violations when nothing is a misfit and some
  check fails below the structure.
-/

namespace Shapesmith

/-- A check fails below a value when it fails at a part, or is for a member that is missing. -/
theorem Model.failing_below_iff {m : Model} {p : Spot} {x : Site} :
    (m.Failing p x ∧ x.trail ≠ []) ↔
      (∃ i e, m.Missing p i e ∧
        x = ⟨[.member i], 0, ⟨pointer p.path e.memberName, .missingRequired⟩⟩) ∨
      ∃ step q y, m.Part p step q ∧ m.Failing q y ∧ x = y.below step := by
  rw [failing_iff]
  constructor
  · rintro ⟨⟨k, c, breach, -, -, rfl⟩ | hmissing | hpart, hne⟩
    · exact absurd rfl hne
    · exact .inl hmissing
    · exact .inr hpart
  · rintro (⟨i, e, he, rfl⟩ | ⟨step, q, y, hpart, hy, rfl⟩)
    · exact ⟨.inr (.inl ⟨i, e, he, rfl⟩), List.cons_ne_nil _ _⟩
    · exact ⟨.inr (.inr ⟨step, q, y, hpart, hy, rfl⟩), List.cons_ne_nil _ _⟩

/-- A structure with a member that has to be given is constrained. -/
theorem Model.Missing.isConstrained {m : Model} {p : Spot} {i : Nat} {e : Shape}
    (h : m.Missing p i e) : m.isConstrained p.shape = true := by
  obtain ⟨ids, hk⟩ := Shape.isStruct_iff.1 h.struct
  rw [Model.isConstrained, targetOf_of_holder (.inl h.struct)]
  simp only [hk]
  exact List.any_eq_true.2 ⟨e, List.mem_of_getElem? h.member, h.needed⟩

namespace Artifact

variable {v : Validator} {a : Artifact} {given : List (String × Json)} {s : Shape}

section Collected

variable (hm : v.model.Sound) (hs : s ∈ v.model.shapes) (hstruct : s.isStruct = true)
  (hf : List.Forall₂ (fun e f => f.Collects v.model e) (v.model.membersOf s) a.builder.fields)
  (hd : (Json.obj given).Distinct)
include hm hs hstruct hf hd

/-- Where all values fit, the violations that are collected are the failing checks below the
structure. -/
theorem mem_violations_iff (hc : Validator.Compiled v.patterns)
    (hok : (collect v given a.builder.fields).forget.outcome = .ok ()) {x : Violation} :
    x ∈ (collect v given a.builder.fields).violations ↔
      ∃ site, (v.model.Failing ⟨s, .obj given, ""⟩ site ∧ site.trail ≠ []) ∧
        site.violation = x := by
  have hp : Spot.Proper v.model ⟨s, .obj given, ""⟩ := ⟨hs, hd⟩
  rw [← Verdict.forget_violations]
  rw [forget_collect hm hstruct hf] at hok ⊢
  rw [Verdict.forM_violations hok, List.mem_flatMap]
  simp only [Model.failing_below_iff]
  -- a slot is a part or a missing member
  have hpart {step : Spot.Step} {q : Spot} (hslot : Slot.part step q ∈
      v.model.slots ⟨s, .obj given, ""⟩) : x ∈ (v.holdFully q).violations ↔
        ∃ y, v.model.Failing q y ∧ y.violation = x := by
    have hq := hp.part hm ((Model.part_mem_slots_iff hm hs hd).1 hslot)
    have hokq := Verdict.forM_outcome_iff.1 hok _ hslot
    rw [Validator.holdFully, Validator.violations_eq_sitesWithin hm hc hq hokq, List.mem_map]
    simp only [Validator.mem_sitesWithin_iff hm hq hokq]
  constructor
  · rintro ⟨slot, hslot, hx⟩
    cases slot with
    | part step q =>
      obtain ⟨y, hy, rfl⟩ := (hpart hslot).1 hx
      have hstep := (Model.part_mem_slots_iff hm hs hd).1 hslot
      exact ⟨y.below step, .inr ⟨step, q, y, hstep, hy, rfl⟩, rfl⟩
    | missing step path =>
      obtain ⟨i, e, rfl, rfl, he⟩ := (Model.missing_mem_slots_iff hd).1 hslot
      obtain rfl := List.mem_singleton.1 hx
      exact ⟨_, .inl ⟨i, e, he, rfl⟩, rfl⟩
  · rintro ⟨site, ⟨i, e, he, rfl⟩ | ⟨step, q, y, hstep, hy, rfl⟩, rfl⟩
    · exact ⟨_, (Model.missing_mem_slots_iff hd).2 ⟨i, e, rfl, rfl, he⟩,
        List.mem_singleton_self _⟩
    · have hslot := (Model.part_mem_slots_iff hm hs hd).2 hstep
      exact ⟨_, hslot, (hpart hslot).2 ⟨y, hy, rfl⟩⟩

/-- A build reports violations when nothing is a misfit and a check fails below the structure. -/
theorem violations_of_build_iff (hc : Validator.Compiled v.patterns) :
    (∃ vs, a.build v given = .error (.violations vs)) ↔
      (∀ cause, a.build v given ≠ .error (.misfit cause)) ∧
        ∃ site, v.model.Failing ⟨s, .obj given, ""⟩ site ∧ site.trail ≠ [] := by
  constructor
  · rintro ⟨vs, h⟩
    obtain ⟨hok, hvs, hne⟩ := of_build_violations h
    obtain ⟨x, hx⟩ := List.exists_mem_of_ne_nil vs hne
    rw [← hvs, Verdict.forget_violations] at hx
    obtain ⟨site, hsite, -⟩ := (mem_violations_iff hm hs hstruct hf hd hc hok).1 hx
    refine ⟨fun cause hcause => ?_, site, hsite⟩
    rw [h] at hcause
    cases hcause
  · rintro ⟨hno, site, hsite⟩
    have hmem := mem_violations_iff hm hs hstruct hf hd hc (x := site.violation)
    unfold build at hno ⊢
    split at hno
    · exact absurd rfl (hno _)
    · dsimp only at hno ⊢
      split at hno
      · exact absurd rfl (hno _)
      · rename_i built ho hnil
        -- a value comes out only without violations, but there is the failing check
        have hx := (hmem (Verdict.forget_outcome_eq_ok_iff.2 ⟨built, ho⟩)).2 ⟨site, hsite, rfl⟩
        rw [hnil] at hx
        cases hx
      · exact ⟨_, rfl⟩

end Collected

/-- Each violation that a build reports is a failing check below the structure. -/
theorem exists_failing_of_build {m : Model} (hm : m.Sound) (hv : Validator.ofModel m = .ok v)
    (hs : s ∈ m.shapes) (hstruct : s.isStruct = true)
    (hf : List.Forall₂ (fun e f => f.Collects m e) (m.membersOf s) a.builder.fields)
    (hd : (Json.obj given).Distinct) {vs : Violations}
    (h : a.build v given = .error (.violations vs)) {x : Violation} (hx : x ∈ vs) :
    ∃ site, m.Failing ⟨s, .obj given, ""⟩ site ∧ site.violation = x := by
  obtain ⟨rfl, hc⟩ := Validator.of_ofModel hv
  obtain ⟨hok, hvs, -⟩ := of_build_violations h
  rw [← hvs, Verdict.forget_violations] at hx
  obtain ⟨site, ⟨hsite, -⟩, heq⟩ := (mem_violations_iff hm hs hstruct hf hd hc hok).1 hx
  exact ⟨site, hsite, heq⟩

end Artifact

end Shapesmith
