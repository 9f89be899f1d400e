import Shapesmith.Proofs.Evaluation.Bound

/-!
# Reports are sound and complete

What an evaluation reports is exactly what is wrong with a value.

* `Validator.exists_misfitting_of_error` and `Validator.not_misfitting_of_ok` : an evaluation is
  refused when some position does not fit its shape, and only then;
* `Model.sitesWithin` lists the failing checks in the order of an evaluation: it holds all of them
  (`Model.mem_sitesWithin_iff`), each once (`Model.pairwise_sitesWithin`), and the violations of an
  evaluation are theirs (`Validator.violations_eq_sitesWithin`);
* `Validator.validate_reports_exactly` puts both together.
-/

namespace Shapesmith

namespace Model

variable {m : Model}

/-- A value has a position that does not fit when it does not fit itself or a part has one. -/
theorem misfitting_iff {p : Spot} {cause : Misfit} : m.Misfitting p cause ↔
    m.Unfit p cause ∨ ∃ step q, m.Part p step q ∧ m.Misfitting q cause := by
  constructor
  · rintro ⟨trail, r, hpos, hunfit⟩
    cases hpos with
    | here => exact .inl hunfit
    | deeper hpart hrest => exact .inr ⟨_, _, hpart, _, _, hrest, hunfit⟩
  · rintro (hunfit | ⟨step, q, hpart, trail, r, hrest, hunfit⟩)
    · exact ⟨[], p, .here p, hunfit⟩
    · exact ⟨step :: trail, r, .deeper hpart hrest, hunfit⟩

end Model

/-- The site below a step. -/
def Site.below (step : Spot.Step) (x : Site) : Site := { x with trail := step :: x.trail }

namespace Model

variable {m : Model}

/-- The failing checks below a value are its own, its missing members, and those of its parts. -/
theorem failing_iff {p : Spot} {x : Site} : m.Failing p x ↔
    (∃ k c breach, p.shape.checks[k]? = some c ∧ c.Breaks p.value breach ∧
      x = ⟨[], k, ⟨p.path, breach⟩⟩) ∨
    (∃ i e, m.Missing p i e ∧
      x = ⟨[.member i], 0, ⟨pointer p.path e.memberName, .missingRequired⟩⟩) ∨
    ∃ step q y, m.Part p step q ∧ m.Failing q y ∧ x = y.below step := by
  constructor
  · rintro (⟨hpos, hc, hb⟩ | ⟨hpos, he⟩)
    · cases hpos with
      | here => exact .inl ⟨_, _, _, hc, hb, rfl⟩
      | deeper hpart hrest => exact .inr (.inr ⟨_, _, _, hpart, .check hrest hc hb, rfl⟩)
    · cases hpos with
      | here => exact .inr (.inl ⟨_, _, he, rfl⟩)
      | deeper hpart hrest => exact .inr (.inr ⟨_, _, _, hpart, .missing hrest he, rfl⟩)
  · rintro (⟨k, c, breach, hc, hb, rfl⟩ | ⟨i, e, he, rfl⟩ | ⟨step, q, y, hpart, hy, rfl⟩)
    · exact .check (.here p) hc hb
    · exact .missing (.here p) he
    · cases hy with
      | check hpos hc hb => exact .check (.deeper hpart hpos) hc hb
      | missing hpos he => exact .missing (.deeper hpart hpos) he

/-! ### Sites in order -/

/-- The checks of a value itself that fail. -/
def ownSites (p : Spot) : List Site :=
  p.shape.checks.zipIdx.filterMap fun c =>
    (c.1.evaluate none p.value).map fun breach => ⟨[], c.2, ⟨p.path, breach⟩⟩

/-- The failing checks of a slot, from those of its part. -/
def slotSites (part : Spot → List Site) : Slot → List Site
  | .part step q => (part q).map (Site.below step)
  | .missing step path => [⟨[step], 0, ⟨path, .missingRequired⟩⟩]

variable (m)

/-- The failing checks below a value, at most `depth` levels deep, in the order of an evaluation. -/
def sitesWithin : Nat → Spot → List Site
  | 0, _ => []
  | depth + 1, p => ownSites p ++ (m.slots p).flatMap (slotSites (sitesWithin depth))

variable {m}

theorem mem_ownSites_iff {p : Spot} {x : Site} : x ∈ ownSites p ↔
    ∃ k c breach, p.shape.checks[k]? = some c ∧ c.Breaks p.value breach ∧
      x = ⟨[], k, ⟨p.path, breach⟩⟩ := by
  simp only [ownSites, List.mem_filterMap, Option.map_eq_some_iff, Check.evaluate_eq_some_iff]
  constructor
  · rintro ⟨c, hc, breach, hb, rfl⟩
    exact ⟨c.2, c.1, breach, List.mem_zipIdx_iff_getElem?.1 hc, hb, rfl⟩
  · rintro ⟨k, c, breach, hc, hb, rfl⟩
    exact ⟨(c, k), List.mk_mem_zipIdx_iff_getElem?.2 hc, breach, hb, rfl⟩

end Model

namespace Validator

variable {v : Validator} {p q : Spot} {depth : Nat}

theorem hold_zero_ne_ok : (v.hold 0 p).outcome ≠ .ok () := by
  intro h
  by_cases ha : p.shape.kind.Accepts p.value
  · have hn : ¬ (v.hold 0 p).Settled := hold_zero ha
    rw [Verdict.Settled, h] at hn
    exact hn (by simp)
  · rw [hold_of_not_accepts ha] at h
    cases h

theorem refuse_outcome_iff {names : List String} :
    (refuse names).outcome = .ok () ↔ names = [] := by
  cases names <;> simp [refuse, Verdict.misfit]

/-- An evaluation goes well when the type is right, all slots go well and there are no strays. -/
theorem hold_ok_iff (hm : v.model.Sound) (hp : p.Proper v.model) :
    (v.hold (depth + 1) p).outcome = .ok () ↔ p.shape.kind.Accepts p.value ∧
      (∀ slot ∈ v.model.slots p, (meet (v.hold depth) slot).outcome = .ok ()) ∧
      v.model.strays p = [] := by
  by_cases ha : p.shape.kind.Accepts p.value
  · rw [hold_succ (hm.nodup_memberNames hp.shape) hp.value ha, Verdict.bind_ok]
    simp only [Verdict.bind_outcome_eq_ok_iff, Unique.exists_iff, PUnit.default_eq_unit,
      Verdict.forM_outcome_iff, refuse_outcome_iff, ha, true_and]
  · rw [hold_of_not_accepts ha]
    simp [ha, Verdict.misfit]

/-- The report of an evaluation that goes well. -/
theorem hold_violations (hm : v.model.Sound) (hp : p.Proper v.model)
    (h : (v.hold (depth + 1) p).outcome = .ok ()) : (v.hold (depth + 1) p).violations =
      v.violationsOf p.shape.checks p.value p.path ++
        (v.model.slots p).flatMap fun slot => (meet (v.hold depth) slot).violations := by
  obtain ⟨ha, hslots, hstrays⟩ := (hold_ok_iff hm hp).1 h
  have hrow := Verdict.forM_outcome_iff.2 hslots
  rw [hold_succ (hm.nodup_memberNames hp.shape) hp.value ha, Verdict.bind_ok,
    Verdict.bind_violations hrow, Verdict.forM_violations hrow, hstrays]
  simp [refuse]

/-! ### Misfits -/

/-- Where an evaluation goes well, everything fits. -/
theorem not_misfitting_of_ok (hm : v.model.Sound) (hp : p.Proper v.model)
    (h : (v.hold depth p).outcome = .ok ()) (cause : Misfit) : ¬ v.model.Misfitting p cause := by
  induction depth generalizing p with
  | zero => exact absurd h hold_zero_ne_ok
  | succ depth ih =>
    obtain ⟨ha, hslots, hstrays⟩ := (hold_ok_iff hm hp).1 h
    rw [Model.misfitting_iff]
    rintro (hunfit | ⟨step, q, hpart, hq⟩)
    · cases hunfit with
      | wrongType hn => exact hn ha
      | unknown hv hs hf hno =>
        have := (Model.mem_strays_iff hp.value).2 ⟨_, hv, hs, hf, hno⟩
        rw [hstrays] at this
        cases this
    · exact ih (hp.part hm hpart)
        (hslots _ ((Model.part_mem_slots_iff hm hp.shape hp.value).2 hpart)) hq

/-- Where an evaluation is refused, a position does not fit for the reason that is given. -/
theorem exists_misfitting_of_error (hm : v.model.Sound) (hp : p.Proper v.model) {cause : Misfit}
    (h : (v.hold depth p).outcome = .error cause) (hend : cause ≠ .endless) :
    v.model.Misfitting p cause := by
  induction depth generalizing p with
  | zero =>
    by_cases ha : p.shape.kind.Accepts p.value
    · rw [hold, checkValue_of_accepts ha] at h
      cases h
      exact absurd rfl hend
    · rw [hold_of_not_accepts ha] at h
      cases h
      exact Model.misfitting_iff.2 (.inl (.wrongType ha))
  | succ depth ih =>
    rw [Model.misfitting_iff]
    by_cases ha : p.shape.kind.Accepts p.value
    · rw [hold_succ (hm.nodup_memberNames hp.shape) hp.value ha, Verdict.bind_ok] at h
      -- either a slot is refused, or all go well and the first stray is
      rcases Verdict.bind_outcome_eq_error_iff.1 h with h | ⟨-, -, h⟩
      · obtain ⟨slot, hslot, h⟩ := Verdict.exists_of_forM_error h
        cases slot with
        | missing step path => cases h
        | part step q =>
          have hpart := (Model.part_mem_slots_iff hm hp.shape hp.value).1 hslot
          exact .inr ⟨step, q, hpart, ih (hp.part hm hpart) h⟩
      · cases hstrays : v.model.strays p with
        | nil =>
          rw [hstrays] at h
          cases h
        | cons name names =>
          rw [hstrays] at h
          cases h
          obtain ⟨fields, hv, hs, hf, hno⟩ := (Model.mem_strays_iff hp.value).1
            (hstrays ▸ List.mem_cons_self)
          exact .inl (.unknown hv hs hf hno)
    · rw [hold_of_not_accepts ha] at h
      cases h
      exact .inl (.wrongType ha)

/-! ### Violations -/

/-- Where an evaluation goes well, all failing checks are listed. -/
theorem mem_sitesWithin_iff (hm : v.model.Sound) (hp : p.Proper v.model)
    (h : (v.hold depth p).outcome = .ok ()) (x : Site) :
    x ∈ v.model.sitesWithin depth p ↔ v.model.Failing p x := by
  induction depth generalizing p x with
  | zero => exact absurd h hold_zero_ne_ok
  | succ depth ih =>
    obtain ⟨-, hslots, -⟩ := (hold_ok_iff hm hp).1 h
    have hpart {step : Spot.Step} {q : Spot} (hq : v.model.Part p step q) (y : Site) :
        y ∈ v.model.sitesWithin depth q ↔ v.model.Failing q y :=
      ih (hp.part hm hq) (hslots _ ((Model.part_mem_slots_iff hm hp.shape hp.value).2 hq)) y
    rw [Model.sitesWithin, List.mem_append, Model.mem_ownSites_iff, Model.failing_iff,
      List.mem_flatMap]
    refine or_congr .rfl ?_
    constructor
    · rintro ⟨slot, hslot, hx⟩
      cases slot with
      | part step q =>
        have hq := (Model.part_mem_slots_iff hm hp.shape hp.value).1 hslot
        obtain ⟨y, hy, rfl⟩ := List.mem_map.1 hx
        exact .inr ⟨step, q, y, hq, (hpart hq y).1 hy, rfl⟩
      | missing step path =>
        obtain ⟨i, e, rfl, rfl, he⟩ := (Model.missing_mem_slots_iff hp.value).1 hslot
        exact .inl ⟨i, e, he, List.mem_singleton.1 hx⟩
    · rintro (⟨i, e, he, rfl⟩ | ⟨step, q, y, hq, hy, rfl⟩)
      · exact ⟨_, (Model.missing_mem_slots_iff hp.value).2 ⟨i, e, rfl, rfl, he⟩,
          List.mem_singleton_self _⟩
      · exact ⟨_, (Model.part_mem_slots_iff hm hp.shape hp.value).2 hq,
          List.mem_map.2 ⟨y, (hpart hq y).2 hy, rfl⟩⟩

/-- Where an evaluation goes well, its violations are those of the listed checks. -/
theorem violations_eq_sitesWithin (hm : v.model.Sound) (hc : Compiled v.patterns)
    (hp : p.Proper v.model) (h : (v.hold depth p).outcome = .ok ()) :
    (v.hold depth p).violations = (v.model.sitesWithin depth p).map (·.violation) := by
  induction depth generalizing p with
  | zero => exact absurd h hold_zero_ne_ok
  | succ depth ih =>
    obtain ⟨-, hslots, -⟩ := (hold_ok_iff hm hp).1 h
    rw [hold_violations hm hp h, Model.sitesWithin, List.map_append, List.map_flatMap]
    congr 1
    -- the checks of the value itself, then those of its slots
    · rw [violationsOf, Model.ownSites, List.map_filterMap]
      conv_lhs => rw [← List.zipIdx_map_fst 0 p.shape.checks, List.filterMap_map]
      refine List.filterMap_congr fun c _ => ?_
      rw [Function.comp_apply, evaluate_compiledOf hc, Option.map_map]
      rfl
    · refine List.flatMap_congr fun slot hslot => ?_
      cases slot with
      | missing step path => rfl
      | part step q =>
        have hq := (Model.part_mem_slots_iff hm hp.shape hp.value).1 hslot
        rw [meet, ih (hp.part hm hq) (hslots _ hslot), Model.slotSites, List.map_map]
        rfl

end Validator

/-! ### Order -/

namespace Site

theorem below_before_iff {step : Spot.Step} {x y : Site} :
    (x.below step).Before (y.below step) ↔ x.Before y := by
  simp [Before, below]

theorem before_of_rank_lt {x y : Site} {a b : Spot.Step} {as bs : List Spot.Step}
    (hx : x.trail = a :: as) (hy : y.trail = b :: bs) (h : a.rank < b.rank) : x.Before y := by
  rw [Before, hx, hy, List.map_cons, List.map_cons, List.cons_lt_cons_iff]
  exact .inl (.inl h)

theorem before_of_nil {x y : Site} {b : Spot.Step} {bs : List Spot.Step} (hx : x.trail = [])
    (hy : y.trail = b :: bs) : x.Before y := by
  rw [Before, hx, hy]
  exact .inl (List.nil_lt_cons _ _)

end Site

namespace Model

variable {m : Model}

theorem pairwise_ownSites (p : Spot) : (ownSites p).Pairwise Site.Before := by
  refine List.pairwise_filterMap.2 ((pairwise_zipIdx p.shape.checks 0).imp ?_)
  intro c d hlt x hx y hy
  obtain ⟨_, -, rfl⟩ := Option.map_eq_some_iff.1 hx
  obtain ⟨_, -, rfl⟩ := Option.map_eq_some_iff.1 hy
  exact .inr ⟨rfl, hlt⟩

theorem exists_trail_of_mem_slotSites {part : Spot → List Site} {slot : Slot} {x : Site}
    (h : x ∈ slotSites part slot) : ∃ trail, x.trail = slot.step :: trail := by
  cases slot with
  | part step q =>
    obtain ⟨y, -, rfl⟩ := List.mem_map.1 h
    exact ⟨y.trail, rfl⟩
  | missing step path =>
    obtain rfl := List.mem_singleton.1 h
    exact ⟨[], rfl⟩

/-- Where everything fits, the listed checks are in order, each once. -/
theorem pairwise_sitesWithin (hm : m.Sound) {depth : Nat} {p : Spot} (hp : p.Proper m)
    (hfit : ∀ cause, ¬ m.Misfitting p cause) :
    (m.sitesWithin depth p).Pairwise Site.Before := by
  induction depth generalizing p with
  | zero => exact .nil
  | succ depth ih =>
    have ha : p.shape.kind.Accepts p.value := by
      by_contra hn
      exact hfit _ (misfitting_iff.2 (.inl (.wrongType hn)))
    refine List.pairwise_append.2 ⟨pairwise_ownSites p, ?_, ?_⟩
    · refine List.pairwise_flatMap.2 ⟨fun slot hslot => ?_, (pairwise_slots ha).imp ?_⟩
      · cases slot with
        | missing step path => exact List.pairwise_singleton _ _
        | part step q =>
          have hpart := (part_mem_slots_iff hm hp.shape hp.value).1 hslot
          have hq : ∀ cause, ¬ m.Misfitting q cause := fun cause hc =>
            hfit cause (misfitting_iff.2 (.inr ⟨step, q, hpart, hc⟩))
          exact List.pairwise_map.2
            ((ih (hp.part hm hpart) hq).imp fun hxy => Site.below_before_iff.2 hxy)
      · intro a b hlt x hx y hy
        obtain ⟨_, hx⟩ := exists_trail_of_mem_slotSites hx
        obtain ⟨_, hy⟩ := exists_trail_of_mem_slotSites hy
        exact Site.before_of_rank_lt hx hy hlt
    · intro x hx y hy
      obtain ⟨k, c, breach, -, -, rfl⟩ := mem_ownSites_iff.1 hx
      obtain ⟨slot, -, hy⟩ := List.mem_flatMap.1 hy
      obtain ⟨_, hy⟩ := exists_trail_of_mem_slotSites hy
      exact Site.before_of_nil rfl hy

end Model

/-! ### Evaluations -/

namespace Validator

/-- An evaluation that ends is refused for a position that does not fit, if there is one. Otherwise
it gives a value, and its violations are the failing checks, each once and in order. -/
theorem validate_reports_exactly {m : Model} (hm : m.Assembled) {v : Validator}
    (hv : ofModel m = .ok v) {s : Shape} (hs : s ∈ m.shapes) {value : Json}
    (hd : value.Distinct) (path : String) (hend : v.Ends s value path) :
    ((∃ cause, m.Misfitting (m.spot s value path) cause) →
      ∃ cause, m.Misfitting (m.spot s value path) cause ∧ cause ≠ .endless ∧
        (v.validate s value path).outcome = .error cause) ∧
    ((∀ cause, ¬ m.Misfitting (m.spot s value path) cause) →
      ∃ (built : Json) (sites : List Site), (v.validate s value path).outcome = .ok built ∧
        (v.validate s value path).violations = sites.map Site.violation ∧
        sites.Pairwise Site.Before ∧
        ∀ x, x ∈ sites ↔ m.Failing (m.spot s value path) x) := by
  obtain ⟨rfl, hc⟩ := of_ofModel hv
  have hm := Model.sound_of_assembled hm
  have hp := proper_spot hm hs hd path
  have hsettled := (ends_iff hm hs hd).1 hend
  have hforget := forget_within v (v.depthBound value) s value path
  rw [← validate_eq_within] at hforget
  cases ho : (v.validate s value path).outcome with
  | error cause =>
    have hhold : (v.hold (v.depthBound value) (v.model.spot s value path)).outcome =
        .error cause := by
      rw [← hforget, Verdict.forget_outcome_eq_error_iff, ho]
    have hne : cause ≠ .endless := by
      rintro rfl
      exact hsettled ho
    have hmis := exists_misfitting_of_error hm hp hhold hne
    exact ⟨fun _ => ⟨cause, hmis, hne, rfl⟩, fun hfit => absurd hmis (hfit cause)⟩
  | ok built =>
    have hhold : (v.hold (v.depthBound value) (v.model.spot s value path)).outcome = .ok () := by
      rw [← hforget, Verdict.forget_outcome_eq_ok_iff]
      exact ⟨built, ho⟩
    have hfit := not_misfitting_of_ok hm hp hhold
    refine ⟨fun ⟨cause, hmis⟩ => absurd hmis (hfit cause), fun _ => ?_⟩
    refine ⟨built, v.model.sitesWithin (v.depthBound value) (v.model.spot s value path), rfl, ?_,
      Model.pairwise_sitesWithin hm hp hfit, mem_sitesWithin_iff hm hp hhold⟩
    rw [← violations_eq_sitesWithin hm hc hp hhold, ← hforget, Verdict.forget_violations]

/-- An exception without its message, and with two fields of which one lacks its message and the
other everything. -/
def unfilledException : Json :=
  .obj [("fieldList", .arr [.obj [("path", .str "/a")], .obj []])]

theorem validate_reports_exactly_exception :
    ∃ (built : Json) (sites : List Site),
      ((⟨.bare, []⟩ : Validator).validate Prelude.exceptionShape unfilledException "").outcome =
        .ok built ∧
      sites.map Site.violation = [⟨"/message", .missingRequired⟩,
        ⟨"/fieldList/0/message", .missingRequired⟩, ⟨"/fieldList/1/path", .missingRequired⟩,
        ⟨"/fieldList/1/message", .missingRequired⟩] ∧
      sites.Pairwise Site.Before ∧
      ∀ x, x ∈ sites ↔
        Model.bare.Failing (Model.bare.spot Prelude.exceptionShape unfilledException "") x := by
  let v : Validator := ⟨.bare, []⟩
  have hv : ofModel .bare = .ok v := ofModel_of_pattern_eq_none (by decide)
  have hs : Prelude.exceptionShape ∈ Model.bare.shapes := by decide
  have hd : unfilledException.Distinct := by decide
  have hok : (v.validate Prelude.exceptionShape unfilledException "").outcome.isOk = true := by
    decide
  have hvs : (v.validate Prelude.exceptionShape unfilledException "").violations =
      [⟨"/message", .missingRequired⟩, ⟨"/fieldList/0/message", .missingRequired⟩,
        ⟨"/fieldList/1/path", .missingRequired⟩, ⟨"/fieldList/1/message", .missingRequired⟩] := by
    decide
  have hend : v.Ends Prelude.exceptionShape unfilledException "" := by
    refine (ends_iff (Model.sound_of_assembled Model.assembled_bare) hs hd).2 fun he => ?_
    rw [he] at hok
    cases hok
  obtain ⟨hmis, hfit⟩ := validate_reports_exactly Model.assembled_bare hv hs hd "" hend
  have hno : ∀ cause, ¬ Model.bare.Misfitting
      (Model.bare.spot Prelude.exceptionShape unfilledException "") cause := by
    intro cause hc
    obtain ⟨cause', -, -, he⟩ := hmis ⟨cause, hc⟩
    rw [he] at hok
    cases hok
  obtain ⟨built, sites, ho, hsites, horder, hall⟩ := hfit hno
  exact ⟨built, sites, ho, hsites ▸ hvs, horder, hall⟩

end Validator

end Shapesmith
