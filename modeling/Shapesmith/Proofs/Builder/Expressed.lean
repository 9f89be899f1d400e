import Shapesmith.Proofs.Builder.Reported
import Shapesmith.Proofs.Constraint.Accepted
import Shapesmith.Proofs.Symbol.Expression

/-!
# Builds report what violation types can express

The violations that a build reports are failing checks, and the variants of violation types are made
for what can fail. They fit together where the types of all members are finite.

* `Model.Passes` : the shapes between a structure and what is broken in it;
* `Artifact.build_expressed_iff` : the violations of a build are expressed by variants exactly when
  the shapes that their places go through have members with types.
-/

namespace Shapesmith

/-! ### Failing checks -/

/-- A failing check is reported at a place that goes through a shape. A missing member is a fault of
its structure, where the way ends. -/
def Model.Passes (m : Model) (s : Shape) (x : Site) (t : Shape) : Prop :=
  ∃ way, way <+: x.trail ∧ (x.violation.breach = .missingRequired → way ≠ x.trail) ∧
    m.Leads s way t

theorem Breach.category_eq_missingRequired_iff {b : Breach} :
    b.category = .missingRequired ↔ b = .missingRequired := by
  cases b <;> simp [category]

theorem Check.Breaks.ne_missingRequired {c : Check} {value : Json} {b : Breach}
    (h : c.Breaks value b) : b ≠ .missingRequired := by
  rintro rfl
  cases h

namespace Symbols

section Failing

variable {y : Symbols} {service : Shape} {p : Spot} {x : Site} (hm : y.model.Sound)
  (hdirect : ∀ e ∈ y.model.shapes, (y.model.targetOf e).isMember = false)
  (haccept : y.model.accept service false = .ok ()) (hp : p.shape ∈ y.model.shapes)
  (hk : p.shape.isMember = false) (h : y.model.Failing p x)
include hm hdirect haccept hp hk h

/-- Where a check fails, a constraint can be reached from the top. -/
theorem reachesConstrained_of_failing : y.model.reachesConstrained p.shape = true := by
  obtain ⟨trail, q, hpos, hq⟩ : ∃ trail q, y.model.Position p trail q ∧
      (q.shape ∈ y.model.shapes → y.model.isConstrained q.shape = true) := by
    cases h with
    | check hpos hc hb =>
      exact ⟨_, _, hpos, fun hq =>
        Model.isConstrained_of_checks haccept hq (List.mem_of_getElem? hc)⟩
    | missing hpos he => exact ⟨_, _, hpos, fun _ => he.isConstrained⟩
  obtain ⟨hmem, hqk⟩ := mem_of_leads hm hdirect hp hk hpos.leads
  exact reachesConstrained_of_leads hm hdirect hp hk hpos.leads
    (Model.reachesConstrained_of_isConstrained hm hmem hqk (hq hmem))

/-- Failing checks are expressed when the shapes that they pass have variants. -/
theorem expresses_iff_of_failing : y.Expresses x.violation.breach.category p.shape x.trail ↔
    ∀ t, y.model.Passes p.shape x t → y.model.PartsHaveTypes t := by
  cases h with
  | @check trail q k c breach hpos hc hb =>
    obtain ⟨hq, hqk⟩ := mem_of_leads hm hdirect hp hk hpos.leads
    have hcheck := List.mem_of_getElem? hc
    have hr := Model.reachesConstrained_of_isConstrained hm hq hqk
      (Model.isConstrained_of_checks haccept hq hcheck)
    have hne : breach.category ≠ .missingRequired :=
      Breach.category_eq_missingRequired_iff.not.2 hb.ne_missingRequired
    have hiff := expresses_append_iff hm hdirect hp hk hpos.leads hr (fun h => absurd h hne)
      (expresses_own_iff hm hq hqk hr hcheck hb)
    rw [List.append_nil] at hiff
    refine hiff.trans ⟨?_, ?_⟩
    · rintro h t ⟨way, hway, -, hl⟩
      exact h way t hway hl
    · exact fun h way t hway hl =>
        h t ⟨way, hway, fun he => absurd he hb.ne_missingRequired, hl⟩
  | @missing trail q i e hpos he =>
    -- the trail of the site goes one step further than the way, to the member that is not there
    obtain ⟨hq, hqk⟩ := mem_of_leads hm hdirect hp hk hpos.leads
    have hr := Model.reachesConstrained_of_isConstrained hm hq hqk he.isConstrained
    refine (expresses_append_iff hm hdirect hp hk hpos.leads hr (fun _ => List.cons_ne_nil _ _)
      (expresses_missing_iff hm hq hr he.struct he.member he.needed)).trans ⟨?_, ?_⟩
    · rintro h t ⟨way, hway, hne, hl⟩
      exact h way t ((List.prefix_concat_iff.1 hway).resolve_left (hne rfl)) hl
    · intro h way t hway hl
      refine h t ⟨way, hway.trans (List.prefix_append _ _), fun _ heq => ?_, hl⟩
      have hlength := hway.length_le
      rw [heq, List.length_append, List.length_singleton] at hlength
      omega

end Failing

end Symbols

/-! ### The model without documents -/

theorem Symbols.partsHaveTypes_bare (s : Shape) : Model.bare.PartsHaveTypes s := by
  have hm := Model.sound_of_assembled Model.assembled_bare
  have hplain : ∀ t ∈ Model.bare.shapes, (bare.plain t).isOk = true := by decide
  intro e he _
  have ht := hm.targetOf_mem (hm.mem_membersOf_iff.1 he).1
  have hok := hplain _ ht
  refine (plain_isOk_iff (y := bare) hm ht).1 ?_
  cases hsymbol : bare.plain (Model.bare.targetOf e) with
  | ok symbol => exact ⟨symbol, rfl⟩
  | error cause =>
    rw [hsymbol] at hok
    cases hok

/-! ### A list that holds itself -/

/-- A structure with one member, a union. -/
def pathShape : Shape := ⟨⟨"a", "Path", none⟩, .struct [⟨"a", "Path", some "step"⟩], []⟩

/-- A union with one member, a list. -/
def stepShape : Shape := ⟨⟨"a", "Step", none⟩, .union [⟨"a", "Step", some "turns"⟩], []⟩

/-- A list of lists of the same kind, which may only be empty. -/
def turnsShape : Shape := ⟨⟨"a", "Turns", none⟩, .list ⟨"a", "Turns", some "member"⟩,
  [(Trait.lengthId, .length ⟨none, some 0⟩)]⟩

/-- The member of the structure. -/
def stepMember : Shape := ⟨⟨"a", "Path", some "step"⟩, .member stepShape.id, []⟩

/-- The member of the union. -/
def turnsMember : Shape := ⟨⟨"a", "Step", some "turns"⟩, .member turnsShape.id, []⟩

/-- The model of these shapes. -/
def Model.maze : Model := ⟨[pathShape, stepMember, stepShape, turnsMember, turnsShape,
  ⟨⟨"a", "Turns", some "member"⟩, .member turnsShape.id, []⟩] ++ bare.shapes⟩

/-- The document of that model. -/
def mazeSource : String := "[\"2\",\x7b" ++
  "\"a#Path\":[\"structure\",\x7b\"step\":[\"a#Step\"]\x7d]," ++
  "\"a#Step\":[\"union\",\x7b\"turns\":[\"a#Turns\"]\x7d]," ++
  "\"a#Turns\":[\"list\",[\"a#Turns\"],\x7b\"smithy.api#length\":[null,0]\x7d]\x7d]"

theorem Model.assembled_maze : maze.Assembled := by
  refine assembled_of_list mazeSource (by
    delta mazeSource
    repeat rw [String.toList_append]
    repeat rw [String.toList_ofList]
    rfl) ?_ (by decide)
  decide +kernel

/-- The symbols of that model. -/
def Symbols.maze : Symbols := ⟨.maze, Placeholder.service, .server true, []⟩

/-- A choice of the union in which the list has an item. -/
def crookedStep : Json := .obj [("turns", .arr [.arr []])]

theorem position_turns : Model.maze.Position ⟨pathShape, .obj [("step", crookedStep)], ""⟩
    [.member 0, .member 0] ⟨turnsShape, .arr [.arr []], pointer (pointer "" "step") "turns"⟩ := by
  have hstep : Model.maze.targetOf stepMember = stepShape := by decide
  have hturns : Model.maze.targetOf turnsMember = turnsShape := by decide
  rw [← hturns]
  refine .deeper (.member rfl (e := stepMember) (by decide) (.given List.mem_cons_self ?_))
    (.deeper ?_ (.here _))
  · exact Json.noConfusion
  · rw [hstep]
    exact .choice rfl (e := turnsMember) (by decide) List.mem_cons_self

/-- The union has no variants, so that nothing is expressed by way of it. -/
theorem Symbols.not_expresses_turns (c : Category) :
    ¬ maze.Expresses c pathShape [.member 0, .member 0] := by
  have hstep : Model.maze.targetOf stepMember = stepShape := by decide
  have hfollows : Model.maze.Follows pathShape (.member 0) stepMember :=
    .member (.inl rfl) (by decide)
  have hnone : (maze.variants stepShape).isOk = false := by decide
  intro h
  cases h with
  | nested _ _ hf _ ht =>
    obtain rfl := hf.unique hfollows
    obtain ⟨vs, hvs⟩ := ht.exists_variants
    rw [show maze.model.targetOf stepMember = stepShape from hstep] at hvs
    rw [hvs] at hnone
    cases hnone

/-! ### Builds -/

/-- The violations that a build reports are failing checks. The structure has a type of violations,
and variants express a failing check exactly when the shapes between the structure and what is
broken have members with types. -/
theorem Artifact.build_expressed_iff {m : Model} (hm : m.Assembled)
    (hdirect : ∀ e ∈ m.shapes, (m.targetOf e).isMember = false) {service : Shape} {style : Style}
    {y : Symbols} (hy : Symbols.ofModel m service style false = .ok y) {v : Validator}
    (hv : Validator.ofModel m = .ok v) {p : Protocol} {s : Shape} (hs : s ∈ m.shapes)
    {a : Artifact} (ha : y.artifact p s = .ok a) {given : List (String × Json)}
    (hd : (Json.obj given).Distinct) {vs : Violations}
    (h : a.build v given = .error (.violations vs)) :
    (∃ t, a.violation = some t ∧ y.variants s = .ok t.variants) ∧
    (∀ x ∈ vs, ∃ site, m.Failing ⟨s, .obj given, ""⟩ site ∧ site.violation = x) ∧
    ∀ site, m.Failing ⟨s, .obj given, ""⟩ site →
      (y.Expresses site.violation.breach.category s site.trail ↔
        ∀ t, m.Passes s site t → m.PartsHaveTypes t) := by
  obtain ⟨rfl, haccept⟩ := Symbols.of_ofModel hy
  have hm := Model.sound_of_assembled hm
  obtain ⟨hstruct, hfields, hviolation⟩ := Symbols.of_artifact ha
  have hk := Shape.isMember_of_holder (.inl hstruct)
  have hreported {x : Violation} (hx : x ∈ vs) :=
    exists_failing_of_build hm hv hs hstruct hfields hd h hx
  refine ⟨?_, fun x hx => hreported hx, fun site hsite =>
    Symbols.expresses_iff_of_failing hm hdirect haccept hs hk hsite⟩
  obtain ⟨x, hx⟩ := List.exists_mem_of_ne_nil vs (of_build_violations h).2.2
  obtain ⟨site, hsite, -⟩ := hreported hx
  have hr := Symbols.reachesConstrained_of_failing hm hdirect haccept hs hk hsite
  rw [Symbols.violationType, if_pos hr] at hviolation
  obtain ⟨symbol, -, hviolation⟩ := Except.bind_eq_ok_iff.1 hviolation
  obtain ⟨variants, hvariants, hviolation⟩ := Except.bind_eq_ok_iff.1 hviolation
  obtain ⟨exception, -, hviolation⟩ := Except.bind_eq_ok_iff.1 hviolation
  exact ⟨_, (Except.ok.inj hviolation).symm, hvariants⟩

/-- The builder of the exception reports what the variants of the exception can express. -/
theorem Artifact.build_expressed_exception : ∃ a vs,
    Symbols.bare.artifact Placeholder.protocol Prelude.exceptionShape = .ok a ∧
      a.build ⟨.bare, []⟩ [("fieldList", .arr [.obj []])] = .error (.violations vs) ∧
      vs = [⟨"/message", .missingRequired⟩, ⟨"/fieldList/0/path", .missingRequired⟩,
        ⟨"/fieldList/0/message", .missingRequired⟩] ∧
      ∀ x ∈ vs, ∃ site : Site, site.violation = x ∧
        Symbols.bare.Expresses x.breach.category Prelude.exceptionShape site.trail := by
  have hbuild : (Symbols.bare.artifact Placeholder.protocol Prelude.exceptionShape).map
      (·.build ⟨.bare, []⟩ [("fieldList", .arr [.obj []])]) = .ok (.error (.violations
        [⟨"/message", .missingRequired⟩, ⟨"/fieldList/0/path", .missingRequired⟩,
          ⟨"/fieldList/0/message", .missingRequired⟩])) := by decide
  obtain ⟨a, ha, hbuild⟩ := Except.map_eq_ok_iff.1 hbuild
  have hv : Validator.ofModel .bare = .ok ⟨.bare, []⟩ :=
    Validator.ofModel_of_pattern_eq_none (by decide)
  have hy : Symbols.ofModel .bare Placeholder.service (.server true) false = .ok Symbols.bare :=
    Symbols.ofModel_eq_ok (by decide) (by decide)
  obtain ⟨-, hreported, hexpresses⟩ := build_expressed_iff Model.assembled_bare (by decide) hy hv
    (by decide) ha (by decide) hbuild
  refine ⟨a, _, ha, hbuild, rfl, fun x hx => ?_⟩
  obtain ⟨site, hsite, rfl⟩ := hreported x hx
  exact ⟨site, rfl, (hexpresses site hsite).2 fun t _ => Symbols.partsHaveTypes_bare t⟩

/-- A build in an accepted model can report a violation that variants do not express. -/
theorem exists_unexpressed : ∃ m service style y v p s a given vs, m.Assembled ∧
    (∀ e ∈ m.shapes, (m.targetOf e).isMember = false) ∧
    Symbols.ofModel m service style false = .ok y ∧ Validator.ofModel m = .ok v ∧ s ∈ m.shapes ∧
    y.artifact p s = .ok a ∧ (Json.obj given).Distinct ∧
    a.build v given = .error (.violations vs) ∧
    ∃ site, m.Failing ⟨s, .obj given, ""⟩ site ∧ site.violation ∈ vs ∧
      ¬ y.Expresses site.violation.breach.category s site.trail := by
  have hbuild : (Symbols.maze.artifact Placeholder.protocol pathShape).map
      (·.build ⟨.maze, []⟩ [("step", crookedStep)]) =
        .ok (.error (.violations [⟨"/step/turns", .length 1 ⟨none, some 0⟩⟩])) := by
    decide
  obtain ⟨a, ha, hbuild⟩ := Except.map_eq_ok_iff.1 hbuild
  have hv : Validator.ofModel .maze = .ok ⟨.maze, []⟩ :=
    Validator.ofModel_of_pattern_eq_none (by decide)
  have hy : Symbols.ofModel .maze Placeholder.service (.server true) false = .ok Symbols.maze :=
    Symbols.ofModel_eq_ok (by decide) (by decide)
  have hbreaks : Check.Breaks (.length ⟨none, some 0⟩ .elements) (.arr [.arr []])
      (.length 1 ⟨none, some 0⟩) := .long (.items _ _) rfl (by decide)
  have hpath : pointer (pointer "" "step") "turns" = "/step/turns" := by decide
  refine ⟨.maze, _, _, Symbols.maze, _, Placeholder.protocol, pathShape, a, _, _,
    Model.assembled_maze, by decide, hy, hv, by decide, ha, by decide, hbuild, _,
    .check position_turns (k := 0) rfl hbreaks, ?_, Symbols.not_expresses_turns _⟩
  rw [hpath]
  exact List.mem_singleton_self _

end Shapesmith
