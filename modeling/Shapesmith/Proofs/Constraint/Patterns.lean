import Shapesmith.Proofs.Constraint.Faults

/-!
# Which patterns compile in accepted models

A validator compiles the patterns of all shapes before it looks at a value. Acceptance compiles the
patterns of all shapes but members: a pattern on a member is refused for being there, and where this
is tolerated nothing looks at it.

* `Shape.PatternCompiles` : the shape has no pattern, or one that compiles;
* `Validator.ofModel_isOk_iff` : a model has a validator exactly when all its patterns compile;
* `Model.exists_validator_iff` : an accepted model has a validator exactly when the patterns on its
  members compile, as they do without tolerance;
* `Model.exists_accepted_without_validator` : with tolerance, a model can be accepted that has none.
-/

namespace Shapesmith

/-- The shape has no pattern, or one that compiles. -/
def Shape.PatternCompiles (s : Shape) : Prop :=
  ∀ p, s.traits.pattern = some p → ∃ regex, Pattern.compile p = .ok regex

theorem Shape.not_patternCompiles_iff {s : Shape} : ¬ s.PatternCompiles ↔
    ∃ p fault, s.traits.pattern = some p ∧ Pattern.compile p = .error fault := by
  constructor
  · intro h
    unfold PatternCompiles at h
    push Not at h
    obtain ⟨p, hp, hnone⟩ := h
    cases hc : Pattern.compile p with
    | ok regex => exact absurd hc (hnone regex)
    | error fault => exact ⟨p, fault, hp, hc⟩
  · rintro ⟨p, fault, hp, hfault⟩ h
    obtain ⟨regex, hregex⟩ := h p hp
    rw [hfault] at hregex
    cases hregex

/-! ### Validators -/

namespace Validator

/-- Compiling keeps what is compiled, adds the patterns of the shapes, and nothing else. -/
theorem has_compilePatterns_iff {shapes : List Shape} {done patterns : Table String Regex}
    (h : compilePatterns done shapes = .ok patterns) {p : String} :
    patterns.has p = true ↔ done.has p = true ∨ ∃ s ∈ shapes, s.traits.pattern = some p := by
  induction shapes generalizing done with
  | nil =>
    obtain rfl := Except.ok.inj h
    simp
  | cons s shapes ih =>
    -- the first shape adds its pattern, and the others add theirs
    have hrest {next : Table String Regex} (h : compilePatterns next shapes = .ok patterns)
        (hnext : next.has p = true ↔ done.has p = true ∨ s.traits.pattern = some p) :
        patterns.has p = true ↔
          done.has p = true ∨ ∃ t ∈ s :: shapes, t.traits.pattern = some p := by
      rw [ih h, hnext, or_assoc, List.exists_mem_cons_iff]
    rw [compilePatterns] at h
    split at h
    · rename_i hnone
      exact hrest h (by simp [hnone])
    · rename_i q hq
      split at h
      · rename_i hdone
        refine hrest h (or_iff_left_of_imp fun hp => ?_).symm
        exact Option.some.inj (hq.symm.trans hp) ▸ hdone
      · split at h
        -- the pattern is new and compiles
        · refine hrest h ?_
          rw [hq, Option.some.injEq, Table.has_put_iff]
        · cases h

/-- Compiling fails with the pattern of one of the shapes. -/
theorem exists_of_compilePatterns {shapes : List Shape} {done : Table String Regex} {f : Failure}
    (h : compilePatterns done shapes = .error f) : ∃ s ∈ shapes, ∃ p fault,
      s.traits.pattern = some p ∧ Pattern.compile p = .error fault ∧
        f = .conflict s.id (.pattern p fault) := by
  induction shapes generalizing done with
  | nil => cases h
  | cons s shapes ih =>
    have hrest {done : Table String Regex} (h : compilePatterns done shapes = .error f) :
        ∃ t ∈ s :: shapes, ∃ p fault, t.traits.pattern = some p ∧
          Pattern.compile p = .error fault ∧ f = .conflict t.id (.pattern p fault) := by
      obtain ⟨t, ht, hfault⟩ := ih h
      exact ⟨t, List.mem_cons_of_mem _ ht, hfault⟩
    rw [compilePatterns] at h
    split at h
    · exact hrest h
    · rename_i p hp
      split at h
      · exact hrest h
      · split at h
        · exact hrest h
        · rename_i fault hfault
          obtain rfl := Except.error.inj h
          exact ⟨s, List.mem_cons_self, p, fault, hp, hfault, rfl⟩

/-- A model has no validator because of the pattern of one of its shapes. -/
theorem exists_of_ofModel {m : Model} {f : Failure} (h : ofModel m = .error f) :
    ∃ s ∈ m.shapes, ∃ p fault, s.traits.pattern = some p ∧ Pattern.compile p = .error fault ∧
      f = .conflict s.id (.pattern p fault) := by
  unfold ofModel at h
  cases hp : compilePatterns [] m.shapes with
  | ok patterns => rw [hp] at h; cases h
  | error g =>
    rw [hp] at h
    obtain rfl := Except.error.inj h
    exact exists_of_compilePatterns hp

/-- A model has a validator exactly when all its patterns compile. -/
theorem ofModel_isOk_iff {m : Model} :
    (∃ v, ofModel m = .ok v) ↔ ∀ s ∈ m.shapes, s.PatternCompiles := by
  constructor
  · rintro ⟨v, hv⟩ s hs p hp
    obtain ⟨-, hcompiled⟩ := of_ofModel hv
    obtain ⟨patterns, hpatterns, rfl⟩ := Except.map_eq_ok_iff.1 hv
    have hhas := (has_compilePatterns_iff hpatterns).2 (.inr ⟨s, hs, hp⟩)
    obtain ⟨regex, hregex⟩ := Option.isSome_iff_exists.1 hhas
    exact ⟨regex, hcompiled p regex hregex⟩
  · intro hall
    cases hv : ofModel m with
    | ok v => exact ⟨v, rfl⟩
    | error f =>
      obtain ⟨s, hs, p, fault, hp, hfault, -⟩ := exists_of_ofModel hv
      exact absurd (hall s hs) (Shape.not_patternCompiles_iff.2 ⟨p, fault, hp, hfault⟩)

end Validator

/-! ### Accepted models -/

namespace Model

variable {m : Model} {service s : Shape} {tolerant : Bool}

/-- Whether or not faults are tolerated, patterns compile that are not on members. -/
theorem patternCompiles_of_acceptShape (h : acceptShape tolerant s = .ok ())
    (hs : s.isMember = false) : s.PatternCompiles := by
  intro p hp
  cases hc : Pattern.compile p with
  | ok regex => exact ⟨regex, rfl⟩
  | error fault =>
    have hcheck : s.checkOf Trait.patternId = some (.pattern p) := by simp [hp]
    have hfault : s.Fault (.conflict s.id (.pattern p fault)) :=
      .ofCheck hs hcheck (.inr ⟨_, .pattern hc, rfl⟩)
    exact absurd (fun _ => ⟨_, _, rfl⟩) ((finds_acceptShape s).complete h _ hfault)

/-- Without tolerance, members have no patterns. -/
theorem pattern_eq_none_of_acceptShape (h : acceptShape false s = .ok ())
    (hs : s.isMember = true) : s.traits.pattern = none := by
  rw [acceptShape, if_pos hs] at h
  have hnone := checks_of_acceptMember h
  cases hp : s.traits.pattern with
  | none => rfl
  | some p =>
    have hmem : Check.pattern p ∈ s.checks :=
      Shape.mem_checks_iff.2 ⟨Trait.patternId, by simp [hp]⟩
    rw [hnone] at hmem
    cases hmem

/-- An accepted model has a validator exactly when the patterns on its members compile. All other
patterns do, and without tolerance there is none on a member. -/
theorem exists_validator_iff (h : m.accept service tolerant = .ok ()) :
    (∀ s ∈ m.shapes, s.isMember = false → s.PatternCompiles) ∧
    ((∃ v, Validator.ofModel m = .ok v) ↔
      ∀ e ∈ m.shapes, e.isMember = true → e.PatternCompiles) ∧
    (tolerant = false → (∀ s ∈ m.shapes, s.PatternCompiles) ∧ ∃ v, Validator.ofModel m = .ok v) ∧
    ∀ f, Validator.ofModel m = .error f → tolerant = true ∧ ∃ e ∈ m.shapes, e.isMember = true ∧
      ∃ p fault, e.traits.pattern = some p ∧ Pattern.compile p = .error fault ∧
        f = .conflict e.id (.pattern p fault) := by
  have hothers : ∀ s ∈ m.shapes, s.isMember = false → s.PatternCompiles :=
    fun s hs => patternCompiles_of_acceptShape (acceptShape_of_accept h hs)
  have hiff : (∃ v, Validator.ofModel m = .ok v) ↔
      ∀ e ∈ m.shapes, e.isMember = true → e.PatternCompiles := by
    rw [Validator.ofModel_isOk_iff]
    refine ⟨fun hall e he _ => hall e he, fun hmembers s hs => ?_⟩
    cases hk : s.isMember with
    | false => exact hothers s hs hk
    | true => exact hmembers s hs hk
  have hstrict (ht : tolerant = false) : ∃ v, Validator.ofModel m = .ok v := by
    subst ht
    refine hiff.2 fun e he hk p hp => ?_
    rw [pattern_eq_none_of_acceptShape (acceptShape_of_accept h he) hk] at hp
    cases hp
  refine ⟨hothers, hiff, fun ht => ⟨Validator.ofModel_isOk_iff.1 (hstrict ht), hstrict ht⟩,
    fun f hf => ?_⟩
  obtain ⟨e, he, p, fault, hp, hfault, heq⟩ := Validator.exists_of_ofModel hf
  have hnot : ¬ e.PatternCompiles := Shape.not_patternCompiles_iff.2 ⟨p, fault, hp, hfault⟩
  refine ⟨?_, e, he, ?_, p, fault, hp, hfault, heq⟩
  · by_contra ht
    obtain ⟨v, hv⟩ := hstrict (Bool.eq_false_iff.2 ht)
    rw [hv] at hf
    cases hf
  · by_contra hk
    exact hnot (hothers e he (Bool.eq_false_iff.2 hk))

/-- The desk is accepted with tolerance, and the pattern on the member leaves it without a
validator. -/
theorem exists_validator_iff_desk : desk.accept deskService true = .ok () ∧
    ∃ f, Validator.ofModel desk = .error f ∧ ∃ e ∈ desk.shapes, e.isMember = true ∧
      ∃ p fault, e.traits.pattern = some p ∧ Pattern.compile p = .error fault ∧
        f = .conflict e.id (.pattern p fault) := by
  have haccepted : desk.accept deskService true = .ok () := by decide
  have hnone : Validator.ofModel desk =
    .error (.conflict codeShape.id (.pattern "(" .openGroup)) := by rfl
  exact ⟨haccepted, _, hnone, ((exists_validator_iff haccepted).2.2.2 _ hnone).2⟩

/-- With tolerance, a model can be accepted that has no validator. -/
theorem exists_accepted_without_validator : ∃ m service, m.Assembled ∧ service ∈ m.shapes ∧
    m.accept service true = .ok () ∧ (∃ e ∈ m.shapes, ¬ e.PatternCompiles) ∧
      ∀ v, Validator.ofModel m ≠ .ok v := by
  have haccepted : desk.accept deskService true = .ok () := by decide
  have hcode : codeShape ∈ desk.shapes := by decide
  have hpattern : ¬ codeShape.PatternCompiles :=
    Shape.not_patternCompiles_iff.2 ⟨"(", .openGroup, by decide, by rfl⟩
  refine ⟨desk, deskService, assembled_desk, by decide, haccepted, ⟨codeShape, hcode, hpattern⟩,
    fun v hv => ?_⟩
  exact hpattern (Validator.ofModel_isOk_iff.1 ⟨v, hv⟩ codeShape hcode)

end Model

end Shapesmith
