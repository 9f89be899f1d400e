import Shapesmith.Proofs.Constraint.Patterns

/-!
# What a validator has compiled

A validator keeps compiled patterns under their texts. A check looks its pattern up there. A text
that it does not find is compiled for every value anew, and one that does not compile matches
nothing.

* `Validator.get?_patterns_iff` : a validator keeps the patterns of the shapes of its model, and
  nothing else;
* `Validator.Serves` : a check finds its pattern, and it finds the same in every value as without
  it (`Validator.serves_of_mem_checks`);
* `Validator.Follows` : another validator has the same patterns or leaves some of them out. Checks
  that are served find the same with it (`Validator.Follows.evaluate_eq`).
-/

namespace Shapesmith

/-- A pattern is checked when the shape has it. -/
theorem Shape.pattern_mem_checks_iff {s : Shape} {p : String} :
    .pattern p ∈ s.checks ↔ s.traits.pattern = some p := by
  constructor
  · intro h
    obtain ⟨b, -, hc⟩ | ⟨b, -, hc⟩ | ⟨q, hq, hc⟩ := of_mem_checks h
    · cases hc
    · cases hc
    · cases hc
      exact hq
  · intro h
    exact mem_checks_iff.2 ⟨Trait.patternId, by simp [h]⟩

namespace Validator

variable {m : Model} {v w : Validator}

/-! ### The patterns of a model -/

/-- A validator keeps the patterns of the shapes of its model, and nothing else. -/
theorem get?_patterns_iff (hv : ofModel m = .ok v) {p : String} {r : Regex} :
    v.patterns.get? p = some r ↔
      (∃ s ∈ m.shapes, s.traits.pattern = some p) ∧ Pattern.compile p = .ok r := by
  obtain ⟨-, hcompiled⟩ := of_ofModel hv
  obtain ⟨patterns, hpatterns, rfl⟩ := Except.map_eq_ok_iff.1 hv
  constructor
  · intro h
    refine ⟨?_, hcompiled p r h⟩
    rcases (has_compilePatterns_iff hpatterns).1 (Option.isSome_iff_exists.2 ⟨r, h⟩) with hnone | hs
    · cases hnone
    · exact hs
  · rintro ⟨⟨s, hs, hp⟩, hr⟩
    have hhas := (has_compilePatterns_iff hpatterns).2 (.inr ⟨s, hs, hp⟩)
    obtain ⟨r', hr'⟩ := Option.isSome_iff_exists.1 hhas
    obtain rfl : r' = r := Except.ok.inj ((hcompiled p r' hr').symm.trans hr)
    exact hr'

/-! ### Checks that find their patterns -/

/-- Nothing has to be compiled for a check any more, and what has been makes no difference. -/
structure Serves (v : Validator) (c : Check) : Prop where
  /-- A pattern is found under its text. -/
  found : ∀ p, c = .pattern p → ∃ r, v.patterns.get? p = some r ∧ Pattern.compile p = .ok r
  /-- The check finds in every value what it finds when its pattern is compiled anew. -/
  same : ∀ value, c.evaluate (v.compiledOf c) value = c.evaluate none value

/-- The checks of all shapes are served. -/
theorem serves_of_mem_checks (hv : ofModel m = .ok v) {s : Shape} (hs : s ∈ m.shapes) {c : Check}
    (hc : c ∈ s.checks) : v.Serves c where
  found := by
    rintro p rfl
    have hp := Shape.pattern_mem_checks_iff.1 hc
    obtain ⟨r, hr⟩ := ofModel_isOk_iff.1 ⟨v, hv⟩ s hs p hp
    exact ⟨r, (get?_patterns_iff hv).2 ⟨⟨s, hs, hp⟩, hr⟩, hr⟩
  same := evaluate_compiledOf (of_ofModel hv).2 c

/-- Another validator of the same model. Under a text that the first has compiled it has the same
pattern or none; under any other text it may have any pattern, which then stands in the place of
what would be compiled for a value. -/
structure Follows (w v : Validator) : Prop where
  /-- The model. -/
  model : w.model = v.model
  /-- The patterns that the first has. -/
  patterns : ∀ p r, v.patterns.get? p = some r →
    w.patterns.get? p = some r ∨ w.patterns.get? p = none

/-- A validator that has compiled nothing follows every other. -/
theorem follows_nil (h : v.model = m) : (⟨m, []⟩ : Validator).Follows v :=
  ⟨h.symm, fun _ _ _ => .inr rfl⟩

/-- A check that is served finds the same with a validator that follows. -/
theorem Follows.evaluate_eq (h : w.Follows v) {c : Check} (hc : v.Serves c) (value : Json) :
    c.evaluate (w.compiledOf c) value = c.evaluate (v.compiledOf c) value := by
  cases c with
  | length bounds unit => rfl
  | range bounds => rfl
  | pattern p =>
    obtain ⟨r, hr, -⟩ := hc.found p rfl
    rcases h.patterns p r hr with hw | hw
    · rw [compiledOf, compiledOf, hw, hr]
    · rw [hc.same, compiledOf, hw]

end Validator

end Shapesmith
