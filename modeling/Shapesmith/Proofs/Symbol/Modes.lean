import Shapesmith.Proofs.Sequence.Agreement
import Shapesmith.Proofs.Symbol.Stages

/-!
# Symbols in both modes

Whether constrained types are part of what everyone sees decides on surfaces and on who may see
violations. All other symbols, and what violations carry, do not depend on it.

* `Symbols.exporting` : the same symbols in a mode;
* `Symbols.plain_exporting`, `Symbols.constrained_exporting`, `Symbols.unconstrained_exporting`,
  `Symbols.variants_exporting` : what does not depend on the mode;
* `Symbols.violation_exporting_of_isStruct`, `Symbols.surface_of_isStruct` : structures are for
  everyone in both modes;
* `Symbols.exists_surface` : shapes with a type have a surface in both modes.
-/

namespace Shapesmith.Symbols

/-- The same symbols, with constrained types as part of what everyone sees or not. -/
def exporting (y : Symbols) (exported : Bool) : Symbols :=
  { y with style := { y.style with exportConstrained := exported } }

variable {y : Symbols} {s e : Shape} {symbol : Symbol} {depth : Nat} {visibility : Visibility}
  {exported : Bool}

@[simp] theorem model_exporting : (y.exporting exported).model = y.model := rfl

@[simp] theorem depth_exporting : (y.exporting exported).depth = y.depth := rfl

@[simp] theorem wrap_exporting : (y.exporting exported).wrap = y.wrap := rfl

@[simp] theorem declared_exporting : (y.exporting exported).declared = y.declared := rfl

/-! ### What does not depend on the mode -/

@[simp] theorem plainAt_exporting : (y.exporting exported).plainAt depth = y.plainAt depth := by
  induction depth with
  | zero => rfl
  | succ depth ih =>
    funext s
    simp only [plainAt, ih, model_exporting, wrap_exporting, declared_exporting]

@[simp] theorem plain_exporting : (y.exporting exported).plain = y.plain := by
  funext s
  simp only [plain, plainAt_exporting, depth_exporting]

@[simp] theorem constrainedAt_exporting :
    (y.exporting exported).constrainedAt visibility depth = y.constrainedAt visibility depth := by
  induction depth with
  | zero => rfl
  | succ depth ih =>
    funext s
    simp only [constrainedAt, ih, model_exporting, wrap_exporting, plainAt_exporting,
      depth_exporting]

@[simp] theorem constrained_exporting :
    (y.exporting exported).constrained visibility = y.constrained visibility := by
  funext s
  simp only [constrained, constrainedAt_exporting, depth_exporting]

@[simp] theorem unconstrainedOf_exporting :
    (y.exporting exported).unconstrainedOf = y.unconstrainedOf := by
  funext s
  rw [unconstrainedOf, unconstrainedOf, model_exporting, plainAt_exporting, depth_exporting]

@[simp] theorem unconstrainedAt_exporting :
    (y.exporting exported).unconstrainedAt depth = y.unconstrainedAt depth := by
  induction depth with
  | zero => rfl
  | succ depth ih =>
    funext s
    rw [unconstrainedAt, unconstrainedAt, ih, unconstrainedOf_exporting, model_exporting]

@[simp] theorem unconstrained_exporting :
    (y.exporting exported).unconstrained = y.unconstrained := by
  funext s
  simp only [unconstrained, unconstrainedAt_exporting, depth_exporting]

/-- Variants carry the types of violations, whoever may see them. -/
theorem nested_exporting : (y.exporting exported).nested = y.nested := by
  funext member make
  rw [nested, nested, violation, violation]
  simp only [model_exporting, plain_exporting]
  -- the symbols of the violations may differ, but only the type goes into a variant
  split
  · split
    · cases y.plain (y.model.targetOf member) <;> rfl
    · rfl
  · rfl

@[simp] theorem variants_exporting : (y.exporting exported).variants = y.variants := by
  have hpart (ofStruct : Bool) :
      (y.exporting exported).partVariants ofStruct = y.partVariants ofStruct := by
    funext member
    rw [partVariants, partVariants, nested_exporting, model_exporting]
  have hparts : (y.exporting exported).partsVariants = y.partsVariants := by
    funext s
    simp only [partsVariants, hpart, nested_exporting, model_exporting]
  funext s
  simp only [variants, hparts, model_exporting]

/-! ### Structures -/

/-- The violations of structures are for everyone. -/
theorem violation_exporting_of_isStruct (hs : s.isStruct = true) :
    (y.exporting exported).violation s = y.violation s := by
  have htarget := Model.targetOf_of_holder (m := y.model) (.inl hs)
  simp only [violation, model_exporting, plain_exporting, htarget, hs, Bool.true_or, if_true]

/-- Everyone sees a structure as it is. -/
theorem surface_of_isStruct (hs : s.isStruct = true) : y.surface s = y.plain s := by
  obtain ⟨ids, hk⟩ := Shape.isStruct_iff.1 hs
  -- checked structures have no wrapper, so that both branches are the declared type
  rw [surface, constrained, depth, constrainedAt, hk, plain, depth]
  exact ite_self _

theorem surface_exporting_of_isStruct (hs : s.isStruct = true) :
    (y.exporting exported).surface s = y.surface s := by
  rw [surface_of_isStruct hs, surface_of_isStruct hs, plain_exporting]

/-! ### Shapes with a type -/

variable (hm : y.model.Sound) (hs : s ∈ y.model.shapes) (htype : y.model.HasType s)

include hm hs htype

theorem exists_constrained : ∃ symbol, y.constrained visibility s = .ok symbol := by
  obtain ⟨plain, hplain⟩ := (plain_isOk_iff hm hs).2 htype
  have hplain := plain_eq_ok_iff.1 hplain
  obtain ⟨symbol, hsymbol⟩ : ∃ symbol, y.constrainedAt visibility y.depth s = some symbol :=
    exists_constrainedAt_of_plainAt le_rfl hplain
  exact ⟨symbol, constrained_eq_ok_iff.2 hsymbol⟩

/-- A shape with a type has a surface. -/
theorem exists_surface : ∃ symbol, y.surface s = .ok symbol := by
  unfold surface
  split
  · exact exists_constrained hm hs htype
  · exact (plain_isOk_iff hm hs).2 htype

/-- A shape with a type has a surface in both modes. -/
theorem agrees_surface : Except.Agrees (fun _ _ => True) (y.surface s)
    ((y.exporting exported).surface s) := by
  obtain ⟨symbol, hsymbol⟩ := exists_surface hm hs htype
  obtain ⟨symbol', hsymbol'⟩ := exists_surface (y := y.exporting exported) hm hs htype
  exact Except.agrees_of_ok hsymbol hsymbol' trivial

/-- Its values are checked in both modes. -/
theorem agrees_validation : Except.Agrees (fun _ _ => True) (y.validation s)
    ((y.exporting exported).validation s) := by
  unfold validation
  rw [model_exporting]
  by_cases hr : y.model.reachesConstrained s = true
  · rw [if_pos hr, if_pos hr]
    obtain ⟨checked, hchecked⟩ : ∃ symbol, y.validated s = .ok symbol :=
      exists_constrained hm hs htype
    obtain ⟨checked', hchecked'⟩ : ∃ symbol, (y.exporting exported).validated s = .ok symbol :=
      exists_constrained (y := y.exporting exported) hm hs htype
    rw [hchecked, hchecked']
    exact (agrees_surface hm hs htype).bind fun _ _ _ => trivial
  · rw [if_neg hr, if_neg hr]
    trivial

end Shapesmith.Symbols
