import Shapesmith.Proofs.Symbol.Modes
import Shapesmith.Symbol.Rows

/-!
# A shape with a type has all symbols

The only way for a symbol to be missing is that its spelling has no end. A shape whose type is
finite has the symbols of all providers, and a model of such shapes the variants of all violations.

* `Symbols.exists_unconstrained`, `Symbols.exists_violation_of_hasType` : the symbols of unchecked
  values and of violations;
* `Symbols.exists_row` : the symbols that a shape has in a table.
-/

namespace Shapesmith.Symbols

variable {y : Symbols} {s : Shape} {symbol : Symbol} {depth : Nat}

/-- A shape with a plain symbol has one for its unchecked values. -/
theorem exists_unconstrainedOf (h : y.plainAt y.depth s = some symbol) :
    ∃ unchecked, y.unconstrainedOf s = some unchecked := by
  rw [unconstrainedOf, h]
  split_ifs
  · cases s.kind <;> exact ⟨_, rfl⟩
  · cases s.kind <;> exact ⟨_, rfl⟩
  · exact ⟨_, rfl⟩

theorem exists_unconstrainedAt_of_plainAt (hle : depth ≤ y.depth)
    (h : y.plainAt depth s = some symbol) :
    ∃ unchecked, y.unconstrainedAt depth s = some unchecked := by
  induction depth generalizing s symbol with
  | zero => cases h
  | succ depth ih =>
    have hplain : y.plainAt y.depth s = some symbol := plainAt_mono hle h
    rw [unconstrainedAt]
    cases spelled_of_plainAt h with
    | member hk ht hinner =>
      obtain ⟨inner, hinner⟩ := ih (Nat.le_of_succ_le hle) hinner
      simp [hk, ht, hinner]
    | simple hk | list hk | map hk =>
      simp only [hk]
      exact exists_unconstrainedOf hplain
    | declared hnamed =>
      cases hk : s.kind with
      | member =>
        rw [hk] at hnamed
        cases hnamed
      | _ => exact exists_unconstrainedOf hplain

section

variable (hm : y.model.Sound) (hs : s ∈ y.model.shapes)

include hm hs

theorem exists_unconstrained (htype : y.model.HasType s) :
    ∃ symbol, y.unconstrained s = .ok symbol := by
  obtain ⟨plain, hplain⟩ := (plain_isOk_iff hm hs).2 htype
  obtain ⟨symbol, hsymbol⟩ :=
    exists_unconstrainedAt_of_plainAt (Nat.le_refl _) (plain_eq_ok_iff.1 hplain)
  exact ⟨symbol, finite_eq_ok_iff.2 hsymbol⟩

/-- The violations of a shape have a symbol when the shape, or the target of a member, has one. -/
theorem exists_violation_of_hasType (htype : y.model.HasType (y.model.targetOf s)) :
    ∃ symbol, y.violation s = .ok symbol := by
  obtain ⟨plain, hplain⟩ := (plain_isOk_iff hm (hm.targetOf_mem hs)).2 htype
  by_cases hr : y.model.reachesConstrained (y.model.targetOf s) = true
  · rw [violation, if_pos hr, hplain]
    exact ⟨_, rfl⟩
  · rw [violation, if_neg hr]
    exact ⟨_, rfl⟩

variable (htypes : ∀ t ∈ y.model.shapes, y.model.HasType t)

include htypes

theorem exists_variants_of_hasType : ∃ vs, y.variants s = .ok vs := by
  refine (variants_isOk_iff hm hs).2 fun _ => (Model.partsHaveTypes_iff hm).2 fun e he _ => ?_
  exact htypes _ (hm.targetOf_mem (hm.mem_membersOf_iff.1 he).1)

/-- Values are checked into some type, if there is anything to check. -/
theorem exists_validation : ∃ checked, y.validation s = .ok checked := by
  unfold validation
  split
  · obtain ⟨checked, hchecked⟩ : ∃ symbol, y.validated s = .ok symbol :=
      exists_constrained hm hs (htypes s hs)
    obtain ⟨surface, hsurface⟩ := exists_surface hm hs (htypes s hs)
    exact ⟨_, Except.bind_eq_ok_iff.2 ⟨checked, hchecked,
      Except.bind_eq_ok_iff.2 ⟨surface, hsurface, rfl⟩⟩⟩
  · exact ⟨_, rfl⟩

end

end Shapesmith.Symbols
