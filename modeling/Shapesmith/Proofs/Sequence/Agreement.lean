import Shapesmith.Proofs.Sequence.Success

/-!
# Runs that agree

Two runs agree when both fail with the same error, or both give a result and the results are
related.

* `Except.Agrees` says so for a relation of results;
* `Except.Agrees.bind` : runs that agree can be continued by runs that do;
* `Except.agrees_bind` : so can a run that is the same on both sides;
* `agrees_collect` : rows of runs that agree have results that are related one for one.
-/

namespace Shapesmith

variable {ε α α' β β' : Type} {R : α → α' → Prop} {S : β → β' → Prop}

namespace Except

/-- Both runs fail with the same error, or give results that are related. -/
def Agrees (R : α → α' → Prop) : Except ε α → Except ε α' → Prop
  | .ok a, .ok a' => R a a'
  | .error e, .error e' => e = e'
  | _, _ => False

theorem agrees_ok_iff {x : Except ε α} {a' : α'} :
    Agrees R x (.ok a') ↔ ∃ a, x = .ok a ∧ R a a' := by
  cases x <;> simp [Agrees]

theorem agrees_error_iff {x : Except ε α} {e : ε} : Agrees R x (.error e) ↔ x = .error e := by
  cases x <;> simp [Agrees]

theorem agrees_of_ok {x : Except ε α} {x' : Except ε α'} {a : α} {a' : α'} (hx : x = .ok a)
    (hx' : x' = .ok a') (h : R a a') : Agrees R x x' := by
  rw [hx, hx']
  exact h

/-- Runs that agree go on to agree. -/
theorem Agrees.bind {x : Except ε α} {x' : Except ε α'} (h : Agrees R x x')
    {f : α → Except ε β} {f' : α' → Except ε β'} (hf : ∀ a a', R a a' → Agrees S (f a) (f' a')) :
    Agrees S (x >>= f) (x' >>= f') := by
  cases x' with
  | ok a' =>
    obtain ⟨a, rfl, hr⟩ := agrees_ok_iff.1 h
    exact hf a a' hr
  | error e =>
    obtain rfl := agrees_error_iff.1 h
    exact (rfl : e = e)

/-- A run can be continued in two ways that agree on its result. -/
theorem agrees_bind {x : Except ε α} {f : α → Except ε β} {f' : α → Except ε β'}
    (hf : ∀ a, x = .ok a → Agrees S (f a) (f' a)) : Agrees S (x >>= f) (x >>= f') := by
  cases x with
  | ok a => exact hf a rfl
  | error e => exact (rfl : e = e)

end Except

/-- Rows of runs that agree have results that are related one for one. -/
theorem agrees_collect {γ : Type} {step : γ → Except ε α} {step' : γ → Except ε α'} {cs : List γ}
    (h : ∀ c ∈ cs, Except.Agrees R (step c) (step' c)) :
    Except.Agrees (List.Forall₂ R) (collect step cs) (collect step' cs) := by
  induction cs with
  | nil => exact .nil
  | cons c cs ih =>
    have hrest := ih fun d hd => h d (List.mem_cons_of_mem _ hd)
    rw [collect, collect]
    refine (h c List.mem_cons_self).bind fun a a' hr => hrest.bind fun as as' hrs => ?_
    exact .cons hr hrs

end Shapesmith
