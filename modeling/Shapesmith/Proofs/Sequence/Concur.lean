import Shapesmith.Proofs.Sequence.Success

/-!
# Runs that cannot differ

Two runs concur when they have the same result if both have one. Unlike runs that agree, one of them
may fail where the other does not.

* `Option.Concur`, `Except.Concur` say so for lookups and for runs;
* `Except.Concur.bind` : runs that concur can be continued by runs that do;
* `concur_collect` : rows of runs that concur have the same results.
-/

namespace Shapesmith

variable {ε α β : Type}

namespace Option

/-- If both lookups find something, they find the same. -/
def Concur (x x' : Option α) : Prop := ∀ a a', x = some a → x' = some a' → a' = a

theorem concur_refl (x : Option α) : Concur x x :=
  fun _ _ h h' => Option.some.inj (h'.symm.trans h)

theorem Concur.map {x x' : Option α} (h : Concur x x') (f : α → β) :
    Concur (x.map f) (x'.map f) := by
  intro b b' hb hb'
  obtain ⟨a, ha, rfl⟩ := Option.map_eq_some_iff.1 hb
  obtain ⟨a', ha', rfl⟩ := Option.map_eq_some_iff.1 hb'
  rw [h a a' ha ha']

theorem Concur.bind {x x' : Option α} (h : Concur x x') {f f' : α → Option β}
    (hf : ∀ a, Concur (f a) (f' a)) : Concur (x.bind f) (x'.bind f') := by
  intro b b' hb hb'
  obtain ⟨a, ha, hb⟩ := Option.bind_eq_some_iff.1 hb
  obtain ⟨a', ha', hb'⟩ := Option.bind_eq_some_iff.1 hb'
  obtain rfl := h a a' ha ha'
  exact hf a' b b' hb hb'

end Option

namespace Except

/-- If both runs have a result, they have the same. -/
def Concur (x x' : Except ε α) : Prop := ∀ a a', x = .ok a → x' = .ok a' → a' = a

theorem concur_refl (x : Except ε α) : Concur x x :=
  fun _ _ h h' => Except.ok.inj (h'.symm.trans h)

theorem Concur.map {x x' : Except ε α} (h : Concur x x') (f : α → β) :
    Concur (x.map f) (x'.map f) := by
  intro b b' hb hb'
  obtain ⟨a, ha, rfl⟩ := map_eq_ok_iff.1 hb
  obtain ⟨a', ha', rfl⟩ := map_eq_ok_iff.1 hb'
  rw [h a a' ha ha']

/-- Runs that concur go on to concur. -/
theorem Concur.bind {x x' : Except ε α} (h : Concur x x') {f f' : α → Except ε β}
    (hf : ∀ a, Concur (f a) (f' a)) : Concur (x >>= f) (x' >>= f') := by
  intro b b' hb hb'
  obtain ⟨a, ha, hb⟩ := bind_eq_ok_iff.1 hb
  obtain ⟨a', ha', hb'⟩ := bind_eq_ok_iff.1 hb'
  obtain rfl := h a a' ha ha'
  exact hf a' b b' hb hb'

end Except

/-- Rows of runs that concur have the same results. -/
theorem concur_collect {step step' : α → Except ε β} {as : List α}
    (h : ∀ a ∈ as, Except.Concur (step a) (step' a)) :
    Except.Concur (collect step as) (collect step' as) := by
  induction as with
  | nil => exact Except.concur_refl _
  | cons a as ih =>
    have hrest := ih fun b hb => h b (List.mem_cons_of_mem _ hb)
    rw [collect, collect]
    exact (h a List.mem_cons_self).bind fun b => hrest.bind fun bs => Except.concur_refl _

end Shapesmith
