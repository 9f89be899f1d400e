import Shapesmith.Evaluate

/-!
# Chains of verdicts

Verdicts are chained like steps that may fail and that write a report on the way.

* `Verdict` is a lawful monad; `Verdict.forget` keeps the report and drops the value;
* `Verdict.forM_outcome_iff` : a row of verdicts goes well when each of them does, and then its
  report is the concatenation of theirs (`Verdict.forM_violations`);
* `Verdict.exists_of_forM_error` : a misfit of a row is the misfit of one of them.
-/

namespace Shapesmith.Verdict

variable {α β γ : Type}

theorem bind_def (x : Verdict α) (f : α → Verdict β) :
    x >>= f = match x.outcome with
      | .error e => ⟨x.violations, .error e⟩
      | .ok a => ⟨x.violations ++ (f a).violations, (f a).outcome⟩ := rfl

theorem ok_eq_pure (a : α) : (ok a : Verdict α) = pure a := rfl

theorem map_ok (f : α → β) (vs : Violations) (a : α) :
    f <$> (⟨vs, .ok a⟩ : Verdict α) = ⟨vs, .ok (f a)⟩ := by
  change (⟨vs ++ [], _⟩ : Verdict β) = _
  rw [List.append_nil]
  rfl

theorem map_id' (x : Verdict α) : id <$> x = x := by
  obtain ⟨vs, e | a⟩ := x
  · rfl
  · exact map_ok id vs a

theorem bind_bind (x : Verdict α) (f : α → Verdict β) (g : β → Verdict γ) :
    x >>= f >>= g = x >>= fun a => f a >>= g := by
  obtain ⟨vs, e | a⟩ := x
  · rfl
  · cases hf : (f a).outcome <;> simp [bind_def, hf, List.append_assoc]

instance : LawfulMonad Verdict := LawfulMonad.mk' Verdict map_id' (fun _ _ => rfl) bind_bind

/-- The report without the value. -/
def forget (x : Verdict α) : Verdict Unit := (fun _ => ()) <$> x

theorem forget_outcome (x : Verdict α) : x.forget.outcome = x.outcome.map fun _ => () := by
  obtain ⟨vs, e | a⟩ := x <;> rfl

@[simp] theorem forget_violations (x : Verdict α) : x.forget.violations = x.violations := by
  obtain ⟨vs, e | a⟩ := x
  · rfl
  · exact List.append_nil _

theorem forget_outcome_eq_error_iff {x : Verdict α} {e : Misfit} :
    x.forget.outcome = .error e ↔ x.outcome = .error e := by
  obtain ⟨vs, e | a⟩ := x <;> simp [forget_outcome, Except.map]

theorem forget_outcome_eq_ok_iff {x : Verdict α} :
    x.forget.outcome = .ok () ↔ ∃ a, x.outcome = .ok a := by
  obtain ⟨vs, e | a⟩ := x <;> simp [forget_outcome, Except.map]

@[simp] theorem forget_pure (a : α) : (pure a : Verdict α).forget = pure () := rfl

@[simp] theorem forget_map (f : α → β) (x : Verdict α) : (f <$> x).forget = x.forget := by
  rw [forget, forget, Functor.map_map]

@[simp] theorem forget_bind (x : Verdict α) (f : α → Verdict β) :
    (x >>= f).forget = x >>= fun a => (f a).forget := by
  simp only [forget, map_bind]

@[simp] theorem forget_unit (x : Verdict Unit) : x.forget = x := id_map x

/-- A value that is not looked at can be forgotten. -/
theorem bind_const (x : Verdict α) (y : Verdict β) :
    (x >>= fun _ => y) = x.forget >>= fun _ => y := by
  rw [forget, bind_map_left]

theorem bind_outcome_eq_ok_iff {x : Verdict α} {f : α → Verdict β} {b : β} :
    (x >>= f).outcome = .ok b ↔ ∃ a, x.outcome = .ok a ∧ (f a).outcome = .ok b := by
  obtain ⟨vs, e | a⟩ := x <;> simp

theorem bind_outcome_eq_error_iff {x : Verdict α} {f : α → Verdict β} {e : Misfit} :
    (x >>= f).outcome = .error e ↔
      x.outcome = .error e ∨ ∃ a, x.outcome = .ok a ∧ (f a).outcome = .error e := by
  obtain ⟨vs, e | a⟩ := x <;> simp

theorem bind_violations {x : Verdict α} {f : α → Verdict β} {a : α} (h : x.outcome = .ok a) :
    (x >>= f).violations = x.violations ++ (f a).violations := by
  obtain ⟨vs, e | a'⟩ := x
  · cases h
  · obtain rfl : a' = a := Except.ok.inj h
    rfl

/-- What is reported on the way is reported by one of the steps. -/
theorem mem_bind_violations {x : Verdict α} {f : α → Verdict β} {w : Violation}
    (h : w ∈ (x >>= f).violations) :
    w ∈ x.violations ∨ ∃ a, x.outcome = .ok a ∧ w ∈ (f a).violations := by
  obtain ⟨vs, e | a⟩ := x
  · exact .inl h
  · exact (List.mem_append.1 h).imp_right fun h => ⟨a, rfl, h⟩

/-! ### Rows -/

theorem forM_flatMap (l : List α) (g : α → List β) (f : β → Verdict Unit) :
    forM (l.flatMap g) f = forM l fun a => forM (g a) f := by
  induction l with
  | nil => rfl
  | cons a l ih => rw [List.flatMap_cons, List.forM_append, List.forM_cons, ih]

variable {f g : α → Verdict Unit} {l : List α}

theorem forM_congr (h : ∀ a ∈ l, f a = g a) : forM l f = forM l g := by
  induction l with
  | nil => rfl
  | cons a l ih =>
    rw [List.forM_cons, List.forM_cons, h a List.mem_cons_self,
      ih fun b hb => h b (List.mem_cons_of_mem _ hb)]

/-- A row goes well when each of its steps does. -/
theorem forM_outcome_iff : (forM l f).outcome = .ok () ↔ ∀ a ∈ l, (f a).outcome = .ok () := by
  induction l with
  | nil => simp
  | cons a l ih =>
    rw [List.forM_cons, bind_outcome_eq_ok_iff, List.forall_mem_cons, ih]
    constructor
    · rintro ⟨_, h, hl⟩
      exact ⟨h, hl⟩
    · rintro ⟨h, hl⟩
      exact ⟨(), h, hl⟩

/-- The report of a row that goes well. -/
theorem forM_violations (h : (forM l f).outcome = .ok ()) :
    (forM l f).violations = l.flatMap fun a => (f a).violations := by
  induction l with
  | nil => rfl
  | cons a l ih =>
    rw [List.forM_cons] at h ⊢
    obtain ⟨_, ha, hl⟩ := bind_outcome_eq_ok_iff.1 h
    rw [bind_violations ha, ih hl, List.flatMap_cons]

/-- A misfit of a row is the misfit of one of its steps. -/
theorem exists_of_forM_error {e : Misfit} (h : (forM l f).outcome = .error e) :
    ∃ a ∈ l, (f a).outcome = .error e := by
  induction l with
  | nil => simp at h
  | cons a l ih =>
    rw [List.forM_cons] at h
    rcases bind_outcome_eq_error_iff.1 h with h | ⟨_, -, h⟩
    · exact ⟨a, List.mem_cons_self, h⟩
    · obtain ⟨b, hb, hf⟩ := ih h
      exact ⟨b, List.mem_cons_of_mem _ hb, hf⟩

/-- What a row reports is reported by one of its steps, also when the row does not go well. -/
theorem exists_of_mem_forM {w : Violation} (h : w ∈ (forM l f).violations) :
    ∃ a ∈ l, w ∈ (f a).violations := by
  induction l with
  | nil => cases h
  | cons a l ih =>
    rw [List.forM_cons] at h
    rcases mem_bind_violations h with h | ⟨_, -, h⟩
    · exact ⟨a, List.mem_cons_self, h⟩
    · obtain ⟨b, hb, hf⟩ := ih h
      exact ⟨b, List.mem_cons_of_mem _ hb, hf⟩

end Shapesmith.Verdict
