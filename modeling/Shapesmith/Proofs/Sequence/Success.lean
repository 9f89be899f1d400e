import Mathlib.Data.List.Forall2
import Shapesmith.Sequence

/-!
# When steps in a row go well

* `Except.bind_eq_ok_iff` and `Except.map_eq_ok_iff` take a chain of steps that may fail apart;
* `collect_eq_ok_iff` : a row of steps gives the results of its steps, one for one;
* `collect_isOk_iff` : it goes well when each of its steps does.
-/

namespace Shapesmith

variable {ε α β : Type}

namespace Except

theorem bind_eq_ok_iff {x : Except ε α} {f : α → Except ε β} {b : β} :
    (x >>= f) = .ok b ↔ ∃ a, x = .ok a ∧ f a = .ok b := by
  cases x with
  | error e =>
    constructor
    · intro h; cases h
    · rintro ⟨a, h, -⟩; cases h
  | ok a =>
    constructor
    · intro h; exact ⟨a, rfl, h⟩
    · rintro ⟨a', h, hf⟩
      cases h
      exact hf

theorem map_eq_ok_iff {x : Except ε α} {f : α → β} {b : β} :
    x.map f = .ok b ↔ ∃ a, x = .ok a ∧ f a = b := by
  cases x with
  | error e =>
    constructor
    · intro h; cases h
    · rintro ⟨a, h, -⟩; cases h
  | ok a => simp [Except.map]

theorem pure_eq_ok_iff {a b : α} : (pure a : Except ε α) = .ok b ↔ a = b := by
  simp [pure, Except.pure]

end Except

/-- A row of steps gives the results of its steps, one for one. -/
theorem collect_eq_ok_iff {step : α → Except ε β} {as : List α} {bs : List β} :
    collect step as = .ok bs ↔ List.Forall₂ (fun a b => step a = .ok b) as bs := by
  induction as generalizing bs with
  | nil =>
    rw [List.forall₂_nil_left_iff, collect, Except.ok.injEq, eq_comm]
  | cons a as ih =>
    rw [collect, Except.bind_eq_ok_iff, List.forall₂_cons_left_iff]
    simp only [Except.bind_eq_ok_iff, Except.pure_eq_ok_iff, ih]
    constructor
    · rintro ⟨b, hb, bs', hbs, rfl⟩
      exact ⟨b, bs', hb, hbs, rfl⟩
    · rintro ⟨b, bs', hb, hbs, rfl⟩
      exact ⟨b, hb, bs', hbs, rfl⟩

/-- Each result comes from a step. -/
theorem exists_of_mem_collect {step : α → Except ε β} {as : List α} {bs : List β}
    (h : collect step as = .ok bs) {b : β} (hb : b ∈ bs) : ∃ a ∈ as, step a = .ok b := by
  have hall := collect_eq_ok_iff.1 h
  clear h
  induction hall with
  | nil => cases hb
  | cons hab _ ih =>
    rcases List.mem_cons.1 hb with rfl | hb
    · exact ⟨_, List.mem_cons_self, hab⟩
    · obtain ⟨a, ha, hs⟩ := ih hb
      exact ⟨a, List.mem_cons_of_mem _ ha, hs⟩

/-- Each step has its result. -/
theorem exists_mem_collect {step : α → Except ε β} {as : List α} {bs : List β}
    (h : collect step as = .ok bs) {a : α} (ha : a ∈ as) : ∃ b ∈ bs, step a = .ok b := by
  have hall := collect_eq_ok_iff.1 h
  clear h
  induction hall with
  | nil => cases ha
  | cons hab _ ih =>
    rcases List.mem_cons.1 ha with rfl | ha
    · exact ⟨_, List.mem_cons_self, hab⟩
    · obtain ⟨b, hb, hs⟩ := ih ha
      exact ⟨b, List.mem_cons_of_mem _ hb, hs⟩

/-- A row of steps goes well when each of them does. -/
theorem collect_isOk_iff {step : α → Except ε β} {as : List α} :
    (∃ bs, collect step as = .ok bs) ↔ ∀ a ∈ as, ∃ b, step a = .ok b := by
  constructor
  · rintro ⟨bs, h⟩ a ha
    obtain ⟨b, -, hb⟩ := exists_mem_collect h ha
    exact ⟨b, hb⟩
  · intro h
    induction as with
    | nil => exact ⟨[], rfl⟩
    | cons a as ih =>
      obtain ⟨b, hb⟩ := h a List.mem_cons_self
      obtain ⟨bs, hbs⟩ := ih fun a' ha' => h a' (List.mem_cons_of_mem _ ha')
      exact ⟨b :: bs, Except.bind_eq_ok_iff.2 ⟨b, hb, Except.bind_eq_ok_iff.2 ⟨bs, hbs, rfl⟩⟩⟩

/-- Steps that keep a key keep the keys in a row. -/
theorem map_eq_of_collect {κ : Type} {step : α → Except ε β} {key : α → κ} {key' : β → κ}
    (hkey : ∀ a b, step a = .ok b → key' b = key a) {as : List α} {bs : List β}
    (h : collect step as = .ok bs) : bs.map key' = as.map key := by
  have hall := collect_eq_ok_iff.1 h
  clear h
  induction hall with
  | nil => rfl
  | cons hab _ ih => rw [List.map_cons, List.map_cons, hkey _ _ hab, ih]

/-- What is in the results of a row of steps is in the result of one of them. -/
theorem mem_flatten_collect_iff {step : α → Except ε (List β)} {as : List α} {bs : List β}
    (h : (collect step as).map List.flatten = .ok bs) {b : β} :
    b ∈ bs ↔ ∃ a ∈ as, ∃ cs, step a = .ok cs ∧ b ∈ cs := by
  obtain ⟨css, hcss, rfl⟩ := Except.map_eq_ok_iff.1 h
  rw [List.mem_flatten]
  constructor
  · rintro ⟨cs, hcs, hb⟩
    obtain ⟨a, ha, hstep⟩ := exists_of_mem_collect hcss hcs
    exact ⟨a, ha, cs, hstep, hb⟩
  · rintro ⟨a, ha, cs, hstep, hb⟩
    obtain ⟨cs', hcs', hstep'⟩ := exists_mem_collect hcss ha
    obtain rfl : cs = cs' := Except.ok.inj (hstep.symm.trans hstep')
    exact ⟨cs, hcs', hb⟩

end Shapesmith
