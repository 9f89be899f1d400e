import Mathlib.Data.List.Forall2
import Mathlib.Data.List.Perm.Basic
import Mathlib.Data.List.Nodup
import Shapesmith.Table

/-!
# Tables whose keys are distinct

A table in which every key has one entry is determined by its entries, whatever their order.

* `Table.get?_eq_some_iff` : what is stored under a key is what an entry says;
* `Table.nodup_keys_ofEntries` : a run of `put`s leaves distinct keys;
* `Table.eraseFill_perm` : taking an entry out leaves the others, in some order, so that nothing
  changes for the other keys (`Table.get?_eraseFill_of_ne`).
-/

namespace Shapesmith.Table

variable {κ α β : Type}

theorem mem_keys_of_mem {t : Table κ α} {e : κ × α} (h : e ∈ t) : e.1 ∈ t.keys :=
  List.mem_map_of_mem h

@[simp] theorem keys_cons (e : κ × α) (t : Table κ α) : keys (e :: t) = e.1 :: keys t := rfl

@[simp] theorem keys_nil : keys ([] : Table κ α) = [] := rfl

/-! ### Tables with the same keys -/

theorem length_eq_of_keys_eq {t : Table κ α} {t' : Table κ β}
    (h : Table.keys t' = Table.keys t) : t'.length = t.length := by
  simpa [Table.keys] using congrArg List.length h

theorem exists_getElem?_of_keys_eq {t : Table κ α} {t' : Table κ β}
    (h : Table.keys t' = Table.keys t) {i : Nat} {g : κ × β} (hg : t'[i]? = some g) :
    ∃ f, t[i]? = some f ∧ f.1 = g.1 := by
  have hkey : (Table.keys t)[i]? = some g.1 := by
    rw [← h, Table.keys, List.getElem?_map, hg, Option.map_some]
  rw [Table.keys, List.getElem?_map] at hkey
  exact Option.map_eq_some_iff.1 hkey

theorem keys_eq_of_forall₂ {t : Table κ α} {t' : Table κ β}
    (h : List.Forall₂ (fun f g => g.1 = f.1) t t') : Table.keys t' = Table.keys t := by
  induction h with
  | nil => rfl
  | cons hkey _ ih => rw [keys_cons, keys_cons, hkey, ih]

/-! ### Looking up -/

variable [DecidableEq κ]

theorem mem_of_get? {t : Table κ α} {key : κ} {value : α} (h : t.get? key = some value) :
    (key, value) ∈ t := by
  induction t with
  | nil => cases h
  | cons e t ih =>
    by_cases hk : e.1 = key
    · simp only [get?, hk, if_true, Option.some.injEq] at h
      exact List.mem_cons.2 (.inl (Prod.ext hk.symm h.symm))
    · simp only [get?, hk, if_false] at h
      exact List.mem_cons_of_mem _ (ih h)

theorem get?_of_mem {t : Table κ α} (hn : t.keys.Nodup) {key : κ} {value : α}
    (h : (key, value) ∈ t) : t.get? key = some value := by
  induction t with
  | nil => cases h
  | cons e t ih =>
    rw [keys_cons, List.nodup_cons] at hn
    rcases List.mem_cons.1 h with rfl | h
    · simp [get?]
    · have hk : e.1 ≠ key := fun hk => hn.1 (hk ▸ mem_keys_of_mem h)
      simp only [get?, hk, if_false]
      exact ih hn.2 h

/-- What is stored under a key is what an entry says. -/
theorem get?_eq_some_iff {t : Table κ α} (hn : t.keys.Nodup) {key : κ} {value : α} :
    t.get? key = some value ↔ (key, value) ∈ t :=
  ⟨mem_of_get?, get?_of_mem hn⟩

/-- A key has one value. -/
theorem value_unique {t : Table κ α} (hn : t.keys.Nodup) {key : κ} {a b : α} (ha : (key, a) ∈ t)
    (hb : (key, b) ∈ t) : a = b := by
  rw [← get?_eq_some_iff hn] at ha hb
  exact Option.some.inj (ha.symm.trans hb)

theorem get?_eq_none_iff {t : Table κ α} {key : κ} :
    Table.get? t key = none ↔ key ∉ Table.keys t := by
  rw [← Table.has_iff, Table.has, Bool.not_eq_true, Option.isSome_eq_false_iff,
    Option.isNone_iff_eq_none]

/-! ### Storing -/

theorem has_put_iff {t : Table κ α} {key other : κ} {value : α} :
    (t.put key value).has other = true ↔ t.has other = true ∨ key = other := by
  by_cases h : other = key
  · subst h
    simp [has, get?_put_self]
  · simp [has, get?_put_of_ne t value h, Ne.symm h]

theorem mem_put {t : Table κ α} {key : κ} {value : α} {e : κ × α} (h : e ∈ t.put key value) :
    e ∈ t ∨ e = (key, value) := by
  induction t with
  | nil => exact .inr (List.mem_singleton.1 h)
  | cons f t ih =>
    by_cases hk : f.1 = key
    · simp only [put, hk, if_true, List.mem_cons] at h
      rcases h with h | h
      · exact .inr h
      · exact .inl (List.mem_cons_of_mem _ h)
    · simp only [put, hk, if_false, List.mem_cons] at h
      rcases h with h | h
      · exact .inl (List.mem_cons.2 (.inl h))
      · exact (ih h).imp_left (List.mem_cons_of_mem _)

theorem nodup_keys_put {t : Table κ α} (hn : t.keys.Nodup) (key : κ) (value : α) :
    (t.put key value).keys.Nodup := by
  rw [keys_put]
  split
  · exact hn
  · rename_i h
    exact List.nodup_append.2 ⟨hn, List.nodup_singleton _, by
      rintro a ha b hb rfl
      exact h (List.mem_singleton.1 hb ▸ ha)⟩

/-- What holds of a table and is kept by `put` holds after a run of `put`s. -/
theorem ofEntries_induct {P : Table κ α → Prop} (entries : List (κ × α)) (hnil : P [])
    (hput : ∀ t, P t → ∀ e ∈ entries, P (t.put e.1 e.2)) : P (ofEntries entries) := by
  suffices h : ∀ (es : List (κ × α)) (t : Table κ α), (∀ e ∈ es, e ∈ entries) → P t →
      P (es.foldl (fun t e => t.put e.1 e.2) t) from h entries [] (fun _ => id) hnil
  intro es
  induction es with
  | nil => intro t _ ht; exact ht
  | cons e es ih =>
    intro t hes ht
    exact ih _ (fun f hf => hes f (List.mem_cons_of_mem _ hf))
      (hput t ht e (hes e List.mem_cons_self))

/-- A run of `put`s leaves distinct keys. -/
theorem nodup_keys_ofEntries (entries : List (κ × α)) : (ofEntries entries).keys.Nodup :=
  ofEntries_induct (P := fun t => t.keys.Nodup) entries List.nodup_nil
    fun _ ht e _ => nodup_keys_put ht e.1 e.2

/-- A run of `put`s stores nothing else than it was given. -/
theorem mem_of_mem_ofEntries {entries : List (κ × α)} {e : κ × α} (h : e ∈ ofEntries entries) :
    e ∈ entries := by
  suffices hall : ∀ e ∈ ofEntries entries, e ∈ entries from hall e h
  refine ofEntries_induct (P := fun t => ∀ e ∈ t, e ∈ entries) entries (by simp) ?_
  intro t ht f hf e he
  rcases mem_put he with he | rfl
  · exact ht e he
  · exact hf

/-! ### Taking out -/

/-- Taking an entry out leaves the others, in some order. -/
theorem eraseFill_perm {t : Table κ α} (hn : t.keys.Nodup) (key : κ) :
    (t.eraseFill key).Perm (t.filter fun e => e.1 ≠ key) := by
  induction t with
  | nil => exact .refl _
  | cons e t ih =>
    rw [keys_cons, List.nodup_cons] at hn
    by_cases hk : e.1 = key
    · have hrest : (t.filter fun e => e.1 ≠ key) = t := by
        refine List.filter_eq_self.2 fun f hf => ?_
        simp only [decide_eq_true_eq]
        rintro rfl
        exact hn.1 (hk ▸ mem_keys_of_mem hf)
      rw [List.filter_cons_of_neg (by simp [hk]), hrest]
      simp only [eraseFill, hk, if_true]
      cases hl : t.getLast? with
      | none => rw [List.getLast?_eq_none_iff.1 hl]
      | some last =>
        obtain ⟨init, rfl⟩ := List.getLast?_eq_some_iff.1 hl
        rw [List.dropLast_concat]
        exact (List.perm_append_singleton last init).symm
    · rw [List.filter_cons_of_pos (by simpa using hk)]
      simp only [eraseFill, hk, if_false]
      exact (ih hn.2).cons e

theorem nodup_keys_eraseFill {t : Table κ α} (hn : t.keys.Nodup) (key : κ) :
    (t.eraseFill key).keys.Nodup :=
  ((eraseFill_perm hn key).map _).nodup_iff.2 ((List.filter_sublist.map _).nodup hn)

theorem mem_keys_eraseFill {t : Table κ α} (hn : t.keys.Nodup) {key other : κ} :
    other ∈ (t.eraseFill key).keys ↔ other ∈ t.keys ∧ other ≠ key := by
  rw [keys, ((eraseFill_perm hn key).map _).mem_iff]
  simp only [keys, List.mem_map, List.mem_filter, decide_eq_true_eq]
  constructor
  · rintro ⟨e, ⟨he, hk⟩, rfl⟩
    exact ⟨⟨e, he, rfl⟩, hk⟩
  · rintro ⟨⟨e, he, rfl⟩, hk⟩
    exact ⟨e, ⟨he, hk⟩, rfl⟩

/-- Taking an entry out changes nothing for the other keys. -/
theorem get?_eraseFill_of_ne {t : Table κ α} (hn : t.keys.Nodup) {key other : κ}
    (h : other ≠ key) : (t.eraseFill key).get? other = t.get? other := by
  ext value
  rw [get?_eq_some_iff (nodup_keys_eraseFill hn key), get?_eq_some_iff hn,
    (eraseFill_perm hn key).mem_iff, List.mem_filter]
  simp [h]

end Shapesmith.Table
