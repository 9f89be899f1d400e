import Mathlib.Data.List.Forall2
import Mathlib.Data.List.Nodup

/-!
# Lists place by place

* `forall₂_iff_getElem?` : two lists correspond when what they have at each place does;
* `eq_of_sublist_of_mem_iff` : a part of a list without repetitions is determined by its elements.
-/

namespace Shapesmith

variable {α β : Type}

/-- Two lists correspond when they are of the same length and what they have at each place does. -/
theorem forall₂_iff_getElem? {R : α → β → Prop} {as : List α} {bs : List β} :
    List.Forall₂ R as bs ↔ bs.length = as.length ∧
      ∀ (i : Nat) (a : α) (b : β), as[i]? = some a → bs[i]? = some b → R a b := by
  constructor
  · intro h
    refine ⟨h.length_eq.symm, fun i a b ha hb => ?_⟩
    obtain ⟨hi, rfl⟩ := List.getElem?_eq_some_iff.1 ha
    obtain ⟨hi', rfl⟩ := List.getElem?_eq_some_iff.1 hb
    exact h.get hi hi'
  · rintro ⟨hlen, h⟩
    refine List.forall₂_iff_get.2 ⟨hlen.symm, fun i hi hi' => ?_⟩
    exact h i _ _ (List.getElem?_eq_getElem hi) (List.getElem?_eq_getElem hi')

theorem eq_of_getElem? {as bs : List α} (hlength : bs.length = as.length)
    (h : ∀ (i : Nat) (a b : α), as[i]? = some a → bs[i]? = some b → a = b) : as = bs := by
  rw [← List.forall₂_eq_eq_eq]
  exact forall₂_iff_getElem?.2 ⟨hlength, h⟩

theorem exists_getElem?_of_length_eq {as : List α} {bs : List β}
    (h : bs.length = as.length) {i : Nat} {b : β} (hb : bs[i]? = some b) :
    ∃ a, as[i]? = some a := by
  obtain ⟨hi, -⟩ := List.getElem?_eq_some_iff.1 hb
  exact ⟨_, List.getElem?_eq_getElem (h ▸ hi)⟩

/-- Two parts of a list without repetitions that have the same elements are equal. -/
theorem eq_of_sublist_of_mem_iff {l as bs : List α} (hn : l.Nodup) (ha : as.Sublist l)
    (hb : bs.Sublist l) (h : ∀ a ∈ l, a ∈ as ↔ a ∈ bs) : as = bs := by
  induction l generalizing as bs with
  | nil => rw [List.sublist_nil.1 ha, List.sublist_nil.1 hb]
  | cons c l ih =>
    rw [List.nodup_cons] at hn
    have hc := h c List.mem_cons_self
    have htail {a : α} (hal : a ∈ l) := h a (List.mem_cons_of_mem _ hal)
    rcases List.sublist_cons_iff.1 ha with hal | ⟨as', rfl, hal⟩ <;>
      rcases List.sublist_cons_iff.1 hb with hbl | ⟨bs', rfl, hbl⟩
    · exact ih hn.2 hal hbl fun a hal => htail hal
    · exact absurd (hal.subset (hc.2 List.mem_cons_self)) hn.1
    · exact absurd (hbl.subset (hc.1 List.mem_cons_self)) hn.1
    · refine congrArg (c :: ·) (ih hn.2 hal hbl fun a hal => ?_)
      have hne : a ≠ c := fun heq => hn.1 (heq ▸ hal)
      simpa only [List.mem_cons, hne, false_or] using htail hal

end Shapesmith
