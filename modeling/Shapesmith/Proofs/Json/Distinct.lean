import Shapesmith.Json.Read
import Shapesmith.Proofs.Table.Keys

/-!
# Values whose objects give each key once

`Json` can write an object that gives a key twice; a value that has been read never holds one.

* `Json.Distinct` says that every object of a tree gives each key once;
* `Json.distinct_unique` : `Json.unique` makes a tree distinct, and so are the values that
  `Json.ofText` and `Json.fieldsOfText` read.
-/

namespace Shapesmith.Json

mutual

/-- Every object of the tree gives each key once. -/
def Distinct : Json → Prop
  | .arr items => DistinctItems items
  | .obj fields => (Table.keys fields).Nodup ∧ DistinctFields fields
  | _ => True

/-- Every item is distinct. -/
def DistinctItems : List Json → Prop
  | [] => True
  | x :: xs => Distinct x ∧ DistinctItems xs

/-- Every member's value is distinct. -/
def DistinctFields : List (String × Json) → Prop
  | [] => True
  | (_, x) :: xs => Distinct x ∧ DistinctFields xs

end

mutual

/-- Decides whether every object gives each key once. -/
def decDistinct : (j : Json) → Decidable j.Distinct
  | .arr items => by
    have := decDistinctItems items
    unfold Distinct
    infer_instance
  | .obj fields => by
    have := decDistinctFields fields
    unfold Distinct
    infer_instance
  | .null | .bool _ | .num _ | .str _ => by
    unfold Distinct
    infer_instance

/-- Decides whether every item is distinct. -/
def decDistinctItems : (items : List Json) → Decidable (DistinctItems items)
  | [] => isTrue trivial
  | x :: xs =>
    match decDistinct x, decDistinctItems xs with
    | isTrue h, isTrue hs => isTrue ⟨h, hs⟩
    | isFalse h, _ => isFalse fun hs => h hs.1
    | _, isFalse h => isFalse fun hs => h hs.2

/-- Decides whether every member's value is distinct. -/
def decDistinctFields : (fields : List (String × Json)) → Decidable (DistinctFields fields)
  | [] => isTrue trivial
  | (_, x) :: xs =>
    match decDistinct x, decDistinctFields xs with
    | isTrue h, isTrue hs => isTrue ⟨h, hs⟩
    | isFalse h, _ => isFalse fun hs => h hs.1
    | _, isFalse h => isFalse fun hs => h hs.2

end

instance : DecidablePred Distinct := decDistinct

theorem distinctItems_iff {items : List Json} :
    DistinctItems items ↔ ∀ x ∈ items, x.Distinct := by
  induction items with
  | nil => simp [DistinctItems]
  | cons x xs ih => simp [DistinctItems, ih]

theorem distinctFields_iff {fields : List (String × Json)} :
    DistinctFields fields ↔ ∀ e ∈ fields, e.2.Distinct := by
  induction fields with
  | nil => simp [DistinctFields]
  | cons e es ih => simp only [DistinctFields, ih, List.forall_mem_cons]

theorem distinct_arr_iff {items : List Json} :
    (arr items).Distinct ↔ ∀ x ∈ items, x.Distinct := by
  rw [Distinct, distinctItems_iff]

theorem distinct_obj_iff {fields : List (String × Json)} :
    (obj fields).Distinct ↔ (Table.keys fields).Nodup ∧ ∀ e ∈ fields, e.2.Distinct := by
  rw [Distinct, distinctFields_iff]

@[simp] theorem distinct_str (text : String) : (str text).Distinct := trivial

mutual

/-- A tree made unique is distinct. -/
theorem distinct_unique : (j : Json) → j.unique.Distinct
  | .arr items => distinct_arr_iff.2 (distinct_uniqueItems items)
  | .obj fields => distinct_obj_iff.2 ⟨Table.nodup_keys_ofEntries _, fun e he =>
      distinct_uniqueFields fields e (Table.mem_of_mem_ofEntries he)⟩
  | .null | .bool _ | .num _ | .str _ => trivial

/-- Items made unique are distinct. -/
theorem distinct_uniqueItems : (items : List Json) → ∀ x ∈ uniqueItems items, x.Distinct
  | [] => by simp [uniqueItems]
  | x :: xs => by
    simp only [uniqueItems, List.forall_mem_cons]
    exact ⟨distinct_unique x, distinct_uniqueItems xs⟩

/-- Members made unique are distinct. -/
theorem distinct_uniqueFields :
    (fields : List (String × Json)) → ∀ e ∈ uniqueFields fields, e.2.Distinct
  | [] => by simp [uniqueFields]
  | (_, x) :: xs => by
    simp only [uniqueFields, List.forall_mem_cons]
    exact ⟨distinct_unique x, distinct_uniqueFields xs⟩

end

/-- A refusal gives nothing. -/
theorem refuseNext_ne_ok {α : Type} (expected : String) (text : List Char) (a : α) :
    refuseNext expected text ≠ .ok a := by
  intro h
  unfold refuseNext at h
  split at h
  · cases h
  · cases h
  · cases h
  · rename_i c rest _ _ _
    cases hr : readScalar c rest with
    | error f => rw [hr] at h; cases h
    | ok r => rw [hr] at h; cases h

/-- A value that was read is distinct. -/
theorem distinct_of_ofText {source : String} {j : Json} (h : ofText source = .ok j) :
    j.Distinct := by
  simp only [ofText] at h
  cases hr : readWhole depthLimit source.toList with
  | error f => rw [hr] at h; cases h
  | ok r =>
    rw [hr] at h
    cases h
    exact distinct_unique r.1

/-- An object that was read is distinct. -/
theorem distinct_of_fieldsOfText {source : String} {fields : List (String × Json)}
    (h : fieldsOfText source = .ok fields) : (obj fields).Distinct := by
  simp only [fieldsOfText] at h
  split at h
  · cases hr : readWhole depthLimit source.toList with
    | error f => rw [hr] at h; cases h
    | ok r =>
      rw [hr] at h
      have hd := distinct_unique r.1
      cases hu : r.1.unique with
      | obj fields' =>
        simp only [bind, Except.bind, hu] at h
        cases h
        rwa [hu] at hd
      | null | bool | num | str | arr =>
        simp only [bind, Except.bind, hu] at h
        cases h
        exact distinct_obj_iff.2 ⟨List.nodup_nil, by simp⟩
  · exact absurd h (refuseNext_ne_ok _ _ _)

end Shapesmith.Json
