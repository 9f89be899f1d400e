import Mathlib.Data.List.Perm.Subperm
import Shapesmith.Proofs.Json.Distinct
import Shapesmith.Proofs.Json.Subtrees

/-!
# Equality of JSON values is an equivalence

`Json.same` compares objects by looking the members of one up in the other. That is an equivalence
as long as every object gives each key once.

* `Table.Agree` says that tables store related values under the same keys, and `Table.agree_iff`
  that entries of one table found in another of the same length are enough for it;
* `Json.induct` is induction over a tree;
* `Json.same_refl`, `Json.same_symm`, `Json.same_trans` : equality of values is an equivalence.
-/

namespace Shapesmith

namespace Table

variable {κ α : Type} [DecidableEq κ] {R S T : α → α → Prop} {a b c : Table κ α}

/-- The tables store related values under the same keys. -/
structure Agree (R : α → α → Prop) (a b : Table κ α) : Prop where
  /-- What the first stores, the second stores. -/
  left : ∀ key v, a.get? key = some v → ∃ w, b.get? key = some w ∧ R v w
  /-- What the second stores, the first stores. -/
  right : ∀ key w, b.get? key = some w → ∃ v, a.get? key = some v ∧ R v w

theorem exists_get?_iff {key : κ} : (∃ v, a.get? key = some v) ↔ key ∈ a.keys := by
  rw [← has_iff, has, Option.isSome_iff_exists]

theorem Agree.keys_perm (ha : a.keys.Nodup) (hb : b.keys.Nodup) (h : Agree R a b) :
    a.keys.Perm b.keys := by
  refine (List.perm_ext_iff_of_nodup ha hb).2 fun key => ?_
  rw [← exists_get?_iff, ← exists_get?_iff]
  constructor
  · rintro ⟨v, hv⟩
    obtain ⟨w, hw, -⟩ := h.left key v hv
    exact ⟨w, hw⟩
  · rintro ⟨w, hw⟩
    obtain ⟨v, hv, -⟩ := h.right key w hw
    exact ⟨v, hv⟩

/-- Tables of one length agree when every entry of one is found in the other. -/
theorem agree_iff (ha : a.keys.Nodup) (hb : b.keys.Nodup) : Agree R a b ↔
    a.length = b.length ∧ ∀ e ∈ a, ∃ w, b.get? e.1 = some w ∧ R e.2 w := by
  constructor
  · intro h
    refine ⟨?_, fun e he => h.left e.1 e.2 (get?_of_mem ha he)⟩
    simpa only [keys, List.length_map] using (h.keys_perm ha hb).length_eq
  · rintro ⟨hlength, hfound⟩
    refine ⟨fun key v hv => hfound _ (mem_of_get? hv), fun key w hw => ?_⟩
    have hsubset : a.keys ⊆ b.keys := by
      intro k hk
      obtain ⟨e, he, rfl⟩ := List.mem_map.1 hk
      obtain ⟨u, hu, -⟩ := hfound e he
      exact exists_get?_iff.1 ⟨u, hu⟩
    -- there is no room for another key among those of the second table
    have hperm : a.keys.Perm b.keys := (List.subperm_of_subset ha hsubset).perm_of_length_le (by
      simp only [keys, List.length_map]
      omega)
    obtain ⟨v, hv⟩ := exists_get?_iff.2 (hperm.mem_iff.2 (exists_get?_iff.1 ⟨w, hw⟩))
    obtain ⟨w', hw', hr⟩ := hfound _ (mem_of_get? hv)
    obtain rfl := Option.some.inj (hw.symm.trans hw')
    exact ⟨v, hv, hr⟩

theorem Agree.refl (h : ∀ e ∈ a, R e.2 e.2) : Agree R a a :=
  ⟨fun _ v hv => ⟨v, hv, h _ (mem_of_get? hv)⟩, fun _ v hv => ⟨v, hv, h _ (mem_of_get? hv)⟩⟩

theorem Agree.symm (h : Agree R a b) (hrs : ∀ e ∈ a, ∀ f ∈ b, R e.2 f.2 → S f.2 e.2) :
    Agree S b a := by
  constructor
  · intro key w hw
    obtain ⟨v, hv, hr⟩ := h.right key w hw
    exact ⟨v, hv, hrs _ (mem_of_get? hv) _ (mem_of_get? hw) hr⟩
  · intro key v hv
    obtain ⟨w, hw, hr⟩ := h.left key v hv
    exact ⟨w, hw, hrs _ (mem_of_get? hv) _ (mem_of_get? hw) hr⟩

theorem Agree.trans (hab : Agree R a b) (hbc : Agree S b c)
    (ht : ∀ e ∈ a, ∀ f ∈ b, ∀ g ∈ c, R e.2 f.2 → S f.2 g.2 → T e.2 g.2) : Agree T a c := by
  constructor
  · intro key v hv
    obtain ⟨w, hw, hr⟩ := hab.left key v hv
    obtain ⟨u, hu, hs⟩ := hbc.left key w hw
    exact ⟨u, hu, ht _ (mem_of_get? hv) _ (mem_of_get? hw) _ (mem_of_get? hu) hr hs⟩
  · intro key u hu
    obtain ⟨w, hw, hs⟩ := hbc.right key u hu
    obtain ⟨v, hv, hr⟩ := hab.right key w hw
    exact ⟨v, hv, ht _ (mem_of_get? hv) _ (mem_of_get? hw) _ (mem_of_get? hu) hr hs⟩

end Table

/-! ### Numbers -/

namespace Number

theorem same_refl (n : Number) : n.same n = true := by
  cases n <;> simp [same]

theorem same_symm {m n : Number} (h : m.same n = true) : n.same m = true := by
  cases m <;> cases n <;> simp_all [same]

theorem same_trans {m n k : Number} (hmn : m.same n = true) (hnk : n.same k = true) :
    m.same k = true := by
  cases m <;> cases n <;> cases k <;> simp_all [same]

end Number

namespace Json

/-- Induction over a tree. -/
theorem induct {P : Json → Prop} (null : P .null) (bool : ∀ b, P (.bool b)) (num : ∀ n, P (.num n))
    (str : ∀ t, P (.str t)) (arr : ∀ items, (∀ x ∈ items, P x) → P (.arr items))
    (obj : ∀ fields, (∀ e ∈ fields, P e.2) → P (.obj fields)) (j : Json) : P j := by
  induction hn : j.nodes using Nat.strongRecOn generalizing j with
  | _ n ih =>
    subst hn
    cases j with
    | null => exact null
    | bool b => exact bool b
    | num n => exact num n
    | str t => exact str t
    | arr items =>
      refine arr items fun x hx => ih x.nodes ?_ x rfl
      have := nodes_le_of_mem_items hx
      rw [nodes]
      omega
    | obj fields =>
      refine obj fields fun e he => ih e.2.nodes ?_ e.2 rfl
      have := nodes_le_of_mem_fields he
      rw [nodes]
      omega

/-! ### Comparing -/

theorem sameItems_iff {as bs : List Json} :
    sameItems as bs = true ↔ List.Forall₂ (fun a b => same a b = true) as bs := by
  induction as generalizing bs with
  | nil => cases bs <;> simp [sameItems]
  | cons a as ih => cases bs <;> simp [sameItems, ih]

theorem sameFields_iff {as bs : List (String × Json)} :
    sameFields as bs = true ↔ ∀ e ∈ as, ∃ v, Table.get? bs e.1 = some v ∧ same e.2 v = true := by
  induction as with
  | nil => simp [sameFields]
  | cons e as ih =>
    obtain ⟨key, x⟩ := e
    rw [sameFields, Bool.and_eq_true, ih, List.forall_mem_cons]
    cases Table.get? bs key <;> simp

theorem same_arr_iff {as bs : List Json} :
    same (.arr as) (.arr bs) = true ↔ List.Forall₂ (fun a b => same a b = true) as bs := by
  rw [same, sameItems_iff]

/-- Objects are equal when they have equal values under the same keys. -/
theorem same_obj_iff {as bs : List (String × Json)} (ha : (Table.keys as).Nodup)
    (hb : (Table.keys bs).Nodup) : same (.obj as) (.obj bs) = true ↔
      Table.Agree (fun a b => same a b = true) as bs := by
  rw [same, Bool.and_eq_true, beq_iff_eq, sameFields_iff, Table.agree_iff ha hb]

/-! ### The equivalence -/

theorem same_refl {j : Json} (h : j.Distinct) : j.same j = true := by
  induction j using induct with
  | null => rfl
  | bool b => simp [same]
  | num n => exact n.same_refl
  | str t => simp [same]
  | arr items ih =>
    rw [distinct_arr_iff] at h
    exact same_arr_iff.2 (List.forall₂_same.2 fun x hx => ih x hx (h x hx))
  | obj fields ih =>
    obtain ⟨hkeys, hvalues⟩ := distinct_obj_iff.1 h
    exact (same_obj_iff hkeys hkeys).2 (.refl fun e he => ih e he (hvalues e he))

theorem same_symm {a b : Json} (ha : a.Distinct) (hb : b.Distinct) (h : a.same b = true) :
    b.same a = true := by
  induction a using induct generalizing b with
  | null | bool | str => cases b <;> simp_all [same]
  | num x =>
    cases b with
    | num y => exact Number.same_symm (m := x) h
    | _ => simp [same] at h
  | arr items ih =>
    cases b with
    | arr items' =>
      rw [distinct_arr_iff] at ha hb
      rw [same_arr_iff] at h ⊢
      induction h with
      | nil => exact .nil
      | cons hxy _ ihs =>
        rw [List.forall_mem_cons] at ha hb ih
        exact .cons (ih.1 ha.1 hb.1 hxy) (ihs ih.2 ha.2 hb.2)
    | _ => simp [same] at h
  | obj fields ih =>
    cases b with
    | obj fields' =>
      obtain ⟨hkeys, hvalues⟩ := distinct_obj_iff.1 ha
      obtain ⟨hkeys', hvalues'⟩ := distinct_obj_iff.1 hb
      rw [same_obj_iff hkeys hkeys'] at h
      exact (same_obj_iff hkeys' hkeys).2
        (h.symm fun e he f hf => ih e he (hvalues e he) (hvalues' f hf))
    | _ => simp [same] at h

theorem same_trans {a b c : Json} (ha : a.Distinct) (hb : b.Distinct) (hc : c.Distinct)
    (hab : a.same b = true) (hbc : b.same c = true) : a.same c = true := by
  induction a using induct generalizing b c with
  | null | bool | str => cases b <;> cases c <;> simp_all [same]
  | num x =>
    cases b with
    | num y =>
      cases c with
      | num z => exact Number.same_trans (m := x) (n := y) hab hbc
      | _ => simp [same] at hbc
    | _ => simp [same] at hab
  | arr items ih =>
    cases b with
    | arr items' =>
      cases c with
      | arr items'' =>
        rw [distinct_arr_iff] at ha hb hc
        rw [same_arr_iff] at hab hbc ⊢
        induction hab generalizing items'' with
        | nil => exact hbc
        | cons hxy _ ihs =>
          cases hbc with
          | cons hyz hbc =>
            rw [List.forall_mem_cons] at ha hb hc ih
            exact .cons (ih.1 ha.1 hb.1 hc.1 hxy hyz) (ihs ih.2 ha.2 hb.2 _ hc.2 hbc)
      | _ => simp [same] at hbc
    | _ => simp [same] at hab
  | obj fields ih =>
    cases b with
    | obj fields' =>
      cases c with
      | obj fields'' =>
        obtain ⟨hkeys, hvalues⟩ := distinct_obj_iff.1 ha
        obtain ⟨hkeys', hvalues'⟩ := distinct_obj_iff.1 hb
        obtain ⟨hkeys'', hvalues''⟩ := distinct_obj_iff.1 hc
        rw [same_obj_iff hkeys hkeys'] at hab
        rw [same_obj_iff hkeys' hkeys''] at hbc
        exact (same_obj_iff hkeys hkeys'').2 (hab.trans hbc fun e he f hf g hg =>
          ih e he (hvalues e he) (hvalues' f hf) (hvalues'' g hg))
      | _ => simp [same] at hbc
    | _ => simp [same] at hab

end Json

end Shapesmith
