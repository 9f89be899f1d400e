import Shapesmith.Proofs.Constraint.Accepted
import Shapesmith.Proofs.Evaluation.Becomes

/-!
# Evaluating a result again

In a model that is accepted without tolerance, what an evaluation without violations gives is its
own result.

* `Validator.within_again` : at the same depth, by induction on it. Checks do not notice what an
  evaluation changes, because structures have none;
* `Validator.validate_again` : at the depths that the two values ask for.
-/

namespace Shapesmith.Validator

open Verdict

variable {v : Validator} {s : Shape} {j w : Json} {path : String} {depth : Nat}

theorem violationsOf_eq_nil_iff {checks : List Check} :
    v.violationsOf checks j path = [] ↔ ∀ c ∈ checks, c.evaluate (v.compiledOf c) j = none := by
  simp [violationsOf]

section Accepted

variable {service : Shape} (haccept : v.model.accept service false = .ok ())
include haccept

/-- What becomes of a value passes the checks that the value passes. -/
theorem passes_of_becomes (hs : s ∈ v.model.shapes) (h : v.model.Becomes s j w)
    (ha : s.kind.Accepts j) (hvs : v.violationsOf s.checks j path = []) (path' : String) :
    s.kind.Accepts w ∧ v.violationsOf s.checks w path' = [] := by
  cases hstruct : s.isStruct with
  | true =>
    rw [Model.checks_of_isStruct haccept hs hstruct]
    exact ⟨h.accepts ha, rfl⟩
  | false =>
    have hsize := h.sameSize hstruct
    refine ⟨h.accepts ha, violationsOf_eq_nil_iff.2 fun c hc => ?_⟩
    rw [← Check.evaluate_of_sameSize hsize]
    exact violationsOf_eq_nil_iff.1 hvs c hc

variable (hm : v.model.Sound)
include hm

/-- At the top it is enough that the result passes the checks again. -/
theorem within_again_of_descend (hs : s ∈ v.model.shapes) (hd : j.Distinct)
    (h : v.within depth s j path = pure w) {path' : String}
    (hparts : (v.model.targetOf s).kind.Accepts j →
      v.descend depth (v.model.targetOf s) j path = pure w →
        v.descend depth (v.model.targetOf s) w path' = pure w) :
    v.within depth s w path' = pure w := by
  have hbecomes := becomes_of_within hm hs hd h
  obtain ⟨ha, hvs, h⟩ := within_eq_pure_iff.1 h
  obtain ⟨ha', hvs'⟩ := passes_of_becomes haccept (hm.targetOf_mem hs) hbecomes ha hvs path'
  exact within_eq_pure_iff.2 ⟨ha', hvs', hparts ha h⟩

/-- Below the top, what an evaluation without violations gives is its own result. -/
theorem descend_again {t : Shape} (ht : t ∈ v.model.shapes) (hd : j.Distinct)
    (ha : t.kind.Accepts j) (h : v.descend depth t j path = pure w) (path' : String) :
    v.descend depth t w path' = pure w := by
  induction depth generalizing t j w path path' with
  | zero => cases h
  | succ depth ih =>
    have hmember {e : Shape} (he : e ∈ v.model.membersOf t) : e ∈ v.model.shapes :=
      (hm.mem_membersOf_iff.1 he).1
    have ih {e : Shape} (he : e ∈ v.model.membersOf t) {x y : Json} (hx : x.Distinct)
        {place : String} (h : v.within depth e x place = pure y) (place' : String) :
        v.within depth e y place' = pure y :=
      within_again_of_descend haccept hm (hmember he) hx h fun ha h =>
        ih (hm.targetOf_mem (hmember he)) hx ha h place'
    cases hk : t.kind with
    | simple => exact descend_simple hk w
    | list id =>
      rw [hk] at ha
      obtain - | - := ha
      obtain ⟨e, he, hfind⟩ := hm.find?_item ht hk
      obtain ⟨built, rfl, hlength, hitems⟩ := (descend_list_eq_pure_iff hk hfind).1 h
      refine (descend_list_eq_pure_iff hk hfind).2 ⟨built, rfl, rfl, fun i x y hx hy => ?_⟩
      obtain rfl := Option.some.inj (hx.symm.trans hy)
      obtain ⟨z, hz⟩ := exists_getElem?_of_length_eq hlength hx
      exact ih he (Json.distinct_arr_iff.1 hd z (List.mem_of_getElem? hz))
        (hitems i z x hz hx) _
    | map k u =>
      rw [hk] at ha
      obtain - | - := ha
      obtain ⟨⟨e, he, hfind⟩, e', he', hfind'⟩ := hm.find?_entry ht hk
      obtain ⟨built, rfl, hkeys, hnames, hvalues⟩ :=
        (descend_map_eq_pure_iff hk hfind hfind').1 h
      refine (descend_map_eq_pure_iff hk hfind hfind').2
        ⟨built, rfl, rfl, fun name hname => ?_, fun i f g hf hg => ?_⟩
      · obtain ⟨key, hkey⟩ := hnames name (hkeys ▸ hname)
        have hstr := (becomes_of_within hm (hmember he) (Json.distinct_str name) hkey).eq_of_str
        subst hstr
        exact ⟨_, ih he (Json.distinct_str name) hkey _⟩
      · obtain rfl := Option.some.inj (hf.symm.trans hg)
        obtain ⟨z, hz, -⟩ := Table.exists_getElem?_of_keys_eq hkeys hf
        exact ih he' ((Json.distinct_obj_iff.1 hd).2 z (List.mem_of_getElem? hz))
          (hvalues i z f hz hf) _
    | union ids =>
      rw [hk] at ha
      cases ha with
      | union _ f =>
        have hunion := Shape.isUnion_iff.2 ⟨ids, hk⟩
        obtain ⟨e, he, hname, y, rfl, hy⟩ := (descend_union_eq_pure_iff hm ht hunion).1 h
        have hx := (Json.distinct_obj_iff.1 hd).2 _ List.mem_cons_self
        exact (descend_union_eq_pure_iff hm ht hunion).2
          ⟨e, he, hname, y, rfl, ih he hx hy _⟩
    | struct ids =>
      rw [hk] at ha
      obtain - | - := ha
      have hstruct := Shape.isStruct_iff.2 ⟨ids, hk⟩
      have hkeys := (Json.distinct_obj_iff.1 hd).1
      obtain ⟨built, rfl, hcompletes, hvalues⟩ :=
        (descend_struct_eq_pure_iff hm ht hstruct hkeys).1 h
      have hnull : ∀ name, (name, .null) ∉ built := by
        intro name hmem
        obtain ⟨e, he, rfl, x, hx⟩ := hcompletes.exists_member hmem
        have hbecomes := becomes_of_within hm (hmember he) (hx.distinct hm (hmember he) hd)
          (hvalues e he x _ hx hmem)
        exact hbecomes.ne_null hx.ne_null rfl
      have hnodup := hcompletes.nodup_keys hm ht
      refine (descend_struct_eq_pure_iff hm ht hstruct hnodup).2
        ⟨built, rfl, hcompletes.again hnull, fun e he x y hx hy => ?_⟩
      rw [hcompletes.takes_iff hnull he] at hx
      obtain rfl := Option.some.inj
        ((Table.get?_of_mem hnodup hx).symm.trans (Table.get?_of_mem hnodup hy))
      obtain ⟨z, hz⟩ := (hcompletes.members e he).1 (Table.mem_keys_of_mem hx)
      exact ih he (hz.distinct hm (hmember he) hd) (hvalues e he z x hz hx) _
    | member | operation | service =>
      rw [hk] at ha
      cases ha

/-- What an evaluation without violations gives is its own result. -/
theorem within_again (hs : s ∈ v.model.shapes) (hd : j.Distinct)
    (h : v.within depth s j path = pure w) (path' : String) :
    v.within depth s w path' = pure w :=
  within_again_of_descend haccept hm hs hd h fun ha h =>
    descend_again haccept hm (hm.targetOf_mem hs) hd ha h path'

/-- What a validation without violations gives is its own result. -/
theorem validate_again (hs : s ∈ v.model.shapes) (hd : j.Distinct)
    (h : v.validate s j path = pure w) (path' : String) : v.validate s w path' = pure w := by
  rw [validate_eq_within] at h ⊢
  have hdistinct := (becomes_of_within hm hs hd h).distinct hm (hm.targetOf_mem hs) hd
  have hagain := within_again haccept hm hs hd h path'
  have hsettled : (v.within (v.depthBound j) s w path').Settled := by
    rw [hagain]
    exact settled_pure w
  rw [within_approximates_depthBound hm hs hdistinct _ hsettled, hagain]

end Accepted

end Shapesmith.Validator
