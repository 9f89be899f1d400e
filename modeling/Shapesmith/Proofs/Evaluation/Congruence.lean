import Shapesmith.Proofs.Evaluation.Clean

/-!
# Evaluations depend on what checks find

The compiled patterns of a validator are looked up for the checks of shapes of the model, and for
nothing else. So two validators evaluate alike if these checks find the same with both.

* `Validator.SameChecks` : some checks find the same in every value;
* `Validator.Twin` : all checks of a model do;
* `Validator.eachMember_congr`, `Validator.eachChoice_congr` : loops whose steps do the same for the
  members that they meet;
* `Validator.descend_congr` : one level more, by the kind of shape, from which
  `Validator.validate_congr` and `Validator.member_congr` follow.
-/

namespace Shapesmith.Validator

/-- Checks find the same in every value, with the patterns of either validator. -/
def SameChecks (w v : Validator) (checks : List Check) : Prop :=
  ∀ c ∈ checks, ∀ value, c.evaluate (w.compiledOf c) value = c.evaluate (v.compiledOf c) value

/-- Two validators hold the same model, and the checks of its shapes find the same with both. -/
structure Twin (w v : Validator) : Prop where
  /-- The model. -/
  model : w.model = v.model
  /-- The checks of its shapes. -/
  checks : ∀ s ∈ v.model.shapes, w.SameChecks v s.checks

variable {w v : Validator} {path : String}

theorem checkValue_congr {checks : List Check} (h : w.SameChecks v checks) (s : Shape)
    (value : Json) : w.checkValue s checks value path = v.checkValue s checks value path := by
  have hviolations : w.violationsOf checks value path = v.violationsOf checks value path :=
    List.filterMap_congr fun c hc => by rw [h c hc value]
  rw [checkValue, checkValue, hviolations]

/-! ### Loops -/

/-- The loop over the members of a structure takes steps for these members only. -/
theorem eachMember_congr {step step' : Shape → Option Json → String → Verdict (Option Json)}
    {members : List Shape} (h : ∀ e ∈ members, step e = step' e) (fields : List (String × Json)) :
    eachMember step path members fields = eachMember step' path members fields := by
  induction members generalizing fields with
  | nil => cases fields <;> rfl
  | cons e members ih =>
    have hrest := ih fun e' he' => h e' (List.mem_cons_of_mem _ he')
    rw [eachMember_cons, eachMember_cons, h e List.mem_cons_self, hrest]

/-- The loop over the fields of a union takes steps for its members only. -/
theorem eachChoice_congr {step step' : Shape → Json → String → Verdict Json}
    {members : List Shape} (h : ∀ e ∈ members, step e = step' e) (fields : List (String × Json)) :
    eachChoice members step path fields = eachChoice members step' path fields := by
  induction fields with
  | nil => rfl
  | cons f fields ih =>
    rw [eachChoice, eachChoice]
    split
    · rfl
    · rename_i e he
      rw [h e (List.mem_of_find?_eq_some he), ih]

/-! ### Levels -/

variable (hm : v.model.Sound) (h : w.Twin v)
include hm h

/-- Twins hold values alike if they do so below the top. -/
theorem within_congr {depth : Nat}
    (hdescend : ∀ s ∈ v.model.shapes, ∀ value path,
      w.descend depth s value path = v.descend depth s value path)
    {s : Shape} (hs : s ∈ v.model.shapes) : w.within depth s = v.within depth s := by
  funext value place
  have ht := hm.targetOf_mem hs
  rw [within, within, h.model, checkValue_congr (h.checks _ ht)]
  simp only [hdescend _ ht]

/-- Twins evaluate alike at any depth. -/
theorem descend_congr {s : Shape} (hs : s ∈ v.model.shapes) (depth : Nat) (value : Json)
    (path : String) : w.descend depth s value path = v.descend depth s value path := by
  induction depth generalizing s value path with
  | zero => rfl
  | succ depth ih =>
    have hmodel := h.model
    have hmember {e : Shape} (he : e ∈ v.model.membersOf s) :
        w.within depth e = v.within depth e :=
      within_congr hm h (fun _ ht => ih ht) (hm.mem_membersOf_iff.1 he).1
    cases hk : s.kind with
    | struct ids =>
      cases value with
      | obj fields =>
        have hstruct := Shape.isStruct_iff.2 ⟨ids, hk⟩
        rw [descend_struct w hstruct, descend_struct v hstruct, hmodel]
        congr 1
        refine eachMember_congr (fun e he => ?_) fields
        funext given place
        rw [memberWithin, memberWithin, hmember he]
      | _ => simp only [descend, hk]
    | list id =>
      cases value with
      | arr items =>
        obtain ⟨e, he, hfind⟩ := hm.find?_item hs hk
        rw [descend_list hk (hmodel ▸ hfind), descend_list hk hfind, hmember he]
      | _ => simp only [descend, hk]
    | map k t =>
      cases value with
      | obj fields =>
        obtain ⟨⟨e, he, hfind⟩, e', he', hfind'⟩ := hm.find?_entry hs hk
        rw [descend_map hk (hmodel ▸ hfind) (hmodel ▸ hfind'), descend_map hk hfind hfind',
          hmember he, hmember he']
      | _ => simp only [descend, hk]
    | union ids =>
      cases value with
      | obj fields =>
        have hunion := Shape.isUnion_iff.2 ⟨ids, hk⟩
        rw [descend_union hunion, descend_union hunion, hmodel]
        congr 1
        exact eachChoice_congr (fun e he => hmember he) fields
      | _ => simp only [descend, hk]
    | simple | member | operation | service => simp only [descend, hk]

omit hm in
theorem depthBound_congr (value : Json) : w.depthBound value = v.depthBound value := by
  rw [depthBound, depthBound, h.model]

/-- Twins validate alike. -/
theorem validate_congr {s : Shape} (hs : s ∈ v.model.shapes) (value : Json) (path : String) :
    w.validate s value path = v.validate s value path := by
  have hwithin := within_congr hm h
    (fun _ ht => descend_congr hm h ht (v.depthBound value)) hs
  rw [validate_eq_within, validate_eq_within, depthBound_congr h, hwithin]

/-- Twins hold the members of structures alike, against checks that find the same. -/
theorem member_congr {target : Shape} (ht : target ∈ v.model.shapes) {checks : List Check}
    (hc : w.SameChecks v checks) (requirement : Requirement) (given : Option Json)
    (path : String) : w.member requirement checks target given path =
      v.member requirement checks target given path := by
  rw [member, member]
  congr 1
  funext value
  cases value with
  | none => rfl
  | some j =>
    dsimp only
    rw [checkValue_congr hc, depthBound_congr h, descend_congr hm h ht]

end Shapesmith.Validator
