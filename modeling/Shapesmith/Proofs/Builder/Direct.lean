import Shapesmith.Proofs.Builder.Build
import Shapesmith.Proofs.Constraint.Accepted
import Shapesmith.Proofs.Evaluation.Depth
import Shapesmith.Proofs.Evaluation.Report

/-!
# Building a structure is validating it

A builder looks the values of its fields up by name, with what was copied from the members when it
was made. An evaluation takes the values out of the object one by one and reads the model. Both
come to the same value, violations and misfits.

* `Verdict.toBuild` reads a verdict as the result of a build;
* `Artifact.eachMember_approximates_collect` : collecting does what the loop over the members does;
* `Artifact.build_eq_validate` : a build gives what an evaluation of the structure gives, and both
  fail if a name is none of the structure's.
-/

namespace Shapesmith

/-- The verdict as the result of a build: a value without violations, or what is wrong. -/
def Verdict.toBuild (x : Verdict Json) : Except Artifact.Refusal Json :=
  match x.outcome, x.violations with
  | .error cause, _ => .error (.misfit cause)
  | .ok j, [] => .ok j
  | .ok _, vs => .error (.violations vs)

namespace Validator

open Verdict

variable {v : Validator} {e s : Shape}

/-- The value that a member gets is the one that is given or the default. -/
theorem distinct_of_candidate {x : Option Json} {place : String} {j : Json}
    (hx : ∀ i, x = some i → i.Distinct)
    (hdefault : ∀ d, e.traits.defaultValue = some d → d.Distinct)
    (h : (candidate (.of e) x place).outcome = .ok (some j)) : j.Distinct := by
  unfold candidate at h
  split at h
  · cases h
  · cases h
  · rename_i hreq
    cases h
    exact hdefault j (Requirement.of_eq_default_iff.1 hreq)
  · rename_i hreq
    cases h
    exact hdefault j (Requirement.of_eq_default_iff.1 hreq)
  · cases h
  · cases h
  · cases h
    exact hx j rfl

/-- A field of a builder holds a value like the member that it is made from. -/
theorem memberWithin_approximates_member (hm : v.model.Sound) (he : e ∈ v.model.shapes)
    {f : BuilderField} (hf : f.Collects v.model e) {x : Option Json}
    (hx : ∀ i, x = some i → i.Distinct) (depth : Nat) (place : String) :
    (v.memberWithin depth e x place).Approximates
      (v.member f.requirement f.checks (v.model.targetOf e) x place) := by
  rw [member, hf.requirement, hf.checks]
  refine Approximates.bind (.refl _) fun value hvalue => ?_
  cases value with
  | none => exact .refl _
  | some j =>
    have hd := distinct_of_candidate hx (hm.tidy e he).default hvalue
    have hwithin : (some <$> v.within depth e j place).Approximates
        (some <$> v.within (v.depthBound j) e j place) :=
      (within_approximates_depthBound hm he hd depth).map some
    simp only [within, map_bind] at hwithin ⊢
    exact hwithin

/-- An evaluation of a structure without checks goes through its members. -/
theorem validate_struct (v : Validator) (hs : s.isStruct = true) (hchecks : s.checks = [])
    (given : List (String × Json)) : ∃ depth, v.validate s (.obj given) "" =
      Json.obj <$> eachMember (v.memberWithin depth) "" (v.model.membersOf s) given := by
  obtain ⟨ids, hk⟩ := Shape.isStruct_iff.1 hs
  have ha : s.kind.Accepts (.obj given) := hk ▸ .struct ids given
  refine ⟨_, (?_ : _ = v.descend (v.depthBound (.obj given)) s (.obj given) "").trans
    (descend_struct v hs _ given)⟩
  rw [validate_eq_within, within, Model.targetOf_of_holder (.inl hs), checkValue_of_accepts ha,
    hchecks, Verdict.bind_ok]
  rfl

end Validator

namespace Artifact

open Verdict

variable {v : Validator} {given : List (String × Json)} {a : Artifact} {m : Model}

/-- Collecting does what the loop over the members of the structure does, as long as the loop finds
what was given for each member and nothing is left over. -/
theorem eachMember_approximates_collect (hm : v.model.Sound) (hd : (Json.obj given).Distinct)
    {members : List Shape} {fields : List BuilderField}
    (hf : List.Forall₂ (fun e f => f.Collects v.model e) members fields)
    (hmem : ∀ e ∈ members, e ∈ v.model.shapes) (hnames : (members.map Shape.memberName).Nodup)
    {rest : List (String × Json)} (hkeys : (Table.keys rest).Nodup)
    (hget : ∀ e ∈ members, Table.get? rest e.memberName = Table.get? given e.memberName)
    (hall : ∀ name ∈ Table.keys rest, ∃ e ∈ members, e.memberName = name) (depth : Nat) :
    (Validator.eachMember (v.memberWithin depth) "" members rest).Approximates
      (collect v given fields) := by
  induction hf generalizing rest with
  | nil =>
    cases rest with
    | nil => exact .refl _
    | cons x rest =>
      obtain ⟨e, he, -⟩ := hall x.1 List.mem_cons_self
      cases he
  | @cons e f members fields hef _ ih =>
    rw [List.map_cons, List.nodup_cons] at hnames
    have he := hmem e List.mem_cons_self
    have hne : ∀ e' ∈ members, e'.memberName ≠ e.memberName := fun e' he' heq =>
      hnames.1 (heq ▸ List.mem_map_of_mem he')
    have hgiven : ∀ j, Table.get? given e.memberName = some j → j.Distinct := fun j hj =>
      (Json.distinct_obj_iff.1 hd).2 _ (Table.mem_of_get? hj)
    rw [Validator.eachMember, collect, hef.find?_target hm he, hef.name, hget e List.mem_cons_self]
    refine Approximates.bind
      (Validator.memberWithin_approximates_member hm he hef hgiven depth _) fun value _ => ?_
    -- what is left holds the other members' values, and only theirs
    refine (ih (fun e' he' => hmem e' (List.mem_cons_of_mem _ he')) hnames.2
      (Table.nodup_keys_eraseFill hkeys _) (fun e' he' => ?_) fun name hname => ?_).bind
        fun _ _ => .refl _
    · rw [Table.get?_eraseFill_of_ne hkeys (hne e' he')]
      exact hget e' (List.mem_cons_of_mem _ he')
    · obtain ⟨hname, hother⟩ := (Table.mem_keys_eraseFill hkeys).1 hname
      obtain ⟨e', he', rfl⟩ := hall name hname
      rcases List.mem_cons.1 he' with rfl | he'
      · exact absurd rfl hother
      · exact ⟨e', he', rfl⟩

theorem field?_eq_none_iff {name : String} :
    a.field? name = none ↔ ∀ f ∈ a.builder.fields, f.memberName ≠ name := by
  simp [field?]

/-- The builder has no field of a name exactly when the structure has no member of that name. -/
theorem field?_isNone_iff {members : List Shape}
    (hf : List.Forall₂ (fun e f => f.Collects m e) members a.builder.fields) {name : String} :
    (a.field? name).isNone = true ↔ ∀ e ∈ members, e.memberName ≠ name := by
  have hnames : members.map Shape.memberName = a.builder.fields.map (·.memberName) := by
    rw [← List.forall₂_eq_eq_eq, List.forall₂_map_left_iff, List.forall₂_map_right_iff]
    exact hf.imp fun _ _ h => h.name.symm
  have hmem : (∀ e ∈ members, e.memberName ≠ name) ↔ name ∉ members.map Shape.memberName := by
    simp
  rw [hmem, hnames, Option.isNone_iff_eq_none, field?_eq_none_iff]
  simp

/-- Without unknown names, a build is what comes of collecting. -/
theorem build_eq_toBuild (h : ∀ name ∈ Table.keys given, (a.field? name).isNone = false) :
    a.build v given = (Json.obj <$> collect v given a.builder.fields).toBuild := by
  have hnone : (given.find? fun e => (a.field? e.1).isNone) = none := by
    refine List.find?_eq_none.2 fun e he => ?_
    simp [h e.1 (Table.mem_keys_of_mem he)]
  rw [build, hnone]
  obtain ⟨vs, cause | built⟩ := collect v given a.builder.fields
  · rfl
  · rw [Verdict.map_ok]
    cases vs <;> rfl

/-- With an unknown name, a build is refused for one. -/
theorem build_of_unknown {name : String} (hname : name ∈ Table.keys given)
    (hnone : (a.field? name).isNone = true) :
    ∃ stray ∈ Table.keys given, (a.field? stray).isNone = true ∧
      a.build v given = .error (.misfit (.unknownMember stray)) := by
  unfold build
  split
  · rename_i stray j hfound
    have hmem := Table.mem_keys_of_mem (List.mem_of_find?_eq_some hfound)
    have hstray := List.find?_some hfound
    exact ⟨stray, hmem, hstray, rfl⟩
  · rename_i hno
    obtain ⟨e, he, rfl⟩ := List.mem_map.1 hname
    exact absurd hnone (List.find?_eq_none.1 hno e he)

/-- A build gives what an evaluation of the structure gives, if that ends and all names are known.
If a name is unknown, both are refused. -/
theorem build_eq_validate (hm : m.Assembled) {service : Shape}
    (haccept : m.accept service false = .ok ()) {y : Symbols} (hy : y.model = m)
    (hv : Validator.ofModel m = .ok v) {p : Protocol} {s : Shape} (hs : s ∈ m.shapes)
    (ha : y.artifact p s = .ok a) (hd : (Json.obj given).Distinct)
    (hend : v.Ends s (.obj given) "") :
    ((∀ name ∈ Table.keys given, ∃ e ∈ m.membersOf s, e.memberName = name) →
      a.build v given = (v.validate s (.obj given) "").toBuild) ∧
    ((∃ name ∈ Table.keys given, ∀ e ∈ m.membersOf s, e.memberName ≠ name) →
      (∃ stray ∈ Table.keys given, (∀ e ∈ m.membersOf s, e.memberName ≠ stray) ∧
        a.build v given = .error (.misfit (.unknownMember stray))) ∧
      ∃ cause, cause ≠ .endless ∧ (v.validate s (.obj given) "").outcome = .error cause) := by
  obtain ⟨rfl, -⟩ := Validator.of_ofModel hv
  obtain ⟨hstruct, hfields, -⟩ := Symbols.of_artifact ha
  rw [hy] at hfields
  have hm := Model.sound_of_assembled hm
  have hsettled := (Validator.ends_iff hm hs hd).1 hend
  constructor
  · intro hknown
    obtain ⟨depth, hvalidate⟩ := Validator.validate_struct v hstruct
      (Model.checks_of_isStruct haccept hs hstruct) given
    have hfield : ∀ name ∈ Table.keys given, (a.field? name).isNone = false := by
      intro name hname
      obtain ⟨e, he, hne⟩ := hknown name hname
      rw [Bool.eq_false_iff, ne_eq, field?_isNone_iff hfields]
      exact fun hall => hall e he hne
    have hloop := eachMember_approximates_collect hm hd hfields
      (fun e he => (hm.mem_membersOf_iff.1 he).1) (hm.nodup_memberNames hs)
      (Json.distinct_obj_iff.1 hd).1 (fun _ _ => rfl) hknown depth
    have hcollect := (hloop.map Json.obj) (hvalidate ▸ hsettled)
    rw [build_eq_toBuild hfield, hcollect, ← hvalidate]
  · rintro ⟨name, hname, hno⟩
    obtain ⟨stray, hstray, hnone, hbuild⟩ :=
      build_of_unknown (v := v) hname ((field?_isNone_iff hfields).2 hno)
    refine ⟨⟨stray, hstray, (field?_isNone_iff hfields).1 hnone, hbuild⟩, ?_⟩
    cases ho : (v.validate s (.obj given) "").outcome with
    | error cause => exact ⟨cause, fun hcause => hsettled (hcause ▸ ho), rfl⟩
    | ok built =>
      -- a value would mean that everything fits, and the unknown name does not
      have hhold : (v.hold (v.depthBound (.obj given)) (v.model.spot s (.obj given) "")).outcome =
          .ok () := by
        rw [← Validator.forget_validate, Verdict.forget_outcome_eq_ok_iff]
        exact ⟨built, ho⟩
      have hfit := Validator.not_misfitting_of_ok hm (Validator.proper_spot hm hs hd "") hhold
      have hspot : v.model.spot s (.obj given) "" = ⟨s, .obj given, ""⟩ := by
        rw [Model.spot, Model.targetOf_of_holder (.inl hstruct)]
      rw [hspot] at hfit
      exact absurd (Model.misfitting_iff.2 (.inl (.unknown rfl (.inl hstruct) hname hno)))
        (hfit _)

theorem build_eq_validate_exception : ∃ a,
    Symbols.bare.artifact Placeholder.protocol Prelude.exceptionShape = .ok a ∧
      a.build ⟨.bare, []⟩ [("fieldList", .arr [.obj []])] =
        ((⟨.bare, []⟩ : Validator).validate Prelude.exceptionShape
          (.obj [("fieldList", .arr [.obj []])]) "").toBuild ∧
      (∃ stray, a.build ⟨.bare, []⟩ [("list", .null)] = .error (.misfit (.unknownMember stray))) ∧
      ∃ cause, ((⟨.bare, []⟩ : Validator).validate Prelude.exceptionShape
        (.obj [("list", .null)]) "").outcome = .error cause := by
  have hv : Validator.ofModel .bare = .ok ⟨.bare, []⟩ :=
    Validator.ofModel_of_pattern_eq_none (by decide)
  have haccept : Model.bare.accept Placeholder.service false = .ok () := by decide
  have hs : Prelude.exceptionShape ∈ Model.bare.shapes := by decide
  have hend (given : List (String × Json)) (hd : (Json.obj given).Distinct)
      (h : ((⟨.bare, []⟩ : Validator).validate Prelude.exceptionShape (.obj given) "").outcome ≠
        .error .endless) : (⟨.bare, []⟩ : Validator).Ends Prelude.exceptionShape (.obj given) "" :=
    (Validator.ends_iff (Model.sound_of_assembled Model.assembled_bare) hs hd).2 h
  have hok : (Symbols.bare.artifact Placeholder.protocol Prelude.exceptionShape).isOk = true := by
    decide
  cases ha : Symbols.bare.artifact Placeholder.protocol Prelude.exceptionShape with
  | error cause =>
    rw [ha] at hok
    cases hok
  | ok a =>
    obtain ⟨hknown, -⟩ := build_eq_validate Model.assembled_bare haccept rfl hv hs ha (by decide)
      (hend [("fieldList", .arr [.obj []])] (by decide) (by decide))
    obtain ⟨-, hunknown⟩ := build_eq_validate Model.assembled_bare haccept rfl hv hs ha (by decide)
      (hend [("list", .null)] (by decide) (by decide))
    obtain ⟨⟨stray, -, -, hbuild⟩, cause, -, hvalidate⟩ := hunknown (by decide)
    exact ⟨a, rfl, hknown (by decide), ⟨stray, hbuild⟩, cause, hvalidate⟩

end Artifact

end Shapesmith
