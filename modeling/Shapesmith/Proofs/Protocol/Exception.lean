import Shapesmith.Proofs.Builder.Modes
import Shapesmith.Proofs.Constraint.Breaks
import Shapesmith.Proofs.Evaluation.Clean

/-!
# Answers that report violations are valid

A report of violations is itself a value of a shape, the exception of the prelude, which every model
has. A protocol may add the name of the exception to it.

* `Validator.Keeps` : held against a shape, a value goes well and stays as it is; one lemma for each
  kind of shape says when;
* `Model.membersOf_prelude`, `Model.targetOf_prelude` : shapes of the prelude have the same members
  and targets in all models;
* `Protocol.reported` is the document of an answer without the name of the exception;
* `Validator.reports_failure` : with the standard protocols, it is a value of the exception, and the
  name takes nothing away from it.
-/

namespace Shapesmith

/-! ### Values that stay as they are -/

/-- An object that gives all members of a structure in their order is completed. -/
theorem Model.completes_self {m : Model} {s : Shape} {fields : List (String × Json)}
    (hkeys : Table.keys fields = (m.membersOf s).map Shape.memberName)
    (hnull : ∀ name, (name, .null) ∉ fields) : m.Completes s fields fields := by
  have hgiven {e : Shape} (he : e ∈ m.membersOf s) :
      ∃ x, (e.memberName, x) ∈ fields ∧ x ≠ .null := by
    have hname : e.memberName ∈ Table.keys fields := hkeys ▸ List.mem_map_of_mem he
    obtain ⟨⟨name, x⟩, hf, rfl⟩ := List.mem_map.1 hname
    exact ⟨x, hf, fun hx => hnull _ (hx ▸ hf)⟩
  refine ⟨fun name hname => ?_, fun e he habs => ?_, hkeys ▸ List.Sublist.refl _, fun e he => ?_⟩
  · rw [hkeys] at hname
    exact List.mem_map.1 hname
  · obtain ⟨x, hx, hx'⟩ := hgiven he
    exact absurd (habs x hx) hx'
  · obtain ⟨x, hx, hx'⟩ := hgiven he
    exact ⟨fun _ => ⟨x, .given hx hx'⟩, fun _ => Table.mem_keys_of_mem hx⟩

namespace Validator

/-- Held against the shape at any place, the value goes well and stays as it is. -/
def Keeps (v : Validator) (depth : Nat) (s : Shape) (j : Json) : Prop :=
  ∀ path, v.within depth s j path = pure j

section Keeps

variable {v : Validator} {depth : Nat} {e s : Shape} (ht : v.model.targetOf e = s)
  (hchecks : s.checks = [])
include ht hchecks

theorem keeps_text (hs : s.kind = .simple .string) (text : String) :
    v.Keeps (depth + 1) e (.str text) := by
  intro path
  subst ht
  refine within_eq_pure_iff.2 ⟨?_, by rw [hchecks]; rfl, descend_simple hs _⟩
  rw [hs]
  exact .string text

theorem keeps_list {id : ShapeId} {item : Shape} (hs : s.kind = .list id)
    (hitem : v.model.find? id = some item) {items : List Json}
    (hitems : ∀ x ∈ items, v.Keeps depth item x) : v.Keeps (depth + 1) e (.arr items) := by
  intro path
  subst ht
  refine within_eq_pure_iff.2 ⟨?_, by rw [hchecks]; rfl, ?_⟩
  · rw [hs]
    exact .list id items
  · refine (descend_list_eq_pure_iff hs hitem).2 ⟨items, rfl, rfl, fun i x y hx hy => ?_⟩
    obtain rfl := Option.some.inj (hx.symm.trans hy)
    exact hitems x (List.mem_of_getElem? hx) _

theorem keeps_struct (hm : v.model.Sound) (hmem : s ∈ v.model.shapes) (hs : s.isStruct = true)
    {fields : List (String × Json)}
    (hkeys : Table.keys fields = (v.model.membersOf s).map Shape.memberName)
    (hnull : ∀ name, (name, .null) ∉ fields)
    (hvalues : ∀ member ∈ v.model.membersOf s, ∀ x, (member.memberName, x) ∈ fields →
      v.Keeps depth member x) : v.Keeps (depth + 1) e (.obj fields) := by
  intro path
  subst ht
  have hnodup : (Table.keys fields).Nodup := hkeys ▸ hm.nodup_memberNames hmem
  have hcompletes := Model.completes_self hkeys hnull
  refine within_eq_pure_iff.2 ⟨?_, by rw [hchecks]; rfl, ?_⟩
  · obtain ⟨ids, hk⟩ := Shape.isStruct_iff.1 hs
    rw [hk]
    exact .struct ids fields
  · refine (descend_struct_eq_pure_iff hm hmem hs hnodup).2
      ⟨fields, rfl, hcompletes, fun member hmember x y hx hy => ?_⟩
    rw [hcompletes.takes_iff hnull hmember] at hx
    obtain rfl := Table.value_unique hnodup hx hy
    exact hvalues member hmember x hx _

end Keeps

/-- What stays as it is when there is depth enough does so in a validation. -/
theorem Keeps.validate {v : Validator} {depth : Nat} {s : Shape} {j : Json}
    (h : v.Keeps depth s j) (hm : v.model.Sound) (hs : s ∈ v.model.shapes) (hd : j.Distinct)
    (path : String) : v.validate s j path = pure j := by
  have hsettled : (v.within depth s j path).Settled := by
    rw [h path]
    exact Verdict.settled_pure j
  rw [validate_eq_within, within_approximates_depthBound hm hs hd depth hsettled, h path]

end Validator

/-! ### The prelude -/

namespace Model

variable {m : Model} (hm : m.Assembled) {s : Shape} (hs : s ∈ prelude)
include hm hs

/-- What a shape of the prelude refers to is in the prelude. -/
theorem find?_prelude {id : ShapeId} (hid : id ∈ s.references) : m.find? id = bare.find? id := by
  have hclosed : ∀ s ∈ prelude, ∀ id ∈ s.references, ∃ t ∈ prelude, t.id = id := by decide
  obtain ⟨t, ht, rfl⟩ := hclosed s hs id hid
  rw [(sound_of_assembled hm).find?_id (prelude_mem hm t ht),
    (sound_of_assembled assembled_bare).find?_id (prelude_mem assembled_bare t ht)]

theorem membersOf_prelude : m.membersOf s = bare.membersOf s :=
  List.filterMap_congr fun _ hid => find?_prelude hm hs (s.members_subset_references hid)

theorem targetOf_prelude : m.targetOf s = bare.targetOf s := by
  cases hk : s.isMember with
  | false => rw [targetOf_of_not_isMember hk, targetOf_of_not_isMember hk]
  | true =>
    obtain ⟨id, hkind⟩ := Shape.isMember_iff.1 hk
    have hid : id ∈ s.references := by simp [Shape.references, hkind]
    have htarget : s.target? = some id := by rw [Shape.target?, hkind]
    rw [targetOf, targetOf, htarget, Option.bind_some, Option.bind_some, find?_prelude hm hs hid]

end Model

namespace Prelude

/-- The list of fields of the exception. -/
def fieldListShape : Shape := ⟨fieldListId, .list (fieldListId.withMember "member"), []⟩

/-- A field of the exception. -/
def fieldShape : Shape :=
  ⟨fieldId, .struct [fieldId.withMember "path", fieldId.withMember "message"], []⟩

/-- A member of the list of fields. -/
def itemShape : Shape := member fieldListId "member" fieldId []

variable {v : Validator} (hm : v.model.Assembled)
include hm

/-- A member of the prelude that is a text takes any text. -/
theorem keeps_text {e : Shape} (he : e ∈ Model.prelude)
    (ht : Model.bare.targetOf e = simple "String" .string) (depth : Nat) (text : String) :
    v.Keeps (depth + 1) e (.str text) :=
  Validator.keeps_text ((Model.targetOf_prelude hm he).trans ht) rfl rfl text

/-- A structure of the prelude with two members takes an object that gives both. -/
theorem keeps_pair {s e f t : Shape} {x y : Json} {depth : Nat} (hs : s ∈ Model.prelude)
    (hstruct : s.isStruct = true) (hchecks : s.checks = [])
    (hmembers : Model.bare.membersOf s = [e, f]) (hne : e.memberName ≠ f.memberName)
    (ht : v.model.targetOf t = s) (hx : x ≠ .null) (hy : y ≠ .null) (hex : v.Keeps depth e x)
    (hfy : v.Keeps depth f y) :
    v.Keeps (depth + 1) t (.obj [(e.memberName, x), (f.memberName, y)]) := by
  rw [← Model.membersOf_prelude hm hs] at hmembers
  refine Validator.keeps_struct ht hchecks (Model.sound_of_assembled hm) (Model.prelude_mem hm s hs)
    hstruct (by rw [hmembers]; rfl) (by simp [hx.symm, hy.symm]) ?_
  rw [hmembers, List.forall_mem_cons, List.forall_mem_singleton]
  refine ⟨fun z hz => ?_, fun z hz => ?_⟩
  · obtain rfl : z = x := by simpa [hne] using hz
    exact hex
  · obtain rfl : z = y := by simpa [hne.symm] using hz
    exact hfy

/-- The entry for a violation is a field. -/
theorem keeps_entry (x : Violation) : v.Keeps 2 itemShape (Report.entry x) := by
  have ht : v.model.targetOf itemShape = fieldShape := by
    rw [Model.targetOf_prelude hm (by decide)]
    decide
  have hmembers : Model.bare.membersOf fieldShape =
      [member fieldId "path" stringId required, member fieldId "message" stringId required] := by
    decide
  exact keeps_pair hm (by decide) rfl rfl hmembers (by decide) ht Json.noConfusion Json.noConfusion
    (keeps_text hm (by decide) (by decide) 0 x.path)
    (keeps_text hm (by decide) (by decide) 0 x.text)

/-- The entries for violations are a list of fields. -/
theorem keeps_entries (vs : Violations) :
    v.Keeps 3 (member validationExceptionId "fieldList" fieldListId [])
      (.arr (vs.map Report.entry)) := by
  have ht : v.model.targetOf (member validationExceptionId "fieldList" fieldListId []) =
      fieldListShape := by
    rw [Model.targetOf_prelude hm (by decide)]
    decide
  have hitem : v.model.find? itemShape.id = some itemShape :=
    (Model.sound_of_assembled hm).find?_id (Model.prelude_mem hm _ (by decide))
  refine Validator.keeps_list ht rfl rfl hitem fun y hy => ?_
  obtain ⟨x, -, rfl⟩ := List.mem_map.1 hy
  exact keeps_entry hm x

/-- The report of violations is a value of the exception. -/
theorem keeps_report (vs : Violations) : v.Keeps 4 exceptionShape (Report.of vs).document := by
  have hmembers : Model.bare.membersOf exceptionShape =
      [member validationExceptionId "message" stringId required,
        member validationExceptionId "fieldList" fieldListId []] := by decide
  exact keeps_pair hm (by decide) rfl rfl hmembers (by decide)
    (Model.targetOf_of_not_isMember rfl) Json.noConfusion Json.noConfusion
    (keeps_text hm (by decide) (by decide) 2 (Violations.message vs)) (keeps_entries hm vs)

end Prelude

theorem Report.distinct_document (vs : Violations) : (Report.of vs).document.Distinct := by
  have hentry (x : Violation) : (entry x).Distinct := by
    have hkeys : ["path", "message"].Nodup := by decide
    exact Json.distinct_obj_iff.2 ⟨hkeys, by simp⟩
  have hkeys : ["message", "fieldList"].Nodup := by decide
  exact Json.distinct_obj_iff.2 ⟨hkeys, by simp [Json.distinct_arr_iff, hentry]⟩

/-! ### Answers -/

/-- The object without what it has under a key. -/
def Json.without (key : String) : Json → Json
  | .obj fields => .obj (fields.filter fun f => f.1 ≠ key)
  | j => j

namespace Protocol

/-- The document of an answer without the name of the exception, if the protocol puts it there. -/
def reported (p : Protocol) (document : Json) : Json :=
  match p.errorTypeLocation with
  | .header _ => document
  | .body key => document.without key

/-- The protocol names the exception apart from what reports say. -/
def NamesApart (p : Protocol) : Prop :=
  p.errorTypeLocation ≠ .body "message" ∧ p.errorTypeLocation ≠ .body "fieldList"

instance (p : Protocol) : Decidable p.NamesApart := inferInstanceAs (Decidable (_ ∧ _))

variable {p : Protocol}

/-- Without the name of the exception there is just the report. -/
theorem reported_failure (h : p.NamesApart) (vs : Violations) :
    p.reported (p.failure vs).document = (Report.of vs).document := by
  unfold reported failure answer
  cases hl : p.errorTypeLocation with
  | header name => rfl
  | body key =>
    simp only [NamesApart, hl, ne_eq, ErrorTypeLocation.body.injEq] at h
    simp [Json.without, Report.of, Table.put, Ne.symm h.1, Ne.symm h.2]

/-- The name of the exception takes nothing from the report. -/
theorem find?_failure (h : p.NamesApart) (vs : Violations) {name : String}
    (hname : name = "message" ∨ name = "fieldList") :
    (p.failure vs).document.find? name = (Report.of vs).document.find? name := by
  unfold failure answer
  cases hl : p.errorTypeLocation with
  | header name => rfl
  | body key =>
    simp only [NamesApart, hl, ne_eq, ErrorTypeLocation.body.injEq] at h
    have hne : name ≠ key := by
      rintro rfl
      exact hname.elim h.1 h.2
    exact Table.get?_put_of_ne _ _ hne

theorem namesApart_standard : ∀ e ∈ Registry.standard, e.2.NamesApart := by decide

end Protocol

/-- What the document of an answer says of violations, and that it is a value of the exception by
which servers report them. -/
structure Validator.Reports (v : Validator) (p : Protocol) (vs : Violations) : Prop where
  /-- Apart from the name of the exception, it is a value of the exception that stays as it is. -/
  valid : ∃ s, v.model.find? validationExceptionId = some s ∧ ∀ path,
    v.validate s (p.reported (p.failure vs).document) path =
      pure (p.reported (p.failure vs).document)
  /-- There is an entry for each violation, with its place and its wording. -/
  entries : ∃ items, (p.reported (p.failure vs).document).find? "fieldList" = some (.arr items) ∧
    List.Forall₂ (fun x item => item.find? "path" = some (.str x.path) ∧
      item.find? "message" = some (.str x.text)) vs items
  /-- The name of the exception does not change the summary. -/
  message : (p.failure vs).document.find? "message" =
    (p.reported (p.failure vs).document).find? "message"
  /-- Nor does it change the entries. -/
  fieldList : (p.failure vs).document.find? "fieldList" =
    (p.reported (p.failure vs).document).find? "fieldList"

/-- Answers that report violations with one of the standard protocols are valid in every model,
whatever the violations are. -/
theorem Validator.reports_failure {m : Model} (hm : m.Assembled) {v : Validator}
    (hv : Validator.ofModel m = .ok v) (vs : Violations) :
    ∀ e ∈ Registry.standard, v.Reports e.2 vs := by
  intro e he
  obtain ⟨rfl, -⟩ := of_ofModel hv
  have hsound := Model.sound_of_assembled hm
  have hmem := Model.prelude_mem hm Prelude.exceptionShape (by decide)
  have hapart := Protocol.namesApart_standard e he
  have hreported := Protocol.reported_failure hapart vs
  refine ⟨⟨_, Model.find?_validationException hm, fun path => ?_⟩,
    ⟨vs.map Report.entry, ?_, ?_⟩, ?_, ?_⟩
  · rw [hreported]
    exact (Prelude.keeps_report hm vs).validate hsound hmem (Report.distinct_document vs) path
  · rw [hreported]
    rfl
  · rw [List.forall₂_map_right_iff, List.forall₂_same]
    exact fun x _ => ⟨rfl, rfl⟩
  · rw [hreported, Protocol.find?_failure hapart vs (.inl rfl)]
  · rw [hreported, Protocol.find?_failure hapart vs (.inr rfl)]

/-- The model without documents has a validator, which finds nothing wrong with such answers. -/
theorem Validator.reports_failure_bare : ∃ v, Validator.ofModel Model.bare = .ok v ∧
    ∀ e ∈ Registry.standard,
      v.Reports e.2 [⟨"/name", .missingRequired⟩, ⟨"/tags", .length 0 ⟨some 1, none⟩⟩] := by
  have hv := Validator.ofModel_of_pattern_eq_none (m := Model.bare) (by decide)
  exact ⟨_, hv, Validator.reports_failure Model.assembled_bare hv _⟩

end Shapesmith
