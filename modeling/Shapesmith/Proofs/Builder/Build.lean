import Shapesmith.Builder.Generate
import Shapesmith.Placeholder
import Shapesmith.Proofs.Evaluation.Bound

/-!
# Building evaluates the structure

A builder collects the values of its fields one by one. Its fields are made from the members of the
structure, so that it does what an evaluation of the structure does below its top.

* `BuilderField.Collects` says that a field is made from a member, and `Symbols.Generates` what the
  artifact of a structure is made of (`Symbols.generates_of_artifact`,
  `Symbols.exists_collects`);
* `Artifact.forget_collect` : collecting goes through the slots of the structure;
* `Artifact.of_build_violations` and `Artifact.of_build_misfit` open the two ways in which a build
  can fail.
-/

namespace Shapesmith

/-- A field of a builder is made from a member. -/
structure BuilderField.Collects (f : BuilderField) (m : Model) (e : Shape) : Prop where
  /-- The name. -/
  name : f.memberName = e.memberName
  /-- The shape of the values. -/
  target : f.target = (m.targetOf e).id
  /-- What happens when it is not set. -/
  requirement : f.requirement = .of e
  /-- The checks. -/
  checks : f.checks = (m.targetOf e).checks

theorem BuilderField.Collects.find?_target {f : BuilderField} {m : Model} {e : Shape}
    (h : f.Collects m e) (hm : m.Sound) (he : e ∈ m.shapes) :
    m.find? f.target = some (m.targetOf e) := by
  rw [h.target]
  exact hm.find?_id (hm.targetOf_mem he)

namespace Symbols

variable {y : Symbols}

theorem collects_of_builderField {e : Shape} {f : BuilderField} (h : y.builderField e = .ok f) :
    f.Collects y.model e := by
  simp only [builderField, Except.bind_eq_ok_iff, Except.pure_eq_ok_iff] at h
  obtain ⟨surface, -, stored, -, validation, -, rfl⟩ := h
  exact ⟨rfl, rfl, rfl, rfl⟩

/-- What the artifact of a structure is made of. -/
structure Generates (y : Symbols) (p : Protocol) (s : Shape) (a : Artifact) : Prop where
  /-- The shape is a structure. -/
  struct : s.isStruct = true
  /-- The artifact is that of the shape. -/
  shape : a.shape = s.id
  /-- The type of the structure is what everyone sees. -/
  symbol : ∃ symbol, y.surface s = .ok symbol ∧ a.structType.symbol = symbol.type
  /-- The builder is in a module beside that type. -/
  module : a.builder.module = moduleBeside a.structType.symbol s
  /-- The structure begins its own builder. -/
  begins : a.convenience.returns = .named a.builder.module builderName
  /-- The structure has a field for each member. -/
  fields : List.Forall₂ (fun e g => y.structField e = .ok g) (y.model.membersOf s)
    a.structType.fields
  /-- The builder has a field for each member. -/
  collected : List.Forall₂ (fun e f => y.builderField e = .ok f) (y.model.membersOf s)
    a.builder.fields
  /-- The type of the violations. -/
  violation : y.violationType p s = .ok a.violation
  /-- The building function fails with violations. -/
  error : a.builder.build.error = a.violation.map (·.symbol)

theorem generates_of_artifact {p : Protocol} {s : Shape} {a : Artifact}
    (h : y.artifact p s = .ok a) : y.Generates p s a := by
  unfold artifact at h
  split at h
  · rename_i hs
    simp only [Except.bind_eq_ok_iff, Except.pure_eq_ok_iff] at h
    obtain ⟨symbol, hsymbol, fields, hfields, violation, hviolation, collected, hcollected, rfl⟩ :=
      h
    exact ⟨hs, rfl, ⟨symbol, hsymbol, rfl⟩, rfl, rfl, collect_eq_ok_iff.1 hfields,
      collect_eq_ok_iff.1 hcollected, hviolation, rfl⟩
  · cases h

/-- The artifact of a structure has a field for each member, and the type of its violations. -/
theorem of_artifact {p : Protocol} {s : Shape} {a : Artifact} (h : y.artifact p s = .ok a) :
    s.isStruct = true ∧
      List.Forall₂ (fun e f => f.Collects y.model e) (y.model.membersOf s) a.builder.fields ∧
      y.violationType p s = .ok a.violation := by
  have hg := generates_of_artifact h
  exact ⟨hg.struct, hg.collected.imp fun _ _ => collects_of_builderField, hg.violation⟩

/-- Each field of a builder is made from a member of its structure. -/
theorem exists_collects {p : Protocol} {s : Shape} {a : Artifact} (h : y.artifact p s = .ok a)
    {f : BuilderField} (hf : f ∈ a.builder.fields) :
    ∃ e ∈ y.model.membersOf s, f.Collects y.model e := by
  obtain ⟨e, he, hfield⟩ :=
    exists_of_mem_collect (collect_eq_ok_iff.2 (generates_of_artifact h).collected) hf
  exact ⟨e, he, collects_of_builderField hfield⟩

end Symbols

namespace Validator

variable (v : Validator)

/-- Holds a value at a place against its shape, as deep as the value needs. -/
def holdFully (p : Spot) : Verdict Unit := v.hold (v.depthBound p.value) p

variable {v}

theorem forget_member {e : Shape} {f : BuilderField} (hf : f.Collects v.model e)
    {given : List (String × Json)} {i : Nat} :
    (v.member f.requirement f.checks (v.model.targetOf e) (Table.get? given f.memberName)
      (pointer "" f.memberName)).forget =
    forM (v.model.memberSlots given "" e i) (meet v.holdFully) := by
  rw [member, hf.name, hf.requirement, hf.checks]
  simp only [← map_bind]
  exact forget_candidate fun j => by rw [Verdict.forget_bind]; rfl

end Validator

namespace Artifact

variable {v : Validator} {given : List (String × Json)}

theorem forget_collect_fields (hm : v.model.Sound) {members : List Shape}
    {fields : List BuilderField}
    (hf : List.Forall₂ (fun e f => f.Collects v.model e) members fields)
    (hmem : ∀ e ∈ members, e ∈ v.model.shapes) (n : Nat) :
    (collect v given fields).forget = forM (members.zipIdx n) fun e =>
      forM (v.model.memberSlots given "" e.1 e.2) (Validator.meet v.holdFully) := by
  induction hf generalizing n with
  | nil => rfl
  | @cons e f members fields hef _ ih =>
    rw [collect, List.zipIdx_cons, List.forM_cons, hef.find?_target hm (hmem e List.mem_cons_self),
      ← ih (fun e' he' => hmem e' (List.mem_cons_of_mem _ he')) (n + 1),
      ← Validator.forget_member hef]
    dsimp only
    simp only [bind_pure_comp, Verdict.forget_bind, Verdict.forget_map]
    rw [Verdict.bind_const]

/-- Collecting goes through the slots of the structure. -/
theorem forget_collect (hm : v.model.Sound) {s : Shape} (hs : s.isStruct = true)
    {fields : List BuilderField}
    (hf : List.Forall₂ (fun e f => f.Collects v.model e) (v.model.membersOf s) fields) :
    (collect v given fields).forget =
      forM (v.model.slots ⟨s, .obj given, ""⟩) (Validator.meet v.holdFully) := by
  rw [Model.slots_struct hs, Verdict.forM_flatMap]
  exact forget_collect_fields hm hf (fun e he => (hm.mem_membersOf_iff.1 he).1) 0

variable {a : Artifact}

/-- A build that reports violations has collected some. -/
theorem of_build_violations {vs : Violations} (h : a.build v given = .error (.violations vs)) :
    (collect v given a.builder.fields).forget.outcome = .ok () ∧
      (collect v given a.builder.fields).forget.violations = vs ∧ vs ≠ [] := by
  unfold build at h
  split at h
  · cases h
  · dsimp only at h
    split at h
    · cases h
    · cases h
    · rename_i ho hne
      cases h
      exact ⟨Verdict.forget_outcome_eq_ok_iff.2 ⟨_, ho⟩, Verdict.forget_violations _, hne⟩

/-- A build that is a misfit was given a name that no field has, or has met the misfit in a part of
the structure. -/
theorem of_build_misfit (hm : v.model.Sound) {s : Shape} (hs : s ∈ v.model.shapes)
    (hstruct : s.isStruct = true)
    (hf : List.Forall₂ (fun e f => f.Collects v.model e) (v.model.membersOf s) a.builder.fields)
    (hd : (Json.obj given).Distinct) {cause : Misfit}
    (h : a.build v given = .error (.misfit cause)) : (∃ name, cause = .unknownMember name) ∨
      ∃ step q, v.model.Part ⟨s, .obj given, ""⟩ step q ∧
        (v.holdFully q).outcome = .error cause := by
  unfold build at h
  split at h
  · cases h
    exact .inl ⟨_, rfl⟩
  · dsimp only at h
    split at h
    · rename_i ho
      cases h
      rw [← Verdict.forget_outcome_eq_error_iff, forget_collect hm hstruct hf] at ho
      obtain ⟨slot, hslot, he⟩ := Verdict.exists_of_forM_error ho
      cases slot with
      | missing step path => cases he
      | part step q => exact .inr ⟨step, q, (Model.part_mem_slots_iff hm hs hd).1 hslot, he⟩
    · cases h
    · cases h

end Artifact

/-- The symbols of the model without documents. -/
def Symbols.bare : Symbols := ⟨.bare, Placeholder.service, .server true, []⟩

end Shapesmith
