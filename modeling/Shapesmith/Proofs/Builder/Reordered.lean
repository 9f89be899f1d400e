import Shapesmith.Proofs.Builder.Results
import Shapesmith.Proofs.Evaluation.Reordered

/-!
# The order of fields in builds

A builder looks its values up by name, and evaluations below it do not depend on the order of fields
either. So what is built does not.

* `Artifact.Fits` : a model has what a builder refers to, as the model of its own structure does
  (`Symbols.fits_of_artifact`);
* `Artifact.Reordered` : two inputs of a builder are the same up to the order of fields, as they are
  when the structures that they stand for are (`Symbols.reordered_of_artifact`);
* `Artifact.SameResult` : two results are the same up to which unknown name they report;
* `build_reordered` : inputs that are the same up to the order of fields have the same result.
-/

namespace Shapesmith

open Verdict

/-! ### Inputs and results -/

/-- A builder takes a value for a field: the one that is given, or else its default. -/
inductive BuilderField.Takes (f : BuilderField) (given : List (String × Json)) : Json → Prop
  /-- The value that is given and not null. -/
  | given {x : Json} (h : (f.memberName, x) ∈ given) (hx : x ≠ .null) : Takes f given x
  /-- The default, when nothing else than null is given. -/
  | default {x : Json} (h : ∀ y, (f.memberName, y) ∈ given → y = .null)
    (hx : f.requirement = .default x) : Takes f given x

namespace Artifact

variable (a : Artifact) (m : Model)

/-- The model has what the fields of the builder refer to. -/
structure Fits : Prop where
  /-- The shapes of the values are in the model. -/
  target : ∀ f ∈ a.builder.fields, ∃ t, m.find? f.target = some t
  /-- Defaults give each key once. -/
  default : ∀ f ∈ a.builder.fields, ∀ x, f.requirement = .default x → x.Distinct

/-- Two inputs of a builder are the same up to the order of the fields of structures, at the root
and below it. -/
structure Reordered (given given' : List (String × Json)) : Prop where
  /-- The same names are given. -/
  keys : (Table.keys given').Perm (Table.keys given)
  /-- The values of fields are the same up to the order of fields in them. -/
  values : ∀ f ∈ a.builder.fields, ∀ t, m.find? f.target = some t → ∀ x x',
    (f.memberName, x) ∈ given → (f.memberName, x') ∈ given' → m.Reordered t x x'
  /-- The values of unknown names are the same. -/
  strays : ∀ x ∈ given', (∀ f ∈ a.builder.fields, f.memberName ≠ x.1) → x ∈ given

/-- Two names are unknown at the same place in two inputs, one in each. -/
inductive StraysAlike (given given' : List (String × Json)) : String → String → Prop
  /-- The builder has no fields of these names. -/
  | here {name name' : String} (h : name ∈ Table.keys given) (h' : name' ∈ Table.keys given')
    (hno : ∀ f ∈ a.builder.fields, f.memberName ≠ name)
    (hno' : ∀ f ∈ a.builder.fields, f.memberName ≠ name') : StraysAlike given given' name name'
  /-- They are unknown at the same position below a field. -/
  | below {f : BuilderField} {t : Shape} {x x' : Json} {name name' : String}
    (hf : f ∈ a.builder.fields) (ht : m.find? f.target = some t) (hx : f.Takes given x)
    (hx' : f.Takes given' x') (h : m.StraysAlike ⟨t, x, pointer "" f.memberName⟩
      ⟨t, x', pointer "" f.memberName⟩ name name') : StraysAlike given given' name name'

/-- Two builds have the same result, where they may report different names if these are related. -/
inductive SameResult (stray : String → String → Prop) :
    Except Refusal Json → Except Refusal Json → Prop
  /-- Both give the same value. -/
  | built (j : Json) : SameResult stray (.ok j) (.ok j)
  /-- Both report the same violations in the same order. -/
  | violations (all : Violations) : SameResult stray (.error (.violations all))
    (.error (.violations all))
  /-- Both find the wrong type at the same place. -/
  | wrongType (path expected : String) :
    SameResult stray (.error (.misfit (.wrongType path expected)))
      (.error (.misfit (.wrongType path expected)))
  /-- Both find a name that is unknown. -/
  | unknown {name name' : String} (h : stray name name') :
    SameResult stray (.error (.misfit (.unknownMember name)))
      (.error (.misfit (.unknownMember name')))
  /-- Both go on forever. -/
  | endless : SameResult stray (.error (.misfit .endless)) (.error (.misfit .endless))

theorem sameResult_toBuild {stray : String → String → Prop} {x x' : Verdict Json}
    (h : x.Matches stray x') : SameResult stray x.toBuild x'.toBuild := by
  cases h with
  | ok vs j =>
    cases vs with
    | nil => exact .built j
    | cons => exact .violations _
  | wrongType vs path expected => exact .wrongType path expected
  | unknown vs h => exact .unknown h
  | endless => exact .endless

/-! ### Builds -/

variable {a m} {v : Validator} {given given' : List (String × Json)}

section Inputs

variable (hm : v.model.Sound) (ha : a.Fits v.model) (hd : (Json.obj given).Distinct)
  (hd' : (Json.obj given').Distinct) (h : a.Reordered v.model given given')
include hm ha hd hd' h

/-- A field of a builder is evaluated alike for both inputs. -/
theorem matches_member {f : BuilderField} (hf : f ∈ a.builder.fields) {t : Shape}
    (ht : v.model.find? f.target = some t) :
    (v.member f.requirement f.checks t (Table.get? given f.memberName)
      (pointer "" f.memberName)).Matches (a.StraysAlike v.model given given')
    (v.member f.requirement f.checks t (Table.get? given' f.memberName)
      (pointer "" f.memberName)) := by
  obtain ⟨hnodup, hfields⟩ := Json.distinct_obj_iff.1 hd
  obtain ⟨hnodup', hfields'⟩ := Json.distinct_obj_iff.1 hd'
  have htarget := (hm.find?_eq_some_iff.1 ht).1
  have hgiven := h.values f hf t ht
  -- what is given and what comes of the default are both held against the target
  have hvalue {x x' : Json} (hx : f.Takes given x) (hx' : f.Takes given' x') (hxd : x.Distinct)
      (hxd' : x'.Distinct) (hr : v.model.Reordered t x x') (haccepts : t.kind.Accepts x) :
      (v.descend (v.depthBound x) t x (pointer "" f.memberName)).Matches
        (a.StraysAlike v.model given given')
        (v.descend (v.depthBound x') t x' (pointer "" f.memberName)) :=
    (Validator.matches_depthBound hm htarget hxd haccepts hxd' hr).mono
      fun _ _ hstray => .below hf ht hx hx' hstray
  refine Validator.matches_candidate hnodup hnodup' h.keys.mem_iff
    (fun x x' hx hx' => (hgiven x x' hx hx').eq_null_iff)
    (fun x x' hx hx' hne hne' => ?_) fun x hreq habs habs' => ?_
  · have hr := hgiven x x' hx hx'
    exact Validator.matches_checkValue hr.sameSize fun haccepts =>
      (hvalue (.given hx hne) (.given hx' hne') (hfields _ hx) (hfields' _ hx') hr haccepts).map
        some
  · have hx := ha.default f hf x hreq
    exact Validator.matches_checkValue (.refl x) fun haccepts =>
      (hvalue (.default habs hreq) (.default habs' hreq) hx hx (.same t x) haccepts).map some

/-- So are all fields together. -/
theorem matches_collect {fields : List BuilderField} (hsub : fields ⊆ a.builder.fields) :
    (collect v given fields).Matches (a.StraysAlike v.model given given')
      (collect v given' fields) := by
  induction fields with
  | nil => exact .ok [] []
  | cons f fields ih =>
    obtain ⟨hf, hsub⟩ := List.cons_subset.1 hsub
    obtain ⟨t, ht⟩ := ha.target f hf
    simp only [collect, ht]
    exact (matches_member hm ha hd hd' h hf ht).bind fun value _ =>
      (ih hsub).bind fun built _ => matches_pure _

end Inputs

end Artifact

/-! ### Artifacts of structures -/

namespace Symbols

variable {y : Symbols} {p : Protocol} {s : Shape} {a : Artifact}

/-- A builder goes together with a validator of its own model. -/
theorem fits_of_artifact (hm : y.model.Sound) (h : y.artifact p s = .ok a) : a.Fits y.model := by
  refine ⟨fun f hf => ?_, fun f hf x hx => ?_⟩ <;>
    obtain ⟨e, he, hcollects⟩ := exists_collects h hf <;>
    have hmember := (hm.mem_membersOf_iff.1 he).1
  · exact ⟨_, hcollects.find?_target hm hmember⟩
  · rw [hcollects.requirement, Requirement.of_eq_default_iff] at hx
    exact (hm.tidy e hmember).default x hx

/-- Inputs of a builder are the same up to the order of fields if the structures are that they stand
for. -/
theorem reordered_of_artifact (hm : y.model.Sound) (h : y.artifact p s = .ok a)
    {given given' : List (String × Json)} (hd : (Json.obj given).Distinct)
    (hr : y.model.Reordered s (.obj given) (.obj given')) : a.Reordered y.model given given' := by
  obtain ⟨hstruct, hfields, -⟩ := of_artifact h
  cases hr with
  | same =>
    refine ⟨.refl _, fun f _ t _ x x' hx hx' => ?_, fun x hx _ => hx⟩
    have hget := Table.get?_of_mem (Json.distinct_obj_iff.1 hd).1 hx
    rw [Table.get?_of_mem (Json.distinct_obj_iff.1 hd).1 hx', Option.some.injEq] at hget
    exact hget ▸ .same t x'
  | map hk => simp [Shape.isStruct, hk] at hstruct
  | members _ hkeys hvalues hstrays =>
    refine ⟨hkeys, fun f hf t ht x x' hx hx' => ?_, fun x hx hno => hstrays x hx ?_⟩
    · obtain ⟨e, he, hcollects⟩ := exists_collects h hf
      rw [hcollects.find?_target hm (hm.mem_membersOf_iff.1 he).1, Option.some.injEq] at ht
      rw [hcollects.name] at hx hx'
      exact ht ▸ hvalues e he x x' hx hx'
    · rwa [← Artifact.field?_eq_none_iff, ← Option.isNone_iff_eq_none,
        Artifact.field?_isNone_iff hfields] at hno

end Symbols

/-! ### Two inputs for an album -/

/-- What may be given for an album with a bonus. -/
def bonusAlbum : List (String × Json) := [("tracks", looseTracks), ("bonus", .obj fullBonus)]

/-- The same in another order. -/
def turnedAlbum : List (String × Json) :=
  [("bonus", .obj [("rating", .num (.int 0)), ("title", .str "x")]),
    ("tracks", .arr [.obj [("title", .str "a"), ("note", .null)]])]

theorem reordered_album :
    Model.album.Reordered albumShape (.obj bonusAlbum) (.obj turnedAlbum) := by
  have hmembers : Model.album.membersOf albumShape =
      [⟨⟨"a", "Album", some "tracks"⟩, .member tracksShape.id, []⟩, bonusMember] := by
    decide
  refine .members (.inl rfl) (by decide) (fun e he x x' hx hx' => ?_) fun f hf hno => ?_
  · rw [hmembers, List.mem_cons, List.mem_singleton] at he
    rcases he with rfl | rfl
    · obtain rfl : x = looseTracks := by
        simpa [bonusAlbum, Shape.memberName, ShapeId.lastName] using hx
      obtain rfl : x' = .arr [.obj [("title", .str "a"), ("note", .null)]] := by
        simpa [turnedAlbum, Shape.memberName, ShapeId.lastName] using hx'
      refine .list rfl rfl rfl fun i x x' hx hx' => ?_
      obtain ⟨rfl, rfl⟩ : i = 0 ∧ .obj [("note", .null), ("title", .str "a")] = x := by
        simpa [List.getElem?_cons] using hx
      cases hx'
      exact .of_perm rfl (by decide) (by decide)
    · obtain rfl : x = .obj fullBonus := by
        simpa [bonusAlbum, bonusMember, Shape.memberName, ShapeId.lastName] using hx
      obtain rfl : x' = .obj [("rating", .num (.int 0)), ("title", .str "x")] := by
        simpa [turnedAlbum, bonusMember, Shape.memberName, ShapeId.lastName] using hx'
      exact .of_perm rfl (by decide) (by decide)
  · rcases List.mem_cons.1 hf with rfl | hf
    · exact absurd rfl (hno bonusMember (by decide))
    · rw [List.mem_singleton.1 hf] at hno
      exact absurd rfl (hno _ (hmembers ▸ List.mem_cons_self))

/-- The order of fields does not matter to a build. Inputs that are the same up to it give the same
value, or the same violations in the same order, or the same wrong type, or an unknown name each at
the same place. The model of the validator need not be that of the builder, if it has the shapes
that the fields refer to. -/
theorem build_reordered {v : Validator} (hm : v.model.Assembled) {a : Artifact}
    (ha : a.Fits v.model) {given given' : List (String × Json)} (hd : (Json.obj given).Distinct)
    (hd' : (Json.obj given').Distinct) (h : a.Reordered v.model given given') :
    Artifact.SameResult (a.StraysAlike v.model given given') (a.build v given)
      (a.build v given') := by
  have hm := Model.sound_of_assembled hm
  by_cases hknown : ∀ name ∈ Table.keys given, (a.field? name).isNone = false
  · rw [Artifact.build_eq_toBuild hknown,
      Artifact.build_eq_toBuild fun name hname => hknown name (h.keys.mem_iff.1 hname)]
    exact Artifact.sameResult_toBuild
      ((Artifact.matches_collect hm ha hd hd' h (List.Subset.refl _)).map Json.obj)
  · push Not at hknown
    obtain ⟨name, hname, hno⟩ := hknown
    rw [ne_eq, Bool.not_eq_false] at hno
    obtain ⟨stray, hstray, hnone, hbuild⟩ := Artifact.build_of_unknown hname hno
    obtain ⟨stray', hstray', hnone', hbuild'⟩ :=
      Artifact.build_of_unknown (h.keys.mem_iff.2 hname) hno
    rw [Option.isNone_iff_eq_none, Artifact.field?_eq_none_iff] at hnone hnone'
    rw [hbuild, hbuild']
    exact .unknown (.here hstray hstray' hnone hnone')

theorem build_reordered_album : ∃ a,
    Symbols.album.artifact Placeholder.protocol albumShape = .ok a ∧
      a.build ⟨.album, []⟩ bonusAlbum = .ok (.obj fullAlbum) ∧
      a.build ⟨.album, []⟩ turnedAlbum = .ok (.obj fullAlbum) := by
  have hm := Model.sound_of_assembled Model.assembled_album
  have hartifact : (Symbols.album.artifact Placeholder.protocol albumShape).map
      (fun a => a.build ⟨.album, []⟩ bonusAlbum) = .ok (.ok (.obj fullAlbum)) := by
    decide +kernel
  obtain ⟨a, ha, hbuild⟩ := Except.map_eq_ok_iff.1 hartifact
  have hsame := build_reordered (v := ⟨.album, []⟩) Model.assembled_album
    (Symbols.fits_of_artifact hm ha) (by decide) (by decide)
    (Symbols.reordered_of_artifact hm ha (by decide) reordered_album)
  rw [hbuild] at hsame
  refine ⟨a, ha, hbuild, ?_⟩
  generalize a.build ⟨.album, []⟩ turnedAlbum = r at hsame
  cases hsame
  rfl

end Shapesmith
