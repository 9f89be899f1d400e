import Shapesmith.Proofs.Builder.Results
import Shapesmith.Proofs.Model.Boxing
import Shapesmith.Proofs.Model.Shared
import Shapesmith.Proofs.Symbol.Uniform

/-!
# Types say which members are there

On a server, the type of a member is an option when the member may stay away. What a builder makes
agrees with these types at every depth.

* `Symbols.isOption_iff` : the type of a member of a structure is an option exactly if the member is
  optional;
* `Symbols.Presents` : an object has the members that are not optional or are given;
* `nullability_of_build` : both for all structures, and for all structures in what is built.
-/

namespace Shapesmith

theorem CodeType.isOption_of_stripped {t : CodeType} (h : t.stripped = t) : t.isOption = false := by
  cases t with
  | option inner => exact absurd h (stripped_ne_option _ _)
  | _ => rfl

namespace Symbols

variable {y : Symbols} {s e : Shape} {symbol : Symbol}

/-- The type of a member is an option around a type without one exactly if the member may be
absent. -/
theorem isOption_wrap {type : CodeType} (h : type.stripped = type) :
    (y.wrap e type).isOption = y.model.isNullable y.style.nullability e := by
  have hinner : (if y.model.isBoxed e.id then type.boxed else type).isOption = false := by
    split_ifs
    · rfl
    · exact CodeType.isOption_of_stripped h
  rw [wrap]
  cases y.model.isNullable y.style.nullability e with
  | true => rfl
  | false => exact hinner

/-- Everyone sees the type of its target at a member, in an option and a box where it needs them. -/
theorem exists_wrap_of_surface {id : ShapeId} {t : Shape} (hk : e.kind = .member id)
    (ht : y.model.find? id = some t) (hkt : t.isMember = false) (h : y.surface e = .ok symbol) :
    ∃ type, type.stripped = type ∧ symbol.type = y.wrap e type := by
  unfold surface at h
  split at h
  · obtain ⟨inner, hinner, heq⟩ := constrainedAt_of_member hk ht (constrained_eq_ok_iff.1 h)
    exact ⟨_, (checked_of_constrainedAt hkt hinner).stripped hkt, heq⟩
  · obtain ⟨inner, -, rfl⟩ := plainAt_of_member hk ht (plain_eq_ok_iff.1 h)
    exact ⟨_, CodeType.stripped_stripped _, rfl⟩

/-- On a server, a member of a structure may be absent exactly if it is optional. -/
theorem isNullable_server_iff {m : Model} (hm : m.Sound) (hp : m.Paired) (hs : s ∈ m.shapes)
    (hstruct : s.isStruct = true) (he : e ∈ m.membersOf s) :
    m.isNullable .server e = true ↔ Requirement.of e = .optional := by
  rw [Model.isNullable, hp.find?_owner hm hs he, Option.any_some, hstruct, Bool.true_and,
    Requirement.of, Shape.mustBeGiven]
  cases e.traits.isRequired <;> cases e.traits.defaultValue <;> simp

/-- On a server, the type of a member of a structure is an option exactly if the member is
optional. -/
theorem isOption_iff (hm : y.model.Sound) (hp : y.model.Paired)
    (hdirect : ∀ e ∈ y.model.shapes, (y.model.targetOf e).isMember = false)
    (hstyle : y.style.nullability = .server) (hs : s ∈ y.model.shapes)
    (hstruct : s.isStruct = true) (he : e ∈ y.model.membersOf s) (h : y.surface e = .ok symbol) :
    symbol.type.isOption = true ↔ Requirement.of e = .optional := by
  have hmember := (hm.mem_membersOf_iff.1 he).1
  obtain ⟨id, hk⟩ := Shape.isMember_iff.1 (hm.isMember_of_mem hs he)
  obtain ⟨type, htype, heq⟩ :=
    exists_wrap_of_surface hk (hm.find?_of_member hmember hk) (hdirect e hmember) h
  rw [heq, isOption_wrap htype, hstyle, isNullable_server_iff hm hp hs hstruct he]

/-- An object that is made of another one has the members of a structure that their types ask for.
-/
structure Presents (y : Symbols) (s : Shape) (fields built : List (String × Json)) : Prop where
  /-- A member is there unless its type is an option and no value is given for it. -/
  present : ∀ e ∈ y.model.membersOf s, ∀ symbol, y.surface e = .ok symbol →
    (e.memberName ∈ Table.keys built ↔ symbol.type.isOption = false ∨ ¬ e.AbsentFrom fields)
  /-- What is there is not null. -/
  solid : ∀ name, (name, .null) ∉ built

end Symbols

/-- The symbols of a server say which members are there. The type of a member of a structure is an
option exactly if the member is optional. Wherever a structure comes up in what is built, members
are there unless their types are options and no value is given for them at that place, and nothing
that is there is null. -/
theorem nullability_of_build {sources : List String} {m : Model}
    (hm : Model.assemble sources = .ok m)
    (hdocs : ∀ source ∈ sources, ∀ d, Document.ofText source = .ok d → d.DeclaresShapes)
    (hdirect : ∀ e ∈ m.shapes, (m.targetOf e).isMember = false) {y : Symbols} (hy : y.model = m)
    (hstyle : y.style.nullability = .server) :
    (∀ s ∈ m.shapes, s.isStruct = true → ∀ e ∈ m.membersOf s, ∀ symbol,
      y.surface e = .ok symbol →
        (symbol.type.isOption = true ↔ Requirement.of e = .optional)) ∧
    ∀ (v : Validator) (p : Protocol), Validator.ofModel m = .ok v → ∀ s ∈ m.shapes, ∀ a,
      y.artifact p s = .ok a → ∀ given j, (Json.obj given).Distinct → a.build v given = .ok j →
        ∀ trail w, m.Position ⟨s, j, ""⟩ trail w → w.shape.isStruct = true →
          ∃ q fields built, m.Position ⟨s, .obj given, ""⟩ trail q ∧ q.shape = w.shape ∧
            q.value = .obj fields ∧ w.value = .obj built ∧ y.Presents w.shape fields built := by
  have hp := Model.paired_of_assemble hm hdocs
  have hm := Model.sound_of_assembled ⟨sources, hm⟩
  subst hy
  have htypes {s : Shape} (hs : s ∈ y.model.shapes) (hstruct : s.isStruct = true) {e : Shape}
      (he : e ∈ y.model.membersOf s) {symbol : Symbol} (h : y.surface e = .ok symbol) :=
    Symbols.isOption_iff hm hp hdirect hstyle hs hstruct he h
  refine ⟨fun s hs hstruct e he symbol h => htypes hs hstruct he h, ?_⟩
  intro v p hv s hs a ha given j hd hbuild trail w hw hstruct
  obtain ⟨hs', hfields, -⟩ := Symbols.of_artifact ha
  obtain ⟨hv, -⟩ := Validator.of_ofModel hv
  have hbecomes : y.model.Becomes s (.obj given) j := by
    rw [← hv] at hm hs hfields ⊢
    exact Artifact.becomes_of_ok hm hs hs' hfields hd hbuild
  obtain ⟨q, hq, hshape, -, hvalue⟩ := hbecomes.exists_position hm hs hw
  obtain ⟨fields, built, hqv, hwv, hcompletes, hvalues⟩ := hvalue.of_struct hstruct
  refine ⟨q, fields, built, hq, hshape, hqv, hwv, ⟨fun e he symbol h => ?_, fun name hname => ?_⟩⟩
  · rw [hcompletes.mem_keys_iff he, ne_eq, ← htypes (hw.shape_mem hm hs) hstruct he h,
      Bool.not_eq_true]
  · obtain ⟨e, he, rfl, x, hx⟩ := hcompletes.exists_member hname
    exact (hvalues e he x _ hx hname).ne_null hx.ne_null rfl

theorem nullability_of_build_album :
    (∃ symbol, Symbols.album.surface noteMember = .ok symbol ∧ symbol.type.isOption = true) ∧
    ∃ a, Symbols.album.artifact Placeholder.protocol albumShape = .ok a ∧
      a.build ⟨.album, []⟩ looseAlbum = .ok (.obj fullAlbum) ∧
      ∃ q fields, Model.album.Position ⟨albumShape, .obj looseAlbum, ""⟩ [.member 1] q ∧
        q.value = .obj fields ∧ Symbols.album.Presents trackShape fields fullBonus := by
  obtain ⟨hm, hdocs⟩ := Model.assemble_album
  obtain ⟨htypes, hbuilds⟩ := nullability_of_build hm hdocs (by decide) (y := .album) rfl rfl
  constructor
  · have hok : (Symbols.album.surface noteMember).isOk = true := by decide
    cases h : Symbols.album.surface noteMember with
    | error cause =>
      rw [h] at hok
      cases hok
    | ok symbol =>
      exact ⟨symbol, rfl, (htypes trackShape (by decide) rfl noteMember (by decide) symbol h).2 rfl⟩
  · obtain ⟨a, ha, hbuild⟩ := exists_build_album
    have hbonus : Model.album.Position ⟨albumShape, .obj fullAlbum, ""⟩ [.member 1]
        ⟨trackShape, .obj fullBonus, "/bonus"⟩ :=
      .deeper (.member rfl (by decide : _ = some bonusMember)
        (.given (by decide) Json.noConfusion)) (.here _)
    obtain ⟨q, fields, built, hq, -, hvalue, hbuilt, hpresents⟩ :=
      hbuilds _ _ Validator.ofModel_album albumShape (by decide) a ha looseAlbum _ (by decide)
        hbuild _ _ hbonus rfl
    cases hbuilt
    exact ⟨a, ha, hbuild, q, fields, hq, hvalue, hpresents⟩

end Shapesmith
