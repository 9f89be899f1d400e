import Shapesmith.Proofs.Builder.Direct
import Shapesmith.Proofs.Evaluation.Again
import Shapesmith.Proofs.Evaluation.Defaults
import Shapesmith.Proofs.Model.Integrity

/-!
# What builds give

* `Artifact.exists_descend_eq_collect` : a builder that ends collects what an evaluation of the
  parts of the structure gives at some depth;
* `Artifact.build_eq_ok_iff` : what a build gives is what an evaluation of the parts of the
  structure gives without violations;
* `becomes_of_build` : so it is what becomes of the structure, and nothing is lost or invented;
* `build_again` : it is its own result, in a model that is accepted without tolerance.
-/

namespace Shapesmith

/-- A verdict is read as a success when it is one without violations. -/
theorem Verdict.toBuild_eq_ok_iff {x : Verdict Json} {j : Json} :
    x.toBuild = .ok j ↔ x = pure j := by
  obtain ⟨vs, cause | i⟩ := x
  · simp [toBuild]
  · cases vs <;> simp [toBuild]

namespace Artifact

open Verdict

section Links

variable {v : Validator} {given : List (String × Json)} {s : Shape} {fields : List BuilderField}
  (hm : v.model.Sound) (hs : s ∈ v.model.shapes) (hstruct : s.isStruct = true)
  (hf : List.Forall₂ (fun e f => f.Collects v.model e) (v.model.membersOf s) fields)
  (hd : (Json.obj given).Distinct)
include hm hs hstruct hf hd

/-- The loop over the members ends at some depth if the builder does. -/
theorem exists_settled_eachMember (h : (collect v given fields).Settled) : ∃ depth,
    (Validator.eachMember (v.memberWithin depth) "" (v.model.membersOf s) given).Settled := by
  have hnames := hm.nodup_memberNames hs
  have hp : (⟨s, .obj given, ""⟩ : Spot).Proper v.model := ⟨hs, hd⟩
  have hproper {step : Spot.Step} {q : Spot}
      (hq : Slot.part step q ∈ v.model.slots ⟨s, .obj given, ""⟩) : q.Proper v.model :=
    hp.part hm ((Model.part_mem_slots_iff hm hs hd).1 hq)
  rw [← settled_forget_iff, forget_collect hm hstruct hf] at h
  obtain ⟨depth, hdepth⟩ : ∃ depth,
      (forM (v.model.slots ⟨s, .obj given, ""⟩) (Validator.meet (v.hold depth))).Settled := by
    refine Validator.exists_settled_slots hm (fun step q hq => hproper hq) ?_
    intro before step q after heq hbefore
    rw [heq] at h
    refine ⟨_, h.step (a := Slot.part step q) fun slot hslot hsettled => ?_⟩
    cases slot with
    | missing step' path => rfl
    | part step' r =>
      have hr : r.Proper v.model := hproper (heq ▸ List.mem_append_left _ hslot)
      exact (hbefore step' r hslot).outcome_eq hm hr hsettled
  refine ⟨depth, ?_⟩
  obtain ⟨ids, hk⟩ := Shape.isStruct_iff.1 hstruct
  rw [← settled_map_iff (f := Json.obj), ← Validator.descend_struct v hstruct,
    ← settled_forget_iff,
    Validator.forget_descend_struct hk hnames (Json.distinct_obj_iff.1 hd).1]
  refine hdepth.bind fun _ => ?_
  cases v.model.strays ⟨s, .obj given, ""⟩ <;> simp [Validator.refuse, Settled, misfit]

variable (hknown : ∀ name ∈ Table.keys given, ∃ e ∈ v.model.membersOf s, e.memberName = name)
include hknown

/-- At any depth, an evaluation of the parts of the structure gets at most as far as the builder. -/
theorem descend_approximates_collect (depth : Nat) :
    (v.descend depth s (.obj given) "").Approximates (Json.obj <$> collect v given fields) := by
  cases depth with
  | zero => exact fun h => absurd rfl h
  | succ depth =>
    rw [Validator.descend_struct v hstruct]
    exact (eachMember_approximates_collect hm hd hf
      (fun e he => (hm.mem_membersOf_iff.1 he).1) (hm.nodup_memberNames hs)
      (Json.distinct_obj_iff.1 hd).1 (fun _ _ => rfl) hknown depth).map Json.obj

/-- At some depth, an evaluation of the parts of the structure does what the builder does, if the
builder ends. -/
theorem exists_descend_eq_collect (h : (collect v given fields).Settled) : ∃ depth,
    v.descend depth s (.obj given) "" = Json.obj <$> collect v given fields := by
  obtain ⟨depth, hdepth⟩ := exists_settled_eachMember hm hs hstruct hf hd h
  refine ⟨depth + 1, (descend_approximates_collect hm hs hstruct hf hd hknown _ ?_).symm⟩
  rwa [Validator.descend_struct v hstruct, settled_map_iff]

end Links

variable {v : Validator} {given : List (String × Json)} {s : Shape} {a : Artifact}

/-- When all names are known, a build is what comes of collecting. -/
theorem build_of_known
    (hf : List.Forall₂ (fun e f => f.Collects v.model e) (v.model.membersOf s) a.builder.fields)
    (hknown : ∀ name ∈ Table.keys given, ∃ e ∈ v.model.membersOf s, e.memberName = name) :
    a.build v given = (Json.obj <$> collect v given a.builder.fields).toBuild := by
  refine build_eq_toBuild fun name hname => ?_
  obtain ⟨e, he, hne⟩ := hknown name hname
  rw [Bool.eq_false_iff, ne_eq, field?_isNone_iff hf]
  exact fun hall => hall e he hne

/-- What a build gives is what an evaluation of the parts of the structure gives without
violations. -/
theorem build_eq_ok_iff (hm : v.model.Sound) (hs : s ∈ v.model.shapes)
    (hstruct : s.isStruct = true)
    (hf : List.Forall₂ (fun e f => f.Collects v.model e) (v.model.membersOf s) a.builder.fields)
    (hd : (Json.obj given).Distinct) {j : Json} :
    a.build v given = .ok j ↔ ∃ depth, v.descend depth s (.obj given) "" = pure j := by
  constructor
  · intro h
    have hknown : ∀ name ∈ Table.keys given, ∃ e ∈ v.model.membersOf s, e.memberName = name := by
      intro name hname
      by_contra hno
      push Not at hno
      obtain ⟨stray, -, -, hbuild⟩ :=
        build_of_unknown (v := v) hname ((field?_isNone_iff hf).2 hno)
      rw [h] at hbuild
      cases hbuild
    rw [build_of_known hf hknown, toBuild_eq_ok_iff] at h
    have hsettled : (collect v given a.builder.fields).Settled := by
      rw [← settled_map_iff (f := Json.obj), h]
      exact settled_pure j
    obtain ⟨depth, hdepth⟩ := exists_descend_eq_collect hm hs hstruct hf hd hknown hsettled
    exact ⟨depth, hdepth.trans h⟩
  · rintro ⟨depth, h⟩
    have hknown : ∀ name ∈ Table.keys given, ∃ e ∈ v.model.membersOf s, e.memberName = name := by
      cases depth with
      | zero => cases h
      | succ depth =>
        obtain ⟨built, -, hcompletes, -⟩ := (Validator.descend_struct_eq_pure_iff hm hs hstruct
          (Json.distinct_obj_iff.1 hd).1).1 h
        exact hcompletes.known
    have happrox := descend_approximates_collect hm hs hstruct hf hd hknown depth
    rw [h] at happrox
    rw [build_of_known hf hknown, happrox (settled_pure j), toBuild_eq_ok_iff]

/-- What a build gives is what becomes of the structure. -/
theorem becomes_of_ok (hm : v.model.Sound) (hs : s ∈ v.model.shapes) (hstruct : s.isStruct = true)
    (hf : List.Forall₂ (fun e f => f.Collects v.model e) (v.model.membersOf s) a.builder.fields)
    (hd : (Json.obj given).Distinct) {j : Json} (h : a.build v given = .ok j) :
    v.model.Becomes s (.obj given) j := by
  obtain ⟨depth, h⟩ := (build_eq_ok_iff hm hs hstruct hf hd).1 h
  obtain ⟨ids, hk⟩ := Shape.isStruct_iff.1 hstruct
  exact Validator.becomes_of_descend hm hs hd (hk ▸ .struct ids given) h

end Artifact

/-! ### An album of tracks -/

/-- A track has a title, may have a note, and is rated zero unless it says otherwise. -/
def trackShape : Shape :=
  ⟨⟨"a", "Track", none⟩, .struct [⟨"a", "Track", some "title"⟩, ⟨"a", "Track", some "rating"⟩,
    ⟨"a", "Track", some "note"⟩], []⟩

/-- The tracks of an album. -/
def tracksShape : Shape := ⟨⟨"a", "Tracks", none⟩, .list ⟨"a", "Tracks", some "member"⟩, []⟩

/-- An album has tracks and a bonus. -/
def albumShape : Shape :=
  ⟨⟨"a", "Album", none⟩, .struct [⟨"a", "Album", some "tracks"⟩, ⟨"a", "Album", some "bonus"⟩], []⟩

/-- The note of a track may stay away. -/
def noteMember : Shape := ⟨⟨"a", "Track", some "note"⟩, .member Prelude.stringId, []⟩

/-- The bonus of an album is a track with a title and nothing else unless it is given. -/
def bonusMember : Shape :=
  ⟨⟨"a", "Album", some "bonus"⟩, .member trackShape.id,
    [(Trait.defaultId, .default (.obj [("title", .str "x")]))]⟩

/-- The model of these shapes. -/
def Model.album : Model := ⟨[albumShape, bonusMember,
  ⟨⟨"a", "Album", some "tracks"⟩, .member tracksShape.id, []⟩, trackShape, noteMember,
  ⟨⟨"a", "Track", some "rating"⟩, .member ⟨"smithy.api", "Integer", none⟩,
    [(Trait.defaultId, .default (.num (.int 0)))]⟩,
  ⟨⟨"a", "Track", some "title"⟩, .member Prelude.stringId, Prelude.required⟩,
  tracksShape, ⟨⟨"a", "Tracks", some "member"⟩, .member trackShape.id, []⟩] ++ bare.shapes⟩

/-- The document of that model. -/
def albumSource : String := "[\"2\",\x7b" ++
  "\"a#Track\":[\"structure\",\x7b" ++
    "\"title\":[\"smithy.api#String\",\x7b\"smithy.api#required\":\x7b\x7d\x7d]," ++
    "\"rating\":[\"smithy.api#Integer\",\x7b\"smithy.api#default\":0\x7d]," ++
    "\"note\":[\"smithy.api#String\"]\x7d]," ++
  "\"a#Tracks\":[\"list\",[\"a#Track\"]]," ++
  "\"a#Album\":[\"structure\",\x7b\"tracks\":[\"a#Tracks\"]," ++
    "\"bonus\":[\"a#Track\",\x7b\"smithy.api#default\":\x7b\"title\":\"x\"\x7d\x7d]\x7d]\x7d]"

/-- The model is assembled from the document, which declares its shapes one by one. -/
theorem Model.assemble_album : assemble [albumSource] = .ok album ∧
    ∀ source ∈ [albumSource], ∀ d, Document.ofText source = .ok d → d.DeclaresShapes := by
  have hread : Document.ofText albumSource = Document.readList (Json.depthLimit - 1) _ :=
    Document.ofText_list (by
      delta albumSource
      repeat rw [String.toList_append]
      repeat rw [String.toList_ofList]
      rfl)
  have hdecide : (Document.ofText albumSource).map (fun d => decide d.DeclaresShapes) =
      .ok true := by
    rw [hread]
    decide +kernel
  constructor
  · refine assemble_of_ofText ?_ (by decide)
    rw [hread]
    decide +kernel
  · intro source hs d hd
    rw [← List.mem_singleton.1 hs, hd] at hdecide
    exact of_decide_eq_true (Except.ok.inj hdecide)

theorem Model.assembled_album : album.Assembled := ⟨_, assemble_album.1⟩

theorem Validator.ofModel_album : ofModel .album = .ok ⟨.album, []⟩ :=
  ofModel_of_pattern_eq_none (by decide)

/-- The symbols of the model on a server. -/
def Symbols.album : Symbols := ⟨.album, Placeholder.service, .server true, []⟩

/-- What may be given for some tracks. -/
def looseTracks : Json := .arr [.obj [("note", .null), ("title", .str "a")]]

/-- What becomes of them. -/
def fullTracks : Json := .arr [.obj [("title", .str "a"), ("rating", .num (.int 0))]]

/-- What becomes of the bonus when it is not given. -/
def fullBonus : List (String × Json) := [("title", .str "x"), ("rating", .num (.int 0))]

/-- What may be given for an album. -/
def looseAlbum : List (String × Json) := [("tracks", looseTracks)]

/-- What becomes of it. -/
def fullAlbum : List (String × Json) := [("tracks", fullTracks), ("bonus", .obj fullBonus)]

theorem exists_build_album : ∃ a,
    Symbols.album.artifact Placeholder.protocol albumShape = .ok a ∧
      a.build ⟨.album, []⟩ looseAlbum = .ok (.obj fullAlbum) := by
  have hartifact : (Symbols.album.artifact Placeholder.protocol albumShape).map
      (fun a => a.build ⟨.album, []⟩ looseAlbum) = .ok (.ok (.obj fullAlbum)) := by
    decide +kernel
  obtain ⟨a, ha, hbuild⟩ := Except.map_eq_ok_iff.1 hartifact
  exact ⟨a, ha, hbuild⟩

/-! ### Builds -/

variable {m : Model} {v : Validator}

/-- A build neither loses nor invents anything: what it gives is what becomes of the structure. -/
theorem becomes_of_build (hm : m.Assembled) {y : Symbols} (hy : y.model = m)
    (hv : Validator.ofModel m = .ok v) {p : Protocol} {s : Shape} (hs : s ∈ m.shapes)
    {a : Artifact} (ha : y.artifact p s = .ok a) {given : List (String × Json)}
    (hd : (Json.obj given).Distinct) {j : Json} (h : a.build v given = .ok j) :
    m.Becomes s (.obj given) j := by
  obtain ⟨rfl, -⟩ := Validator.of_ofModel hv
  obtain ⟨hstruct, hfields, -⟩ := Symbols.of_artifact ha
  rw [hy] at hfields
  exact Artifact.becomes_of_ok (Model.sound_of_assembled hm) hs hstruct hfields hd h

theorem becomes_of_build_album :
    Model.album.Becomes albumShape (.obj looseAlbum) (.obj fullAlbum) := by
  obtain ⟨a, ha, hbuild⟩ := exists_build_album
  exact becomes_of_build Model.assembled_album rfl Validator.ofModel_album (by decide) ha
    (by decide) hbuild

/-- In a model that is accepted without tolerance, builds and validations give back their own
results. -/
theorem build_again (hm : m.Assembled) {service : Shape}
    (haccept : m.accept service false = .ok ()) (hv : Validator.ofModel m = .ok v) :
    (∀ (y : Symbols) (p : Protocol), y.model = m → ∀ s ∈ m.shapes, ∀ a,
      y.artifact p s = .ok a → ∀ given built, (Json.obj given).Distinct →
        a.build v given = .ok (.obj built) → a.build v built = .ok (.obj built)) ∧
    ∀ s ∈ m.shapes, ∀ (value w : Json) (path : String), value.Distinct →
      v.validate s value path = ⟨[], .ok w⟩ → ∀ path', v.validate s w path' = ⟨[], .ok w⟩ := by
  obtain ⟨rfl, -⟩ := Validator.of_ofModel hv
  have hm := Model.sound_of_assembled hm
  constructor
  · intro y p hy s hs a ha given built hd h
    obtain ⟨hstruct, hfields, -⟩ := Symbols.of_artifact ha
    rw [hy] at hfields
    obtain ⟨ids, hk⟩ := Shape.isStruct_iff.1 hstruct
    obtain ⟨depth, h⟩ := (Artifact.build_eq_ok_iff hm hs hstruct hfields hd).1 h
    have haccepts : s.kind.Accepts (.obj given) := hk ▸ .struct ids given
    have hbecomes := Validator.becomes_of_descend hm hs hd haccepts h
    have hagain := Validator.descend_again haccept hm hs hd haccepts h ""
    exact (Artifact.build_eq_ok_iff hm hs hstruct hfields (hbecomes.distinct hm hs hd)).2
      ⟨depth, hagain⟩
  · intro s hs value w path hd h path'
    exact Validator.validate_again haccept hm hs hd h path'

theorem build_again_album : ∃ a,
    Symbols.album.artifact Placeholder.protocol albumShape = .ok a ∧
      a.build ⟨.album, []⟩ fullAlbum = .ok (.obj fullAlbum) ∧
      (⟨.album, []⟩ : Validator).validate tracksShape fullTracks "/again" =
        ⟨[], .ok fullTracks⟩ := by
  obtain ⟨a, ha, hbuild⟩ := exists_build_album
  have haccept : Model.album.accept Placeholder.service false = .ok () := by decide
  obtain ⟨hbuilds, hvalues⟩ := build_again Model.assembled_album haccept Validator.ofModel_album
  refine ⟨a, ha, hbuilds .album _ rfl albumShape (by decide) a ha looseAlbum _ (by decide) hbuild,
    hvalues tracksShape (by decide) looseTracks _ "" (by decide) (congrArg₂ Verdict.mk ?_ ?_)
      "/again"⟩
  · decide +kernel
  · decide +kernel

end Shapesmith
