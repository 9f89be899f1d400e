import Shapesmith.Proofs.Json.Record
import Shapesmith.Proofs.ShapeId.Spelling
import Shapesmith.Settings

/-!
# Settings survive being written

Settings are written as one object of all their fields, whatever document they were read from. The
object says the same when it is read back, alone or as the block of the plugin in a build file.

* `Settings.Readable` : what has been read into settings, kept by each field;
* `Settings.read_toJson` : such settings are read back;
* `Settings.written_survives` : so all settings that a document declares survive.
-/

namespace Shapesmith

namespace Settings

/-! ### What settings can hold -/

/-- What has been read into settings: ids that have their texts, and a customisation other than
null. -/
structure Readable (s : Settings) : Prop where
  /-- The service is found in its text again. -/
  service : ShapeId.parse? s.service.text = some s.service
  /-- So is the protocol. -/
  protocol : ∀ id ∈ s.codegen.protocol, ShapeId.parse? id.text = some id
  /-- Null is no customisation. -/
  customization : s.customizationConfig ≠ some .null

theorem parse?_of_asShapeId {j : Json} {id : ShapeId} (h : asShapeId j = .ok id) :
    ShapeId.parse? id.text = some id := by
  obtain ⟨text, -, h⟩ := Except.bind_eq_ok_iff.1 h
  split at h
  · rename_i id' hid
    obtain rfl := Except.ok.inj h
    rwa [(ShapeId.parse?_eq_some_iff.1 hid).2.2]
  · cases h

theorem asShapeId_text {id : ShapeId} (h : ShapeId.parse? id.text = some id) :
    asShapeId (.str id.text) = .ok id := by
  simp [asShapeId, Json.asText, h, bind, Except.bind, pure, Except.pure]

theorem protocol_of_optionsRecord {surplus : Nat → String} {j : Json} {o : Options}
    (h : optionsRecord.read surplus j = .ok o) :
    ∀ id ∈ o.protocol, ShapeId.parse? id.text = some id := by
  refine Json.Record.read_induct
    (P := fun o : Options => ∀ id ∈ o.protocol, ShapeId.parse? id.text = some id) ?_ ?_ h
  · exact fun id hid => absurd hid (Option.not_mem_none id)
  · intro o ho field j o' hset
    simp only [optionsRecord] at hset
    split at hset
    · obtain ⟨flag, -, hset⟩ := Except.bind_eq_ok_iff.1 hset
      exact Except.ok.inj hset ▸ ho
    · split at hset
      · obtain ⟨flag, -, hset⟩ := Except.bind_eq_ok_iff.1 hset
        exact Except.ok.inj hset ▸ ho
      · obtain ⟨protocol, hread, hset⟩ := Except.bind_eq_ok_iff.1 hset
        obtain rfl := Except.ok.inj hset
        rintro id (rfl : protocol = some id)
        exact parse?_of_asShapeId (Json.asOption_eq_some hread).2

variable {s s' : Settings}

/-- What setting a field changes, as far as reading back depends on it. -/
inductive Changes (s : Settings) : Settings → Prop
  /-- The service. -/
  | service {j : Json} {id : ShapeId} (h : asShapeId j = .ok id) :
    Changes s { s with service := id }
  /-- The flags. -/
  | codegen {j : Json} {o : Options} (h : optionsRecord.read Json.fewerInArray j = .ok o) :
    Changes s { s with codegen := o }
  /-- The customisation. -/
  | customization {j : Json} {value : Option Json} (h : Json.asOption .ok j = .ok value) :
    Changes s { s with customizationConfig := value }
  /-- None of them. -/
  | metadata {s' : Settings} (hservice : s'.service = s.service) (hcodegen : s'.codegen = s.codegen)
    (hcustomization : s'.customizationConfig = s.customizationConfig) : Changes s s'

theorem changes_of_set {field : String} {j : Json} (h : s.set field j = .ok s') :
    s.Changes s' := by
  unfold set at h
  split at h <;> obtain ⟨a, ha, h⟩ := Except.bind_eq_ok_iff.1 h <;> obtain rfl := Except.ok.inj h
  case h_1 => exact .service ha
  case h_9 => exact .codegen ha
  case h_10 => exact .customization ha
  all_goals exact .metadata rfl rfl rfl

/-- Settings that a value declares can be read back. -/
theorem readable_of_read {surplus : Nat → String} {j : Json} (h : record.read surplus j = .ok s) :
    s.Readable := by
  have hservice : ShapeId.parse? s.service.text = some s.service := by
    refine Json.Record.read_required (r := record)
      (Q := fun s => ShapeId.parse? s.service.text = some s.service)
      (show "service" ∈ record.fields by decide) (by decide) ?_ ?_ h
    · intro s j s' hset
      obtain ⟨id, hid, hset⟩ := Except.bind_eq_ok_iff.1 hset
      obtain rfl := Except.ok.inj hset
      exact parse?_of_asShapeId hid
    · intro s hs field j s' hset
      cases changes_of_set hset with
      | service h => exact parse?_of_asShapeId h
      | codegen | customization => exact hs
      | metadata hservice => rwa [hservice]
  obtain ⟨hprotocol, hcustomization⟩ := Json.Record.read_induct (r := record)
    (P := fun s => (∀ id ∈ s.codegen.protocol, ShapeId.parse? id.text = some id) ∧
      s.customizationConfig ≠ some .null) ⟨nofun, nofun⟩ (fun s hs field j s' hset => by
      cases changes_of_set hset with
      | service => exact hs
      | codegen h => exact ⟨protocol_of_optionsRecord h, hs.2⟩
      | customization h =>
        refine ⟨hs.1, ?_⟩
        rintro rfl
        obtain ⟨hne, heq⟩ := Json.asOption_eq_some h
        exact hne (Except.ok.inj heq)
      | metadata hservice hcodegen hcustomization => rwa [hcodegen, hcustomization]) h
  exact ⟨hservice, hprotocol, hcustomization⟩

/-! ### Writing and reading back -/

theorem asOption_protocol {protocol : Option ShapeId}
    (h : ∀ id ∈ protocol, ShapeId.parse? id.text = some id) :
    Json.asOption asShapeId (Json.optional (protocol.map ShapeId.text)) = .ok protocol := by
  cases protocol with
  | none => rfl
  | some id => exact congrArg (Except.map some) (asShapeId_text (h id rfl))

theorem asOption_customization {value : Option Json} (h : value ≠ some .null) :
    Json.asOption .ok (Json.orNull id value) = .ok value := by
  cases value with
  | none => rfl
  | some value =>
    cases value with
    | null => exact absurd rfl h
    | _ => rfl

theorem read_optionsJson {o : Options} (h : ∀ id ∈ o.protocol, ShapeId.parse? id.text = some id)
    (surplus : Nat → String) : optionsRecord.read surplus (optionsJson o) = .ok o := by
  refine Json.Record.read_obj rfl (by decide) (by decide) ?_ surplus
  simp [List.foldlM, optionsRecord, Json.asFlag, asOption_protocol h, bind, Except.bind, pure,
    Except.pure]

/-- Settings that hold what has been read are read back from what is written of them. -/
theorem read_toJson (h : s.Readable) (surplus : Nat → String) :
    record.read surplus s.toJson = .ok s := by
  refine Json.Record.read_obj rfl (by decide) (by decide) ?_ surplus
  simp [List.foldlM, record, set, asShapeId_text h.service, Json.asText, Json.asList_strings,
    Json.asOption_optional, read_optionsJson h.protocol, asOption_customization h.customization,
    bind, Except.bind, pure, Except.pure]

/-- A build file around settings: an object with plugins, and among them the block. -/
def inBuildFile (s : Settings) (outer plugins : List (String × Json)) : Json :=
  .obj (Table.put outer "plugins" (.obj (Table.put plugins "rust-server-codegen" s.toJson)))

theorem pointer?_toJson (s : Settings) : s.toJson.pointer? place = none := rfl

theorem pointer?_inBuildFile (s : Settings) (outer plugins : List (String × Json)) :
    (s.inBuildFile outer plugins).pointer? place = some s.toJson := by
  simp [inBuildFile, place, Json.pointer?, Table.get?_put_self]

theorem ofText_eq_ok_iff {source : String} : ofText source = .ok s ↔
    ∃ j, Json.ofText source = .ok j ∧ ofJson j = .ok s := by
  unfold ofText
  cases Json.ofText source with
  | error f => simp
  | ok j => cases h : ofJson j <;> simp [h]

/-- Settings that a document declares are read back from what is written of them, alone or in a
build file around them, and so they are from each text that stands for what is written. -/
theorem written_survives {source : String} (h : ofText source = .ok s) :
    ofJson s.toJson = .ok s ∧
    (∀ outer plugins, ofJson (s.inBuildFile outer plugins) = .ok s) ∧
    (∀ text, Json.ofText text = .ok s.toJson → ofText text = .ok s) ∧
    ∀ text outer plugins, Json.ofText text = .ok (s.inBuildFile outer plugins) →
      ofText text = .ok s := by
  obtain ⟨j, -, hread⟩ := ofText_eq_ok_iff.1 h
  have hreadable := readable_of_read hread
  have hbare : ofJson s.toJson = .ok s := by
    rw [ofJson, pointer?_toJson]
    exact read_toJson hreadable _
  have hplaced (outer plugins : List (String × Json)) :
      ofJson (s.inBuildFile outer plugins) = .ok s := by
    rw [ofJson, pointer?_inBuildFile]
    exact read_toJson hreadable _
  exact ⟨hbare, hplaced, fun text htext => ofText_eq_ok_iff.2 ⟨_, htext, hbare⟩,
    fun text outer plugins htext => ofText_eq_ok_iff.2 ⟨_, htext, hplaced outer plugins⟩⟩

/-- The settings of a mill, as a list of their fields, with a list of flags that lacks the last. -/
def millSource : String :=
  "[\"a#Mill\",\"mill\",\"1\",[\"b\",\"c\"],null,\"d\",null,null,[false,true],[null,\x7b\x7d]]"

/-- The settings that it declares. -/
def mill : Settings := ⟨⟨"a", "Mill", none⟩, "mill", "1", ["b", "c"], none, some "d", none, none,
  ⟨false, true, none⟩, some (.arr [.null, .obj []])⟩

/-- What is written of them, as a text. -/
def millText : String :=
  "\x7b\"service\":\"a#Mill\",\"module\":\"mill\",\"moduleVersion\":\"1\"," ++
  "\"moduleAuthors\":[\"b\",\"c\"],\"moduleDescription\":null,\"moduleRepository\":\"d\"," ++
  "\"license\":null,\"examplesUri\":null,\"codegen\":\x7b\"publicConstrainedTypes\":false," ++
  "\"ignoreUnsupportedConstraints\":true,\"protocol\":null\x7d," ++
  "\"customizationConfig\":[null,\x7b\x7d]\x7d"

/-- The settings are read back from the text and from a build file with another plugin. -/
theorem written_survives_mill : ofText millSource = .ok mill ∧ ofText millText = .ok mill ∧
    ofJson (mill.inBuildFile [("version", .str "1.0")] [("other", .null)]) = .ok mill := by
  have hdeclared : Json.ofText millSource = .ok (.arr [.str "a#Mill", .str "mill", .str "1",
      .arr [.str "b", .str "c"], .null, .str "d", .null, .null, .arr [.bool false, .bool true],
      .arr [.null, .obj []]]) := by
    delta Json.ofText millSource
    rw [String.toList_ofList]
    decide +kernel
  have hread : ofText millSource = .ok mill :=
    ofText_eq_ok_iff.2 ⟨_, hdeclared, by decide +kernel⟩
  have htext : Json.ofText millText = .ok mill.toJson := by
    delta Json.ofText millText
    repeat rw [String.toList_append]
    repeat rw [String.toList_ofList]
    decide +kernel
  obtain ⟨-, hplaced, hbare, -⟩ := written_survives hread
  exact ⟨hread, hbare _ htext, hplaced _ _⟩

end Settings

end Shapesmith
