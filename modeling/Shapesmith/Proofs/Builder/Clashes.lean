import Shapesmith.Placeholder
import Shapesmith.Proofs.Builder.Fields
import Shapesmith.Proofs.Builder.Naming
import Shapesmith.Proofs.Symbol.VariantNames

/-!
# Names that clash in an artifact

The functions of a builder share one scope, and so do the variants of a violation type. The names in
each are made from the names of the members in several ways, and the name of one member can look
like what is made of another.

* `Symbols.names_nodup_iff` : exactly which members make names of an artifact clash;
* `Symbols.exists_clash` : a structure with all of them.
-/

namespace Shapesmith

namespace Symbols

variable {y : Symbols} {p : Protocol} {s : Shape} {a : Artifact}

theorem named_of_artifact (ha : y.artifact p s = .ok a) : ∀ f ∈ a.builder.fields, f.Named := by
  intro f hf
  have hfields := collect_eq_ok_iff.2 (generates_of_artifact ha).collected
  obtain ⟨e, -, he⟩ := exists_of_mem_collect hfields hf
  exact BuilderField.named_of_builderField he

/-- The fields of a builder have the names of the members. -/
theorem map_snakeName_of_artifact (ha : y.artifact p s = .ok a) :
    a.builder.fields.map (·.snakeName) =
      (y.model.membersOf s).map fun e => Text.snakeCase e.memberName := by
  have hfields := collect_eq_ok_iff.2 (generates_of_artifact ha).collected
  refine map_eq_of_collect (fun e f hf => ?_) hfields
  rw [BuilderField.snakeName, (collects_of_builderField hf).name]

/-- In the artifact of a structure whose members have different names in snake case and in camel
case, two functions of the builder have one name exactly when the snake name of a member is `build`
or that of a member with an internal setter behind `set_`; no name is imitated whose setter ends in
an underscore. Two variants have one name exactly when the camel name of a member that can break a
constraint is the name of a check of the structure, or that of a member that must be given behind
`Missing`. -/
theorem names_nodup_iff (hm : y.model.Assembled) (hs : s ∈ y.model.shapes)
    (ha : y.artifact p s = .ok a)
    (hsnake : ((y.model.membersOf s).map fun e => Text.snakeCase e.memberName).Nodup)
    (hcamel : ((y.model.membersOf s).map fun e => Text.camelCase e.memberName).Nodup) :
    (a.builder.functionNames.Nodup ↔
      (∀ f ∈ a.builder.fields, f.snakeName ≠ BuilderType.buildName) ∧
      ∀ f ∈ a.builder.fields, f.internalSetter ≠ none → f.snakeName ∉ pathKeywords →
        ∀ g ∈ a.builder.fields, g.snakeName ≠ "set_" ++ f.snakeName) ∧
    ∀ t, a.violation = some t → ((t.variants.map Variant.name).Nodup ↔
      ∀ e ∈ y.model.membersOf s, y.model.reachesConstrained e = true →
        (∀ c ∈ s.checks, e.variantName ≠ c.variantName) ∧
        ∀ f ∈ y.model.membersOf s, f.mustBeGiven = true → e.variantName ≠ f.missingName) := by
  have hgenerates := generates_of_artifact ha
  constructor
  · refine BuilderType.nodup_functionNames_iff (named_of_artifact ha) ?_
    rw [map_snakeName_of_artifact ha]
    exact hsnake
  · intro t ht
    obtain ⟨hr, -, hvariants⟩ := of_violationType (ht ▸ hgenerates.violation)
    exact nodup_variantNames_iff hgenerates.struct (Model.distinct_of_assembled hm s hs) hr
      hvariants hcamel

end Symbols

/-! ### Bales and parcels -/

/-- A structure with keywords for names, and a setter that looks like an internal one. -/
def baleShape : Shape := ⟨⟨"a", "Bale", none⟩, .struct [⟨"a", "Bale", some "self"⟩,
  ⟨"a", "Bale", some "setSelf"⟩, ⟨"a", "Bale", some "type"⟩], []⟩

/-- A structure whose members imitate all that is made of names. -/
def parcelShape : Shape := ⟨⟨"a", "Parcel", none⟩, .struct [⟨"a", "Parcel", some "build"⟩,
  ⟨"a", "Parcel", some "label"⟩, ⟨"a", "Parcel", some "missingLabel"⟩,
  ⟨"a", "Parcel", some "setLabel"⟩], []⟩

/-- The model of these shapes. -/
def Model.parcels : Model := ⟨[baleShape, plainMember "Bale" "self" tagShape.id,
  plainMember "Bale" "setSelf" Prelude.stringId, plainMember "Bale" "type" Prelude.stringId,
  parcelShape, plainMember "Parcel" "build" Prelude.stringId,
  ⟨⟨"a", "Parcel", some "label"⟩, .member tagShape.id, [(Trait.requiredId, .required)]⟩,
  plainMember "Parcel" "missingLabel" tagShape.id,
  plainMember "Parcel" "setLabel" Prelude.stringId, tagShape] ++ bare.shapes⟩

/-- The document of that model. -/
def parcelSource : String := "[\"2\",\x7b" ++
  "\"a#Bale\":[\"structure\",\x7b\"self\":[\"a#Tag\"]," ++
  "\"setSelf\":[\"smithy.api#String\"],\"type\":[\"smithy.api#String\"]\x7d]," ++
  "\"a#Parcel\":[\"structure\",\x7b\"build\":[\"smithy.api#String\"]," ++
  "\"label\":[\"a#Tag\",\x7b\"smithy.api#required\":\x7b\x7d\x7d]," ++
  "\"missingLabel\":[\"a#Tag\"],\"setLabel\":[\"smithy.api#String\"]\x7d]," ++
  "\"a#Tag\":[\"string\",\x7b\"smithy.api#length\":\x7b\"min\":1\x7d\x7d]\x7d]"

theorem Model.assembled_parcels : parcels.Assembled := by
  refine assembled_of_list parcelSource (by
    delta parcelSource
    repeat rw [String.toList_append]
    repeat rw [String.toList_ofList]
    rfl) ?_ (by decide)
  decide +kernel

namespace Symbols

/-- The symbols of that model. -/
def parcels : Symbols := ⟨.parcels, Placeholder.service, .server true, []⟩

/-- No name is imitated in bales: the setter `set_self` is not the internal one, which ends in an
underscore, and the variants have different names. -/
theorem names_nodup_iff_bale : ∃ a, parcels.artifact Placeholder.protocol baleShape = .ok a ∧
    a.builder.functionNames = ["self_", "set_self", "r#type", "set_self_", "build"] ∧
    (∀ f ∈ a.builder.fields, f.snakeName ≠ BuilderType.buildName) ∧
    ∃ t, a.violation = some t ∧ (t.variants.map Variant.name).Nodup := by
  have hnames : (parcels.artifact Placeholder.protocol baleShape).map
      (fun a => (a.builder.functionNames, a.violation.isSome)) =
        .ok (["self_", "set_self", "r#type", "set_self_", "build"], true) := by
    decide +kernel
  obtain ⟨a, ha, hnames⟩ := Except.map_eq_ok_iff.1 hnames
  obtain ⟨hfunctions, hsome⟩ := Prod.mk.inj hnames
  obtain ⟨t, ht⟩ := Option.isSome_iff_exists.1 hsome
  obtain ⟨hbuilder, hvariants⟩ := names_nodup_iff Model.assembled_parcels (by decide) ha
    (by decide +kernel) (by decide +kernel)
  refine ⟨a, ha, hfunctions, (hbuilder.1 (hfunctions ▸ by decide)).1, t, ht, ?_⟩
  refine (hvariants t ht).2 ?_
  decide +kernel

/-- In the artifact of parcels the member `build` has the name of the building function, the member
`setLabel` that of the internal setter of `label`, and the violation of `missingLabel` that of a
missing `label`. -/
theorem exists_clash : ∃ m y p s a t, m.Assembled ∧
    ofModel m Placeholder.service (.server true) false = .ok y ∧ s ∈ m.shapes ∧
    y.artifact p s = .ok a ∧
    ((m.membersOf s).map fun e => Text.snakeCase e.memberName).Nodup ∧
    ((m.membersOf s).map fun e => Text.camelCase e.memberName).Nodup ∧ a.violation = some t ∧
    a.builder.functionNames = ["build", "label", "missing_label", "set_label", "set_label",
      "set_missing_label", "build"] ∧
    t.variants.map Variant.name = ["MissingLabel", "Label", "MissingLabel"] ∧
    ¬ a.builder.functionNames.Nodup ∧ ¬ (t.variants.map Variant.name).Nodup := by
  have hnames : (parcels.artifact Placeholder.protocol parcelShape).map
      (fun a => (a.builder.functionNames, a.violation.map (·.variants.map Variant.name))) =
        .ok (["build", "label", "missing_label", "set_label", "set_label", "set_missing_label",
          "build"], some ["MissingLabel", "Label", "MissingLabel"]) := by
    decide +kernel
  obtain ⟨a, ha, hnames⟩ := Except.map_eq_ok_iff.1 hnames
  obtain ⟨hfunctions, hsome⟩ := Prod.mk.inj hnames
  obtain ⟨t, ht, hvariants⟩ := Option.map_eq_some_iff.1 hsome
  have hy : ofModel .parcels Placeholder.service (.server true) false = .ok parcels :=
    ofModel_eq_ok (by decide) (by decide)
  exact ⟨.parcels, parcels, Placeholder.protocol, parcelShape, a, t, Model.assembled_parcels, hy,
    by decide, ha, by decide +kernel, by decide +kernel, ht, hfunctions, hvariants,
    hfunctions ▸ by decide, hvariants ▸ by decide⟩

end Symbols

end Shapesmith
