import Shapesmith.Proofs.Builder.Infallible
import Shapesmith.Proofs.Model.Boxing
import Shapesmith.Proofs.Symbol.Stages

/-!
# The fields of a builder fit together

A field names the type that it is set with, the type that it keeps, and the type that it is checked
into. Each comes from symbols of its own, made with or without constrained types in what everyone
sees.

* `Symbols.Passes` : the types of a field are those of the target of its member;
* `Compilation.Coherent` : the types of a field fit together, and fit to the type of violations;
* `Compilation.coherent_of_mem` : all fields of a compilation do, unless a member targets another
  member.
-/

namespace Shapesmith

namespace Symbols

variable {y : Symbols} {p : Protocol} {s t e : Shape} {a : Artifact} {f : BuilderField}

/-- The field of a member has the types of the member's target. -/
structure Passes (y : Symbols) (e : Shape) (f : BuilderField) (seen kept : Symbol) : Prop where
  /-- The member. -/
  member : f.member = e.id
  /-- The field is set with what everyone sees of the member. -/
  set : ∃ symbol, y.surface e = .ok symbol ∧ f.setter.accepts = symbol.type
  /-- What everyone sees of the target. -/
  surface : y.surface (y.model.targetOf e) = .ok seen
  /-- The field is set with that, but for options and boxes. -/
  accepts : f.setter.accepts.stripped = seen.type
  /-- What is kept for the target. -/
  unconstrained : y.unconstrained (y.model.targetOf e) = .ok kept
  /-- The field keeps that, but for options and boxes. -/
  stored : f.stored.stripped = kept.type
  /-- The field is checked into what the target is checked into. -/
  validation : y.validation (y.model.targetOf e) = .ok (f.validatedAs, f.unwrapIntoPublic)
  /-- There is a setter for what is kept where that is not what everyone sees. -/
  internal : f.internalSetter.isSome = true ↔ f.stored.stripped ≠ f.setter.accepts.stripped

theorem exists_passes (hm : y.model.Sound) (he : e ∈ y.model.shapes) (hk : e.isMember = true)
    (hdirect : (y.model.targetOf e).isMember = false) (h : y.builderField e = .ok f) :
    ∃ seen kept, y.Passes e f seen kept := by
  obtain ⟨id, hkind⟩ := Shape.isMember_iff.1 hk
  have ht := hm.find?_of_member he hkind
  simp only [builderField, Except.bind_eq_ok_iff, Except.pure_eq_ok_iff] at h
  obtain ⟨surface, hsurface, stored, hstored, validation, hvalidation, rfl⟩ := h
  obtain ⟨seen, hseen, haccepts⟩ := surface_of_member hkind ht hdirect hsurface
  obtain ⟨kept, hkept, hstored⟩ := unconstrained_of_member hkind ht hdirect hstored
  refine ⟨seen, kept, rfl, ⟨surface, hsurface, rfl⟩, hseen, haccepts, hkept, hstored,
    hvalidation, ?_⟩
  by_cases hsame : stored.type.stripped = surface.type.stripped <;> simp [hsame]

/-- The fields of an artifact come from the members of its structure. -/
theorem Generates.exists_passes (h : y.Generates p s a) (hm : y.model.Sound)
    (hs : s ∈ y.model.shapes)
    (hdirect : ∀ e ∈ y.model.shapes, (y.model.targetOf e).isMember = false)
    (hf : f ∈ a.builder.fields) : ∃ e ∈ y.model.membersOf s, f.Collects y.model e ∧
      ∃ seen kept, y.Passes e f seen kept := by
  obtain ⟨e, he, hfield⟩ := exists_of_mem_collect (collect_eq_ok_iff.2 h.collected) hf
  have hmem := (hm.mem_membersOf_iff.1 he).1
  exact ⟨e, he, collects_of_builderField hfield,
    Symbols.exists_passes hm hmem (hm.isMember_of_mem hs he) (hdirect e hmem) hfield⟩

/-! ### Checking -/

/-- A shape that can break a constraint is checked, and another one is not. -/
theorem of_validation {checked : Option CodeType} {unwrap : Bool}
    (h : y.validation t = .ok (checked, unwrap)) :
    (y.model.reachesConstrained t = false ∧ checked = none ∧ unwrap = false) ∨
    (y.model.reachesConstrained t = true ∧ ∃ symbol seen, y.validated t = .ok symbol ∧
      y.surface t = .ok seen ∧ checked = some symbol.type ∧
        (unwrap = true ↔ symbol.visibility = .hidden ∧ symbol.type ≠ seen.type.stripped)) := by
  unfold validation at h
  split at h
  · rename_i hr
    simp only [Except.bind_eq_ok_iff, Except.pure_eq_ok_iff] at h
    obtain ⟨symbol, hsymbol, seen, hseen, h⟩ := h
    obtain ⟨rfl, rfl⟩ := Prod.mk.inj h
    exact .inr ⟨hr, symbol, seen, hsymbol, hseen, rfl, by simp⟩
  · rename_i hr
    cases h
    exact .inl ⟨by simpa using hr, rfl, rfl⟩

/-- What cannot break a constraint is kept as everyone sees it. -/
theorem kept_eq_seen (hm : y.model.Sound) (ht : t ∈ y.model.shapes) (hk : t.isMember = false)
    (hr : y.model.reachesConstrained t = false) {seen kept : Symbol}
    (hseen : y.surface t = .ok seen) (hkept : y.unconstrained t = .ok kept) : kept = seen := by
  rw [unconstrained_eq_ok_iff hk, unconstrainedOf, hr, if_neg Bool.false_ne_true] at hkept
  have hplain : y.plainAt y.depth t = some seen := by
    unfold surface at hseen
    split at hseen
    · exact (checked_of_constrained hk hseen).of_reachesConstrained hm ht hk hr
    · exact plain_eq_ok_iff.1 hseen
  exact plainAt_unique hkept hplain

/-- With constrained types in what everyone sees, values are checked into that. Without them, they
are checked into hidden wrappers, and everyone sees plain types. -/
theorem of_validated {symbol seen : Symbol} (hsymbol : y.validated t = .ok symbol)
    (hseen : y.surface t = .ok seen) : symbol = seen ∨ y.style.exportConstrained = false ∧
      y.constrained .hidden t = .ok symbol ∧ y.plain t = .ok seen := by
  unfold validated at hsymbol
  unfold surface at hseen
  by_cases hexport : y.style.exportConstrained = true
  · rw [if_pos hexport] at hsymbol hseen
    exact .inl (Except.ok.inj (hsymbol.symm.trans hseen))
  · rw [if_neg hexport] at hsymbol hseen
    exact .inr ⟨by simpa using hexport, hsymbol, hseen⟩

/-- What is checked and not unwrapped is checked into what everyone sees. -/
theorem checked_eq_seen (hk : t.isMember = false) {symbol seen : Symbol}
    (hsymbol : y.validated t = .ok symbol) (hseen : y.surface t = .ok seen)
    (h : ¬ (symbol.visibility = .hidden ∧ symbol.type ≠ seen.type.stripped)) :
    symbol.type = seen.type := by
  rw [stripped_of_surface hk hseen] at h
  rcases of_validated hsymbol hseen with rfl | ⟨-, hconstrained, hplain⟩
  · rfl
  · rcases (checked_of_constrained hk hconstrained).visibility_eq with hhidden | hsame
    · exact Decidable.not_not.1 fun hne => h ⟨hhidden, hne⟩
    · exact congrArg _ (plainAt_unique hsame (plain_eq_ok_iff.1 hplain))

/-- What is unwrapped is checked into hidden wrappers around what everyone sees. -/
theorem mentions_of_unwrapped (hm : y.model.Sound)
    (hdirect : ∀ e ∈ y.model.shapes, (y.model.targetOf e).isMember = false)
    (ht : t ∈ y.model.shapes) (hk : t.isMember = false) {symbol seen : Symbol}
    (hsymbol : y.validated t = .ok symbol) (hseen : y.surface t = .ok seen)
    (hne : symbol.type ≠ seen.type.stripped) :
    y.style.exportConstrained = false ∧ y.plain t = .ok seen ∧
      symbol.type.Mentions Place.constrained.path := by
  rw [stripped_of_surface hk hseen] at hne
  rcases of_validated hsymbol hseen with rfl | ⟨hexport, hconstrained, hplain⟩
  · exact absurd rfl hne
  · have hor := eq_or_mentions hm hdirect ht (constrained_eq_ok_iff.1 hconstrained)
      (plain_eq_ok_iff.1 hplain)
    exact ⟨hexport, hplain, hor.resolve_left hne⟩

namespace Passes

variable {seen kept : Symbol}

/-- A field is checked when the target of its member can break a constraint. -/
theorem isSome_validatedAs_iff (h : y.Passes e f seen kept) :
    f.validatedAs.isSome = true ↔ y.model.reachesConstrained (y.model.targetOf e) = true := by
  rcases of_validation h.validation with ⟨hr, hchecked, -⟩ | ⟨hr, symbol, -, -, -, hchecked, -⟩
  · simp [hr, hchecked]
  · simp [hr, hchecked]

theorem of_unchecked (h : y.Passes e f seen kept) (hm : y.model.Sound) (he : e ∈ y.model.shapes)
    (hk : (y.model.targetOf e).isMember = false) (hnone : f.validatedAs = none) :
    f.stored.stripped = f.setter.accepts.stripped ∧ f.internalSetter = none ∧
      f.unwrapIntoPublic = false := by
  rcases of_validation h.validation with ⟨hr, -, hunwrap⟩ | ⟨-, symbol, -, -, -, hchecked, -⟩
  · have hstored : f.stored.stripped = f.setter.accepts.stripped := by
      rw [h.stored, h.accepts, kept_eq_seen hm (hm.targetOf_mem he) hk hr h.surface h.unconstrained]
    have hinternal : ¬ f.internalSetter.isSome = true := fun hsome => h.internal.1 hsome hstored
    exact ⟨hstored, by simpa using hinternal, hunwrap⟩
  · rw [hnone] at hchecked
    cases hchecked

theorem of_checked (h : y.Passes e f seen kept) (hk : (y.model.targetOf e).isMember = false)
    {type : CodeType} (hsome : f.validatedAs = some type) (hkeep : f.unwrapIntoPublic = false) :
    type = f.setter.accepts.stripped := by
  rcases of_validation h.validation with
    ⟨-, hnone, -⟩ | ⟨-, symbol, seen', hsymbol, hseen, hchecked, hunwrap⟩
  · rw [hnone] at hsome
    cases hsome
  · obtain rfl : seen' = seen := Except.ok.inj (hseen.symm.trans h.surface)
    rw [hchecked] at hsome
    rw [← Option.some.inj hsome, h.accepts]
    refine checked_eq_seen hk hsymbol hseen fun hhidden => ?_
    rw [hunwrap.2 hhidden] at hkeep
    cases hkeep

theorem of_unwrapped (h : y.Passes e f seen kept) (hm : y.model.Sound)
    (hdirect : ∀ e ∈ y.model.shapes, (y.model.targetOf e).isMember = false)
    (he : e ∈ y.model.shapes) (hunwrapped : f.unwrapIntoPublic = true) :
    y.style.exportConstrained = false ∧ y.plain (y.model.targetOf e) = .ok seen ∧
      ∃ type, f.validatedAs = some type ∧ type.Mentions Place.constrained.path := by
  rcases of_validation h.validation with
    ⟨-, -, hkeep⟩ | ⟨-, symbol, seen', hsymbol, hseen, hchecked, hunwrap⟩
  · rw [hunwrapped] at hkeep
    cases hkeep
  · obtain rfl : seen' = seen := Except.ok.inj (hseen.symm.trans h.surface)
    obtain ⟨-, hne⟩ := hunwrap.1 hunwrapped
    obtain ⟨hexport, hplain, hmentions⟩ :=
      mentions_of_unwrapped hm hdirect (hm.targetOf_mem he) (hdirect e he) hsymbol hseen hne
    exact ⟨hexport, hplain, _, hchecked, hmentions⟩

end Passes

/-! ### Violations -/

/-- The type of violations has the variants of the structure. -/
theorem of_violationType {v : ViolationType} (h : y.violationType p s = .ok (some v)) :
    y.model.reachesConstrained s = true ∧ (∃ symbol, y.violation s = .ok symbol ∧
      v.symbol = symbol.type) ∧ y.variants s = .ok v.variants := by
  unfold violationType at h
  split at h
  · rename_i hr
    simp only [Except.bind_eq_ok_iff, Except.pure_eq_ok_iff, Option.some.injEq] at h
    obtain ⟨symbol, hsymbol, variants, hvariants, exception, -, rfl⟩ := h
    exact ⟨hr, ⟨symbol, hsymbol, rfl⟩, hvariants⟩
  · cases h

/-- The variants for parts of a structure are about members that can break a constraint. -/
theorem mem_variants_of_member (hm : y.model.Sound) (hs : s ∈ y.model.shapes)
    (hstruct : s.isStruct = true) {vs : List Variant} (hvs : y.variants s = .ok vs) {w : Variant}
    (hw : w ∈ vs) (hcategory : w.category = none) {name : String} (hname : w.member = some name) :
    ∃ e ∈ y.model.membersOf s, e.memberName = name ∧ y.model.reachesConstrained e = true ∧
      ∃ symbol, y.violation e = .ok symbol ∧
        w = .part e.id (if y.model.isBoxed e.id then .boxed symbol.type else symbol.type) := by
  rw [mem_variants_iff hm hs (Model.targetOf_of_holder (.inl hstruct)).symm hvs] at hw
  obtain ⟨-, ⟨check, -, rfl⟩ | ⟨e, -, -, -, rfl⟩ | ⟨e, he, hr, symbol, hsymbol, hw⟩⟩ := hw
  · cases check <;> cases hcategory
  · cases hcategory
  · obtain rfl := (nests_part_iff (.inl hstruct)).1 hw
    exact ⟨e, he, Option.some.inj hname, hr, symbol, hsymbol, rfl⟩

/-- A structure has a variant for the parts of a member exactly when the member's target can break a
constraint. -/
theorem Generates.exists_variant_iff (h : y.Generates p s a) (hm : y.model.Sound)
    (hs : s ∈ y.model.shapes) (he : e ∈ y.model.membersOf s)
    (hdirect : (y.model.targetOf e).isMember = false) :
    (∃ v w, a.violation = some v ∧ w ∈ v.variants ∧ w.category = none ∧
      w.member = some e.memberName) ↔ y.model.reachesConstrained (y.model.targetOf e) = true := by
  have hmem := (hm.mem_membersOf_iff.1 he).1
  have hk := Shape.isMember_of_holder (.inl h.struct)
  constructor
  · rintro ⟨v, w, hv, hw, hcategory, hname⟩
    obtain ⟨-, -, hvs⟩ := of_violationType (hv ▸ h.violation)
    obtain ⟨e', he', hname, hr, -⟩ :=
      mem_variants_of_member hm hs h.struct hvs hw hcategory hname
    obtain rfl : e' = e := List.inj_on_of_nodup_map (hm.nodup_memberNames hs) he' he hname
    exact Model.reachesConstrained_targetOf hm hmem hr
  · intro ht
    have hr := Model.reachesConstrained_of_targetOf hm hmem hdirect ht
    obtain ⟨i, hi⟩ := List.getElem?_of_mem he
    have hf : y.model.Follows s (.member i) e := .member (.inl h.struct) hi
    cases hv : a.violation with
    | none =>
      have hnone := (violationType_none_iff h.violation).1 hv
      rw [hf.reachesConstrained hm hs hk hr] at hnone
      cases hnone
    | some v =>
      obtain ⟨-, -, hvs⟩ := of_violationType (hv ▸ h.violation)
      obtain ⟨w, hw, hcategory, hname⟩ := exists_isFor hm hs hk hvs hf hr
      exact ⟨v, w, rfl, hw, hcategory, hname⟩

end Symbols

/-! ### Coherence -/

namespace Compilation

/-- The types of a field of an artifact fit together. -/
structure Coherent (c : Compilation) (a : Artifact) (f : BuilderField) : Prop where
  /-- The field is set with what everyone sees of its member. -/
  set : ∃ e symbol, c.symbols.model.find? f.member = some e ∧ c.symbols.surface e = .ok symbol ∧
    f.setter.accepts = symbol.type
  /-- A value that is not checked is kept as it is set. -/
  unchecked : f.validatedAs = none → f.stored.stripped = f.setter.accepts.stripped ∧
    f.internalSetter = none ∧ f.unwrapIntoPublic = false
  /-- A value that is checked and not unwrapped is checked into what it is set with. -/
  checked : ∀ type, f.validatedAs = some type → f.unwrapIntoPublic = false →
    type = f.setter.accepts.stripped
  /-- A value that is unwrapped has the plain type outside of hidden wrappers. -/
  unwrapped : f.unwrapIntoPublic = true → c.settings.codegen.publicConstrainedTypes = false ∧
    (∃ t plain, c.symbols.model.find? f.target = some t ∧ c.symbols.plain t = .ok plain ∧
      f.setter.accepts.stripped = plain.type) ∧
    ∃ type, f.validatedAs = some type ∧ type.Mentions Place.constrained.path
  /-- There is a setter for what is kept where that is not what the field is set with. -/
  internal : f.internalSetter.isSome = true ↔ f.stored.stripped ≠ f.setter.accepts.stripped
  /-- A value that is checked has a variant for what it breaks. -/
  nested : f.validatedAs.isSome = true ↔ ∃ v w, a.violation = some v ∧ w ∈ v.variants ∧
    w.category = none ∧ w.member = some f.memberName

variable {m : Model} {settings : Settings} {registry : Registry} {c : Compilation}

/-- The types of all fields fit together, if no member of the model targets another one. -/
theorem coherent_of_mem (hm : m.Assembled)
    (hdirect : ∀ e ∈ m.shapes, (m.targetOf e).isMember = false)
    (hc : compile m settings registry = .ok c) {a : Artifact} (ha : a ∈ c.artifacts)
    {f : BuilderField} (hf : f ∈ a.builder.fields) : c.Coherent a f := by
  obtain ⟨rfl, -, hartifacts⟩ := of_compile hc
  obtain ⟨s, hs, hartifact⟩ := hartifacts a ha
  have hof := compilation_of_compile hc
  have hm := Model.sound_of_assembled hm
  have hg := Symbols.generates_of_artifact hartifact
  obtain ⟨e, he, hcollects, seen, kept, hpasses⟩ := hg.exists_passes hm hs hdirect hf
  have hmem := (hm.mem_membersOf_iff.1 he).1
  have hk := hdirect e hmem
  refine ⟨?_, hpasses.of_unchecked hm hmem hk, fun type => hpasses.of_checked hk, fun h => ?_,
    hpasses.internal, ?_⟩
  · obtain ⟨symbol, hsymbol, haccepts⟩ := hpasses.set
    exact ⟨e, symbol, hpasses.member ▸ hm.find?_id hmem, hsymbol, haccepts⟩
  · obtain ⟨hexport, hplain, hchecked⟩ := hpasses.of_unwrapped hm hdirect hmem h
    rw [hof.style] at hexport
    exact ⟨hof.under ▸ hexport, ⟨_, _, hcollects.find?_target hm hmem, hplain, hpasses.accepts⟩,
      hchecked⟩
  · rw [hpasses.isSome_validatedAs_iff, hcollects.name]
    exact (hg.exists_variant_iff hm hs he hk).symm

end Compilation

/-! ### Crates with tags -/

/-- The only service of the model below. -/
def depotService : Shape :=
  ⟨⟨"a", "Depot", none⟩, .service "1" [⟨"a", "Store", none⟩],
    [("aws.protocols#restJson1", .other (.obj []))]⟩

/-- A structure that holds another one of its kind, a lid and tags. -/
def crateShape : Shape := ⟨⟨"a", "Crate", none⟩, .struct [⟨"a", "Crate", some "inner"⟩,
  ⟨"a", "Crate", some "lid"⟩, ⟨"a", "Crate", some "tags"⟩], []⟩

/-- A structure without constraints. -/
def lidShape : Shape := ⟨⟨"a", "Lid", none⟩, .struct [⟨"a", "Lid", some "weight"⟩], []⟩

/-- A list of texts. -/
def tagsShape : Shape := ⟨⟨"a", "Tags", none⟩, .list ⟨"a", "Tags", some "member"⟩, []⟩

/-- A text that must not be empty. -/
def tagShape : Shape :=
  ⟨⟨"a", "Tag", none⟩, .simple .string, [(Trait.lengthId, .length ⟨some 1, none⟩)]⟩

/-- The model of these shapes. -/
def Model.depot : Model := ⟨[crateShape, plainMember "Crate" "inner" crateShape.id,
  plainMember "Crate" "lid" lidShape.id, plainMember "Crate" "tags" tagsShape.id, depotService,
  lidShape, plainMember "Lid" "weight" ⟨"smithy.api", "Integer", none⟩,
  ⟨⟨"a", "Store", none⟩, .operation (some crateShape.id) none [], []⟩, tagShape, tagsShape,
  plainMember "Tags" "member" tagShape.id] ++ bare.shapes⟩

/-- The document of that model. -/
def depotSource : String := "[\"2\",\x7b" ++
  "\"a#Depot\":[\"service\",\"1\",[[\"a#Store\"]],\x7b\"aws.protocols#restJson1\":\x7b\x7d\x7d]," ++
  "\"a#Store\":[\"operation\",[\"a#Crate\"]]," ++
  "\"a#Crate\":[\"structure\",\x7b\"inner\":[\"a#Crate\"],\"lid\":[\"a#Lid\"]," ++
  "\"tags\":[\"a#Tags\"]\x7d]," ++
  "\"a#Lid\":[\"structure\",\x7b\"weight\":[\"smithy.api#Integer\"]\x7d]," ++
  "\"a#Tags\":[\"list\",[\"a#Tag\"]]," ++
  "\"a#Tag\":[\"string\",\x7b\"smithy.api#length\":\x7b\"min\":1\x7d\x7d]\x7d]"

theorem Model.assembled_depot : depot.Assembled := by
  refine assembled_of_list depotSource (by
    delta depotSource
    repeat rw [String.toList_append]
    repeat rw [String.toList_ofList]
    rfl) ?_ (by decide)
  decide +kernel

/-- Settings that keep constrained types out of what everyone sees. -/
def depotSettings : Settings :=
  { Settings.blank with
    service := depotService.id
    codegen := { Options.standard with
      publicConstrainedTypes := false
      ignoreUnsupportedConstraints := true } }

/-- The symbols of the model. -/
def Symbols.depot : Symbols := ⟨.depot, depotService, .server false, [(crateShape.id, .input)]⟩

/-- The field of the inner crate in the builder of crates. -/
def innerField : BuilderField where
  name := "inner"
  member := ⟨"a", "Crate", some "inner"⟩
  memberName := "inner"
  target := crateShape.id
  stored := .option (.boxed (.named "crate::input::crate" "Builder"))
  setter := ⟨"inner", .exported, .option (.boxed (.named "crate::input" "Crate"))⟩
  internalSetter := some ⟨"set_inner", .hidden,
    .option (.boxed (.named "crate::input::crate" "Builder"))⟩
  requirement := .optional
  checks := []
  validatedAs := some (.named "crate::input" "Crate")
  unwrapIntoPublic := false

/-- The field of the lid. -/
def lidField : BuilderField where
  name := "lid"
  member := ⟨"a", "Crate", some "lid"⟩
  memberName := "lid"
  target := lidShape.id
  stored := .option (.named "crate::model" "Lid")
  setter := ⟨"lid", .exported, .option (.named "crate::model" "Lid")⟩
  internalSetter := none
  requirement := .optional
  checks := []
  validatedAs := none
  unwrapIntoPublic := false

/-- The field of the tags. -/
def tagsField : BuilderField where
  name := "tags"
  member := ⟨"a", "Crate", some "tags"⟩
  memberName := "tags"
  target := tagsShape.id
  stored := .option (.named "crate::unconstrained::tags_unconstrained" "TagsUnconstrained")
  setter := ⟨"tags", .exported, .option (.vector .string)⟩
  internalSetter := some ⟨"set_tags", .hidden,
    .option (.named "crate::unconstrained::tags_unconstrained" "TagsUnconstrained")⟩
  requirement := .optional
  checks := []
  validatedAs := some (.vector (.named "crate::constrained::tag_constrained" "TagConstrained"))
  unwrapIntoPublic := true

theorem exists_compile_depot : ∃ crateArtifact lidArtifact,
    compile .depot depotSettings .standard =
      .ok ⟨.depot, depotSettings, clockProtocol, [crateArtifact, lidArtifact]⟩ ∧
    crateArtifact.builder.fields = [innerField, lidField, tagsField] ∧
    crateArtifact.violation.isSome = true ∧
    Symbols.depot.artifact clockProtocol crateShape = .ok crateArtifact := by
  have hservice : Model.depot.service depotSettings.service = .ok depotService := by decide
  have hshapes : Model.depot.structuresFrom depotService = [crateShape, lidShape] :=
    Model.structuresFrom_eq (by decide) (by decide)
  have hcrate : (Symbols.depot.artifact clockProtocol crateShape).map
      (fun a => (a.builder.fields, a.violation.isSome)) =
        .ok ([innerField, lidField, tagsField], true) := by decide
  have hlid : (Symbols.depot.artifact clockProtocol lidShape).map (·.shape) =
      .ok lidShape.id := by decide
  obtain ⟨crateArtifact, hcrate, hpair⟩ := Except.map_eq_ok_iff.1 hcrate
  obtain ⟨lidArtifact, hlid, -⟩ := Except.map_eq_ok_iff.1 hlid
  obtain ⟨hfields, hviolation⟩ := Prod.mk.inj hpair
  refine ⟨crateArtifact, lidArtifact, compile_eq_ok hservice ?_ ?_ ?_, hfields, hviolation, hcrate⟩
  · exact Symbols.ofModel_eq_ok (by decide) (by decide)
  · decide
  · rw [hshapes]
    exact collect_eq_ok_iff.2 (.cons hcrate (.cons hlid .nil))

theorem Compilation.coherent_of_mem_depot : ∃ c a,
    compile .depot depotSettings .standard = .ok c ∧ a ∈ c.artifacts ∧
      tagsField ∈ a.builder.fields ∧ c.Coherent a tagsField := by
  obtain ⟨crateArtifact, lidArtifact, hc, hfields, -⟩ := exists_compile_depot
  have ha : crateArtifact ∈ [crateArtifact, lidArtifact] := List.mem_cons_self
  have hf : tagsField ∈ crateArtifact.builder.fields := by simp [hfields]
  exact ⟨_, _, hc, ha, hf, coherent_of_mem Model.assembled_depot (by decide) hc ha hf⟩

end Shapesmith
