import Shapesmith.Proofs.Builder.Fields
import Shapesmith.Proofs.Symbol.Surface

/-!
# Nothing hidden is seen

Constrained types can be kept out of what everyone sees. Then they are declared in hidden modules,
and nothing that everyone sees may name those.

* `CodeType.NamesNoHidden` : neither the type nor its spelling names a hidden module;
* `Symbols.Shows` : a type is what everyone sees of a shape, and names no hidden module;
* `Artifact.Shown` : the types of a structure, of its fields and of what its setters take are such;
* `Compilation.shown_of_compile` : so is all that a compilation gives, in its artifacts and in its
  table of symbols.
-/

namespace Shapesmith

/-- Neither the type nor its spelling names a hidden module. -/
structure CodeType.NamesNoHidden (t : CodeType) : Prop where
  /-- No type from below such a module occurs in it. -/
  mentions : ∀ place : Place, place.isHidden = true → ¬ t.Mentions place.path
  /-- The path of such a module does not occur in the spelling. -/
  text : ∀ place : Place, place.isHidden = true → ¬ place.mark <:+: t.text.toList

theorem CodeType.Nameable.namesNoHidden {t : CodeType} (h : t.Nameable) : t.NamesNoHidden :=
  ⟨fun _ => h.not_mentions, fun _ => h.not_infix_text⟩

theorem Model.mem_of_mem_membersOf {m : Model} {s e : Shape} (h : e ∈ m.membersOf s) :
    e ∈ m.shapes := by
  obtain ⟨id, -, hfind⟩ := List.mem_filterMap.1 h
  exact List.mem_of_find?_eq_some hfind

/-- The type is what everyone sees of the shape with the id. -/
def Symbols.Shows (y : Symbols) (id : ShapeId) (type : CodeType) : Prop :=
  type.NamesNoHidden ∧ ∃ s ∈ y.model.shapes, s.id = id ∧ ∃ symbol, y.surface s = .ok symbol ∧
    symbol.visibility = .exported ∧ symbol.type = type

/-- What everyone sees of an artifact is the surface of its structure and of its members. -/
structure Artifact.Shown (a : Artifact) (y : Symbols) : Prop where
  /-- Everyone may see the structure. -/
  visibility : a.structType.visibility = .exported
  /-- The type of the structure. -/
  symbol : y.Shows a.shape a.structType.symbol
  /-- The types of its fields. -/
  fields : ∀ g ∈ a.structType.fields, y.Shows g.member g.symbol
  /-- What everyone may put into its builder. -/
  setters : ∀ f ∈ a.builder.fields, f.setter.visibility = .exported ∧
    y.Shows f.member f.setter.accepts

namespace Symbols

variable {y : Symbols} {p : Protocol} {s e : Shape} {a : Artifact}

theorem shows_of_surface (hy : EndsShown y.ends) (hs : s ∈ y.model.shapes) {symbol : Symbol}
    (h : y.surface s = .ok symbol) : y.Shows s.id symbol.type := by
  have hshown := shown_of_surface hy h
  exact ⟨hshown.type.namesNoHidden, s, hs, rfl, symbol, h, hshown.visibility, rfl⟩

theorem shows_of_structField (hy : EndsShown y.ends) (he : e ∈ y.model.shapes) {g : StructField}
    (h : y.structField e = .ok g) : y.Shows g.member g.symbol := by
  obtain ⟨symbol, hsymbol, h⟩ := Except.bind_eq_ok_iff.1 h
  obtain rfl := Except.pure_eq_ok_iff.1 h
  exact shows_of_surface hy he hsymbol

theorem shows_of_builderField (hy : EndsShown y.ends) (he : e ∈ y.model.shapes) {f : BuilderField}
    (h : y.builderField e = .ok f) :
    f.setter.visibility = .exported ∧ y.Shows f.member f.setter.accepts := by
  simp only [builderField, Except.bind_eq_ok_iff, Except.pure_eq_ok_iff] at h
  obtain ⟨symbol, hsymbol, _, -, _, -, rfl⟩ := h
  exact ⟨rfl, shows_of_surface hy he hsymbol⟩

/-- What everyone sees of the artifact of a structure. -/
theorem Generates.shown (h : y.Generates p s a) (hy : EndsShown y.ends)
    (hs : s ∈ y.model.shapes) (hvisible : a.structType.visibility = .exported) :
    a.Shown y := by
  obtain ⟨symbol, hsymbol, htype⟩ := h.symbol
  refine ⟨hvisible, ?_, fun g hg => ?_, fun f hf => ?_⟩
  · rw [htype, h.shape]
    exact shows_of_surface hy hs hsymbol
  · obtain ⟨e, he, hfield⟩ := exists_of_mem_collect (collect_eq_ok_iff.2 h.fields) hg
    exact shows_of_structField hy (Model.mem_of_mem_membersOf he) hfield
  · obtain ⟨e, he, hfield⟩ := exists_of_mem_collect (collect_eq_ok_iff.2 h.collected) hf
    exact shows_of_builderField hy (Model.mem_of_mem_membersOf he) hfield

theorem visibility_of_artifact (h : y.artifact p s = .ok a) :
    a.structType.visibility = .exported := by
  unfold artifact at h
  split at h
  · simp only [Except.bind_eq_ok_iff, Except.pure_eq_ok_iff] at h
    obtain ⟨_, -, _, -, _, -, _, -, rfl⟩ := h
    rfl
  · cases h

end Symbols

namespace Compilation

theorem endsShown_of_compile {m : Model} {settings : Settings} {registry : Registry}
    {c : Compilation} (h : compile m settings registry = .ok c) : EndsShown c.symbols.ends := by
  simp only [compile, Except.bind_eq_ok_iff, Except.pure_eq_ok_iff] at h
  obtain ⟨service, -, y, hy, p, -, artifacts, -, rfl⟩ := h
  exact Symbols.endsShown_of_ofModel hy

/-- Nothing that everyone sees of a compilation names a hidden module, whether or not constrained
types are hidden. -/
theorem shown_of_compile {m : Model} {settings : Settings} {registry : Registry} {c : Compilation}
    (hc : compile m settings registry = .ok c) :
    (∀ a ∈ c.artifacts, a.Shown c.symbols) ∧
    ∀ rows, c.table = .ok rows → ∀ r ∈ rows, r.surface.visibility = .exported ∧
      r.surface.type.NamesNoHidden ∧ r.exposesHidden = false := by
  have hy := endsShown_of_compile hc
  constructor
  · intro a ha
    obtain ⟨rfl, -, hartifacts⟩ := of_compile hc
    obtain ⟨s, hs, hartifact⟩ := hartifacts a ha
    have hg := Symbols.generates_of_artifact hartifact
    exact hg.shown hy hs (Symbols.visibility_of_artifact hartifact)
  · intro rows hrows r hr
    obtain ⟨s, -, hrow⟩ := exists_of_mem_collect hrows hr
    have hshown := Symbols.shown_of_surface hy (Symbols.surface_of_row hrow)
    exact ⟨hshown.visibility, hshown.type.namesNoHidden, SymbolRow.exposesHidden_of_shown hshown⟩

/-- The tags of crates are checked into hidden wrappers, and set as a list of texts. -/
theorem shown_of_compile_depot : ∃ c rows, compile .depot depotSettings .standard = .ok c ∧
    (∃ a ∈ c.artifacts, tagsField ∈ a.builder.fields ∧ a.Shown c.symbols) ∧
    c.table = .ok rows ∧ ∀ r ∈ rows, r.exposesHidden = false := by
  obtain ⟨crateArtifact, lidArtifact, hc, hfields, -⟩ := exists_compile_depot
  have ha : crateArtifact ∈ [crateArtifact, lidArtifact] := List.mem_cons_self
  have hrow : ∀ s ∈ Model.depot.walk depotService, ∃ r, Symbols.depot.row s = .ok r := by
    have hok : ∀ s ∈ Model.depot.walk depotService, (Symbols.depot.row s).isOk = true := by decide
    intro s hs
    have h := hok s hs
    cases hr : Symbols.depot.row s with
    | ok r => exact ⟨r, rfl⟩
    | error e =>
      rw [hr] at h
      cases h
  obtain ⟨rows, hrows⟩ := collect_isOk_iff.2 fun s hs => hrow s (List.mem_mergeSort.1 hs)
  obtain ⟨hartifacts, htable⟩ := shown_of_compile hc
  exact ⟨_, rows, hc, ⟨_, ha, by simp [hfields], hartifacts _ ha⟩, hrows,
    fun r hr => (htable rows hrows r hr).2.2⟩

end Compilation

end Shapesmith
