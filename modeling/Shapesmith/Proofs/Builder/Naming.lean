import Shapesmith.Proofs.Builder.Build
import Shapesmith.Proofs.Text.Names

/-!
# Names of the functions of a builder

Each setter of a builder is named for its member. Keywords among the names get a mark before them
or, where that does not help, an underscore behind them. The internal setter of a member puts a word
before the name without its mark.

* `IsSnake` : what keeps marks and underscores apart from names in snake case;
* `escaped_injective` : escaping keeps names apart;
* `Symbols.internalName_injective` : so do the names of internal setters;
* `Symbols.escaped_eq_internalName_iff` : a member imitates the internal setter of another by its
  name in snake case;
* `BuilderType.nodup_functionNames_iff` : among members with different names, this and a member that
  imitates the building function are the only clashes.
-/

namespace Shapesmith

/-- A name has no mark before it and no underscore behind it. -/
structure IsSnake (name : String) : Prop where
  /-- No mark. -/
  unmarked : '#' ∉ name.toList
  /-- No underscore at the end. -/
  closed : name.toList.getLast? ≠ some '_'

theorem isSnake_snakeCase (text : String) : IsSnake (Text.snakeCase text) := by
  refine ⟨fun hmem => ?_, Text.getLast?_snakeCase_ne text⟩
  rcases Text.nameChar_of_mem_snakeCase hmem with h | h
  · exact absurd h (by decide)
  · exact absurd h (by decide)

variable {a b : String}

/-! ### Escaping -/

/-- The escaped name without a mark. -/
def bareName (name : String) : String := if name ∈ pathKeywords then name ++ "_" else name

theorem bareName_of_mem (h : a ∈ pathKeywords) : bareName a = a ++ "_" := if_pos h

theorem bareName_of_notMem (h : a ∉ pathKeywords) : bareName a = a := if_neg h

theorem IsSnake.ne_append (h : IsSnake a) (b : String) : a ≠ b ++ "_" := by
  rintro rfl
  exact h.closed (by rw [String.toList_append]; simp)

theorem bareName_injective (ha : IsSnake a) (hb : IsSnake b) (h : bareName a = bareName b) :
    a = b := by
  by_cases hpath : a ∈ pathKeywords
  · rw [bareName_of_mem hpath] at h
    by_cases hpath' : b ∈ pathKeywords
    · rw [bareName_of_mem hpath', ← String.toList_inj, String.toList_append,
        String.toList_append] at h
      exact String.toList_inj.1 (List.append_cancel_right h)
    · rw [bareName_of_notMem hpath'] at h
      exact absurd h.symm (hb.ne_append a)
  · rw [bareName_of_notMem hpath] at h
    by_cases hpath' : b ∈ pathKeywords
    · rw [bareName_of_mem hpath'] at h
      exact absurd h (ha.ne_append b)
    · rwa [bareName_of_notMem hpath'] at h

/-- An escaped name has an underscore behind it, or a mark before it, or is the name itself. -/
theorem escaped_cases (name : String) :
    escaped name = bareName name ∨ name ∈ keywords ∧ escaped name = rawMark ++ bareName name := by
  unfold escaped
  by_cases hpath : name ∈ pathKeywords
  · simp [hpath, bareName]
  · by_cases hword : name ∈ keywords
    · simp [hpath, hword, bareName]
    · simp [hpath, hword, bareName]

theorem mark_notMem_bareName (ha : IsSnake a) : '#' ∉ (bareName a).toList := by
  unfold bareName
  split
  · rw [String.toList_append, List.mem_append, not_or]
    exact ⟨ha.unmarked, by decide⟩
  · exact ha.unmarked

namespace Symbols

theorem unmarked_of_notMem {name : List Char} (h : '#' ∉ name) : unmarked name = name := by
  fun_cases unmarked name with
  | case1 rest => simp at h
  | case2 => rfl

/-- Removing the marks of an escaped name. -/
theorem unmarked_escaped (ha : IsSnake a) : unmarked (escaped a).toList = (bareName a).toList := by
  have hbare : unmarked (bareName a).toList = (bareName a).toList :=
    unmarked_of_notMem (mark_notMem_bareName ha)
  rcases escaped_cases a with h | ⟨-, h⟩
  · rw [h, hbare]
  · have hmark : (escaped a).toList = 'r' :: '#' :: (bareName a).toList := by
      rw [h, String.toList_append]
      rfl
    rw [hmark, unmarked, hbare]

theorem internalName_escaped (ha : IsSnake a) :
    internalName (escaped a) = "set_" ++ bareName a := by
  rw [internalName, unmarked_escaped ha, String.ofList_toList]

end Symbols

/-- Escaping keeps names in snake case apart. -/
theorem escaped_injective (ha : IsSnake a) (hb : IsSnake b) (h : escaped a = escaped b) :
    a = b := by
  refine bareName_injective ha hb (String.toList_inj.1 ?_)
  rw [← Symbols.unmarked_escaped ha, ← Symbols.unmarked_escaped hb, h]

namespace Symbols

/-- Internal setters of members with different names have different names. -/
theorem internalName_injective (ha : IsSnake a) (hb : IsSnake b)
    (h : internalName (escaped a) = internalName (escaped b)) : a = b := by
  rw [internalName_escaped ha, internalName_escaped hb, ← String.toList_inj, String.toList_append,
    String.toList_append] at h
  exact bareName_injective ha hb (String.toList_inj.1 (List.append_cancel_left h))

theorem not_prefix_of_mem_keywords {word : String} (h : word ∈ keywords) :
    ¬ "set_".toList <+: word.toList := by
  revert word
  decide

theorem not_prefix_of_mem_pathKeywords {word : String} (h : word ∈ pathKeywords) :
    ¬ "set_".toList <+: (word ++ "_").toList := by
  revert word
  decide

/-- The setter of a member has the name of the internal setter of another exactly when its name in
snake case does, and no underscore is put behind the other. -/
theorem escaped_eq_internalName_iff (ha : IsSnake a) (hb : IsSnake b) :
    escaped b = internalName (escaped a) ↔ a ∉ pathKeywords ∧ b = "set_" ++ a := by
  rw [internalName_escaped ha]
  constructor
  · intro h
    rcases escaped_cases b with hescaped | ⟨-, hescaped⟩
    · rw [hescaped] at h
      by_cases hpath : b ∈ pathKeywords
      · rw [bareName_of_mem hpath] at h
        exact absurd h (Text.ne_append_of_not_prefix (not_prefix_of_mem_pathKeywords hpath) _)
      · rw [bareName_of_notMem hpath] at h
        by_cases hpath' : a ∈ pathKeywords
        · rw [bareName_of_mem hpath', ← String.append_assoc] at h
          exact absurd h (hb.ne_append _)
        · rw [bareName_of_notMem hpath'] at h
          exact ⟨hpath', h⟩
    · -- the mark is in no name of an internal setter
      have hmark : '#' ∈ (escaped b).toList := by
        rw [hescaped, String.toList_append]
        exact List.mem_append_left _ (by decide)
      rw [h, String.toList_append, List.mem_append] at hmark
      rcases hmark with hmark | hmark
      · exact absurd hmark (by decide)
      · exact absurd hmark (mark_notMem_bareName ha)
  · rintro ⟨hpath, rfl⟩
    have hword : "set_" ++ a ∉ keywords := fun hmem =>
      Text.ne_append_of_not_prefix (not_prefix_of_mem_keywords hmem) a rfl
    have hpath' : "set_" ++ a ∉ pathKeywords := fun hmem =>
      hword ((by decide : pathKeywords ⊆ keywords) hmem)
    rcases escaped_cases ("set_" ++ a) with h | ⟨hmem, -⟩
    · rw [h, bareName_of_notMem hpath', bareName_of_notMem hpath]
    · exact absurd hmem hword

end Symbols

/-! ### The functions of a builder -/

namespace BuilderField

/-- The name of the member in snake case. -/
def snakeName (f : BuilderField) : String := Text.snakeCase f.memberName

/-- The setters of a field are named for its member. -/
structure Named (f : BuilderField) : Prop where
  /-- The setter. -/
  setter : f.setter.name = escaped f.snakeName
  /-- The internal setter. -/
  internal : ∀ setter, f.internalSetter = some setter →
    setter.name = Symbols.internalName (escaped f.snakeName)

theorem isSnake_snakeName (f : BuilderField) : IsSnake f.snakeName := isSnake_snakeCase _

theorem named_of_builderField {y : Symbols} {e : Shape} {f : BuilderField}
    (h : y.builderField e = .ok f) : f.Named := by
  simp only [Symbols.builderField, Except.bind_eq_ok_iff, Except.pure_eq_ok_iff] at h
  obtain ⟨surface, -, stored, -, validation, -, rfl⟩ := h
  constructor
  · simp only [snakeName, Shape.fieldName]
  · intro setter hsetter
    dsimp only at hsetter
    split at hsetter
    · cases hsetter
    · obtain rfl := Option.some.inj hsetter
      simp only [snakeName, Shape.fieldName]

end BuilderField

namespace BuilderType

/-- The name of the function that makes the structure. -/
def buildName : String := "build"

/-- The names of the functions of a builder: the setters, the internal ones, and the function that
makes the structure. -/
def functionNames (b : BuilderType) : List String :=
  b.fields.map (·.setter.name) ++
    b.fields.filterMap (fun f => f.internalSetter.map (·.name)) ++ [buildName]

variable {b : BuilderType}

theorem mem_setterNames_iff {name : String} :
    name ∈ b.fields.map (·.setter.name) ↔ ∃ f ∈ b.fields, f.setter.name = name := List.mem_map

theorem mem_internalNames_iff {name : String} :
    name ∈ b.fields.filterMap (fun f => f.internalSetter.map (·.name)) ↔
      ∃ f ∈ b.fields, ∃ setter, f.internalSetter = some setter ∧ setter.name = name := by
  simp only [List.mem_filterMap, Option.map_eq_some_iff]

section

variable (hnamed : ∀ f ∈ b.fields, f.Named) (hsnake : (b.fields.map (·.snakeName)).Nodup)

include hnamed hsnake

/-- The setters of members with different names have different names. -/
theorem nodup_setterNames : (b.fields.map (·.setter.name)).Nodup := by
  refine List.pairwise_map.2 ((List.pairwise_map.1 hsnake).imp_of_mem ?_)
  intro f g hf hg hne heq
  rw [(hnamed f hf).setter, (hnamed g hg).setter] at heq
  exact hne (escaped_injective f.isSnake_snakeName g.isSnake_snakeName heq)

/-- So have the internal setters. -/
theorem nodup_internalNames :
    (b.fields.filterMap fun f => f.internalSetter.map (·.name)).Nodup := by
  refine List.pairwise_filterMap.2 ((List.pairwise_map.1 hsnake).imp_of_mem ?_)
  intro f g hf hg hne name hname name' hname' heq
  obtain ⟨setter, hsetter, rfl⟩ := Option.map_eq_some_iff.1 hname
  obtain ⟨setter', hsetter', rfl⟩ := Option.map_eq_some_iff.1 hname'
  rw [(hnamed f hf).internal _ hsetter, (hnamed g hg).internal _ hsetter'] at heq
  exact hne (Symbols.internalName_injective f.isSnake_snakeName g.isSnake_snakeName heq)

end

end BuilderType

namespace BuilderField.Named

variable {f g : BuilderField} {setter : Setter}

theorem setter_eq_buildName_iff (h : f.Named) :
    f.setter.name = BuilderType.buildName ↔ f.snakeName = BuilderType.buildName := by
  have hescaped : escaped BuilderType.buildName = BuilderType.buildName := by decide
  rw [h.setter]
  constructor
  · intro heq
    exact escaped_injective f.isSnake_snakeName ⟨by decide, by decide⟩ (heq.trans hescaped.symm)
  · intro heq
    rw [heq, hescaped]

theorem internal_ne_buildName (h : f.Named) (hsetter : f.internalSetter = some setter) :
    setter.name ≠ BuilderType.buildName := by
  rw [h.internal _ hsetter, Symbols.internalName_escaped f.isSnake_snakeName]
  exact (Text.ne_append_of_not_prefix (by decide) _).symm

/-- A setter has the name of the internal setter of another field. -/
theorem setter_eq_internal_iff (hf : f.Named) (hg : g.Named)
    (hsetter : f.internalSetter = some setter) : g.setter.name = setter.name ↔
      f.snakeName ∉ pathKeywords ∧ g.snakeName = "set_" ++ f.snakeName := by
  rw [hg.setter, hf.internal _ hsetter]
  exact Symbols.escaped_eq_internalName_iff f.isSnake_snakeName g.isSnake_snakeName

end BuilderField.Named

/-- A builder whose members have different names in snake case has two functions of one name exactly
when a member imitates the building function or the internal setter of a member that has one. -/
theorem BuilderType.nodup_functionNames_iff {b : BuilderType} (hnamed : ∀ f ∈ b.fields, f.Named)
    (hsnake : (b.fields.map (·.snakeName)).Nodup) : b.functionNames.Nodup ↔
      (∀ f ∈ b.fields, f.snakeName ≠ buildName) ∧
      ∀ f ∈ b.fields, f.internalSetter ≠ none → f.snakeName ∉ pathKeywords →
        ∀ g ∈ b.fields, g.snakeName ≠ "set_" ++ f.snakeName := by
  rw [functionNames, List.nodup_append, List.nodup_append]
  constructor
  · rintro ⟨⟨-, -, hapart⟩, -, hlast⟩
    constructor
    · intro f hf heq
      refine hlast _ (List.mem_append_left _ (mem_setterNames_iff.2 ⟨f, hf, rfl⟩)) buildName
        List.mem_cons_self ((hnamed f hf).setter_eq_buildName_iff.2 heq)
    · intro f hf hsome hpath g hg heq
      obtain ⟨setter, hsetter⟩ := Option.ne_none_iff_exists'.1 hsome
      exact hapart _ (mem_setterNames_iff.2 ⟨g, hg, rfl⟩) _
        (mem_internalNames_iff.2 ⟨f, hf, setter, hsetter, rfl⟩)
        (((hnamed f hf).setter_eq_internal_iff (hnamed g hg) hsetter).2 ⟨hpath, heq⟩)
  · rintro ⟨hnone, himitate⟩
    refine ⟨⟨nodup_setterNames hnamed hsnake, nodup_internalNames hnamed hsnake, ?_⟩,
      List.nodup_singleton _, ?_⟩
    · intro name hname name' hname' heq
      obtain ⟨g, hg, rfl⟩ := mem_setterNames_iff.1 hname
      obtain ⟨f, hf, setter, hsetter, rfl⟩ := mem_internalNames_iff.1 hname'
      obtain ⟨hpath, heq⟩ :=
        ((hnamed f hf).setter_eq_internal_iff (hnamed g hg) hsetter).1 heq
      exact himitate f hf (by simp [hsetter]) hpath g hg heq
    · intro name hname name' hname' heq
      rw [List.mem_singleton.1 hname'] at heq
      rcases List.mem_append.1 hname with hname | hname
      · obtain ⟨f, hf, rfl⟩ := mem_setterNames_iff.1 hname
        exact hnone f hf ((hnamed f hf).setter_eq_buildName_iff.1 heq)
      · obtain ⟨f, hf, setter, hsetter, rfl⟩ := mem_internalNames_iff.1 hname
        exact (hnamed f hf).internal_ne_buildName hsetter heq

end Shapesmith
