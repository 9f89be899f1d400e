import Shapesmith.Proofs.Model.Same
import Shapesmith.Proofs.Symbol.Variants
import Shapesmith.Proofs.Text.Names

/-!
# Names of violation variants

The variants of a structure are named for its checks, for the members that have to be given and for
the members that can break a constraint.

* `Shape.nodup_checkNames` : no two checks of a shape have one name;
* `nodup_partNames_iff` : among members with different names, two variants have one name only when a
  member that can break a constraint imitates a missing one;
* `Symbols.nodup_variantNames_iff` : or when it imitates a check.
-/

namespace Shapesmith

/-! ### Checks -/

namespace Check

/-- The trait that a check stands for. -/
def traitId : Check → String
  | .length _ _ => Trait.lengthId
  | .range _ => Trait.rangeId
  | .pattern _ => Trait.patternId

/-- The name of the variant of a check. -/
def variantName : Check → String
  | .length _ _ => "Length"
  | .range _ => "Range"
  | .pattern _ => "Pattern"

theorem name_ofCheck (kind : Kind) (c : Check) : (Variant.ofCheck kind c).name = c.variantName := by
  cases c <;> rfl

theorem traitId_eq_of_variantName_eq {c d : Check} (h : c.variantName = d.variantName) :
    c.traitId = d.traitId := by
  cases c <;> cases d <;> first | rfl | exact absurd h (by simp [variantName])

theorem variantName_ne_missing (c : Check) (name : String) : c.variantName ≠ "Missing" ++ name := by
  have hfront : ∀ text ∈ ["Length", "Range", "Pattern"], ¬ "Missing".toList <+: text.toList := by
    decide
  refine Text.ne_append_of_not_prefix (hfront _ ?_) name
  cases c <;> simp [variantName]

end Check

namespace Shape

theorem traitId_of_checkOf {s : Shape} {id : String} {c : Check} (h : s.checkOf id = some c) :
    id = c.traitId := by
  unfold checkOf at h
  split at h
  · obtain ⟨b, -, rfl⟩ := Option.map_eq_some_iff.1 h
    assumption
  · split at h
    · obtain ⟨b, -, rfl⟩ := Option.map_eq_some_iff.1 h
      assumption
    · split at h
      · obtain ⟨b, -, rfl⟩ := Option.map_eq_some_iff.1 h
        assumption
      · cases h

/-- The variants of the checks of a shape have different names. -/
theorem nodup_checkNames {s : Shape} (h : s.traits.Distinct) :
    (s.checks.map Check.variantName).Nodup := by
  refine List.pairwise_map.2 (List.pairwise_filterMap.2 ?_)
  refine List.Pairwise.imp ?_ h.ids
  intro id id' hne c hc c' hc' heq
  rw [traitId_of_checkOf hc, traitId_of_checkOf hc'] at hne
  exact hne (Check.traitId_eq_of_variantName_eq heq)

/-! ### Members -/

/-- The name of the variant for what a member breaks. -/
def variantName (e : Shape) : String := Text.camelCase e.memberName

/-- The name of the variant for a member that is not given. -/
def missingName (e : Shape) : String := "Missing" ++ e.variantName

end Shape

/-- The names of the variants for a member, given whether it can break a constraint. -/
def partNames (broken : Shape → Bool) (e : Shape) : List String :=
  (if e.mustBeGiven then [e.missingName] else []) ++ if broken e then [e.variantName] else []

variable {members : List Shape} {broken : Shape → Bool}

theorem mem_ite_singleton_iff {given : Bool} {name text : String} :
    text ∈ (if given then [name] else []) ↔ given = true ∧ text = name := by
  cases given <;> simp

theorem mem_flatMap_ite_iff {pick : Shape → Bool} {name : Shape → String} {text : String} :
    text ∈ members.flatMap (fun e => if pick e then [name e] else []) ↔
      ∃ e ∈ members, pick e = true ∧ text = name e := by
  simp only [List.mem_flatMap, mem_ite_singleton_iff]

/-- What has names that keep members apart is named apart. -/
theorem nodup_flatMap_ite {name : Shape → String} (pick : Shape → Bool)
    (h : members.Pairwise fun e f => name e ≠ name f) :
    (members.flatMap fun e => if pick e then [name e] else []).Nodup := by
  refine List.nodup_flatMap.2 ⟨fun e _ => ?_, h.imp fun {e f} hne text he hf => hne ?_⟩
  · split <;> simp
  · exact (mem_ite_singleton_iff.1 he).2.symm.trans (mem_ite_singleton_iff.1 hf).2

/-- Among the variants for members with different names in camel case, two have one name exactly
when what a member breaks is named as a member that is not given. -/
theorem nodup_partNames_iff (hcamel : (members.map Shape.variantName).Nodup) :
    (members.flatMap (partNames broken)).Nodup ↔
      ∀ e ∈ members, broken e = true → ∀ f ∈ members, f.mustBeGiven = true →
        e.variantName ≠ f.missingName := by
  have hpairs : members.Pairwise fun e f => e.variantName ≠ f.variantName :=
    List.pairwise_map.1 hcamel
  have hmissing : members.Pairwise fun e f => e.missingName ≠ f.missingName := by
    refine hpairs.imp fun {e f} hne heq => hne ?_
    rw [Shape.missingName, Shape.missingName, ← String.toList_inj, String.toList_append,
      String.toList_append] at heq
    exact String.toList_inj.1 (List.append_cancel_left heq)
  have hperm : (members.flatMap (partNames broken)).Perm
      (members.flatMap (fun e => if e.mustBeGiven then [e.missingName] else []) ++
        members.flatMap (fun e => if broken e then [e.variantName] else [])) :=
    (List.flatMap_append_perm members _ _).symm
  rw [hperm.nodup_iff, List.nodup_append]
  constructor
  · rintro ⟨-, -, hapart⟩ e he hbroken f hf hgiven heq
    exact hapart _ (mem_flatMap_ite_iff.2 ⟨f, hf, hgiven, rfl⟩) _
      (mem_flatMap_ite_iff.2 ⟨e, he, hbroken, rfl⟩) heq.symm
  · intro h
    refine ⟨nodup_flatMap_ite _ hmissing, nodup_flatMap_ite _ hpairs, ?_⟩
    intro text htext text' htext' heq
    obtain ⟨f, hf, hgiven, rfl⟩ := mem_flatMap_ite_iff.1 htext
    obtain ⟨e, he, hbroken, rfl⟩ := mem_flatMap_ite_iff.1 htext'
    exact h e he hbroken f hf hgiven heq.symm

/-! ### Structures -/

namespace Symbols

variable {y : Symbols} {s e : Shape} {vs : List Variant}

theorem map_name_of_partVariants (h : y.partVariants true e = .ok vs) :
    vs.map Variant.name = partNames y.model.reachesConstrained e := by
  simp only [partVariants, Except.bind_eq_ok_iff, Except.pure_eq_ok_iff] at h
  obtain ⟨part, hpart, rfl⟩ := h
  rw [List.map_append, partNames]
  congr 1
  · cases e.mustBeGiven <;> rfl
  · unfold nested at hpart
    split at hpart
    · rename_i hreaches
      obtain ⟨violation, -, hpart⟩ := Except.bind_eq_ok_iff.1 hpart
      obtain rfl := Except.ok.inj hpart
      rw [if_pos hreaches]
      rfl
    · rename_i hreaches
      obtain rfl := Except.ok.inj hpart
      rw [if_neg hreaches]
      rfl

/-- The names of the variants of a structure: those of its checks, then those of its members. -/
theorem map_name_of_variants (hs : s.isStruct = true) (hr : y.model.reachesConstrained s = true)
    (h : y.variants s = .ok vs) : vs.map Variant.name = s.checks.map Check.variantName ++
      (y.model.membersOf s).flatMap (partNames y.model.reachesConstrained) := by
  obtain ⟨ids, hk⟩ : ∃ ids, s.kind = .struct ids := by
    unfold Shape.isStruct at hs
    split at hs
    · exact ⟨_, ‹_›⟩
    · cases hs
  have htarget : y.model.targetOf s = s :=
    Model.targetOf_of_not_isMember (by simp [Shape.isMember, hk])
  simp only [variants, htarget, if_pos hr, Except.bind_eq_ok_iff, Except.pure_eq_ok_iff] at h
  obtain ⟨parts, hparts, rfl⟩ := h
  simp only [partsVariants, hk] at hparts
  obtain ⟨vss, hvss, rfl⟩ := Except.map_eq_ok_iff.1 hparts
  have hnames : vss.map (List.map Variant.name) =
      (y.model.membersOf s).map (partNames y.model.reachesConstrained) :=
    map_eq_of_collect (fun e vs he => map_name_of_partVariants (hs ▸ he)) hvss
  rw [List.map_append, List.map_flatten, hnames, List.flatMap_def, List.map_map]
  congr 2
  exact funext (Check.name_ofCheck s.kind)

/-- Two variants of a structure whose members have different names in camel case have one name
exactly when a member that can break a constraint is named as a check of the structure, or as one
that is not given. -/
theorem nodup_variantNames_iff (hs : s.isStruct = true) (htraits : s.traits.Distinct)
    (hr : y.model.reachesConstrained s = true) (h : y.variants s = .ok vs)
    (hcamel : ((y.model.membersOf s).map Shape.variantName).Nodup) :
    (vs.map Variant.name).Nodup ↔
      ∀ e ∈ y.model.membersOf s, y.model.reachesConstrained e = true →
        (∀ c ∈ s.checks, e.variantName ≠ c.variantName) ∧
        ∀ f ∈ y.model.membersOf s, f.mustBeGiven = true → e.variantName ≠ f.missingName := by
  rw [map_name_of_variants hs hr h, List.nodup_append, nodup_partNames_iff hcamel]
  constructor
  · rintro ⟨-, hparts, hapart⟩ e he hreaches
    refine ⟨fun c hc heq => ?_, hparts e he hreaches⟩
    refine hapart _ (List.mem_map_of_mem hc) e.variantName ?_ heq.symm
    exact List.mem_flatMap.2 ⟨e, he, by simp [partNames, hreaches]⟩
  · intro hall
    refine ⟨Shape.nodup_checkNames htraits, fun e he hreaches => (hall e he hreaches).2, ?_⟩
    intro name hname name' hname' heq
    obtain ⟨c, hc, rfl⟩ := List.mem_map.1 hname
    obtain ⟨e, he, hmem⟩ := List.mem_flatMap.1 hname'
    rcases List.mem_append.1 hmem with hmem | hmem
    · obtain ⟨-, hmissing⟩ := mem_ite_singleton_iff.1 hmem
      exact Check.variantName_ne_missing c _ (heq.trans hmissing)
    · obtain ⟨hreaches, hpart⟩ := mem_ite_singleton_iff.1 hmem
      exact (hall e he hreaches).1 c hc (heq.trans hpart).symm

end Symbols

end Shapesmith
