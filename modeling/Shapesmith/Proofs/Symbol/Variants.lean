import Shapesmith.Proofs.Symbol.Finite
import Shapesmith.Symbol.Violations

/-!
# Which violation variants a shape has

* `Symbols.Nests` : the variant of a shape for the violations of one of its members;
* `Symbols.mem_variants_iff` : a shape that can break a constraint has a variant for each of its
  checks, for each member that has to be given, and for each member that can break a constraint;
* `Symbols.variants_isOk_iff` : it has variants at all when the targets of the latter have a type.
-/

namespace Shapesmith

open Relation

namespace Model

variable {m : Model}

theorem isConstrained_targetOf {s : Shape} (h : m.isConstrained s = true) :
    m.isConstrained (m.targetOf s) = true := by
  cases hk : (m.targetOf s).isMember with
  | false =>
    rw [isConstrained] at h ⊢
    rwa [targetOf_of_not_isMember hk]
  | true =>
    obtain ⟨id, hk⟩ := Shape.isMember_iff.1 hk
    simp only [isConstrained, hk] at h
    cases h

theorem membersOf_of_isMember {s : Shape} (h : s.isMember = true) : m.membersOf s = [] := by
  rw [membersOf, Declaration.members_of_isMember h, List.filterMap_nil]

/-- If the target of a member reaches a constraint directly, so does the target as a shape. -/
theorem reachesConstrained_targetOf (hm : m.Sound) {e : Shape} (he : e ∈ m.shapes)
    (h : m.reachesConstrained e = true) : m.reachesConstrained (m.targetOf e) = true := by
  obtain ⟨t, ht, hc⟩ := (reachesConstrained_iff hm he).1 h
  refine (reachesConstrained_iff hm (hm.targetOf_mem he)).2 ?_
  cases hk : (m.targetOf e).isMember with
  | false =>
    rw [targetOf_of_not_isMember hk]
    exact ⟨t, ht, hc⟩
  | true =>
    -- a member has no parts, so that the constraint is the one of its own target
    cases ht.cases_head with
    | inl heq => exact ⟨_, .refl, isConstrained_targetOf (heq ▸ hc)⟩
    | inr hstep =>
      obtain ⟨u, ⟨e', he', -⟩, -⟩ := hstep
      rw [membersOf_of_isMember hk] at he'
      cases he'

/-- What reaches a constraint through a part reaches it itself. -/
theorem reachesConstrained_of_membersOf (hm : m.Sound) {s e : Shape} (hs : s ∈ m.shapes)
    (he : e ∈ m.membersOf (m.targetOf s)) (h : m.reachesConstrained e = true) :
    m.reachesConstrained s = true := by
  obtain ⟨t, ht, hc⟩ := (reachesConstrained_iff hm (hm.mem_membersOf_iff.1 he).1).1 h
  exact (reachesConstrained_iff hm hs).2 ⟨t, .head ⟨e, he, rfl⟩ ht, hc⟩

/-- The members of a shape that can break a constraint have targets with a type. -/
def PartsHaveTypes (m : Model) (s : Shape) : Prop :=
  ∀ e ∈ m.membersOf s, m.CanBreak e → m.HasType (m.targetOf e)

theorem partsHaveTypes_iff (hm : m.Sound) {s : Shape} : m.PartsHaveTypes s ↔
    ∀ e ∈ m.membersOf s, m.reachesConstrained e = true → m.HasType (m.targetOf e) :=
  forall₂_congr fun _ he => imp_congr_left (canBreak_iff hm (hm.mem_membersOf_iff.1 he).1)

end Model

/-- What a variant for the violations of a member holds: the id of the member and the type. -/
def Variant.nested? : Variant → Option (ShapeId × CodeType)
  | .part e violation | .item e violation | .key e violation | .value e violation =>
    some (e, violation)
  | .own _ _ | .missing _ => none

theorem Variant.nested?_ofCheck (kind : Kind) (c : Check) : (ofCheck kind c).nested? = none := by
  cases c <;> rfl

namespace Symbols

variable (y : Symbols)

/-- The variant of a shape for the violations of a member, whose type is given. -/
inductive Nests (s e : Shape) (violation : CodeType) : Variant → Prop
  /-- A member of a structure or union. -/
  | part (h : s.isStruct = true ∨ s.isUnion = true) :
    Nests s e violation (.part e.id (if y.model.isBoxed e.id then .boxed violation else violation))
  /-- The item of a list. -/
  | item (h : s.kind = .list e.id) : Nests s e violation (.item e.id violation)
  /-- The key of a map. -/
  | key {w : ShapeId} (h : s.kind = .map e.id w) : Nests s e violation (.key e.id violation)
  /-- The value of a map. -/
  | value {k : ShapeId} (h : s.kind = .map k e.id) : Nests s e violation (.value e.id violation)

variable {y}

theorem of_ofModel {m : Model} {service : Shape} {style : Style} {tolerant : Bool}
    (h : ofModel m service style tolerant = .ok y) :
    y.model = m ∧ m.accept service tolerant = .ok () := by
  obtain ⟨_, haccept, h⟩ := Except.bind_eq_ok_iff.1 h
  obtain rfl := Except.ok.inj h
  exact ⟨rfl, haccept⟩

theorem ofModel_eq_ok {m : Model} {service : Shape} {style : Style} {tolerant : Bool}
    {ends : Table ShapeId Place} (haccept : m.accept service tolerant = .ok ())
    (hends : (m.walk service).foldl notedEnds [] = ends) :
    ofModel m service style tolerant = .ok ⟨m, service, style, ends⟩ := by
  rw [ofModel, haccept, hends]
  rfl

/-- The type is given as it is, or boxed for a member of a structure or union that is. -/
theorem Nests.nested? {s e : Shape} {violation : CodeType} {w : Variant}
    (h : y.Nests s e violation w) : w.nested? = some (e.id,
      if (s.isStruct || s.isUnion) && y.model.isBoxed e.id then .boxed violation
      else violation) := by
  cases h with
  | part hk => simp [Variant.nested?, hk]
  | item hk | key hk | value hk => simp [Variant.nested?, Shape.isStruct, Shape.isUnion, hk]

/-- Each member of a shape has its variant. -/
theorem exists_nests (hm : y.model.Sound) {s e : Shape} (he : e ∈ y.model.membersOf s)
    (violation : CodeType) : ∃ w, y.Nests s e violation w := by
  have hid := (hm.mem_membersOf_iff.1 he).2
  cases hk : s.kind with
  | struct ids | union ids => exact ⟨_, .part (by simp [Shape.isStruct, Shape.isUnion, hk])⟩
  | list id =>
    obtain rfl : e.id = id := by simpa [Shape.members, hk] using hid
    exact ⟨_, .item hk⟩
  | map k w =>
    obtain rfl | rfl : e.id = k ∨ e.id = w := by simpa [Shape.members, hk] using hid
    · exact ⟨_, .key hk⟩
    · exact ⟨_, .value hk⟩
  | simple | member | operation | service => simp [Shape.members, hk] at hid

theorem violation_isOk_iff (hm : y.model.Sound) {e : Shape} (he : e ∈ y.model.shapes)
    (h : y.model.reachesConstrained e = true) :
    (∃ symbol, y.violation e = .ok symbol) ↔ y.model.HasType (y.model.targetOf e) := by
  rw [← plain_isOk_iff hm (hm.targetOf_mem he), violation,
    if_pos (Model.reachesConstrained_targetOf hm he h)]
  constructor
  · rintro ⟨symbol, hs⟩
    obtain ⟨owner, howner, -⟩ := Except.bind_eq_ok_iff.1 hs
    exact ⟨owner, howner⟩
  · rintro ⟨owner, howner⟩
    exact ⟨_, Except.bind_eq_ok_iff.2 ⟨owner, howner, rfl⟩⟩

theorem nested_isOk_iff (hm : y.model.Sound) {e : Shape} (he : e ∈ y.model.shapes)
    {make : CodeType → Variant} : (∃ vs, y.nested e make = .ok vs) ↔
      (y.model.reachesConstrained e = true → y.model.HasType (y.model.targetOf e)) := by
  by_cases h : y.model.reachesConstrained e = true
  · rw [nested, if_pos h, ← violation_isOk_iff hm he h]
    constructor
    · rintro ⟨vs, hvs⟩ -
      obtain ⟨symbol, hs, -⟩ := Except.bind_eq_ok_iff.1 hvs
      exact ⟨symbol, hs⟩
    · intro hs
      obtain ⟨symbol, hs⟩ := hs h
      exact ⟨_, Except.bind_eq_ok_iff.2 ⟨symbol, hs, rfl⟩⟩
  · rw [nested, if_neg h]
    exact ⟨fun _ h' => absurd h' h, fun _ => ⟨[], rfl⟩⟩

theorem mem_nested_iff {e : Shape} {make : CodeType → Variant} {vs : List Variant}
    (h : y.nested e make = .ok vs) {w : Variant} : w ∈ vs ↔ y.model.reachesConstrained e = true ∧
      ∃ symbol, y.violation e = .ok symbol ∧ w = make symbol.type := by
  rw [nested] at h
  split at h
  · rename_i hr
    obtain ⟨symbol, hs, hvs⟩ := Except.bind_eq_ok_iff.1 h
    obtain rfl := Except.ok.inj hvs
    simp [hr, hs]
  · rename_i hr
    obtain rfl := Except.ok.inj h
    simp [hr]

theorem partVariants_isOk_iff (hm : y.model.Sound) {ofStruct : Bool} {e : Shape}
    (he : e ∈ y.model.shapes) : (∃ vs, y.partVariants ofStruct e = .ok vs) ↔
      (y.model.reachesConstrained e = true → y.model.HasType (y.model.targetOf e)) := by
  rw [partVariants, ← nested_isOk_iff hm he]
  constructor
  · rintro ⟨vs, hvs⟩
    obtain ⟨part, hpart, -⟩ := Except.bind_eq_ok_iff.1 hvs
    exact ⟨part, hpart⟩
  · rintro ⟨part, hpart⟩
    exact ⟨_, Except.bind_eq_ok_iff.2 ⟨part, hpart, rfl⟩⟩

theorem mem_partVariants_iff {ofStruct : Bool} {e : Shape} {vs : List Variant}
    (h : y.partVariants ofStruct e = .ok vs) {w : Variant} : w ∈ vs ↔
      (ofStruct = true ∧ e.mustBeGiven = true ∧ w = .missing e.id) ∨
      y.model.reachesConstrained e = true ∧ ∃ symbol, y.violation e = .ok symbol ∧
        w = .part e.id (if y.model.isBoxed e.id then .boxed symbol.type else symbol.type) := by
  obtain ⟨part, hpart, hvs⟩ := Except.bind_eq_ok_iff.1 h
  obtain rfl := Except.ok.inj hvs
  rw [List.mem_append, mem_nested_iff hpart]
  refine or_congr ?_ .rfl
  cases ofStruct <;> cases e.mustBeGiven <;> simp

/-! ### Parts -/

theorem map_flatten_isOk_iff {α : Type} {step : α → Except Failure (List Variant)} {l : List α} :
    (∃ vs, (collect step l).map List.flatten = .ok vs) ↔ ∀ a ∈ l, ∃ vs, step a = .ok vs := by
  rw [← collect_isOk_iff]
  constructor
  · rintro ⟨vs, h⟩
    obtain ⟨vss, hvss, -⟩ := Except.map_eq_ok_iff.1 h
    exact ⟨vss, hvss⟩
  · rintro ⟨vss, hvss⟩
    exact ⟨_, Except.map_eq_ok_iff.2 ⟨vss, hvss, rfl⟩⟩

theorem partsVariants_isOk_iff (hm : y.model.Sound) {s : Shape} (hs : s ∈ y.model.shapes) :
    (∃ vs, y.partsVariants s = .ok vs) ↔ y.model.PartsHaveTypes s := by
  rw [Model.partsHaveTypes_iff hm]
  have hmem {e : Shape} (he : e ∈ y.model.membersOf s) : e ∈ y.model.shapes :=
    (hm.mem_membersOf_iff.1 he).1
  cases hk : s.kind with
  | struct ids | union ids =>
    simp only [partsVariants, hk]
    rw [map_flatten_isOk_iff]
    exact forall₂_congr fun e he => partVariants_isOk_iff hm (hmem he)
  | list id =>
    obtain ⟨e, he, hf⟩ := hm.find?_item hs hk
    have hone : y.model.membersOf s = [e] := by simp [Model.membersOf, Shape.members, hk, hf]
    simp only [partsVariants, hk, hf, Option.toList_some]
    rw [map_flatten_isOk_iff, hone]
    simp only [List.forall_mem_singleton]
    exact nested_isOk_iff hm (hmem he)
  | map k w =>
    obtain ⟨⟨e, he, hf⟩, e', he', hf'⟩ := hm.find?_entry hs hk
    have htwo : y.model.membersOf s = [e, e'] := by
      simp [Model.membersOf, Shape.members, hk, hf, hf']
    simp only [partsVariants, hk, hf, hf', Option.toList_some]
    rw [htwo]
    simp only [List.forall_mem_cons, List.not_mem_nil, false_implies, implies_true, and_true]
    rw [← nested_isOk_iff hm (hmem he), ← nested_isOk_iff hm (hmem he')]
    constructor
    · rintro ⟨vs, hvs⟩
      obtain ⟨keys, hkeys, hvs⟩ := Except.bind_eq_ok_iff.1 hvs
      obtain ⟨values, hvalues, -⟩ := Except.bind_eq_ok_iff.1 hvs
      exact ⟨map_flatten_isOk_iff.1 ⟨keys, hkeys⟩ e (List.mem_singleton_self e),
        map_flatten_isOk_iff.1 ⟨values, hvalues⟩ e' (List.mem_singleton_self e')⟩
    · rintro ⟨hkey, hvalue⟩
      obtain ⟨keys, hkeys⟩ := map_flatten_isOk_iff.2 (List.forall_mem_singleton.2 hkey)
      obtain ⟨values, hvalues⟩ := map_flatten_isOk_iff.2 (List.forall_mem_singleton.2 hvalue)
      exact ⟨keys ++ values, Except.bind_eq_ok_iff.2
        ⟨keys, hkeys, Except.bind_eq_ok_iff.2 ⟨values, hvalues, rfl⟩⟩⟩
  | simple | member | operation | service =>
    have hnone : y.model.membersOf s = [] := by simp [Model.membersOf, Shape.members, hk]
    simp [partsVariants, hk, hnone]

theorem nests_part_iff {s e : Shape} (hs : s.isStruct = true ∨ s.isUnion = true)
    {violation : CodeType} {w : Variant} : y.Nests s e violation w ↔
      w = .part e.id (if y.model.isBoxed e.id then .boxed violation else violation) := by
  constructor
  · intro h
    cases h with
    | part => rfl
    | item hk | key hk | value hk => simp [Shape.isStruct, Shape.isUnion, hk] at hs
  · rintro rfl
    exact .part hs

theorem nests_list_iff {s e : Shape} {id : ShapeId} (hs : s.kind = .list id)
    {violation : CodeType} {w : Variant} :
    y.Nests s e violation w ↔ e.id = id ∧ w = .item e.id violation := by
  constructor
  · intro h
    cases h with
    | item hk =>
      rw [hs] at hk
      cases hk
      exact ⟨rfl, rfl⟩
    | part h => simp [Shape.isStruct, Shape.isUnion, hs] at h
    | key hk | value hk =>
      rw [hs] at hk
      cases hk
  · rintro ⟨rfl, rfl⟩
    exact .item hs

theorem nests_map_iff {s e : Shape} {k v : ShapeId} (hs : s.kind = .map k v)
    {violation : CodeType} {w : Variant} : y.Nests s e violation w ↔
      e.id = k ∧ w = .key e.id violation ∨ e.id = v ∧ w = .value e.id violation := by
  constructor
  · intro h
    cases h with
    | key hk =>
      rw [hs] at hk
      cases hk
      exact .inl ⟨rfl, rfl⟩
    | value hk =>
      rw [hs] at hk
      cases hk
      exact .inr ⟨rfl, rfl⟩
    | part h => simp [Shape.isStruct, Shape.isUnion, hs] at h
    | item hk =>
      rw [hs] at hk
      cases hk
  · rintro (⟨rfl, rfl⟩ | ⟨rfl, rfl⟩)
    · exact .key hs
    · exact .value hs

theorem mem_only_iff {make : ShapeId → CodeType → Variant} {e : Shape} {vs : List Variant}
    (h : (collect (fun member => y.nested member (make member.id)) [e]).map List.flatten = .ok vs)
    {w : Variant} : w ∈ vs ↔ y.model.reachesConstrained e = true ∧
      ∃ symbol, y.violation e = .ok symbol ∧ w = make e.id symbol.type := by
  obtain ⟨vs', hvs'⟩ := map_flatten_isOk_iff.1 ⟨vs, h⟩ e (List.mem_singleton_self e)
  simp only [mem_flatten_collect_iff h, List.mem_singleton, exists_eq_left, hvs', Except.ok.injEq,
    exists_eq_left', mem_nested_iff hvs']

/-- The variants for the parts of a shape. -/
theorem mem_partsVariants_iff (hm : y.model.Sound) {s : Shape} (hs : s ∈ y.model.shapes)
    {vs : List Variant} (h : y.partsVariants s = .ok vs) {w : Variant} : w ∈ vs ↔
      (∃ e ∈ y.model.membersOf s, s.isStruct = true ∧ e.mustBeGiven = true ∧ w = .missing e.id) ∨
      ∃ e ∈ y.model.membersOf s, y.model.reachesConstrained e = true ∧
        ∃ symbol, y.violation e = .ok symbol ∧ y.Nests s e symbol.type w := by
  cases hk : s.kind with
  | struct ids | union ids =>
    have hpart : s.isStruct = true ∨ s.isUnion = true := by simp [Shape.isStruct, Shape.isUnion, hk]
    simp only [partsVariants, hk] at h
    simp only [mem_flatten_collect_iff h, nests_part_iff hpart]
    constructor
    · rintro ⟨e, he, cs, hcs, hw⟩
      exact ((mem_partVariants_iff hcs).1 hw).imp (fun hw => ⟨e, he, hw⟩) fun hw => ⟨e, he, hw⟩
    · rintro (⟨e, he, hw⟩ | ⟨e, he, hw⟩) <;>
        obtain ⟨cs, hcs⟩ := map_flatten_isOk_iff.1 ⟨vs, h⟩ e he
      · exact ⟨e, he, cs, hcs, (mem_partVariants_iff hcs).2 (.inl hw)⟩
      · exact ⟨e, he, cs, hcs, (mem_partVariants_iff hcs).2 (.inr hw)⟩
  | list id =>
    have hnot : s.isStruct = false := by simp [Shape.isStruct, hk]
    obtain ⟨e, -, hf⟩ := hm.find?_item hs hk
    obtain ⟨-, rfl⟩ := hm.find?_eq_some_iff.1 hf
    have hone : y.model.membersOf s = [e] := by simp [Model.membersOf, Shape.members, hk, hf]
    simp only [partsVariants, hk, hf, Option.toList_some] at h
    simp [mem_only_iff h, hone, hnot, nests_list_iff hk]
  | map k v =>
    have hnot : s.isStruct = false := by simp [Shape.isStruct, hk]
    obtain ⟨⟨e, he, hf⟩, e', he', hf'⟩ := hm.find?_entry hs hk
    obtain ⟨hmem, rfl⟩ := hm.find?_eq_some_iff.1 hf
    obtain ⟨hmem', rfl⟩ := hm.find?_eq_some_iff.1 hf'
    simp only [partsVariants, hk, hf, hf', Option.toList_some] at h
    obtain ⟨keys, hkeys, h⟩ := Except.bind_eq_ok_iff.1 h
    obtain ⟨values, hvalues, h⟩ := Except.bind_eq_ok_iff.1 h
    obtain rfl := Except.ok.inj h
    rw [List.mem_append, mem_only_iff hkeys, mem_only_iff hvalues]
    constructor
    · rintro (⟨hr, symbol, hsymbol, rfl⟩ | ⟨hr, symbol, hsymbol, rfl⟩)
      · exact .inr ⟨e, he, hr, symbol, hsymbol, .key hk⟩
      · exact .inr ⟨e', he', hr, symbol, hsymbol, .value hk⟩
    · rintro (⟨_, -, hstruct, -⟩ | ⟨d, hd, hr, symbol, hsymbol, hn⟩)
      · rw [hnot] at hstruct
        cases hstruct
      · have hd := (hm.mem_membersOf_iff.1 hd).1
        rcases (nests_map_iff hk).1 hn with ⟨hid, rfl⟩ | ⟨hid, rfl⟩
        · obtain rfl := hm.eq_of_id_eq hd hmem hid
          exact .inl ⟨hr, symbol, hsymbol, rfl⟩
        · obtain rfl := hm.eq_of_id_eq hd hmem' hid
          exact .inr ⟨hr, symbol, hsymbol, rfl⟩
  | simple | member | operation | service =>
    have hnone : y.model.membersOf s = [] := by simp [Model.membersOf, Shape.members, hk]
    simp only [partsVariants, hk, Except.ok.injEq] at h
    simp [← h, hnone]

/-! ### Shapes -/

/-- A shape has variants when the targets of the members that can break a constraint have a
type. -/
theorem variants_isOk_iff (hm : y.model.Sound) {s : Shape} (hs : s ∈ y.model.shapes) :
    (∃ vs, y.variants s = .ok vs) ↔ (y.model.reachesConstrained (y.model.targetOf s) = true →
      y.model.PartsHaveTypes (y.model.targetOf s)) := by
  rw [← partsVariants_isOk_iff hm (hm.targetOf_mem hs), variants]
  by_cases hr : y.model.reachesConstrained (y.model.targetOf s) = true
  · rw [if_pos hr]
    constructor
    · rintro ⟨vs, h⟩ -
      obtain ⟨parts, hparts, -⟩ := Except.bind_eq_ok_iff.1 h
      exact ⟨parts, hparts⟩
    · intro h
      obtain ⟨parts, hparts⟩ := h hr
      exact ⟨_, Except.bind_eq_ok_iff.2 ⟨parts, hparts, rfl⟩⟩
  · rw [if_neg hr]
    exact ⟨fun _ h => absurd h hr, fun _ => ⟨[], rfl⟩⟩

/-- A shape that can break a constraint has a variant for each of its checks, for each member that
has to be given, and for each member that can break a constraint. -/
theorem mem_variants_iff (hm : y.model.Sound) {s t : Shape} (hs : s ∈ y.model.shapes)
    (ht : t = y.model.targetOf s) {vs : List Variant} (h : y.variants s = .ok vs) {w : Variant} :
    w ∈ vs ↔ y.model.reachesConstrained t = true ∧
      ((∃ c ∈ t.checks, w = .ofCheck t.kind c) ∨
      (∃ e ∈ y.model.membersOf t, t.isStruct = true ∧ e.mustBeGiven = true ∧ w = .missing e.id) ∨
      ∃ e ∈ y.model.membersOf t, y.model.reachesConstrained e = true ∧
        ∃ symbol, y.violation e = .ok symbol ∧ y.Nests t e symbol.type w) := by
  subst ht
  rw [variants] at h
  by_cases hr : y.model.reachesConstrained (y.model.targetOf s) = true
  · rw [if_pos hr] at h
    obtain ⟨parts, hparts, h⟩ := Except.bind_eq_ok_iff.1 h
    obtain rfl := Except.ok.inj h
    rw [List.mem_append, mem_partsVariants_iff hm (hm.targetOf_mem hs) hparts, List.mem_map]
    simp only [hr, true_and, eq_comm]
  · rw [if_neg hr] at h
    obtain rfl := Except.ok.inj h
    simp [hr]

end Symbols

end Shapesmith
