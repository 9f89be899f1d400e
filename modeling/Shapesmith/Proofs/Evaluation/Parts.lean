import Shapesmith.Proofs.Evaluation.Slots

/-!
# The slots of a value are its parts

* `Model.part_mem_slots_iff` : the slots with a value are the parts of the value;
* `Model.missing_mem_slots_iff` : the other slots are the members that are missing;
* `Model.mem_strays_iff` : strays are the members of a value that its shape does not have;
* `Model.pairwise_slots` : slots come in the order of their numbers, each number once.
-/

namespace Shapesmith

theorem Requirement.of_eq_required_iff {e : Shape} :
    Requirement.of e = .required ↔ e.mustBeGiven = true := by
  rw [Requirement.of]
  constructor
  · intro h
    by_contra hn
    rw [if_neg hn] at h
    split at h <;> cases h
  · intro h
    rw [if_pos h]

theorem Requirement.of_eq_default_iff {e : Shape} {x : Json} :
    Requirement.of e = .default x ↔ e.traits.defaultValue = some x := by
  rw [Requirement.of]
  constructor
  · intro h
    split at h
    · cases h
    split at h
    · rename_i y hy
      cases h
      exact hy
    · cases h
  · intro h
    have hn : ¬ e.mustBeGiven = true := by simp [Shape.mustBeGiven, h]
    rw [if_neg hn, h]

namespace Shape

variable {e : Shape} {fields : List (String × Json)}

theorem given?_eq_some_iff (hk : (Table.keys fields).Nodup) {x : Json} :
    e.given? fields = some x ↔ (e.memberName, x) ∈ fields ∧ x ≠ .null := by
  rw [given?, Option.filter_eq_some_iff, Table.get?_eq_some_iff hk, decide_eq_true_eq]

theorem given?_eq_none_iff (hk : (Table.keys fields).Nodup) :
    e.given? fields = none ↔ e.AbsentFrom fields := by
  rw [given?, Option.filter_eq_none_iff, AbsentFrom]
  refine forall_congr' fun x => ?_
  rw [Table.get?_eq_some_iff hk, decide_eq_true_eq, not_not]

end Shape

namespace Model

variable {m : Model}

/-! ### Members -/

section Members

variable {fields : List (String × Json)} {path : String} {e : Shape} {i : Nat}

theorem part_mem_memberSlots_iff (hk : (Table.keys fields).Nodup) {step : Spot.Step} {q : Spot} :
    Slot.part step q ∈ m.memberSlots fields path e i ↔ step = .member i ∧
      ∃ x, e.Takes fields x ∧ q = ⟨m.targetOf e, x, pointer path e.memberName⟩ := by
  rw [memberSlots]
  constructor
  · intro h
    split at h
    · rename_i x hg
      obtain ⟨hx, hnull⟩ := (Shape.given?_eq_some_iff hk).1 hg
      simp only [List.mem_singleton, Slot.part.injEq] at h
      exact ⟨h.1, x, .given hx hnull, h.2⟩
    · rename_i x hg hr
      simp only [List.mem_singleton, Slot.part.injEq] at h
      exact ⟨h.1, x, .default ((Shape.given?_eq_none_iff hk).1 hg)
        (Requirement.of_eq_default_iff.1 hr), h.2⟩
    · simp at h
    · simp at h
  · rintro ⟨rfl, x, ⟨hx, hnull⟩ | ⟨habs, hd⟩, rfl⟩
    · rw [(Shape.given?_eq_some_iff hk).2 ⟨hx, hnull⟩]
      exact List.mem_singleton_self _
    · rw [(Shape.given?_eq_none_iff hk).2 habs, Requirement.of_eq_default_iff.2 hd]
      exact List.mem_singleton_self _

theorem missing_mem_memberSlots_iff (hk : (Table.keys fields).Nodup) {step : Spot.Step}
    {place : String} : Slot.missing step place ∈ m.memberSlots fields path e i ↔
      step = .member i ∧ place = pointer path e.memberName ∧ e.mustBeGiven = true ∧
        e.AbsentFrom fields := by
  rw [memberSlots]
  constructor
  · intro h
    split at h
    · simp at h
    · simp at h
    · rename_i hg hr
      simp only [List.mem_singleton, Slot.missing.injEq] at h
      exact ⟨h.1, h.2, Requirement.of_eq_required_iff.1 hr, (Shape.given?_eq_none_iff hk).1 hg⟩
    · simp at h
  · rintro ⟨rfl, rfl, hneeded, habs⟩
    rw [(Shape.given?_eq_none_iff hk).2 habs, Requirement.of_eq_required_iff.2 hneeded]
    exact List.mem_singleton_self _

/-- A member has at most one slot, with its own number. -/
theorem memberSlots_eq (m : Model) (fields : List (String × Json)) (path : String) (e : Shape)
    (i : Nat) : m.memberSlots fields path e i = [] ∨
      ∃ slot, m.memberSlots fields path e i = [slot] ∧ slot.step = .member i := by
  rw [memberSlots]
  split
  · exact .inr ⟨_, rfl, rfl⟩
  · exact .inr ⟨_, rfl, rfl⟩
  · exact .inr ⟨_, rfl, rfl⟩
  · exact .inl rfl

theorem step_of_mem_memberSlots {slot : Slot} (h : slot ∈ m.memberSlots fields path e i) :
    slot.step = .member i := by
  obtain hnil | ⟨slot', hslot, hstep⟩ := m.memberSlots_eq fields path e i
  · rw [hnil] at h
    cases h
  · rw [hslot, List.mem_singleton] at h
    rw [h, hstep]

end Members

/-! ### All slots -/

section Slots

variable {s e : Shape} {path : String}

theorem slots_list {id : ShapeId} (hk : s.kind = .list id) (he : m.find? id = some e)
    (items : List Json) : m.slots ⟨s, .arr items, path⟩ = items.zipIdx.map fun x =>
      .part (.item x.2) ⟨m.targetOf e, x.1, pointer path (toString x.2)⟩ := by
  simp only [slots, hk, he, Option.getD_some]

theorem slots_map {k w : ShapeId} {e' : Shape} (hk : s.kind = .map k w) (he : m.find? k = some e)
    (he' : m.find? w = some e') (fields : List (String × Json)) :
    m.slots ⟨s, .obj fields, path⟩ = fields.zipIdx.flatMap fun f =>
      [.part (.key f.2) ⟨m.targetOf e, .str f.1.1, pointer path f.1.1⟩,
        .part (.value f.2) ⟨m.targetOf e', f.1.2, pointer path f.1.1⟩] := by
  simp only [slots, hk, he, he', Option.getD_some]

theorem slots_struct (hk : s.isStruct = true) (fields : List (String × Json)) :
    m.slots ⟨s, .obj fields, path⟩ = (m.membersOf s).zipIdx.flatMap fun e =>
      m.memberSlots fields path e.1 e.2 := by
  obtain ⟨ids, hs⟩ := Shape.isStruct_iff.1 hk
  simp only [slots, hs]

theorem slots_union (hk : s.isUnion = true) (fields : List (String × Json)) :
    m.slots ⟨s, .obj fields, path⟩ = fields.flatMap fun f =>
      ((m.membersOf s).zipIdx.find? fun e => e.1.memberName == f.1).toList.map fun e =>
        .part (.member e.2) ⟨m.targetOf e.1, f.2, pointer path e.1.memberName⟩ := by
  obtain ⟨ids, hs⟩ := Shape.isUnion_iff.1 hk
  simp only [slots, hs]

/-- In a shape with distinct names, a name finds the member that has it. -/
theorem find?_name_eq_some_iff {members : List Shape}
    (hnames : (members.map Shape.memberName).Nodup) {name : String} {e : Shape × Nat} :
    (members.zipIdx.find? fun e => e.1.memberName == name) = some e ↔
      members[e.2]? = some e.1 ∧ e.1.memberName = name := by
  constructor
  · intro h
    exact ⟨List.mem_zipIdx_iff_getElem?.1 (List.mem_of_find?_eq_some h),
      by simpa using List.find?_some h⟩
  · rintro ⟨he, hname⟩
    cases hf : members.zipIdx.find? fun e => e.1.memberName == name with
    | none =>
      have := List.find?_eq_none.1 hf e (List.mem_zipIdx_iff_getElem?.2 he)
      simp [hname] at this
    | some e' =>
      have he' := List.mem_zipIdx_iff_getElem?.1 (List.mem_of_find?_eq_some hf)
      have hname' : e'.1.memberName = name := by simpa using List.find?_some hf
      -- two members with one name stand at the same place, as the names are distinct
      have hindex : e'.2 = e.2 := by
        obtain ⟨hlt, -⟩ := List.getElem?_eq_some_iff.1 he'
        refine (List.getElem?_inj (by simpa using hlt) hnames).1 ?_
        rw [List.getElem?_map, List.getElem?_map, he, he', Option.map_some, Option.map_some,
          hname, hname']
      have hshape : e'.1 = e.1 := by
        rw [hindex, he] at he'
        exact (Option.some.inj he').symm
      rw [Prod.ext hshape hindex]

end Slots

/-- The slots with a value are the parts of the value. -/
theorem part_mem_slots_iff (hm : m.Sound) {p : Spot} (hs : p.shape ∈ m.shapes)
    (hd : p.value.Distinct) {step : Spot.Step} {q : Spot} :
    Slot.part step q ∈ m.slots p ↔ m.Part p step q := by
  have hnames := hm.nodup_memberNames hs
  obtain ⟨s, j, path⟩ := p
  constructor
  · intro h
    unfold slots at h
    split at h
    · rename_i id items hk hv
      obtain rfl : j = .arr items := hv
      obtain ⟨e, -, he⟩ := hm.find?_item hs hk
      simp only [he, Option.getD_some, List.mem_map, Slot.part.injEq] at h
      obtain ⟨x, hx, rfl, rfl⟩ := h
      exact .item hk he (List.mem_zipIdx_iff_getElem?.1 hx)
    · rename_i k w fields hk hv
      obtain rfl : j = .obj fields := hv
      obtain ⟨⟨e, -, he⟩, e', -, he'⟩ := hm.find?_entry hs hk
      simp only [he, he', Option.getD_some, List.mem_flatMap, List.mem_cons, List.not_mem_nil,
        or_false, Slot.part.injEq] at h
      obtain ⟨f, hf, ⟨rfl, rfl⟩ | ⟨rfl, rfl⟩⟩ := h
      · exact .key hk he (List.mem_zipIdx_iff_getElem?.1 hf)
      · exact .value hk he' (List.mem_zipIdx_iff_getElem?.1 hf)
    · rename_i ids fields hk hv
      obtain rfl : j = .obj fields := hv
      obtain ⟨e, he, h⟩ := List.mem_flatMap.1 h
      obtain ⟨rfl, x, hx, rfl⟩ := (part_mem_memberSlots_iff (Json.distinct_obj_iff.1 hd).1).1 h
      exact .member (Shape.isStruct_iff.2 ⟨ids, hk⟩) (List.mem_zipIdx_iff_getElem?.1 he) hx
    · rename_i ids fields hk hv
      obtain rfl : j = .obj fields := hv
      obtain ⟨f, hf, h⟩ := List.mem_flatMap.1 h
      simp only [List.mem_map, Option.mem_toList, Slot.part.injEq] at h
      obtain ⟨e, he, rfl, rfl⟩ := h
      obtain ⟨he, hname⟩ := (find?_name_eq_some_iff hnames).1 he
      exact .choice (Shape.isUnion_iff.2 ⟨ids, hk⟩) he (by rwa [hname])
    · cases h
  · intro h
    cases h with
    | item hk he hx =>
      rw [slots_list hk he]
      exact List.mem_map.2 ⟨_, List.mk_mem_zipIdx_iff_getElem?.2 hx, rfl⟩
    | key hk he hf =>
      obtain ⟨-, e', -, he'⟩ := hm.find?_entry hs hk
      rw [slots_map hk he he']
      exact List.mem_flatMap.2 ⟨_, List.mk_mem_zipIdx_iff_getElem?.2 hf, List.mem_cons_self⟩
    | value hk he' hf =>
      obtain ⟨⟨e, -, he⟩, -⟩ := hm.find?_entry hs hk
      rw [slots_map hk he he']
      exact List.mem_flatMap.2 ⟨_, List.mk_mem_zipIdx_iff_getElem?.2 hf,
        List.mem_cons_of_mem _ List.mem_cons_self⟩
    | member hk he hx =>
      rw [slots_struct hk]
      exact List.mem_flatMap.2 ⟨_, List.mk_mem_zipIdx_iff_getElem?.2 he,
        (part_mem_memberSlots_iff (Json.distinct_obj_iff.1 hd).1).2 ⟨rfl, _, hx, rfl⟩⟩
    | choice hk he hx =>
      rw [slots_union hk]
      refine List.mem_flatMap.2 ⟨_, hx, List.mem_map.2 ⟨(_, _), ?_, rfl⟩⟩
      exact Option.mem_toList.2 ((find?_name_eq_some_iff hnames).2 ⟨he, rfl⟩)

/-- The slots without a value are the members that are missing. -/
theorem missing_mem_slots_iff {p : Spot} (hd : p.value.Distinct) {step : Spot.Step}
    {place : String} : Slot.missing step place ∈ m.slots p ↔
      ∃ i e, step = .member i ∧ place = pointer p.path e.memberName ∧ m.Missing p i e := by
  obtain ⟨s, j, path⟩ := p
  constructor
  · intro h
    unfold slots at h
    split at h
    · simp at h
    · simp at h
    · rename_i ids fields hk hv
      obtain rfl : j = .obj fields := hv
      obtain ⟨e, he, h⟩ := List.mem_flatMap.1 h
      obtain ⟨rfl, rfl, hneeded, habs⟩ :=
        (missing_mem_memberSlots_iff (Json.distinct_obj_iff.1 hd).1).1 h
      exact ⟨e.2, e.1, rfl, rfl, Shape.isStruct_iff.2 ⟨ids, hk⟩,
        List.mem_zipIdx_iff_getElem?.1 he, hneeded, fields, rfl, habs⟩
    · simp at h
    · cases h
  · rintro ⟨i, e, rfl, rfl, hk, he, hneeded, fields, hv, habs⟩
    obtain rfl : j = .obj fields := hv
    rw [slots_struct hk]
    exact List.mem_flatMap.2 ⟨_, List.mk_mem_zipIdx_iff_getElem?.2 he,
      (missing_mem_memberSlots_iff (Json.distinct_obj_iff.1 hd).1).2 ⟨rfl, rfl, hneeded, habs⟩⟩

theorem mem_keys_foldl_eraseFill {members : List Shape} {fields : List (String × Json)}
    (hk : (Table.keys fields).Nodup) {name : String} :
    name ∈ Table.keys (members.foldl (fun fs e => Table.eraseFill fs e.memberName) fields) ↔
      name ∈ Table.keys fields ∧ ∀ e ∈ members, e.memberName ≠ name := by
  induction members generalizing fields with
  | nil => simp
  | cons e members ih =>
    rw [List.foldl_cons, ih (Table.nodup_keys_eraseFill hk _), Table.mem_keys_eraseFill hk,
      List.forall_mem_cons, and_assoc, ne_comm]

/-- The strays are the members of a value that its shape does not have. -/
theorem mem_strays_iff {p : Spot} (hd : p.value.Distinct) {name : String} :
    name ∈ m.strays p ↔ ∃ fields, p.value = .obj fields ∧
      (p.shape.isStruct = true ∨ p.shape.isUnion = true) ∧ name ∈ Table.keys fields ∧
      ∀ e ∈ m.membersOf p.shape, e.memberName ≠ name := by
  obtain ⟨s, j, path⟩ := p
  unfold strays
  split
  · rename_i ids fields hk hv
    obtain rfl : j = .obj fields := hv
    have hs : s.isStruct = true := Shape.isStruct_iff.2 ⟨ids, hk⟩
    simp [mem_keys_foldl_eraseFill (Json.distinct_obj_iff.1 hd).1, hs]
  · rename_i ids fields hk hv
    obtain rfl : j = .obj fields := hv
    have hs : s.isUnion = true := Shape.isUnion_iff.2 ⟨ids, hk⟩
    simp [hs]
  · rename_i hstruct hunion
    simp only [List.not_mem_nil, false_iff]
    rintro ⟨fields, hv, hs | hs, -⟩
    · obtain ⟨ids, hk⟩ := Shape.isStruct_iff.1 hs
      exact hstruct ids fields hk hv
    · obtain ⟨ids, hk⟩ := Shape.isUnion_iff.1 hs
      exact hunion ids fields hk hv

theorem pairwise_zipIdx {α : Type} (l : List α) (n : Nat) :
    (l.zipIdx n).Pairwise fun a b => a.2 < b.2 := by
  rw [← List.pairwise_map, List.zipIdx_map_snd]
  exact List.pairwise_lt_range'

/-- Slots come in the order of their numbers. -/
theorem pairwise_slots {p : Spot} (ha : p.shape.kind.Accepts p.value) :
    (m.slots p).Pairwise fun a b => a.step.rank < b.step.rank := by
  unfold slots
  split
  · rename_i id items _ _
    refine List.pairwise_map.2 ((pairwise_zipIdx items 0).imp fun {a b} h => ?_)
    exact h
  · rename_i k w fields _ _
    refine List.pairwise_flatMap.2 ⟨fun f _ => ?_, (pairwise_zipIdx fields 0).imp fun {a b} h => ?_⟩
    · simp [Slot.step, Spot.Step.rank]
    · rintro x hx y hy
      simp only [List.mem_cons, List.not_mem_nil, or_false] at hx hy
      rcases hx with rfl | rfl <;> rcases hy with rfl | rfl <;>
        simp only [Slot.step, Spot.Step.rank] <;> omega
  · rename_i ids fields _ _
    refine List.pairwise_flatMap.2 ⟨fun e _ => ?_, (pairwise_zipIdx _ 0).imp fun {a b} h => ?_⟩
    · obtain hnil | ⟨slot, hslot, -⟩ := m.memberSlots_eq fields p.path e.1 e.2
      · rw [hnil]
        exact List.Pairwise.nil
      · rw [hslot]
        exact List.pairwise_singleton _ _
    · intro x hx y hy
      rw [step_of_mem_memberSlots hx, step_of_mem_memberSlots hy]
      exact h
  · rename_i ids fields hk hv
    -- the object of a union has one field
    rw [hk, hv] at ha
    obtain - | - := ha
    rw [List.flatMap_cons, List.flatMap_nil, List.append_nil]
    cases (m.membersOf p.shape).zipIdx.find? fun e => e.1.memberName == _ with
    | none => exact List.Pairwise.nil
    | some e => exact List.pairwise_singleton _ _
  · exact List.Pairwise.nil

/-! ### Staying in the model -/

theorem Part.shape_mem (hm : m.Sound) {p q : Spot} {step : Spot.Step} (h : m.Part p step q) :
    q.shape ∈ m.shapes := by
  cases h with
  | item hs he hx => exact hm.targetOf_mem (hm.find?_eq_some_iff.1 he).1
  | key hs he hf => exact hm.targetOf_mem (hm.find?_eq_some_iff.1 he).1
  | value hs he hf => exact hm.targetOf_mem (hm.find?_eq_some_iff.1 he).1
  | member hs he hx =>
    exact hm.targetOf_mem (hm.mem_membersOf_iff.1 (List.mem_of_getElem? he)).1
  | choice hs he hx =>
    exact hm.targetOf_mem (hm.mem_membersOf_iff.1 (List.mem_of_getElem? he)).1

theorem Part.distinct (hm : m.Sound) {p q : Spot} {step : Spot.Step} (h : m.Part p step q)
    (hd : p.value.Distinct) : q.value.Distinct := by
  cases h with
  | item hs he hx => exact Json.distinct_arr_iff.1 hd _ (List.mem_of_getElem? hx)
  | key hs he hf => exact Json.distinct_str _
  | value hs he hf => exact (Json.distinct_obj_iff.1 hd).2 _ (List.mem_of_getElem? hf)
  | member hs he hx =>
    cases hx with
    | given hx hnull => exact (Json.distinct_obj_iff.1 hd).2 _ hx
    | default habs hx =>
      exact (hm.tidy _ (hm.mem_membersOf_iff.1 (List.mem_of_getElem? he)).1).default _ hx
  | choice hs he hx => exact (Json.distinct_obj_iff.1 hd).2 _ hx

end Model

/-- The shape is one of the model, and the value gives each key once. -/
structure Spot.Proper (m : Model) (p : Spot) : Prop where
  /-- The shape. -/
  shape : p.shape ∈ m.shapes
  /-- The value. -/
  value : p.value.Distinct

/-- Parts of proper values are proper. -/
theorem Spot.Proper.part {m : Model} (hm : m.Sound) {p q : Spot} {step : Spot.Step}
    (hp : p.Proper m) (h : m.Part p step q) : q.Proper m :=
  ⟨h.shape_mem hm, h.distinct hm hp.value⟩

end Shapesmith
