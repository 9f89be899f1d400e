import Shapesmith.Model.Assemble
import Shapesmith.Proofs.Model.Declared
import Shapesmith.Proofs.Model.Order

/-!
# What holds of every assembled model

`Model.Assembled` says that a model was put together from documents, and `Model.Sound` lists what
that guarantees: shapes in the order of their ids, each id once; members of aggregates that are
members and have distinct names; references that lead somewhere; defaults that give each key once.

* `Model.sound_of_assembled` : an assembled model is sound;
* `Model.find?_eq_some_iff`, `Model.mem_membersOf_iff`, `Model.targetOf_mem` : in a sound model,
  looking up finds exactly the shapes of the model;
* `Model.bare` is the model without documents, which is assembled (`Model.assembled_bare`).

Shapes come in groups, an aggregate with its members. `Model.insert` may keep an older shape instead
of a new one, but then both have the same kind, so the members of a group are found afterwards.
-/

namespace Shapesmith

/-- The members of the shape have distinct names, and its default gives each key once. -/
structure Shape.Tidy (s : Shape) : Prop where
  /-- The names of the members. -/
  names : (s.members.map ShapeId.lastName).Nodup
  /-- The default. -/
  default : ∀ d, s.traits.defaultValue = some d → d.Distinct

theorem Shape.isStruct_iff {s : Shape} : s.isStruct = true ↔ ∃ ids, s.kind = .struct ids := by
  unfold Shape.isStruct
  split <;> simp_all

theorem Shape.isUnion_iff {s : Shape} : s.isUnion = true ↔ ∃ ids, s.kind = .union ids := by
  unfold Shape.isUnion
  split <;> simp_all

theorem Shape.isMember_of_holder {s : Shape} (h : s.isStruct = true ∨ s.isUnion = true) :
    s.isMember = false := by
  rw [isStruct_iff, isUnion_iff] at h
  obtain ⟨ids, hk⟩ | ⟨ids, hk⟩ := h <;> simp [isMember, hk]

theorem Shape.isMember_iff {s : Shape} : s.isMember = true ↔ ∃ id, s.kind = .member id := by
  unfold Shape.isMember
  split <;> simp_all

/-- The shapes hold, as members, all members of their aggregates. -/
def HoldsMembers (shapes : List Shape) : Prop :=
  ∀ s ∈ shapes, ∀ id ∈ s.members, ∃ e ∈ shapes, e.id = id ∧ e.isMember = true

/-! ### Declared shapes -/

theorem Traits.exists_of_mem_read {owner : ShapeId} {entries : List (String × Json)}
    {traits : Traits} (h : Traits.read owner entries = .ok traits) {e : String × Trait}
    (he : e ∈ traits) : ∃ value, (e.1, value) ∈ entries ∧ Trait.read e.1 value = .ok e.2 := by
  suffices hgo : ∀ (rest : List (String × Json)) (done : Traits),
      (∀ x ∈ rest, x ∈ entries) →
      (∀ f ∈ done, ∃ value, (f.1, value) ∈ entries ∧ Trait.read f.1 value = .ok f.2) →
      Traits.read.go owner done rest = .ok traits →
      ∃ value, (e.1, value) ∈ entries ∧ Trait.read e.1 value = .ok e.2 from
    hgo entries [] (fun _ => id) (by simp) h
  intro rest
  induction rest with
  | nil =>
    intro done _ hdone h
    cases h
    exact hdone e he
  | cons x rest ih =>
    intro done hrest hdone h
    obtain ⟨id, value⟩ := x
    rw [Traits.read.go] at h
    split at h
    · cases h
    · rename_i t ht
      refine ih (done.put id t) (fun y hy => hrest y (List.mem_cons_of_mem _ hy)) ?_ h
      intro f hf
      rcases Table.mem_put hf with hf | rfl
      · exact hdone f hf
      · exact ⟨value, hrest _ List.mem_cons_self, ht⟩

namespace Declaration

theorem distinct_default_of_traitsOf {owner : ShapeId} {values : Table String Json}
    {traits : Traits} (hv : DistinctTraits values) (h : traitsOf owner values = .ok traits)
    {d : Json} (hd : traits.defaultValue = some d) : d.Distinct := by
  unfold traitsOf at h
  split at h
  · rename_i ts hread
    cases h
    unfold Traits.defaultValue at hd
    split at hd
    · cases hd
    · rename_i value _ hget
      obtain rfl := Option.some.inj hd
      obtain ⟨j, hj, hr⟩ := Traits.exists_of_mem_read hread (Table.mem_of_get? hget)
      change Except.ok (Trait.default j) = Except.ok (Trait.default value) at hr
      injection hr with hr
      injection hr with hr
      exact hr ▸ hv _ hj
    · cases hd
  · cases h

theorem id_of_memberShape {container : ShapeId} {declared : String × MemberDeclaration} {e : Shape}
    (h : memberShape container declared = .ok e) :
    e.id = container.withMember declared.1 ∧ e.isMember = true := by
  simp only [memberShape, Except.bind_eq_ok_iff, Except.pure_eq_ok_iff] at h
  obtain ⟨target, -, traits, -, rfl⟩ := h
  exact ⟨rfl, rfl⟩

theorem tidy_of_memberShape {container : ShapeId} {declared : String × MemberDeclaration}
    {e : Shape} (hd : DistinctTraits declared.2.traits)
    (h : memberShape container declared = .ok e) : e.Tidy := by
  simp only [memberShape, Except.bind_eq_ok_iff, Except.pure_eq_ok_iff] at h
  obtain ⟨target, -, traits, htraits, rfl⟩ := h
  exact ⟨by simp [Shape.members], fun _ => distinct_default_of_traitsOf hd htraits⟩

/-- The members of a shape have the ids of the shape with their names. -/
theorem map_id_of_collect {id : ShapeId} {declared : List (String × MemberDeclaration)}
    {members : List Shape} (h : collect (memberShape id) declared = .ok members) :
    members.map (·.id) = declared.map fun e => id.withMember e.1 := by
  have hall := collect_eq_ok_iff.1 h
  clear h
  induction hall with
  | nil => rfl
  | cons hab _ ih => rw [List.map_cons, List.map_cons, ih, (id_of_memberShape hab).1]

theorem members_of_isMember {e : Shape} (h : e.isMember = true) : e.members = [] := by
  obtain ⟨id, hk⟩ := Shape.isMember_iff.1 h
  rw [Shape.members, hk]

/-- The kind that a shape gets with its declared members lists them and is not the kind of a
member. -/
def Lists (id : ShapeId) (kind : List ShapeId → Kind)
    (declared : List (String × MemberDeclaration)) : Prop :=
  ∀ traits ids, ids = declared.map (fun e => id.withMember e.1) →
    let s : Shape := ⟨id, kind ids, traits⟩
    s.members = ids ∧ s.isMember = false

/-- The shapes of a declaration are a shape and the members that it lists. -/
theorem exists_withMembers {id : ShapeId} {d : Declaration} {group : List Shape}
    (h : d.shapes id = .ok group) : ∃ kind declared values,
      withMembers id kind declared values = .ok group ∧ Lists id kind declared ∧
        (d.Tidy → (Table.keys declared).Nodup ∧ (∀ e ∈ declared, DistinctTraits e.2.traits) ∧
          DistinctTraits values) := by
  cases d with
  | simple type traits =>
    rw [shapes] at h
    exact ⟨_, _, _, h, by simp [Lists, Shape.members, Shape.isMember],
      fun hd => ⟨by simp, by simp, hd⟩⟩
  | list member traits =>
    rw [shapes] at h
    exact ⟨_, _, _, h, by simp [Lists, Shape.members, Shape.isMember],
      fun hd => ⟨by simp, by simpa using hd.1, hd.2⟩⟩
  | map key value traits =>
    rw [shapes] at h
    exact ⟨_, _, _, h, by simp [Lists, Shape.members, Shape.isMember],
      fun hd => ⟨by simp, by simpa using ⟨hd.1, hd.2.1⟩, hd.2.2⟩⟩
  | struct members traits | union members traits =>
    rw [shapes] at h
    exact ⟨_, _, _, h, by simp [Lists, Shape.members, Shape.isMember],
      fun hd => ⟨hd.1.1, hd.1.2, hd.2⟩⟩
  | operation input output errors traits =>
    simp only [shapes, Except.bind_eq_ok_iff] at h
    obtain ⟨input', -, output', -, errors', -, h⟩ := h
    exact ⟨_, _, _, h, by simp [Lists, Shape.members, Shape.isMember],
      fun hd => ⟨by simp, by simp, hd⟩⟩
  | service version operations traits =>
    simp only [shapes, Except.bind_eq_ok_iff] at h
    obtain ⟨operations', -, h⟩ := h
    exact ⟨_, _, _, h, by simp [Lists, Shape.members, Shape.isMember],
      fun hd => ⟨by simp, by simp, hd⟩⟩

/-- The shapes of a declaration are tidy and hold their members. -/
theorem group_of_shapes {id : ShapeId} {d : Declaration} (hd : d.Tidy) {group : List Shape}
    (h : d.shapes id = .ok group) : (∀ s ∈ group, s.Tidy) ∧ HoldsMembers group := by
  obtain ⟨kind, declared, values, h, hlists, htidy⟩ := exists_withMembers h
  obtain ⟨hkeys, hdeclared, hvalues⟩ := htidy hd
  simp only [withMembers, Except.bind_eq_ok_iff, Except.pure_eq_ok_iff] at h
  obtain ⟨members, hmembers, traits, htraits, rfl⟩ := h
  have hids := map_id_of_collect hmembers
  obtain ⟨hown, -⟩ := hlists traits _ hids
  constructor
  · rintro s hs
    rcases List.mem_cons.1 hs with rfl | hs
    · refine ⟨?_, fun _ => distinct_default_of_traitsOf hvalues htraits⟩
      rw [hown, hids, List.map_map]
      exact hkeys
    · obtain ⟨e, he, hs⟩ := exists_of_mem_collect hmembers hs
      exact tidy_of_memberShape (hdeclared e he) hs
  -- only the aggregate has members, and they follow it in the group
  · intro s hs i hi
    rcases List.mem_cons.1 hs with rfl | hs
    · rw [hown, List.mem_map] at hi
      obtain ⟨e, he, rfl⟩ := hi
      obtain ⟨_, -, hstep⟩ := exists_of_mem_collect hmembers he
      exact ⟨e, List.mem_cons_of_mem _ he, rfl, (id_of_memberShape hstep).2⟩
    · obtain ⟨_, -, hstep⟩ := exists_of_mem_collect hmembers hs
      rw [members_of_isMember (id_of_memberShape hstep).2] at hi
      cases hi

end Declaration

namespace Model

/-! ### Adding shapes -/

/-- The shapes stand in the order of their ids, each id once. -/
def Sorted (shapes : List Shape) : Prop :=
  shapes.Pairwise fun a b => a.id.compare b.id = .lt

/-- What comes of adding a shape: nothing else is new, nothing is lost, and a shape with the same id
and kind is there. -/
theorem of_insert {shapes out : List Shape} {s : Shape} (h : insert shapes s = .ok out) :
    (∀ t ∈ out, t ∈ shapes ∨ t = s) ∧ (∀ t ∈ shapes, t ∈ out) ∧
      ∃ t ∈ out, t.id = s.id ∧ t.kind = s.kind := by
  induction shapes generalizing out with
  | nil =>
    cases h
    simp
  | cons u rest ih =>
    rw [insert] at h
    split at h
    · cases h
      refine ⟨fun t ht => ?_, fun t ht => List.mem_cons_of_mem _ ht, s, List.mem_cons_self, rfl,
        rfl⟩
      rcases List.mem_cons.1 ht with rfl | ht
      · exact .inr rfl
      · exact .inl ht
    · split at h
      · -- the older shape stays, with its kind
        rename_i hsame
        cases h
        simp only [Shape.same, Bool.and_eq_true, decide_eq_true_eq] at hsame
        exact ⟨fun t ht => .inl ht, fun t ht => ht, u, List.mem_cons_self, hsame.1.1, hsame.1.2⟩
      · cases h
    · obtain ⟨out', hout', rfl⟩ := Except.map_eq_ok_iff.1 h
      obtain ⟨hnew, hold, t, ht, hid, hkind⟩ := ih hout'
      refine ⟨fun v hv => ?_, fun v hv => ?_, t, List.mem_cons_of_mem _ ht, hid, hkind⟩
      · rcases List.mem_cons.1 hv with rfl | hv
        · exact .inl List.mem_cons_self
        · exact (hnew v hv).imp_left (List.mem_cons_of_mem _)
      · rcases List.mem_cons.1 hv with rfl | hv
        · exact List.mem_cons_self
        · exact List.mem_cons_of_mem _ (hold v hv)

theorem sorted_insert {shapes out : List Shape} {s : Shape} (hs : Sorted shapes)
    (h : insert shapes s = .ok out) : Sorted out := by
  induction shapes generalizing out with
  | nil =>
    cases h
    exact List.pairwise_singleton _ _
  | cons u rest ih =>
    have hcons := List.pairwise_cons.1 hs
    rw [insert] at h
    split at h
    · rename_i hlt
      cases h
      refine List.pairwise_cons.2 ⟨fun t ht => ?_, hs⟩
      rcases List.mem_cons.1 ht with rfl | ht
      · exact hlt
      · exact ShapeId.compare_trans hlt (hcons.1 t ht)
    · split at h
      · cases h
        exact hs
      · cases h
    · rename_i hgt
      obtain ⟨out', hout', rfl⟩ := Except.map_eq_ok_iff.1 h
      refine List.pairwise_cons.2 ⟨fun t ht => ?_, ih hcons.2 hout'⟩
      rcases (of_insert hout').1 t ht with ht | rfl
      · exact hcons.1 t ht
      · rw [ShapeId.compare_swap, hgt]
        rfl

theorem Sorted.nodup_ids {shapes : List Shape} (h : Sorted shapes) :
    (shapes.map (·.id)).Nodup := by
  refine List.pairwise_map.2 (h.imp fun {a b} hlt heq => ?_)
  rw [heq, ShapeId.compare_self] at hlt
  cases hlt

theorem Sorted.eq_of_id_eq {shapes : List Shape} (h : Sorted shapes) {s t : Shape}
    (hs : s ∈ shapes) (ht : t ∈ shapes) (hid : s.id = t.id) : s = t :=
  List.inj_on_of_nodup_map h.nodup_ids hs ht hid

theorem of_insertAll {shapes group out : List Shape} (h : insertAll shapes group = .ok out) :
    (∀ t ∈ out, t ∈ shapes ∨ t ∈ group) ∧ (∀ t ∈ shapes, t ∈ out) ∧
      ∀ s ∈ group, ∃ t ∈ out, t.id = s.id ∧ t.kind = s.kind := by
  induction group generalizing shapes with
  | nil =>
    cases h
    simp
  | cons s group ih =>
    obtain ⟨shapes', hs, hrest⟩ := Except.bind_eq_ok_iff.1 h
    obtain ⟨hnew, hold, u, hu, hid, hkind⟩ := of_insert hs
    obtain ⟨hnew', hold', hthere⟩ := ih hrest
    refine ⟨fun t ht => ?_, fun t ht => hold' t (hold t ht), fun t ht => ?_⟩
    · rcases hnew' t ht with ht | ht
      · rcases hnew t ht with ht | rfl
        · exact .inl ht
        · exact .inr List.mem_cons_self
      · exact .inr (List.mem_cons_of_mem _ ht)
    · rcases List.mem_cons.1 ht with rfl | ht
      · exact ⟨u, hold' u hu, hid, hkind⟩
      · exact hthere t ht

theorem sorted_insertAll {shapes group out : List Shape} (hs : Sorted shapes)
    (h : insertAll shapes group = .ok out) : Sorted out := by
  induction group generalizing shapes with
  | nil =>
    cases h
    exact hs
  | cons s group ih =>
    obtain ⟨shapes', hins, hrest⟩ := Except.bind_eq_ok_iff.1 h
    exact ih (sorted_insert hs hins) hrest

/-- Shapes that stand in order, are tidy and hold their members. -/
structure Orderly (shapes : List Shape) : Prop where
  /-- The order. -/
  sorted : Sorted shapes
  /-- Each shape by itself. -/
  tidy : ∀ s ∈ shapes, s.Tidy
  /-- The members. -/
  members : HoldsMembers shapes

theorem orderly_nil : Orderly [] := ⟨List.Pairwise.nil, by simp, by simp [HoldsMembers]⟩

/-- Adding a group of tidy shapes that holds its members keeps shapes orderly. -/
theorem Orderly.insertAll {shapes group out : List Shape} (ho : Orderly shapes)
    (hg : (∀ s ∈ group, s.Tidy) ∧ HoldsMembers group)
    (h : Model.insertAll shapes group = .ok out) : Orderly out := by
  obtain ⟨hnew, hold, hthere⟩ := of_insertAll h
  refine ⟨sorted_insertAll ho.sorted h, fun s hs => ?_, fun s hs id hid => ?_⟩
  · rcases hnew s hs with hs | hs
    · exact ho.tidy s hs
    · exact hg.1 s hs
  · rcases hnew s hs with hs | hs
    · obtain ⟨e, he, heq, hmem⟩ := ho.members s hs id hid
      exact ⟨e, hold e he, heq, hmem⟩
    · obtain ⟨e, he, heq, hmem⟩ := hg.2 s hs id hid
      obtain ⟨t, ht, htid, htkind⟩ := hthere e he
      exact ⟨t, ht, htid.trans heq, by simpa only [Shape.isMember, htkind] using hmem⟩

/-- What is kept by adding the shapes of each declaration is kept by adding all of them. -/
theorem addDeclarations_induct {P : List Shape → Prop} {declared : List (String × Declaration)}
    (hadd : ∀ e ∈ declared, ∀ id group shapes out, ShapeId.read e.1 = .ok id →
      e.2.shapes id = .ok group → P shapes → insertAll shapes group = .ok out → P out)
    {shapes out : List Shape} (hP : P shapes) (h : addDeclarations shapes declared = .ok out) :
    P out := by
  induction declared generalizing shapes with
  | nil =>
    cases h
    exact hP
  | cons e declared ih =>
    simp only [addDeclarations, Except.bind_eq_ok_iff] at h
    obtain ⟨id, hid, group, hgroup, shapes', hins, hrest⟩ := h
    have hP' := hadd e List.mem_cons_self id group shapes shapes' hid hgroup hP hins
    exact ih (fun f hf => hadd f (List.mem_cons_of_mem _ hf)) hP' hrest

/-- What is kept by adding the shapes of each declaration is kept by adding documents. -/
theorem addSources_induct {P : List Shape → Prop} {sources : List String}
    (hadd : ∀ source ∈ sources, ∀ d, Document.ofText source = .ok d → ∀ e ∈ d.shapes,
      ∀ id group shapes out, ShapeId.read e.1 = .ok id → e.2.shapes id = .ok group → P shapes →
        insertAll shapes group = .ok out → P out)
    {shapes out : List Shape} (hP : P shapes) (h : addSources shapes sources = .ok out) :
    P out := by
  induction sources generalizing shapes with
  | nil =>
    cases h
    exact hP
  | cons source sources ih =>
    simp only [addSources, Except.bind_eq_ok_iff] at h
    obtain ⟨d, hread, shapes', hsource, hrest⟩ := h
    split at hread
    · rename_i hd
      cases hread
      have hP' := addDeclarations_induct (hadd source List.mem_cons_self _ hd) hP hsource
      exact ih (fun t ht => hadd t (List.mem_cons_of_mem _ ht)) hP' hrest
    · cases hread

theorem Orderly.addSources {sources : List String} {shapes out : List Shape} (ho : Orderly shapes)
    (h : Model.addSources shapes sources = .ok out) : Orderly out := by
  refine addSources_induct (P := Orderly) ?_ ho h
  intro source _ d hd e he id group shapes out _ hgroup ho hins
  exact ho.insertAll (Declaration.group_of_shapes (Document.tidy_of_ofText hd e he) hgroup) hins

theorem prelude_group : (∀ s ∈ Model.prelude, s.Tidy) ∧ HoldsMembers Model.prelude := by
  have hnames : ∀ s ∈ Model.prelude, (s.members.map ShapeId.lastName).Nodup := by decide
  have hdefault : ∀ s ∈ Model.prelude, s.traits.defaultValue = none := by decide
  have hmembers : ∀ s ∈ Model.prelude, ∀ id ∈ s.members,
      ∃ e ∈ Model.prelude, e.id = id ∧ e.isMember = true := by decide
  exact ⟨fun s hs => ⟨hnames s hs, by simp [hdefault s hs]⟩, hmembers⟩

/-! ### Sound models -/

variable {m : Model}

/-- What an assembled model guarantees. -/
structure Sound (m : Model) : Prop extends Orderly m.shapes where
  /-- Every reference leads to a shape. -/
  closed : ∀ s ∈ m.shapes, ∀ id ∈ s.references, ∃ t ∈ m.shapes, t.id = id

/-- The model was put together from documents. -/
def Assembled (m : Model) : Prop := ∃ sources, assemble sources = .ok m

theorem of_close {shapes : List Shape} (h : close shapes = .ok m) :
    m.shapes = shapes ∧ ∀ s ∈ shapes, ∀ id ∈ s.references, ∃ t ∈ shapes, t.id = id := by
  unfold close at h
  split at h
  · cases h
  · rename_i hnone
    cases h
    refine ⟨rfl, fun s hs id hid => ?_⟩
    rw [List.findSome?_eq_none_iff] at hnone
    have hs := hnone s hs
    rw [Option.map_eq_none_iff, dangling?, List.find?_eq_none] at hs
    simpa using hs id hid

/-- Shapes make up a model exactly when their references lead to shapes. -/
theorem close_eq_ok_iff {shapes : List Shape} : close shapes = .ok m ↔
    m.shapes = shapes ∧ ∀ s ∈ shapes, ∀ id ∈ s.references, ∃ t ∈ shapes, t.id = id := by
  refine ⟨of_close, ?_⟩
  rintro ⟨rfl, hclosed⟩
  have hnone :
      (m.shapes.findSome? fun s => (dangling? m.shapes s).map fun id => (id, s.id)) = none := by
    rw [List.findSome?_eq_none_iff]
    intro s hs
    rw [Option.map_eq_none_iff, dangling?, List.find?_eq_none]
    intro id hid
    simpa using hclosed s hs id hid
  rw [close, hnone]

/-- An assembled model is sound. -/
theorem sound_of_assembled (h : m.Assembled) : m.Sound := by
  obtain ⟨sources, h⟩ := h
  simp only [assemble, Except.bind_eq_ok_iff] at h
  obtain ⟨start, hstart, shapes, hshapes, hclose⟩ := h
  obtain ⟨hm, hclosed⟩ := of_close hclose
  have ho := (orderly_nil.insertAll prelude_group hstart).addSources hshapes
  rw [← hm] at ho hclosed
  exact ⟨ho, hclosed⟩

/-! ### Looking up -/

/-- Nothing is lost when all of some ids are found. -/
theorem map_id_filterMap {find : ShapeId → Option Shape} {ids : List ShapeId}
    (h : ∀ id ∈ ids, ∃ s, find id = some s ∧ s.id = id) :
    (ids.filterMap find).map (·.id) = ids := by
  have hfound : ∀ id ∈ ids, (find id).map (·.id) = some id := by
    intro id hid
    obtain ⟨s, hf, hs⟩ := h id hid
    rw [hf, Option.map_some, hs]
  rw [List.map_filterMap, List.filterMap_congr hfound, List.filterMap_some]

namespace Sound

theorem eq_of_id_eq (hm : m.Sound) {s t : Shape} (hs : s ∈ m.shapes) (ht : t ∈ m.shapes)
    (h : s.id = t.id) : s = t :=
  hm.sorted.eq_of_id_eq hs ht h

/-- Looking an id up finds the shape that has it. -/
theorem find?_eq_some_iff (hm : m.Sound) {id : ShapeId} {s : Shape} :
    m.find? id = some s ↔ s ∈ m.shapes ∧ s.id = id := by
  constructor
  · intro h
    exact ⟨List.mem_of_find?_eq_some h, by simpa using List.find?_some h⟩
  · rintro ⟨hs, rfl⟩
    cases hf : m.find? s.id with
    | none =>
      have := List.find?_eq_none.1 hf s hs
      simp at this
    | some t =>
      have ht := List.mem_of_find?_eq_some hf
      have hid : t.id = s.id := by simpa using List.find?_some hf
      rw [hm.eq_of_id_eq ht hs hid]

theorem find?_id (hm : m.Sound) {s : Shape} (hs : s ∈ m.shapes) : m.find? s.id = some s :=
  hm.find?_eq_some_iff.2 ⟨hs, rfl⟩

/-- Every reference is found. -/
theorem exists_find? (hm : m.Sound) {s : Shape} (hs : s ∈ m.shapes) {id : ShapeId}
    (hid : id ∈ s.references) : ∃ t ∈ m.shapes, m.find? id = some t ∧ t.id = id := by
  obtain ⟨t, ht, rfl⟩ := hm.closed s hs id hid
  exact ⟨t, ht, hm.find?_id ht, rfl⟩

theorem mem_membersOf_iff (hm : m.Sound) {s e : Shape} :
    e ∈ m.membersOf s ↔ e ∈ m.shapes ∧ e.id ∈ s.members := by
  rw [membersOf, List.mem_filterMap]
  constructor
  · rintro ⟨id, hid, hf⟩
    obtain ⟨he, rfl⟩ := hm.find?_eq_some_iff.1 hf
    exact ⟨he, hid⟩
  · rintro ⟨he, hid⟩
    exact ⟨e.id, hid, hm.find?_id he⟩

/-- The members of a shape of the model are members. -/
theorem isMember_of_mem (hm : m.Sound) {s e : Shape} (hs : s ∈ m.shapes)
    (he : e ∈ m.membersOf s) : e.isMember = true := by
  obtain ⟨hmem, hid⟩ := hm.mem_membersOf_iff.1 he
  obtain ⟨e', he', heq, hmember⟩ := hm.members s hs e.id hid
  rwa [hm.eq_of_id_eq he' hmem heq] at hmember

theorem find?_member (hm : m.Sound) {s : Shape} (hs : s ∈ m.shapes) {id : ShapeId}
    (hid : id ∈ s.members) : ∃ e ∈ m.membersOf s, m.find? id = some e ∧ e.id = id := by
  obtain ⟨e, he, rfl, -⟩ := hm.members s hs id hid
  exact ⟨e, hm.mem_membersOf_iff.2 ⟨he, hid⟩, hm.find?_id he, rfl⟩

/-- All members of a shape of the model are found, in their order. -/
theorem map_id_membersOf (hm : m.Sound) {s : Shape} (hs : s ∈ m.shapes) :
    (m.membersOf s).map (·.id) = s.members := by
  refine map_id_filterMap fun id hid => ?_
  obtain ⟨e, -, hf, hid⟩ := hm.find?_member hs hid
  exact ⟨e, hf, hid⟩

/-- The members of a shape of the model have distinct names. -/
theorem nodup_memberNames (hm : m.Sound) {s : Shape} (hs : s ∈ m.shapes) :
    ((m.membersOf s).map Shape.memberName).Nodup := by
  have h := (hm.tidy s hs).names
  rwa [← hm.map_id_membersOf hs, List.map_map] at h

/-- Following a member stays in the model. -/
theorem targetOf_mem (hm : m.Sound) {s : Shape} (hs : s ∈ m.shapes) :
    m.targetOf s ∈ m.shapes := by
  unfold targetOf
  cases ht : s.target?.bind m.find? with
  | none => exact hs
  | some t =>
    obtain ⟨id, -, hf⟩ := Option.bind_eq_some_iff.1 ht
    exact (hm.find?_eq_some_iff.1 hf).1

/-- The shape that a member of the model points at is found. -/
theorem find?_target (hm : m.Sound) {s : Shape} (hs : s ∈ m.shapes) {id : ShapeId}
    (h : s.target? = some id) : m.find? id = some (m.targetOf s) := by
  have hid : id ∈ s.references := by
    unfold Shape.target? at h
    unfold Shape.references
    split at h <;> simp_all
  obtain ⟨t, -, hf, -⟩ := hm.exists_find? hs hid
  rw [targetOf, h, Option.bind_some, hf, Option.getD_some]

theorem find?_of_member (hm : m.Sound) {s : Shape} (hs : s ∈ m.shapes) {id : ShapeId}
    (hk : s.kind = .member id) : m.find? id = some (m.targetOf s) :=
  hm.find?_target hs (by rw [Shape.target?, hk])

theorem find?_item (hm : m.Sound) {s : Shape} (hs : s ∈ m.shapes) {id : ShapeId}
    (hk : s.kind = .list id) : ∃ e ∈ m.membersOf s, m.find? id = some e := by
  have hid : id ∈ s.members := by simp [Shape.members, hk]
  obtain ⟨e, he, hf, -⟩ := hm.find?_member hs hid
  exact ⟨e, he, hf⟩

theorem find?_entry (hm : m.Sound) {s : Shape} (hs : s ∈ m.shapes) {k w : ShapeId}
    (hk : s.kind = .map k w) : (∃ e ∈ m.membersOf s, m.find? k = some e) ∧
      ∃ e ∈ m.membersOf s, m.find? w = some e := by
  have hid : k ∈ s.members ∧ w ∈ s.members := by simp [Shape.members, hk]
  obtain ⟨e, he, hf, -⟩ := hm.find?_member hs hid.1
  obtain ⟨e', he', hf', -⟩ := hm.find?_member hs hid.2
  exact ⟨⟨e, he, hf⟩, e', he', hf'⟩

end Sound

/-- A shape other than a member is its own target. -/
theorem targetOf_of_not_isMember {s : Shape} (h : s.isMember = false) : m.targetOf s = s := by
  have : s.target? = none := by
    unfold Shape.isMember at h
    unfold Shape.target?
    split at h <;> simp_all
  rw [targetOf, this, Option.bind_none, Option.getD_none]

theorem targetOf_of_holder {s : Shape} (h : s.isStruct = true ∨ s.isUnion = true) :
    m.targetOf s = s :=
  targetOf_of_not_isMember (Shape.isMember_of_holder h)

end Model

/-! ### The smallest model -/

/-- The exception of the prelude. -/
def Prelude.exceptionShape : Shape :=
  ⟨validationExceptionId,
    .struct [validationExceptionId.withMember "message",
      validationExceptionId.withMember "fieldList"],
    [(Trait.errorId, .error .client)]⟩

open Prelude in
/-- The model without documents. -/
def Model.bare : Model := ⟨[
  simple "Blob" .blob, simple "Boolean" .boolean, simple "Byte" .byte,
  simple "Document" .document, simple "Double" .double, simple "Float" .float,
  simple "Integer" .integer, simple "Long" .long, simple "Short" .short,
  simple "String" .string, simple "Timestamp" .timestamp,
  ⟨unitId, .struct [], [("smithy.api#unitType", .other (.obj []))]⟩,
  exceptionShape,
  member validationExceptionId "fieldList" fieldListId [],
  member validationExceptionId "message" stringId required,
  ⟨fieldId, .struct [fieldId.withMember "path", fieldId.withMember "message"], []⟩,
  member fieldId "message" stringId required,
  member fieldId "path" stringId required,
  ⟨fieldListId, .list (fieldListId.withMember "member"), []⟩,
  member fieldListId "member" fieldId []]⟩

/-- A document in the short form is what its list is read as. A long text is read with this lemma,
because the evaluation of `String.toList` takes quadratic time. -/
theorem Document.ofText_list {source : String} {text : List Char}
    (h : source.toList = '[' :: text) : ofText source = readList (Json.depthLimit - 1) text := by
  rw [ofText, h]
  rfl

namespace Model

theorem insertAll_prelude : insertAll [] Model.prelude = .ok bare.shapes := by decide +kernel

/-- What documents add to the prelude is assembled to a model, if its references are closed. -/
theorem assemble_of_addSources {sources : List String} {shapes : List Shape}
    (h : addSources bare.shapes sources = .ok shapes)
    (hclosed : ∀ s ∈ shapes, dangling? shapes s = none) : assemble sources = .ok ⟨shapes⟩ := by
  have hnone :
      (shapes.findSome? fun s => (dangling? shapes s).map fun id => (id, s.id)) = none := by
    rw [List.findSome?_eq_none_iff]
    intro s hs
    rw [hclosed s hs, Option.map_none]
  rw [assemble, insertAll_prelude]
  change (addSources bare.shapes sources >>= close) = _
  rw [h]
  change close shapes = _
  rw [close, hnone]

/-- One document is assembled to a model. -/
theorem assemble_of_ofText {source : String} {shapes : List Shape}
    (hread : (Document.ofText source).map (fun d => addDeclarations bare.shapes d.shapes) =
      .ok (.ok shapes))
    (hclosed : ∀ s ∈ shapes, dangling? shapes s = none) : assemble [source] = .ok ⟨shapes⟩ := by
  obtain ⟨d, hd, hadd⟩ := Except.map_eq_ok_iff.1 hread
  have hsources : addSources bare.shapes [source] = .ok shapes := by
    rw [addSources, hd, Except.bind_eq_ok_iff]
    exact ⟨d, rfl, Except.bind_eq_ok_iff.2 ⟨shapes, hadd, rfl⟩⟩
  exact assemble_of_addSources hsources hclosed

/-- A model is assembled from one document in the short form. -/
theorem assembled_of_list (source : String) {text : List Char} {shapes : List Shape}
    (htext : source.toList = '[' :: text)
    (hread : (Document.readList (Json.depthLimit - 1) text).map
      (fun d => addDeclarations bare.shapes d.shapes) = .ok (.ok shapes))
    (hclosed : ∀ s ∈ shapes, dangling? shapes s = none) : (⟨shapes⟩ : Model).Assembled :=
  ⟨[source], assemble_of_ofText (by rw [Document.ofText_list htext, hread]) hclosed⟩

theorem assembled_bare : bare.Assembled := by
  have hsources : addSources bare.shapes [] = .ok bare.shapes := rfl
  exact ⟨[], assemble_of_addSources hsources (by decide)⟩

end Model

end Shapesmith
