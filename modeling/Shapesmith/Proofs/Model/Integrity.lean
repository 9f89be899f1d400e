import Shapesmith.Proofs.Constraint.Reach

/-!
# Assembled models are intact

Documents may declare shapes and members in any order and more than once. What they are put
together to has no gaps.

* `Model.Intact` : everything that a shape refers to is found, members are members, and the prelude
  is there unchanged;
* `Model.OwnsMembers` is kept by adding declarations of shapes: lists of members list members of
  their own shape, and each member is listed;
* `Model.Paired` : members and lists of members are in bijection, as long as documents declare
  shapes only and not single members (`Document.DeclaresShapes`);
* `Model.assemble_intact` puts this together, and says what is reported when a reference leads
  nowhere.
-/

namespace Shapesmith

/-- The shape is an aggregate. -/
def Shape.isAggregate (s : Shape) : Bool :=
  match s.kind with
  | .struct _ | .union _ | .list _ | .map _ _ => true
  | _ => false

theorem Shape.isAggregate_of_mem {s : Shape} {id : ShapeId} (h : id ∈ s.members) :
    s.isAggregate = true := by
  unfold members at h
  unfold isAggregate
  split at h <;> simp_all

/-- The document declares shapes, and members only as parts of shapes. -/
def Document.DeclaresShapes (d : Document) : Prop :=
  ∀ e ∈ d.shapes, ∀ id ∈ ShapeId.parse? e.1, id.member = none

instance (d : Document) : Decidable d.DeclaresShapes :=
  inferInstanceAs (Decidable (∀ e ∈ d.shapes, ∀ id ∈ ShapeId.parse? e.1, id.member = none))

theorem ShapeId.withoutMember_of_none {id : ShapeId} (h : id.member = none) :
    id.withoutMember = id := by
  rw [withoutMember, ← h]

theorem ShapeId.parse?_of_read {text : String} {id : ShapeId} (h : read text = .ok id) :
    parse? text = some id := by
  unfold read at h
  split at h
  · rename_i hparse
    cases h
    exact hparse
  · cases h

namespace Model

/-- The shapes that documents add to the prelude, whatever they refer to. -/
def merged (sources : List String) : Except Failure (List Shape) := do
  let shapes ← insertAll [] Model.prelude
  addSources shapes sources

theorem merged_eq_addSources (sources : List String) :
    merged sources = addSources bare.shapes sources := by
  rw [merged, insertAll_prelude]
  rfl

theorem assemble_eq_bind_close (sources : List String) :
    assemble sources = merged sources >>= close := by
  rw [assemble, merged, bind_assoc]

/-! ### References -/

variable {m : Model}

/-- Everything in a model that refers to a shape finds it. -/
structure Intact (m : Model) : Prop where
  /-- References. -/
  references : ∀ s ∈ m.shapes, ∀ id ∈ s.references, ∃ t ∈ m.shapes, m.find? id = some t ∧ t.id = id
  /-- The targets of members. -/
  targets : ∀ s ∈ m.shapes, ∀ id, s.target? = some id → m.find? id = some (m.targetOf s)
  /-- The members of aggregates: none of them is skipped. -/
  members : ∀ s ∈ m.shapes, (m.membersOf s).map (·.id) = s.members
  /-- Walks: nothing on the way is skipped. -/
  walks : ∀ s ∈ m.shapes, (m.walk s).map (·.id) =
    Graph.preorder (m.referencesFrom s) (m.searchSteps s) s.id
  /-- What is listed as a member is one. -/
  kinds : ∀ s ∈ m.shapes, ∀ id ∈ s.members, ∃ e, m.find? id = some e ∧ e.isMember = true
  /-- The prelude. -/
  prelude : ∀ s ∈ Model.prelude, m.find? s.id = some s

theorem Sound.referencesFrom_eq (hm : m.Sound) {root s : Shape} (hr : root ∈ m.shapes)
    (hs : s ∈ m.shapes) : m.referencesFrom root s.id = s.references := by
  rw [referencesFrom, findFrom_eq hm hr, hm.find?_id hs, Option.map_some, Option.getD_some]

/-- Whatever references lead to is found. -/
theorem Sound.exists_findFrom (hm : m.Sound) {root : Shape} (hr : root ∈ m.shapes) {id : ShapeId}
    (h : Relation.ReflTransGen (Graph.Edge (m.referencesFrom root)) root.id id) :
    ∃ s ∈ m.shapes, m.findFrom root id = some s ∧ s.id = id := by
  simp only [findFrom_eq hm hr]
  induction h with
  | refl => exact ⟨root, hr, hm.find?_id hr, rfl⟩
  | tail _ hstep ih =>
    obtain ⟨s, hs, -, rfl⟩ := ih
    rw [Graph.Edge, hm.referencesFrom_eq hr hs] at hstep
    exact hm.exists_find? hs hstep

/-- A walk skips nothing. -/
theorem Sound.map_id_walk (hm : m.Sound) {root : Shape} (hr : root ∈ m.shapes) :
    (m.walk root).map (·.id) =
      Graph.preorder (m.referencesFrom root) (m.searchSteps root) root.id := by
  refine map_id_filterMap fun id hid => ?_
  rcases Graph.reached_of_mem_visit hid with hid | ⟨w, hw, hreach⟩
  · cases hid
  · obtain rfl := List.mem_singleton.1 hw
    obtain ⟨s, -, hf, hs⟩ := hm.exists_findFrom hr hreach
    exact ⟨s, hf, hs⟩

theorem Sound.intact (hm : m.Sound) (hprelude : ∀ s ∈ Model.prelude, s ∈ m.shapes) :
    m.Intact where
  references _ hs _ hid := hm.exists_find? hs hid
  targets _ hs _ ht := hm.find?_target hs ht
  members _ hs := hm.map_id_membersOf hs
  walks _ hs := hm.map_id_walk hs
  kinds s hs id hid := by
    obtain ⟨e, he, hf, -⟩ := hm.find?_member hs hid
    exact ⟨e, hf, hm.isMember_of_mem hs he⟩
  prelude s hs := hm.find?_id (hprelude s hs)

/-! ### Members -/

/-- Lists of members list members of their own shape, and each member is listed. -/
structure OwnsMembers (shapes : List Shape) : Prop where
  /-- What a list of members lists. -/
  named : ∀ s ∈ shapes, ∀ id ∈ s.members, id.withoutMember = s.id
  /-- Each member is listed. -/
  listed : ∀ e ∈ shapes, e.isMember = true →
    ∃ s ∈ shapes, s.id = e.id.withoutMember ∧ e.id ∈ s.members

/-- The shapes of a declaration own their members, if it is the declaration of a shape. -/
theorem ownsMembers_of_shapes {id : ShapeId} (hid : id.member = none) {d : Declaration}
    {group : List Shape} (h : d.shapes id = .ok group) : OwnsMembers group := by
  obtain ⟨kind, declared, values, h, hlists, -⟩ := Declaration.exists_withMembers h
  simp only [Declaration.withMembers, Except.bind_eq_ok_iff, Except.pure_eq_ok_iff] at h
  obtain ⟨members, hmembers, traits, -, rfl⟩ := h
  have hids := Declaration.map_id_of_collect hmembers
  obtain ⟨hown, hkind⟩ := hlists traits _ hids
  have hmember {e : Shape} (he : e ∈ members) : e.isMember = true ∧ e.members = [] := by
    obtain ⟨_, -, hstep⟩ := exists_of_mem_collect hmembers he
    have := (Declaration.id_of_memberShape hstep).2
    exact ⟨this, Declaration.members_of_isMember this⟩
  constructor
  · intro s hs i hi
    -- the first of the shapes is the aggregate, the others are its members
    rcases List.mem_cons.1 hs with rfl | hs
    · rw [hown, hids] at hi
      obtain ⟨e, -, rfl⟩ := List.mem_map.1 hi
      rw [ShapeId.withoutMember_withMember, ShapeId.withoutMember_of_none hid]
    · rw [(hmember hs).2] at hi
      cases hi
  · intro e he hk
    rcases List.mem_cons.1 he with rfl | he
    · rw [hkind] at hk
      cases hk
    · have hlisted : e.id ∈ members.map (·.id) := List.mem_map_of_mem he
      refine ⟨_, List.mem_cons_self, ?_, by rwa [hown]⟩
      rw [hids] at hlisted
      obtain ⟨f, -, hf⟩ := List.mem_map.1 hlisted
      rw [← hf, ShapeId.withoutMember_withMember, ShapeId.withoutMember_of_none hid]

/-- Adding a group of shapes that own their members keeps this of all shapes. -/
theorem OwnsMembers.insertAll {shapes group out : List Shape} (ho : OwnsMembers shapes)
    (hg : OwnsMembers group) (h : Model.insertAll shapes group = .ok out) : OwnsMembers out := by
  obtain ⟨hnew, hold, hthere⟩ := of_insertAll h
  constructor
  · intro s hs
    rcases hnew s hs with hs | hs
    · exact ho.named s hs
    · exact hg.named s hs
  · intro e he hk
    rcases hnew e he with he | he
    · obtain ⟨s, hs, hid, hlisted⟩ := ho.listed e he hk
      exact ⟨s, hold s hs, hid, hlisted⟩
    -- an older shape may stand for the new one, with the same list of members
    · obtain ⟨s, hs, hid, hlisted⟩ := hg.listed e he hk
      obtain ⟨t, ht, htid, htkind⟩ := hthere s hs
      exact ⟨t, ht, htid.trans hid, by simpa only [Shape.members, htkind] using hlisted⟩

theorem ownsMembers_prelude : OwnsMembers Model.prelude := by
  have hnamed : ∀ s ∈ Model.prelude, ∀ id ∈ s.members, id.withoutMember = s.id := by decide
  have hlisted : ∀ e ∈ Model.prelude, e.isMember = true →
      ∃ s ∈ Model.prelude, s.id = e.id.withoutMember ∧ e.id ∈ s.members := by decide
  exact ⟨hnamed, hlisted⟩

/-- A member belongs to one aggregate, which lists it once, and no other shape lists it. -/
def Paired (m : Model) : Prop :=
  ∀ e ∈ m.shapes, e.isMember = true → ∃ s, m.find? e.id.withoutMember = some s ∧
    s.isAggregate = true ∧ s.members.count e.id = 1 ∧ ∀ t ∈ m.shapes, e.id ∈ t.members → t = s

theorem Sound.paired (hm : m.Sound) (ho : OwnsMembers m.shapes) : m.Paired := by
  intro e he hk
  obtain ⟨s, hs, hid, hlisted⟩ := ho.listed e he hk
  have hnodup : s.members.Nodup := List.Nodup.of_map _ (hm.tidy s hs).names
  refine ⟨s, hm.find?_eq_some_iff.2 ⟨hs, hid⟩, Shape.isAggregate_of_mem hlisted,
    List.count_eq_one_of_mem hnodup hlisted, fun t ht hlisted' => ?_⟩
  exact hm.eq_of_id_eq ht hs ((ho.named t ht _ hlisted').symm.trans hid.symm)

/-! ### Documents -/

variable {sources : List String} {shapes : List Shape}

/-- The prelude stays as it is, whatever is added. -/
theorem prelude_mem_of_merged (h : merged sources = .ok shapes) :
    ∀ s ∈ Model.prelude, s ∈ shapes := by
  obtain ⟨start, hstart, h⟩ := Except.bind_eq_ok_iff.1 h
  have hthere : ∀ s ∈ Model.prelude, s ∈ start := by
    rw [insertAll_prelude] at hstart
    cases hstart
    decide
  refine addSources_induct (P := fun shapes => ∀ s ∈ Model.prelude, s ∈ shapes) ?_ hthere h
  intro _ _ _ _ _ _ _ group shapes out _ _ hP hins s hs
  exact (of_insertAll hins).2.1 s (hP s hs)

/-- Shapes of documents that declare shapes own their members. -/
theorem ownsMembers_of_merged
    (hdocs : ∀ source ∈ sources, ∀ d, Document.ofText source = .ok d → d.DeclaresShapes)
    (h : merged sources = .ok shapes) : OwnsMembers shapes := by
  obtain ⟨start, hstart, h⟩ := Except.bind_eq_ok_iff.1 h
  have hnone : OwnsMembers [] := ⟨by simp, by simp⟩
  refine addSources_induct (P := OwnsMembers) ?_ (hnone.insertAll ownsMembers_prelude hstart) h
  intro source hs d hd e he id group shapes out hread hgroup hP hins
  have hid := hdocs source hs d hd e he id (ShapeId.parse?_of_read hread)
  exact hP.insertAll (ownsMembers_of_shapes hid hgroup) hins

/-- Shapes with a reference that leads nowhere are refused, with such a reference. -/
theorem exists_noShape_of_dangling {s : Shape} (hs : s ∈ shapes) {id : ShapeId}
    (hid : id ∈ s.references) (hnone : ∀ t ∈ shapes, t.id ≠ id) :
    ∃ missing, ∃ t ∈ shapes, close shapes = .error (.noShape missing t.id) ∧
      missing ∈ t.references ∧ ∀ u ∈ shapes, u.id ≠ missing := by
  have hdangling : (dangling? shapes s).isSome = true := by
    rw [dangling?, List.find?_isSome]
    exact ⟨id, hid, by simpa using hnone⟩
  unfold close
  split
  · rename_i hfirst
    obtain ⟨t, ht, hfirst⟩ := List.exists_of_findSome?_eq_some hfirst
    obtain ⟨id', hfound, heq⟩ := Option.map_eq_some_iff.1 hfirst
    obtain ⟨rfl, rfl⟩ := Prod.mk.inj heq
    rw [dangling?] at hfound
    exact ⟨_, t, ht, rfl, List.mem_of_find?_eq_some hfound,
      by simpa using List.find?_some hfound⟩
  · rename_i hnone
    have := List.findSome?_eq_none_iff.1 hnone s hs
    rw [Option.map_eq_none_iff] at this
    rw [this] at hdangling
    cases hdangling

/-- A model that is assembled is intact, and members are paired with lists of members if the
documents declare shapes. If a reference leads nowhere, one that does is reported. -/
theorem assemble_intact (sources : List String) :
    (∀ m, assemble sources = .ok m → m.Intact ∧
      ((∀ source ∈ sources, ∀ d, Document.ofText source = .ok d → d.DeclaresShapes) →
        m.Paired)) ∧
    ∀ shapes, merged sources = .ok shapes →
      (∃ s ∈ shapes, ∃ id ∈ s.references, ∀ t ∈ shapes, t.id ≠ id) →
        ∃ missing, ∃ s ∈ shapes, assemble sources = .error (.noShape missing s.id) ∧
          missing ∈ s.references ∧ ∀ t ∈ shapes, t.id ≠ missing := by
  constructor
  · intro m h
    have hm := sound_of_assembled ⟨sources, h⟩
    rw [assemble_eq_bind_close] at h
    obtain ⟨shapes, hmerged, hclose⟩ := Except.bind_eq_ok_iff.1 h
    obtain ⟨rfl, -⟩ := of_close hclose
    exact ⟨hm.intact (prelude_mem_of_merged hmerged),
      fun hdocs => hm.paired (ownsMembers_of_merged hdocs hmerged)⟩
  · rintro shapes hmerged ⟨s, hs, id, hid, hnone⟩
    rw [assemble_eq_bind_close, hmerged]
    exact exists_noShape_of_dangling hs hid hnone

/-- A document that declares trees, but not their leaves. -/
def treeSource : String := "[\"2\",\x7b" ++
  "\"a#Tree\":[\"structure\",\x7b\"left\":[\"a#Tree\"],\"leaf\":[\"a#Leaf\"]\x7d]\x7d]"

/-- A document that declares leaves, and trees once more. -/
def leafSource : String := "[\"2\",\x7b\"a#Leaf\":[\"string\"]," ++
  "\"a#Tree\":[\"structure\",\x7b\"left\":[\"a#Tree\"],\"leaf\":[\"a#Leaf\"]\x7d]\x7d]"

theorem assemble_intact_tree :
    (∃ m, assemble [treeSource, leafSource] = .ok m ∧ m.Intact ∧ m.Paired) ∧
    ∃ missing, ∃ s : Shape, assemble [treeSource] = .error (.noShape missing s.id) ∧
      missing ∈ s.references := by
  have htree : Document.ofText treeSource = Document.readList (Json.depthLimit - 1) _ :=
    Document.ofText_list (by
      delta treeSource
      rw [String.toList_append, String.toList_ofList, String.toList_ofList]
      rfl)
  have hleaf : Document.ofText leafSource = Document.readList (Json.depthLimit - 1) _ :=
    Document.ofText_list (by
      delta leafSource
      rw [String.toList_append, String.toList_ofList, String.toList_ofList]
      rfl)
  constructor
  · have hok : (assemble [treeSource, leafSource]).isOk = true := by
      rw [assemble_eq_bind_close, merged_eq_addSources]
      simp only [addSources, htree, hleaf]
      decide +kernel
    have hdocs : ∀ source ∈ [treeSource, leafSource],
        (Document.ofText source).map (fun d => decide d.DeclaresShapes) = .ok true := by
      rw [List.forall_mem_cons, List.forall_mem_singleton, htree, hleaf]
      decide +kernel
    cases h : assemble [treeSource, leafSource] with
    | error cause =>
      rw [h] at hok
      cases hok
    | ok m =>
      obtain ⟨hintact, hpaired⟩ := (assemble_intact _).1 m h
      refine ⟨m, rfl, hintact, hpaired fun source hs d hd => ?_⟩
      have hdecide := hdocs source hs
      rw [hd] at hdecide
      exact of_decide_eq_true (Except.ok.inj hdecide)
  · have hdangling : (merged [treeSource]).map (fun shapes => decide
        (∃ s ∈ shapes, ∃ id ∈ s.references, ∀ t ∈ shapes, t.id ≠ id)) = .ok true := by
      rw [merged_eq_addSources, addSources, htree]
      decide +kernel
    obtain ⟨shapes, hmerged, hdangling⟩ := Except.map_eq_ok_iff.1 hdangling
    obtain ⟨missing, s, -, he, hid, -⟩ :=
      (assemble_intact _).2 shapes hmerged (of_decide_eq_true hdangling)
    exact ⟨missing, s, he, hid⟩

end Model

end Shapesmith
