import Shapesmith.Proofs.Model.Traversal

/-!
# The search for constraints is exact

The search for a constrained shape goes through members and their targets, keeps one set of shapes
for all branches and gives up where it has been before. Its verdict is nevertheless whether such a
shape can be reached.

* `Model.parts` are the targets of the members of a shape, `Model.Sound.exists_search_parts` a
  search through them;
* `Model.Shuffled` : models that differ in the order of members only;
* `Model.reachesConstrained_iff_walk` : where members lead to aggregates and simple shapes only, a
  walk comes to a constrained shape exactly when the search finds one;
* `Model.reachesConstrained_exact` : the verdict of the recursive search, what it means, and what it
  does not depend on.
-/

namespace Shapesmith

open Relation

/-- The shape is an operation or a service. -/
def Shape.isInterface (s : Shape) : Bool :=
  match s.kind with
  | .operation _ _ _ | .service _ _ => true
  | _ => false

/-! ### The order of members -/

/-- The kinds are equal up to the order of the members of a structure or union. -/
inductive Kind.Shuffled : Kind → Kind → Prop
  /-- Equal kinds. -/
  | refl (k : Kind) : Shuffled k k
  /-- Structures with the same members. -/
  | struct {ids ids' : List ShapeId} (h : ids.Perm ids') : Shuffled (.struct ids) (.struct ids')
  /-- Unions with the same members. -/
  | union {ids ids' : List ShapeId} (h : ids.Perm ids') : Shuffled (.union ids) (.union ids')

/-- The shapes are equal up to the order of their members. -/
structure Shape.Shuffled (s t : Shape) : Prop where
  /-- The ids. -/
  id : s.id = t.id
  /-- The kinds. -/
  kind : s.kind.Shuffled t.kind
  /-- The traits. -/
  traits : s.traits = t.traits

theorem Kind.Shuffled.symm {k k' : Kind} (h : k.Shuffled k') : k'.Shuffled k := by
  cases h with
  | refl => exact .refl k
  | struct h => exact .struct h.symm
  | union h => exact .union h.symm

theorem Shape.Shuffled.symm {s t : Shape} (h : s.Shuffled t) : t.Shuffled s :=
  ⟨h.id.symm, h.kind.symm, h.traits.symm⟩

theorem Shape.Shuffled.members_subset {s t : Shape} (h : s.Shuffled t) :
    s.members ⊆ t.members := by
  obtain ⟨-, hkind, -⟩ := h
  unfold Shape.members
  generalize s.kind = k at hkind
  generalize t.kind = k' at hkind
  cases hkind with
  | refl => exact List.Subset.refl _
  | struct h | union h => exact h.subset

theorem Shape.Shuffled.target?_eq {s t : Shape} (h : s.Shuffled t) : s.target? = t.target? := by
  obtain ⟨-, hkind, -⟩ := h
  unfold Shape.target?
  generalize s.kind = k at hkind
  generalize t.kind = k' at hkind
  cases hkind <;> rfl

theorem Shape.Shuffled.mustBeGiven_eq {s t : Shape} (h : s.Shuffled t) :
    s.mustBeGiven = t.mustBeGiven := by
  rw [mustBeGiven, mustBeGiven, h.traits]

namespace Model

variable {m n : Model} {s t e : Shape}

/-- The models are equal up to the order of members. -/
def Shuffled (m n : Model) : Prop := List.Forall₂ Shape.Shuffled m.shapes n.shapes

namespace Shuffled

theorem symm (h : m.Shuffled n) : n.Shuffled m := List.Forall₂.flip (h.imp fun _ _ h => h.symm)

/-- A shape has its counterpart under its id. -/
theorem exists_shape (h : m.Shuffled n) (hs : s ∈ m.shapes) : ∃ t ∈ n.shapes, s.Shuffled t := by
  obtain ⟨i, hi, rfl⟩ := List.getElem_of_mem hs
  have hi' : i < n.shapes.length := h.length_eq ▸ hi
  exact ⟨n.shapes[i], List.getElem_mem hi', h.get hi hi'⟩

theorem shape (h : m.Shuffled n) (hn : n.Sound) (hs : s ∈ m.shapes) (ht : t ∈ n.shapes)
    (hid : s.id = t.id) : s.Shuffled t := by
  obtain ⟨t', ht', hst⟩ := h.exists_shape hs
  obtain rfl := hn.eq_of_id_eq ht' ht (hst.id.symm.trans hid)
  exact hst

/-- Members of counterparts are counterparts. -/
theorem exists_member (h : m.Shuffled n) (hm : m.Sound) (hn : n.Sound) (hst : s.Shuffled t)
    (he : e ∈ m.membersOf s) : ∃ e' ∈ n.membersOf t, e.Shuffled e' := by
  obtain ⟨hmem, hid⟩ := hm.mem_membersOf_iff.1 he
  obtain ⟨e', he', hee⟩ := h.exists_shape hmem
  exact ⟨e', hn.mem_membersOf_iff.2 ⟨he', hee.id ▸ hst.members_subset hid⟩, hee⟩

/-- Targets of counterparts are counterparts. -/
theorem targetOf (h : m.Shuffled n) (hm : m.Sound) (hn : n.Sound) (hs : s ∈ m.shapes)
    (ht : t ∈ n.shapes) (hst : s.Shuffled t) : (m.targetOf s).Shuffled (n.targetOf t) := by
  cases htarget : s.target? with
  | none =>
    rw [Model.targetOf, Model.targetOf, ← hst.target?_eq, htarget]
    exact hst
  | some id =>
    have hfound := hm.find?_target hs htarget
    have hfound' := hn.find?_target ht (hst.target?_eq ▸ htarget)
    exact h.shape hn (hm.targetOf_mem hs) (hn.targetOf_mem ht)
      ((hm.find?_eq_some_iff.1 hfound).2.trans (hn.find?_eq_some_iff.1 hfound').2.symm)

theorem isConstrained (h : m.Shuffled n) (hm : m.Sound) (hn : n.Sound) (hs : s ∈ m.shapes)
    (ht : t ∈ n.shapes) (hst : s.Shuffled t) (hc : m.isConstrained s = true) :
    n.isConstrained t = true := by
  have hu := h.targetOf hm hn hs ht hst
  have hmembers : (m.membersOf (m.targetOf s)).any Shape.mustBeGiven = true →
      (n.membersOf (n.targetOf t)).any Shape.mustBeGiven = true := by
    simp only [List.any_eq_true]
    rintro ⟨e, he, hgiven⟩
    obtain ⟨e', he', hee⟩ := h.exists_member hm hn hu he
    exact ⟨e', he', hee.mustBeGiven_eq ▸ hgiven⟩
  rw [Model.isConstrained] at hc ⊢
  -- of the kind only the members of a structure can be in another order
  obtain ⟨-, hkind, htraits⟩ := hu
  generalize (m.targetOf s).kind = k at hkind hc
  generalize hk' : (n.targetOf t).kind = k' at hkind ⊢
  cases hkind with
  | refl =>
    rw [← htraits]
    cases k with
    | struct ids => exact hmembers hc
    | simple type => cases type <;> exact hc
    | _ => exact hc
  | struct _ => exact hmembers hc
  | union _ => cases hc

theorem canBreak (h : m.Shuffled n) (hm : m.Sound) (hn : n.Sound) (hs : s ∈ m.shapes)
    (ht : t ∈ n.shapes) (hst : s.Shuffled t) (hbreak : m.CanBreak s) : n.CanBreak t := by
  obtain ⟨u, hu, hc⟩ := hbreak
  -- the way to the constrained shape is one through counterparts
  have hway : ∃ v, ReflTransGen n.HasPart (n.targetOf t) v ∧ v ∈ n.shapes ∧ u.Shuffled v := by
    clear hc
    induction hu with
    | refl => exact ⟨_, .refl, hn.targetOf_mem ht, h.targetOf hm hn hs ht hst⟩
    | tail _ hstep ih =>
      obtain ⟨v, hv, hvmem, huv⟩ := ih
      obtain ⟨e, he, rfl⟩ := hstep
      obtain ⟨e', he', hee⟩ := h.exists_member hm hn huv he
      have hemem := (hm.mem_membersOf_iff.1 he).1
      have hemem' := (hn.mem_membersOf_iff.1 he').1
      exact ⟨_, hv.tail ⟨e', he', rfl⟩, hn.targetOf_mem hemem', h.targetOf hm hn hemem hemem' hee⟩
  obtain ⟨v, hv, hvmem, huv⟩ := hway
  have humem := mem_of_reflTransGen (fun h => HasPart.mem hm h) (hm.targetOf_mem hs) hu
  exact ⟨v, hv, h.isConstrained hm hn humem hvmem huv hc⟩

/-- The order of members does not matter to the search. -/
theorem reachesConstrained_eq (h : m.Shuffled n) (hm : m.Sound) (hn : n.Sound) (hs : s ∈ m.shapes)
    (ht : t ∈ n.shapes) (hid : t.id = s.id) : n.reachesConstrained t = m.reachesConstrained s := by
  have hst := h.shape hn hs ht hid.symm
  rw [Bool.eq_iff_iff, ← canBreak_iff hn ht, ← canBreak_iff hm hs]
  exact ⟨h.symm.canBreak hn hm ht hs hst.symm, h.canBreak hm hn hs ht hst⟩

end Shuffled

/-! ### The recursive search -/

/-- The targets of the members of a shape, in order. -/
def parts (m : Model) (s : Shape) : List Shape := (m.membersOf s).map m.targetOf

/-- Going through the targets of members ends, and the search for a constrained shape asks what is
entered. -/
theorem Sound.exists_search_parts (hm : m.Sound) (hs : s ∈ m.shapes) :
    ∃ out, Graph.Search m.parts [] [m.targetOf s] out ∧
      m.reachesConstrained s = out.any m.isConstrained := by
  have hr := hm.targetOf_mem hs
  have hfound : ∀ t ∈ m.shapes, m.findFrom (m.targetOf s) t.id = some t := fun t ht =>
    (findFrom_eq hm hr t.id).trans (hm.find?_id ht)
  have hids : Graph.Search (m.partsFrom (m.targetOf s)) [] [(m.targetOf s).id]
      (Graph.preorder (m.partsFrom (m.targetOf s)) (m.searchSteps (m.targetOf s))
        (m.targetOf s).id) :=
    Graph.search_preorder (paidBy_partsFrom _) (le_searchSteps _)
  have hnext : ∀ t ∈ m.shapes,
      m.partsFrom (m.targetOf s) t.id = (m.parts t).map (·.id) := by
    intro t ht
    rw [partsFrom, hfound t ht, parts, List.map_map, Function.comp_def]
  have hnear : ∀ t ∈ m.shapes, ∀ u ∈ m.parts t, u ∈ m.shapes := by
    intro t _ u hu
    obtain ⟨e, he, rfl⟩ := List.mem_map.1 hu
    exact HasPart.mem hm ⟨e, he, rfl⟩
  obtain ⟨out, hout, hmem, hsearch⟩ := hm.exists_search hnext hnear hr hids
  refine ⟨out, hsearch, ?_⟩
  rw [reachesConstrained, Graph.leadsTo_eq, ← hout, List.any_map]
  rw [Bool.eq_iff_iff, List.any_eq_true, List.any_eq_true]
  refine exists_congr fun t => and_congr_right fun ht => ?_
  rw [Function.comp_apply, hfound t (hmem t ht), Option.any_some]

/-! ### Walks -/

namespace Sound

/-- A step of a walk, other than from an operation or a service, leads from a member to its target
or from an aggregate to one of its members. -/
theorem refers_cases (hm : m.Sound) (hs : s ∈ m.shapes) (hk : s.isInterface = false)
    (h : m.Refers s t) :
    s.isMember = true ∧ t = m.targetOf s ∨ s.isMember = false ∧ t ∈ m.membersOf s := by
  obtain ⟨ht, hid⟩ := h
  cases hmember : s.isMember with
  | true =>
    obtain ⟨id, hkind⟩ := Shape.isMember_iff.1 hmember
    rw [Shape.references, hkind, List.mem_singleton] at hid
    have hfound := hm.find?_of_member hs hkind
    rw [← hid, hm.find?_id ht] at hfound
    exact .inl ⟨rfl, Option.some.inj hfound⟩
  | false =>
    refine .inr ⟨rfl, hm.mem_membersOf_iff.2 ⟨ht, ?_⟩⟩
    unfold Shape.references at hid
    unfold Shape.isMember at hmember
    unfold Shape.isInterface at hk
    split at hid <;> simp_all

/-- What is reached along references, without operations and services on the way, has a target that
is reached from target to target. -/
theorem reflTransGen_hasPart (hm : m.Sound)
    (hflat : ∀ e ∈ m.shapes, e.isMember = true → (m.targetOf e).isMember = false)
    (hs : s ∈ m.shapes) (hplain : ∀ t, ReflTransGen m.Refers s t → t.isInterface = false)
    (hst : ReflTransGen m.Refers s t) :
    ReflTransGen m.HasPart (m.targetOf s) (m.targetOf t) := by
  induction hst with
  | refl => exact .refl
  | @tail t u hst hstep ih =>
    have ht := mem_of_reflTransGen Refers.mem hs hst
    rcases hm.refers_cases ht (hplain t hst) hstep with ⟨hk, rfl⟩ | ⟨hk, hu⟩
    · rwa [targetOf_of_not_isMember (hflat t ht hk)]
    · rw [targetOf_of_not_isMember hk] at ih
      exact ih.tail ⟨u, hu, rfl⟩

/-- What is reached from target to target is reached along references. -/
theorem reflTransGen_refers (hm : m.Sound) (hs : s ∈ m.shapes)
    (hst : ReflTransGen m.HasPart (m.targetOf s) t) : ReflTransGen m.Refers s t := by
  induction hst with
  | refl =>
    cases hk : s.isMember with
    | true => exact .single (hm.refers_targetOf hs hk)
    | false => rw [targetOf_of_not_isMember hk]
  | @tail t _ hst hstep ih =>
    obtain ⟨e, he, rfl⟩ := hstep
    rw [← hm.mem_walk_iff hs] at ih ⊢
    exact hm.targetOf_mem_walk hs ih he

end Sound

/-- A walk comes to a constrained shape exactly when the search finds one, as long as members do not
target members and neither operations nor services are reached. -/
theorem reachesConstrained_iff_walk (hm : m.Sound)
    (hflat : ∀ e ∈ m.shapes, e.isMember = true → (m.targetOf e).isMember = false)
    (hs : s ∈ m.shapes) (hplain : ∀ t, ReflTransGen m.Refers s t → t.isInterface = false) :
    m.reachesConstrained s = true ↔ ∃ t ∈ m.walk s, m.isConstrained t = true := by
  rw [reachesConstrained_iff hm hs]
  constructor
  · rintro ⟨t, ht, hc⟩
    exact ⟨t, (hm.mem_walk_iff hs).2 (hm.reflTransGen_refers hs ht), hc⟩
  · rintro ⟨t, ht, hc⟩
    rw [hm.mem_walk_iff hs] at ht
    exact ⟨_, hm.reflTransGen_hasPart hflat hs hplain ht, isConstrained_targetOf hc⟩

/-- In an assembled model, the recursive search for a constrained shape ends, and with the verdict of
the program. It is true exactly when a constrained shape can be reached from the target of the shape
by taking members and going on to their targets; so an aggregate reaches what its members reach, and
the order of members does not matter. Where no member targets a member and neither an operation nor a
service can be reached, a walk from the shape comes to a constrained shape in the same cases. -/
theorem reachesConstrained_exact (hm : m.Assembled) (hs : s ∈ m.shapes) :
    (∀ found, (∃ met, Graph.Seek m.parts m.isConstrained [] [m.targetOf s] met found) ↔
        found = m.reachesConstrained s) ∧
      (m.reachesConstrained s = true ↔
        ∃ t, ReflTransGen m.HasPart (m.targetOf s) t ∧ m.isConstrained t = true) ∧
      (∀ e ∈ m.membersOf s, m.reachesConstrained e = true → m.reachesConstrained s = true) ∧
      (∀ n : Model, n.Assembled → m.Shuffled n → ∀ t ∈ n.shapes, t.id = s.id →
        n.reachesConstrained t = m.reachesConstrained s) ∧
      ((∀ e ∈ m.shapes, e.isMember = true → (m.targetOf e).isMember = false) →
        (∀ t, ReflTransGen m.Refers s t → t.isInterface = false) →
          (m.reachesConstrained s = true ↔ ∃ t ∈ m.walk s, m.isConstrained t = true)) := by
  have hm := sound_of_assembled hm
  obtain ⟨out, hsearch, hverdict⟩ := hm.exists_search_parts hs
  refine ⟨fun found => by rw [hverdict, hsearch.seek_iff], reachesConstrained_iff hm hs,
    fun e he => ?_,
    fun n hn h t ht => h.reachesConstrained_eq hm (sound_of_assembled hn) hs ht,
    fun hflat hplain => reachesConstrained_iff_walk hm hflat hs hplain⟩
  have hk : s.isMember = false := by
    cases hk : s.isMember with
    | false => rfl
    | true =>
      rw [membersOf_of_isMember hk] at he
      cases he
  rw [← targetOf_of_not_isMember (m := m) hk] at he
  exact reachesConstrained_of_membersOf hm hs he

end Model

/-! ### Crates with their tags in front -/

/-- A structure of the same members as crates, in another order. -/
def repackedShape : Shape := ⟨crateShape.id, .struct [⟨"a", "Crate", some "tags"⟩,
  ⟨"a", "Crate", some "inner"⟩, ⟨"a", "Crate", some "lid"⟩], []⟩

/-- The model of depots with such crates. -/
def Model.repacked : Model := ⟨repackedShape :: depot.shapes.tail⟩

/-- The document of that model. -/
def repackedSource : String := "[\"2\",\x7b" ++
  "\"a#Depot\":[\"service\",\"1\",[[\"a#Store\"]],\x7b\"aws.protocols#restJson1\":\x7b\x7d\x7d]," ++
  "\"a#Store\":[\"operation\",[\"a#Crate\"]]," ++
  "\"a#Crate\":[\"structure\",\x7b\"tags\":[\"a#Tags\"],\"inner\":[\"a#Crate\"]," ++
  "\"lid\":[\"a#Lid\"]\x7d]," ++
  "\"a#Lid\":[\"structure\",\x7b\"weight\":[\"smithy.api#Integer\"]\x7d]," ++
  "\"a#Tags\":[\"list\",[\"a#Tag\"]]," ++
  "\"a#Tag\":[\"string\",\x7b\"smithy.api#length\":\x7b\"min\":1\x7d\x7d]\x7d]"

namespace Model

theorem assembled_repacked : repacked.Assembled := by
  refine assembled_of_list repackedSource (by
    delta repackedSource
    repeat rw [String.toList_append]
    repeat rw [String.toList_ofList]
    rfl) ?_ (by decide)
  decide +kernel

theorem shuffled_repacked : depot.Shuffled repacked := by
  refine .cons ⟨rfl, .struct ?_, rfl⟩ ?_
  · change ([_, _] ++ [_]).Perm ([_] ++ [_, _])
    exact List.perm_append_comm
  · exact List.forall₂_same.2 fun s _ => ⟨rfl, .refl _, rfl⟩

theorem reachesConstrained_exact_depot : depot.reachesConstrained crateShape = true ∧
    depot.reachesConstrained lidShape = false ∧ repacked.reachesConstrained repackedShape = true ∧
    (∃ t, ReflTransGen depot.HasPart crateShape t ∧ depot.isConstrained t = true) ∧
    ∃ t ∈ depot.walk crateShape, depot.isConstrained t = true := by
  have hreach : depot.reachesConstrained crateShape = true := by decide
  have hm := sound_of_assembled assembled_depot
  have hcrate : crateShape ∈ depot.shapes := by decide
  obtain ⟨-, hexact, -, horder, hwalk⟩ := reachesConstrained_exact assembled_depot hcrate
  have hplain : ∀ t, ReflTransGen depot.Refers crateShape t → t.isInterface = false := by
    have hall : ∀ t ∈ depot.walk crateShape, t.isInterface = false := by decide
    exact fun t ht => hall t ((hm.mem_walk_iff hcrate).2 ht)
  refine ⟨hreach, by decide, ?_, hexact.1 hreach, (hwalk (by decide) hplain).1 hreach⟩
  rw [horder repacked assembled_repacked shuffled_repacked repackedShape (by decide) rfl, hreach]

end Model

end Shapesmith
