import Shapesmith.Proofs.Graph.Preorder
import Shapesmith.Proofs.Model.Integrity

/-!
# Walks

A walk follows references from a root. In a sound model it comes to exactly what references lead to,
and to each shape once.

* `Model.Refers` is one step of a walk;
* `Model.Sound.mem_walk_iff` : a walk comes to all that references lead to;
* `Model.Sound.nodup_walk` : it comes to nothing twice;
* `Model.Sound.walk_congr` : walks are the same in models that have the same shapes on the way.
-/

namespace Shapesmith

open Relation

theorem Shape.members_subset_references (s : Shape) : s.members ⊆ s.references := by
  intro id hid
  unfold members at hid
  unfold references members
  split <;> simp_all

namespace Model

variable {m n : Model} {root s t e : Shape}

/-- The shape refers to the other one. -/
def Refers (m : Model) (s t : Shape) : Prop := t ∈ m.shapes ∧ t.id ∈ s.references

theorem Refers.mem (h : m.Refers s t) : t ∈ m.shapes := h.1

theorem paidBy_referencesFrom (root : Shape) :
    Graph.PaidBy (m.referencesFrom root) (m.payers root) := by
  intro id hne
  rw [referencesFrom] at hne ⊢
  cases hf : m.findFrom root id with
  | none => simp [hf] at hne
  | some s =>
    rw [Option.map_some, Option.getD_some]
    rw [findFrom] at hf
    refine ⟨_, List.mem_map.2 ⟨s, ?_, Prod.ext ?_ rfl⟩, Nat.le_refl _⟩
    · split at hf
      · exact Option.some.inj hf ▸ List.mem_cons_self
      · exact List.mem_cons_of_mem _ (List.mem_of_find?_eq_some hf)
    · split at hf
      · rename_i hid
        rw [← Option.some.inj hf, hid]
      · simpa using List.find?_some hf

theorem mem_of_mem_walk (hr : root ∈ m.shapes) (h : s ∈ m.walk root) : s ∈ m.shapes := by
  obtain ⟨id, -, hf⟩ := List.mem_filterMap.1 h
  rw [findFrom] at hf
  split at hf
  · exact Option.some.inj hf ▸ hr
  · exact List.mem_of_find?_eq_some hf

/-- A root that refers to nothing is walked alone. -/
theorem walk_of_references_eq_nil (h : root.references = []) : m.walk root = [root] := by
  have hfound : m.findFrom root root.id = some root := if_pos rfl
  have hnext : m.referencesFrom root root.id = [] := by
    rw [referencesFrom, hfound, Option.map_some, Option.getD_some, h]
  have hvisited : Graph.preorder (m.referencesFrom root) (m.searchSteps root) root.id =
      [root.id] := by
    rw [searchSteps, Nat.add_comm, Graph.preorder,
      Graph.visit_cons_of_not_mem _ _ _ List.not_mem_nil, hnext, List.append_nil,
      Graph.visit_nil, List.nil_append]
  rw [walk, hvisited, List.filterMap_cons_some hfound, List.filterMap_nil]

namespace Sound

/-- What references lead to, from id to id, is what they lead to from shape to shape. -/
theorem mem_referencesFrom_iff (hm : m.Sound) (hr : root ∈ m.shapes) (hs : s ∈ m.shapes)
    (id : ShapeId) : id ∈ m.referencesFrom root s.id ↔ ∃ t, m.Refers s t ∧ t.id = id := by
  rw [hm.referencesFrom_eq hr hs]
  constructor
  · intro hid
    obtain ⟨t, ht, rfl⟩ := hm.closed s hs id hid
    exact ⟨t, ⟨ht, hid⟩, rfl⟩
  · rintro ⟨t, ht, rfl⟩
    exact ht.2

/-- A walk comes to exactly what references lead to. -/
theorem mem_walk_iff (hm : m.Sound) (hr : root ∈ m.shapes) :
    s ∈ m.walk root ↔ ReflTransGen m.Refers root s := by
  simp only [walk, List.mem_filterMap, findFrom_eq hm hr,
    Graph.mem_preorder_iff (paidBy_referencesFrom root) (le_searchSteps root),
    reflTransGen_id_iff Refers.mem (fun s hs => hm.mem_referencesFrom_iff hr hs) hr]
  constructor
  · rintro ⟨id, ⟨t, ht, rfl⟩, hf⟩
    rw [hm.find?_id (mem_of_reflTransGen Refers.mem hr ht)] at hf
    exact Option.some.inj hf ▸ ht
  · intro h
    exact ⟨s.id, ⟨s, h, rfl⟩, hm.find?_id (mem_of_reflTransGen Refers.mem hr h)⟩

/-- The root may also be a shape of its own that refers to nothing. -/
theorem mem_walk_iff_of_root (hm : m.Sound) (hr : root ∈ m.shapes ∨ root.references = []) :
    s ∈ m.walk root ↔ ReflTransGen m.Refers root s := by
  rcases hr with hr | hnil
  · exact hm.mem_walk_iff hr
  · rw [walk_of_references_eq_nil hnil, List.mem_singleton]
    refine ⟨fun h => h ▸ .refl, fun h => ?_⟩
    rcases h.cases_head with rfl | ⟨t, ht, -⟩
    · rfl
    · have hid := ht.2
      rw [hnil] at hid
      cases hid

/-- A member refers to its target. -/
theorem refers_targetOf (hm : m.Sound) (he : e ∈ m.shapes) (hk : e.isMember = true) :
    m.Refers e (m.targetOf e) := by
  obtain ⟨id, hk⟩ := Shape.isMember_iff.1 hk
  refine ⟨hm.targetOf_mem he, ?_⟩
  rw [(hm.find?_eq_some_iff.1 (hm.find?_of_member he hk)).2, Shape.references, hk]
  exact List.mem_singleton_self id

/-- A walk goes on from a shape to the targets of its members. -/
theorem targetOf_mem_walk (hm : m.Sound) (hr : root ∈ m.shapes) (hs : s ∈ m.walk root)
    (he : e ∈ m.membersOf s) : m.targetOf e ∈ m.walk root := by
  have hsmem := mem_of_mem_walk hr hs
  obtain ⟨hemem, hid⟩ := hm.mem_membersOf_iff.1 he
  have hmember : m.Refers s e := ⟨hemem, s.members_subset_references hid⟩
  have htarget := hm.refers_targetOf hemem (hm.isMember_of_mem hsmem he)
  rw [hm.mem_walk_iff hr] at hs ⊢
  exact (hs.tail hmember).tail htarget

/-- Walks are the same in models that have the same shapes on the way. -/
theorem walk_congr (hm : m.Sound) (hn : n.Sound) (hr : root ∈ m.shapes) (hr' : root ∈ n.shapes)
    (hsame : ∀ s, ReflTransGen m.Refers root s → s ∈ n.shapes) : n.walk root = m.walk root := by
  have hmem {s : Shape} (hs : ReflTransGen m.Refers root s) : s ∈ m.shapes :=
    mem_of_reflTransGen Refers.mem hr hs
  have hfind : ∀ id, (∃ s, ReflTransGen m.Refers root s ∧ s.id = id) →
      n.findFrom root id = m.findFrom root id := by
    rintro _ ⟨s, hs, rfl⟩
    rw [findFrom_eq hn hr', findFrom_eq hm hr, hn.find?_id (hsame s hs), hm.find?_id (hmem hs)]
  have hnext : ∀ id, (∃ s, ReflTransGen m.Refers root s ∧ s.id = id) →
      n.referencesFrom root id = m.referencesFrom root id := by
    intro id hid
    rw [referencesFrom, referencesFrom, hfind id hid]
  have hpart : ∀ id, (∃ s, ReflTransGen m.Refers root s ∧ s.id = id) →
      ∀ id' ∈ m.referencesFrom root id, ∃ s, ReflTransGen m.Refers root s ∧ s.id = id' := by
    rintro _ ⟨s, hs, rfl⟩ id hid
    obtain ⟨t, ht, rfl⟩ := (hm.mem_referencesFrom_iff hr (hmem hs) id).1 hid
    exact ⟨t, hs.tail ht, rfl⟩
  have hpreorder := Graph.preorder_congr hnext hpart (paidBy_referencesFrom root)
    (paidBy_referencesFrom root) (le_searchSteps root) (le_searchSteps root) ⟨root, .refl, rfl⟩
  rw [walk, walk, hpreorder]
  refine List.filterMap_congr fun id hid => hfind id ?_
  rw [Graph.mem_preorder_iff (paidBy_referencesFrom root) (le_searchSteps root)] at hid
  exact (reflTransGen_id_iff Refers.mem (fun s hs => hm.mem_referencesFrom_iff hr hs) hr).1 hid

/-- No two shapes of a walk have the same id. -/
theorem nodup_map_id_walk (hm : m.Sound) (hr : root ∈ m.shapes) :
    ((m.walk root).map (·.id)).Nodup := by
  rw [hm.map_id_walk hr]
  exact Graph.nodup_preorder _ _ _

end Sound

end Model

end Shapesmith
