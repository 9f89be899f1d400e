import Shapesmith.Placeholder
import Shapesmith.Proofs.Builder.Fields
import Shapesmith.Proofs.Graph.DepthFirst

/-!
# A walk is the recursive search

A walk works a list of ids off. In a sound model it comes to the shapes that the recursive
depth-first search enters, in the same order.

* `Model.neighbours` are the shapes that a shape refers to, in the order in which it does;
* `Model.Sound.exists_search` : a search from id to id is one from shape to shape;
* `Model.walk_is_search` : the search, the loop with a stack and the walk come to the same shapes,
  the root first, each once, and all that references lead to.
-/

namespace Shapesmith

open Relation

namespace Model

variable {m : Model} {root s : Shape}

/-- The shapes that a shape refers to, in the order of its references. -/
def neighbours (m : Model) (s : Shape) : List Shape := s.references.filterMap m.find?

namespace Sound

/-- No reference of a shape of the model is lost. -/
theorem map_id_neighbours (hm : m.Sound) (hs : s ∈ m.shapes) :
    (m.neighbours s).map (·.id) = s.references := by
  refine map_id_filterMap fun id hid => ?_
  obtain ⟨t, -, hf, hid⟩ := hm.exists_find? hs hid
  exact ⟨t, hf, hid⟩

theorem mem_neighbours_iff (hm : m.Sound) {t : Shape} : t ∈ m.neighbours s ↔ m.Refers s t := by
  rw [neighbours, List.mem_filterMap]
  constructor
  · rintro ⟨id, hid, hf⟩
    obtain ⟨ht, rfl⟩ := hm.find?_eq_some_iff.1 hf
    exact ⟨ht, hid⟩
  · rintro ⟨ht, hid⟩
    exact ⟨t.id, hid, hm.find?_id ht⟩

/-- A search from id to id is a search from shape to shape. -/
theorem exists_search (hm : m.Sound) {next : ShapeId → List ShapeId} {near : Shape → List Shape}
    (hnext : ∀ s ∈ m.shapes, next s.id = (near s).map (·.id))
    (hnear : ∀ s ∈ m.shapes, ∀ t ∈ near s, t ∈ m.shapes) (hr : root ∈ m.shapes)
    {ids : List ShapeId} (h : Graph.Search next [] [root.id] ids) :
    ∃ out, out.map (·.id) = ids ∧ (∀ s ∈ out, s ∈ m.shapes) ∧ Graph.Search near [] [root] out :=
  h.of_map hnext hnear (fun _ _ hs ht => hm.eq_of_id_eq hs ht) rfl rfl nofun
    (fun _ hs => List.mem_singleton.1 hs ▸ hr)

theorem search_walk (hm : m.Sound) (hr : root ∈ m.shapes) :
    Graph.Search m.neighbours [] [root] (m.walk root) := by
  have hids : Graph.Search (m.referencesFrom root) [] [root.id]
      (Graph.preorder (m.referencesFrom root) (m.searchSteps root) root.id) :=
    Graph.search_preorder (paidBy_referencesFrom root) (le_searchSteps root)
  obtain ⟨out, hout, hmem, hsearch⟩ := hm.exists_search
    (fun s hs => (hm.referencesFrom_eq hr hs).trans (hm.map_id_neighbours hs).symm)
    (fun s _ t ht => (hm.mem_neighbours_iff.1 ht).mem) hr hids
  have hwalk : m.walk root = out := by
    rw [walk, ← hout, List.filterMap_map]
    have hfound : ∀ s ∈ out, (m.findFrom root ∘ (·.id)) s = some s := fun s hs =>
      (findFrom_eq hm hr s.id).trans (hm.find?_id (hmem s hs))
    rw [List.filterMap_congr hfound, List.filterMap_some]
  rwa [hwalk]

end Sound

/-- A root that refers to nothing is searched alone. -/
theorem search_of_references_eq_nil (h : root.references = []) :
    Graph.Search m.neighbours [] [root] (m.walk root) := by
  rw [walk_of_references_eq_nil h]
  refine .enter List.not_mem_nil ?_ .done
  rw [neighbours, h, List.filterMap_nil]
  exact .done

/-- A walk through an assembled model, from one of its shapes or from a service without operations,
comes to what the recursive depth-first search enters that goes through references in their order.
So does the loop with a stack, which ends after one turn for the root and one for each reference of a
shape that it has come to. The root comes first, everything that can be reached follows, and nothing
comes twice. -/
theorem walk_is_search (hm : m.Assembled)
    (hr : root ∈ m.shapes ∨ root.isService = true ∧ root.references = []) :
    (∀ s ∈ m.walk root, (m.neighbours s).map (·.id) = s.references) ∧
      (∀ out, Graph.Search m.neighbours [] [root] out ↔ out = m.walk root) ∧
      (∀ turns, 1 + ((m.walk root).flatMap m.neighbours).length ≤ turns →
        (Graph.turn m.neighbours)^[turns] ⟨[root], []⟩ = ⟨[], m.walk root⟩) ∧
      (m.walk root).head? = some root ∧ (m.walk root).Nodup ∧
      ∀ s, s ∈ m.walk root ↔ ReflTransGen m.Refers root s := by
  have hm := sound_of_assembled hm
  have hsearch : Graph.Search m.neighbours [] [root] (m.walk root) := by
    rcases hr with hr | ⟨-, hnil⟩
    · exact hm.search_walk hr
    · exact search_of_references_eq_nil hnil
  have hids : ∀ s ∈ m.walk root, (m.neighbours s).map (·.id) = s.references := by
    rcases hr with hr | ⟨-, hnil⟩
    · exact fun s hs => hm.map_id_neighbours (mem_of_mem_walk hr hs)
    · intro s hs
      rw [walk_of_references_eq_nil hnil, List.mem_singleton] at hs
      rw [hs, neighbours, hnil, List.filterMap_nil, List.map_nil]
  refine ⟨hids, fun out => ⟨fun h => h.unique hsearch, fun h => h ▸ hsearch⟩,
    fun turns hle => hsearch.iterate_turn hle, hsearch.head?_eq, hsearch.nodup .nil,
    fun s => hm.mem_walk_iff_of_root (hr.imp_right And.right)⟩

/-- Crates hold crates: the walk from the service of depots comes back to them and goes on. -/
theorem walk_is_search_depot : (depot.walk depotService).map (·.id.lastName) = ["Depot", "Store",
      "Crate", "inner", "lid", "Lid", "weight", "Integer", "tags", "Tags", "member", "Tag"] ∧
    Graph.Search depot.neighbours [] [depotService] (depot.walk depotService) ∧
    (Graph.turn depot.neighbours)^[13] ⟨[depotService], []⟩ = ⟨[], depot.walk depotService⟩ ∧
    Graph.Search depot.neighbours [] [Placeholder.service] [Placeholder.service] := by
  have hroot : depotService ∈ depot.shapes := by decide
  have hempty : Placeholder.service.isService = true ∧ Placeholder.service.references = [] :=
    ⟨rfl, rfl⟩
  obtain ⟨-, hsearch, hturns, -⟩ := walk_is_search assembled_depot (.inl hroot)
  obtain ⟨-, hsearch', -⟩ := walk_is_search assembled_depot (.inr hempty)
  exact ⟨by decide, (hsearch _).2 rfl, hturns 13 (by decide), (hsearch' _).2 (by decide)⟩

end Model

end Shapesmith
