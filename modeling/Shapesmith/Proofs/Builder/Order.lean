import Shapesmith.Proofs.Builder.Infallible
import Shapesmith.Proofs.Model.Order

/-!
# Artifacts in the order of their ids

A compilation keeps its artifacts in the order of the ids of their structures, each id once, so that
a binary search for one finds it.

* `pairwise_sortedById` : shapes with different ids ascend once they are sorted;
* `Compilation.Of.ascends` : the artifacts of a compilation ascend;
* `Compilation.Of.artifact?_eq_some_iff` : looking an artifact up finds it if it is there.
-/

namespace Shapesmith

/-- Shapes with different ids ascend once they are sorted. -/
theorem pairwise_sortedById {shapes : List Shape} (h : (shapes.map (·.id)).Nodup) :
    (sortedById shapes).Pairwise fun s t => s.id.compare t.id = .lt := by
  have hsorted := @List.pairwise_mergeSort Shape (fun s t => s.id.compare t.id != .gt)
    (fun s t u => ShapeId.compare_isLE_trans)
    (fun s t => ShapeId.compare_isLE_total s.id t.id) shapes
  have hdistinct : (sortedById shapes).Pairwise fun s t => s.id ≠ t.id :=
    List.pairwise_map.1 (((List.mergeSort_perm _ _).map _).nodup_iff.2 h)
  refine (hsorted.and hdistinct).imp fun {s t} hst => ?_
  obtain ⟨hle, hne⟩ := hst
  cases hc : s.id.compare t.id with
  | lt => rfl
  | eq => exact absurd (ShapeId.eq_of_compare hc) hne
  | gt =>
    rw [hc] at hle
    cases hle

namespace Model

variable {m : Model} {service : Shape}

theorem Sound.pairwise_structuresFrom (hm : m.Sound) (hr : service ∈ m.shapes) :
    (m.structuresFrom service).Pairwise fun s t => s.id.compare t.id = .lt := by
  refine pairwise_sortedById ?_
  exact (hm.nodup_map_id_walk hr).sublist (List.filter_sublist.map _)

end Model

/-! ### Looking up -/

section Lookup

variable {α : Type} {key : α → ShapeId} {as : List α}

/-- What ascends is in order for a search. -/
theorem ascending_of_pairwise (h : as.Pairwise fun a b => (key a).compare (key b) = .lt)
    (id : ShapeId) : Ascending (fun a => (key a).compare id) as := by
  refine h.imp fun {a b} hab hlow => ?_
  show (key b).compare id = .gt
  have hba : (key b).compare (key a) = .gt := by
    rw [ShapeId.compare_swap, hab]
    rfl
  cases ha : (key a).compare id with
  | lt => exact absurd ha hlow
  | eq => exact ShapeId.eq_of_compare ha ▸ hba
  | gt =>
    have hid : id.compare (key a) = .lt := by
      rw [ShapeId.compare_swap, ha]
      rfl
    rw [ShapeId.compare_swap, ShapeId.compare_trans hid hab]
    rfl

/-- A search finds the one entry that has an id. -/
theorem bisect_eq_some_iff (h : as.Pairwise fun a b => (key a).compare (key b) = .lt)
    {id : ShapeId} {a : α} :
    bisect (fun a => (key a).compare id) as = some a ↔ a ∈ as ∧ key a = id := by
  have hdistinct : (as.map key).Nodup := by
    refine List.pairwise_map.2 (h.imp fun {a b} hab heq => ?_)
    rw [heq, ShapeId.compare_self] at hab
    cases hab
  rw [bisect_eq_find? (ascending_of_pairwise h id)]
  constructor
  · intro hf
    have hid := List.find?_some hf
    exact ⟨List.mem_of_find?_eq_some hf, ShapeId.eq_of_compare (of_decide_eq_true hid)⟩
  · rintro ⟨ha, rfl⟩
    cases hf : as.find? fun b => (key b).compare (key a) = .eq with
    | none =>
      have hnone := List.find?_eq_none.1 hf a ha
      rw [ShapeId.compare_self] at hnone
      exact absurd rfl hnone
    | some b =>
      have hid := List.find?_some hf
      have heq := ShapeId.eq_of_compare (of_decide_eq_true hid)
      rw [List.inj_on_of_nodup_map hdistinct (List.mem_of_find?_eq_some hf) ha heq]

end Lookup

namespace Compilation

variable {m : Model} {settings : Settings} {c : Compilation}

/-- The artifacts of a compilation are those of its structures, one for one. -/
theorem Of.map_shape (h : c.Of m settings) :
    c.artifacts.map (·.shape) = (m.structuresFrom c.symbols.service).map (·.id) :=
  map_eq_of_collect (fun _ _ ha => (Symbols.generates_of_artifact ha).shape) h.artifacts

/-- The artifacts of a compilation ascend. -/
theorem Of.ascends (h : c.Of m settings) (hm : m.Sound) :
    c.artifacts.Pairwise fun a b => a.shape.compare b.shape = .lt := by
  have hids : ((m.structuresFrom c.symbols.service).map (·.id)).Pairwise
      fun a b => a.compare b = .lt := List.pairwise_map.2 (hm.pairwise_structuresFrom h.service)
  rw [← h.map_shape] at hids
  exact List.pairwise_map.1 hids

/-- Looking an artifact up finds it if it is there. -/
theorem Of.artifact?_eq_some_iff (h : c.Of m settings) (hm : m.Sound) {id : ShapeId}
    {a : Artifact} : c.artifact? id = some a ↔ a ∈ c.artifacts ∧ a.shape = id :=
  bisect_eq_some_iff (h.ascends hm)

end Compilation

end Shapesmith
