import Mathlib.Data.List.Perm.Subperm
import Shapesmith.Proofs.Constraint.Reach
import Shapesmith.Symbol.Plain

/-!
# Which shapes have a type

The type of a list or map spells the types of its parts out, and the type of a member that of its
target. Structures and unions are only named. So a list that holds itself, without a structure or
union in between, has no type.

* `Model.Spells` : the type of a shape contains the spelling of another;
* `Model.HasType` : there is no infinite chain of spellings below a shape;
* `Model.Acyclic` : no chain of spellings below a shape leads back, which comes to the same
  (`Symbols.hasType_of_acyclic`, `Model.HasType.acyclic`);
* `Symbols.plain_isOk_iff` : a shape has a plain symbol exactly when it has a type.
-/

namespace Shapesmith

open Relation

/-- The type of a shape contains the spelling of the type of the other. -/
inductive Model.Spells (m : Model) : Shape → Shape → Prop
  /-- A list spells its member. -/
  | item {s t : Shape} {id : ShapeId} (hs : s.kind = .list id) (ht : m.find? id = some t) :
    Spells m s t
  /-- A map spells the member of its keys. -/
  | key {s t : Shape} {k w : ShapeId} (hs : s.kind = .map k w) (ht : m.find? k = some t) :
    Spells m s t
  /-- A map spells the member of its values. -/
  | value {s t : Shape} {k w : ShapeId} (hs : s.kind = .map k w) (ht : m.find? w = some t) :
    Spells m s t
  /-- A member spells its target. -/
  | target {s t : Shape} {id : ShapeId} (hs : s.kind = .member id) (ht : m.find? id = some t) :
    Spells m s t

/-- No chain of spellings below the shape goes on forever. -/
def Model.HasType (m : Model) (s : Shape) : Prop := Acc (fun t s => m.Spells s t) s

theorem Model.Spells.mem {m : Model} (hm : m.Sound) {s t : Shape} (h : m.Spells s t) :
    t ∈ m.shapes := by
  cases h with
  | item _ ht | key _ ht | value _ ht | target _ ht => exact (hm.find?_eq_some_iff.1 ht).1

theorem not_self_of_acc {α : Type} {r : α → α → Prop} {a : α} (h : Acc r a) : ¬ r a a := by
  induction h with
  | intro a _ ih => exact fun ha => ih a ha ha

/-- No shape that is spelled out below the shape is spelled within itself. -/
def Model.Acyclic (m : Model) (s : Shape) : Prop :=
  ∀ t, ReflTransGen m.Spells s t → ¬ TransGen m.Spells t t

/-- A shape with a type is not spelled within itself. -/
theorem Model.HasType.not_transGen {m : Model} {s : Shape} (h : m.HasType s) :
    ¬ TransGen m.Spells s s :=
  fun hs => not_self_of_acc h.transGen (transGen_swap.2 hs)

theorem Model.HasType.acyclic {m : Model} {s : Shape} (h : m.HasType s) : m.Acyclic s := by
  intro t ht
  induction ht using ReflTransGen.head_induction_on with
  | refl => exact h.not_transGen
  | head hst _ ih => exact ih (h.inv hst)

namespace Symbols

variable {y : Symbols} {s : Shape} {depth : Nat}

/-- A shape has a symbol at some depth when all that it spells has one a level deeper. -/
theorem plainAt_succ_isSome_iff (hm : y.model.Sound) (hs : s ∈ y.model.shapes) :
    (y.plainAt (depth + 1) s).isSome = true ↔
      ∀ t, y.model.Spells s t → (y.plainAt depth t).isSome = true := by
  cases hk : s.kind with
  | list id =>
    obtain ⟨e, -, he⟩ := hm.find?_item hs hk
    simp only [plainAt, hk, he, Option.bind_some, Option.isSome_map]
    constructor
    · rintro h t (⟨hs, ht⟩ | ⟨hs, ht⟩ | ⟨hs, ht⟩ | ⟨hs, ht⟩) <;> rw [hk] at hs <;> cases hs
      obtain rfl := Option.some.inj (he.symm.trans ht)
      exact h
    · exact fun h => h e (.item hk he)
  | map k w =>
    obtain ⟨⟨e, -, he⟩, e', -, he'⟩ := hm.find?_entry hs hk
    have hboth : (y.plainAt (depth + 1) s).isSome = true ↔
        (y.plainAt depth e).isSome = true ∧ (y.plainAt depth e').isSome = true := by
      simp only [plainAt, hk, he, he', Option.bind_some]
      cases y.plainAt depth e <;> cases y.plainAt depth e' <;> simp
    rw [hboth]
    constructor
    · rintro h t (⟨hs, ht⟩ | ⟨hs, ht⟩ | ⟨hs, ht⟩ | ⟨hs, ht⟩) <;> rw [hk] at hs <;> cases hs
      · obtain rfl := Option.some.inj (he.symm.trans ht)
        exact h.1
      · obtain rfl := Option.some.inj (he'.symm.trans ht)
        exact h.2
    · exact fun h => ⟨h e (.key hk he), h e' (.value hk he')⟩
  | member id =>
    have he := hm.find?_of_member hs hk
    simp only [plainAt, hk, he, Option.bind_some, Option.isSome_map]
    constructor
    · rintro h t (⟨hs, ht⟩ | ⟨hs, ht⟩ | ⟨hs, ht⟩ | ⟨hs, ht⟩) <;> rw [hk] at hs <;> cases hs
      obtain rfl := Option.some.inj (he.symm.trans ht)
      exact h
    · exact fun h => h _ (.target hk he)
  | simple | struct | union | operation | service =>
    simp only [plainAt, hk, Option.isSome_some, true_iff]
    rintro t (⟨hs, -⟩ | ⟨hs, -⟩ | ⟨hs, -⟩ | ⟨hs, -⟩) <;> rw [hk] at hs <;> cases hs

theorem hasType_of_plainAt (hm : y.model.Sound) (hs : s ∈ y.model.shapes)
    (h : (y.plainAt depth s).isSome = true) : y.model.HasType s := by
  induction depth generalizing s with
  | zero => cases h
  | succ depth ih =>
    exact Acc.intro s fun t ht =>
      ih (ht.mem hm) ((plainAt_succ_isSome_iff hm hs).1 h t ht)

/-- Going down from a shape without circles meets no shape twice, so that the depth left over is
never used up. -/
theorem plainAt_isSome_of_acyclic (hm : y.model.Sound) (hs : s ∈ y.model.shapes)
    (h : y.model.Acyclic s) {above : List Shape} (hnodup : above.Nodup)
    (habove : ∀ a ∈ above, a ∈ y.model.shapes ∧ TransGen y.model.Spells a s)
    (hdepth : above.length + depth = y.depth) : (y.plainAt depth s).isSome = true := by
  have hle : above.length ≤ y.model.shapes.length :=
    (List.subperm_of_subset hnodup fun a ha => (habove a ha).1).length_le
  induction depth generalizing s above with
  | zero =>
    rw [depth] at hdepth
    omega
  | succ depth ih =>
    refine (plainAt_succ_isSome_iff hm hs).2 fun t ht => ?_
    -- the shape is not among those that spell it
    have hnew : s ∉ above := fun hmem => h s .refl (habove s hmem).2
    have hbelow : y.model.Acyclic t := fun u hu => h u (.head ht hu)
    have habove' : ∀ a ∈ s :: above, a ∈ y.model.shapes ∧ TransGen y.model.Spells a t := by
      intro a ha
      rcases List.mem_cons.1 ha with rfl | ha
      · exact ⟨hs, .single ht⟩
      · exact ⟨(habove a ha).1, (habove a ha).2.tail ht⟩
    have hnodup' := List.nodup_cons.2 ⟨hnew, hnodup⟩
    refine ih (ht.mem hm) hbelow hnodup' habove' ?_ ?_
    · rw [List.length_cons]
      omega
    · exact (List.subperm_of_subset hnodup' fun a ha => (habove' a ha).1).length_le

/-- In a finite model, a chain of spellings that goes on forever comes back to a shape. -/
theorem hasType_of_acyclic (hm : y.model.Sound) (hs : s ∈ y.model.shapes)
    (h : y.model.Acyclic s) : y.model.HasType s :=
  hasType_of_plainAt hm hs
    (plainAt_isSome_of_acyclic hm hs h List.nodup_nil (by simp) (Nat.zero_add y.depth))

/-- A shape has a plain symbol exactly when it has a type. -/
theorem plain_isOk_iff (hm : y.model.Sound) (hs : s ∈ y.model.shapes) :
    (∃ symbol, y.plain s = .ok symbol) ↔ y.model.HasType s := by
  constructor
  · rintro ⟨symbol, h⟩
    have hsome : (y.plainAt y.depth s).isSome = true := by
      rw [plain] at h
      cases hp : y.plainAt y.depth s with
      | none =>
        rw [hp] at h
        cases h
      | some symbol' => rfl
    exact hasType_of_plainAt hm hs hsome
  · intro h
    have hsome : (y.plainAt y.depth s).isSome = true :=
      plainAt_isSome_of_acyclic hm hs h.acyclic List.nodup_nil (by simp) (Nat.zero_add _)
    obtain ⟨symbol, hp⟩ := Option.isSome_iff_exists.1 hsome
    exact ⟨symbol, by rw [plain, hp, finite]⟩

end Symbols

end Shapesmith
