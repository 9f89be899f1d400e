import Shapesmith.Proofs.Builder.Coverage
import Shapesmith.Proofs.Symbol.Nesting

/-!
# Resolving symbols ends

The symbols of a shape are made from those of the shapes that it refers to, but structures and
unions are only named. So the recursion comes to an end for all shapes exactly when no circle of
references consists of lists, maps and members alone.

* `Model.SpellsOut` : a reference from a list, map or member to another one;
* `Model.Sound.transGen_spells_iff` : circles of such references are circles of spellings;
* `Symbols.Answers` : the providers, the variants of violations and the generation of artifacts
  answer for a shape;
* `Symbols.answers_iff` : when they do for all shapes of a model.
-/

namespace Shapesmith

open Relation

/-! ### Circles of references -/

/-- The shape is a list, a map or a member: its type is spelled with those of its references. -/
def Shape.isSpelledOut (s : Shape) : Bool :=
  match s.kind with
  | .list _ | .map _ _ | .member _ => true
  | _ => false

namespace Model

variable {m : Model} {s t : Shape}

/-- The shape refers to the other one, and both are lists, maps or members. -/
def SpellsOut (m : Model) (s t : Shape) : Prop :=
  m.Refers s t ∧ s.isSpelledOut = true ∧ t.isSpelledOut = true

/-- Spelling a type out is following a reference from a list, map or member. -/
theorem Sound.spells_iff (hm : m.Sound) :
    m.Spells s t ↔ m.Refers s t ∧ s.isSpelledOut = true := by
  constructor
  · intro h
    refine ⟨⟨h.mem hm, ?_⟩, ?_⟩
    · cases h with
      | item hs ht | key hs ht | value hs ht | target hs ht =>
        simp [Shape.references, Shape.members, hs, (hm.find?_eq_some_iff.1 ht).2]
    · cases h with
      | item hs | key hs | value hs | target hs => simp [Shape.isSpelledOut, hs]
  · rintro ⟨⟨ht, hid⟩, hk⟩
    have hfound := hm.find?_id ht
    cases hkind : s.kind with
    | list id =>
      obtain rfl : t.id = id := by simpa [Shape.references, Shape.members, hkind] using hid
      exact .item hkind hfound
    | map k w =>
      obtain rfl | rfl : t.id = k ∨ t.id = w := by
        simpa [Shape.references, Shape.members, hkind] using hid
      · exact .key hkind hfound
      · exact .value hkind hfound
    | member id =>
      obtain rfl : t.id = id := by simpa [Shape.references, hkind] using hid
      exact .target hkind hfound
    | _ => simp [Shape.isSpelledOut, hkind] at hk

/-- A chain of spellings that ends with a list, map or member goes through such shapes only. -/
theorem Sound.transGen_spellsOut (hm : m.Sound) (ht : t.isSpelledOut = true)
    (h : TransGen m.Spells s t) : TransGen m.SpellsOut s t := by
  induction h using TransGen.head_induction_on with
  | single h =>
    obtain ⟨hrefers, hs⟩ := hm.spells_iff.1 h
    exact .single ⟨hrefers, hs, ht⟩
  | head h hrest ih =>
    obtain ⟨hrefers, hs⟩ := hm.spells_iff.1 h
    -- the next shape spells something too
    obtain ⟨_, hnext, -⟩ := TransGen.head'_iff.1 hrest
    exact .head ⟨hrefers, hs, (hm.spells_iff.1 hnext).2⟩ ih

/-- Circles of spellings are the circles of references among lists, maps and members. -/
theorem Sound.transGen_spells_iff (hm : m.Sound) :
    TransGen m.Spells s s ↔ TransGen m.SpellsOut s s := by
  constructor
  · intro h
    obtain ⟨_, hfirst, -⟩ := TransGen.head'_iff.1 h
    exact hm.transGen_spellsOut (hm.spells_iff.1 hfirst).2 h
  · have hle : m.SpellsOut ≤ m.Spells := fun _ _ h => hm.spells_iff.2 ⟨h.1, h.2.1⟩
    exact TransGen.mono hle s s

end Model

/-! ### Recursion that ends -/

namespace Symbols

variable {y : Symbols} {s : Shape} {symbol : Symbol} {visibility : Visibility} {depth depth' : Nat}

theorem constrainedAt_mono (hle : depth ≤ depth')
    (h : y.constrainedAt visibility depth s = some symbol) :
    y.constrainedAt visibility depth' s = some symbol := by
  induction hle with
  | refl => exact h
  | step _ ih => exact constrainedAt_succ ih

theorem unconstrainedAt_succ (h : y.unconstrainedAt depth s = some symbol) :
    y.unconstrainedAt (depth + 1) s = some symbol := by
  induction depth generalizing s symbol with
  | zero => cases h
  | succ depth ih =>
    rw [unconstrainedAt] at h ⊢
    cases hk : s.kind with
    | member target =>
      simp only [hk] at h ⊢
      obtain ⟨t, ht, h⟩ := Option.bind_eq_some_iff.1 h
      obtain ⟨inner, hinner, rfl⟩ := Option.map_eq_some_iff.1 h
      rw [ht, Option.bind_some, ih hinner, Option.map_some]
    | _ => simpa only [hk] using h

theorem unconstrainedAt_mono (hle : depth ≤ depth')
    (h : y.unconstrainedAt depth s = some symbol) :
    y.unconstrainedAt depth' s = some symbol := by
  induction hle with
  | refl => exact h
  | step _ ih => exact unconstrainedAt_succ ih

/-- There is an answer for the shape from each provider, for the variants of its violations and for
its artifact. What a provider finds by recursion is found however much deeper it may go. -/
structure Answers (y : Symbols) (p : Protocol) (s : Shape) : Prop where
  /-- The plain symbol. -/
  plain : ∃ symbol, y.plain s = .ok symbol ∧
    ∀ depth, y.depth ≤ depth → y.plainAt depth s = some symbol
  /-- The symbols of checked values, shown or hidden. -/
  constrained : ∀ visibility, ∃ symbol, y.constrained visibility s = .ok symbol ∧
    ∀ depth, y.depth ≤ depth → y.constrainedAt visibility depth s = some symbol
  /-- The symbol of unchecked values. -/
  unconstrained : ∃ symbol, y.unconstrained s = .ok symbol ∧
    ∀ depth, y.depth ≤ depth → y.unconstrainedAt depth s = some symbol
  /-- The symbol of violations. -/
  violation : ∃ symbol, y.violation s = .ok symbol
  /-- The variants of violations. -/
  variants : ∃ vs, y.variants s = .ok vs
  /-- The artifact of a structure. -/
  artifact : s.isStruct = true → ∃ a, y.artifact p s = .ok a
  /-- Other shapes are refused one. -/
  refused : s.isStruct = false → y.artifact p s = .error (.notStructure s.id)

theorem answers_of_hasType (hm : y.model.Sound) (htypes : ∀ t ∈ y.model.shapes, y.model.HasType t)
    (p : Protocol) (hs : s ∈ y.model.shapes) : y.Answers p s where
  plain := by
    obtain ⟨symbol, hsymbol⟩ := (plain_isOk_iff hm hs).2 (htypes s hs)
    exact ⟨symbol, hsymbol, fun depth hle => plainAt_mono hle (finite_eq_ok_iff.1 hsymbol)⟩
  constrained visibility := by
    obtain ⟨symbol, hsymbol⟩ : ∃ symbol, y.constrained visibility s = .ok symbol :=
      exists_constrained hm hs (htypes s hs)
    exact ⟨symbol, hsymbol, fun depth hle => constrainedAt_mono hle (finite_eq_ok_iff.1 hsymbol)⟩
  unconstrained := by
    obtain ⟨symbol, hsymbol⟩ := exists_unconstrained hm hs (htypes s hs)
    exact ⟨symbol, hsymbol,
      fun depth hle => unconstrainedAt_mono hle (finite_eq_ok_iff.1 hsymbol)⟩
  violation := exists_violation_of_hasType hm hs (htypes _ (hm.targetOf_mem hs))
  variants := exists_variants_of_hasType hm hs htypes
  artifact := exists_artifact hm htypes p hs
  refused hk := by rw [Symbols.artifact, if_neg (Bool.not_eq_true _ ▸ hk)]

/-- In an assembled model, all providers answer for all shapes, the variants of violations are found
and artifacts are generated, if no circle of references consists of lists, maps and members alone.
Circles through structures and unions do no harm. If there is a circle of the former kind, the plain
symbols of the shapes on it have no end. -/
theorem answers_iff {m : Model} (hm : m.Assembled) {y : Symbols} (hy : y.model = m)
    (p : Protocol) :
    (∀ s ∈ m.shapes, y.Answers p s) ↔ ∀ s ∈ m.shapes, ¬ TransGen m.SpellsOut s s := by
  obtain rfl := hy
  have hm := Model.sound_of_assembled hm
  simp only [← hm.transGen_spells_iff]
  constructor
  · intro h s hs
    obtain ⟨symbol, hsymbol, -⟩ := (h s hs).plain
    exact ((plain_isOk_iff hm hs).1 ⟨symbol, hsymbol⟩).not_transGen
  · intro hends s hs
    exact answers_of_hasType hm (Model.hasType_of_ends hm hends) p hs

/-- A structure and a list that hold each other are a circle of references, but all providers answer
for both. -/
theorem answers_iff_forest : TransGen Model.forest.Refers treeShape treeShape ∧
    ∀ s ∈ Model.forest.shapes, forest.Answers Placeholder.protocol s := by
  have hm := Model.sound_of_assembled Model.assembled_forest
  have htypes : ∀ s ∈ Model.forest.shapes, (forest.plainAt forest.depth s).isSome = true := by
    decide
  have hends : ∀ s ∈ Model.forest.shapes, ¬ TransGen Model.forest.SpellsOut s s := by
    intro s hs h
    exact (hasType_of_plainAt hm hs (htypes s hs)).not_transGen (hm.transGen_spells_iff.2 h)
  refine ⟨?_, (answers_iff Model.assembled_forest rfl Placeholder.protocol).2 hends⟩
  have hstep {s t : Shape} (ht : t ∈ Model.forest.shapes) (hid : t.id ∈ s.references) :
      TransGen Model.forest.Refers s t := .single ⟨ht, hid⟩
  calc TransGen Model.forest.Refers treeShape treeMember := hstep (by decide) (by decide)
    TransGen _ _ branchesShape := hstep (by decide) (by decide)
    TransGen _ _ branchesMember := hstep (by decide) (by decide)
    TransGen _ _ treeShape := hstep (by decide) (by decide)

end Symbols

end Shapesmith
