import Shapesmith.Proofs.Model.Integrity

/-!
# Boxes break exactly the circles of values in place

A structure or union holds the values of its members in place. A member is boxed when its target
leads back to the structure or union that has it, through structures and unions only.

* `Model.HoldsUnboxed` : a structure or union has an unboxed member whose target is another;
* `Model.isBoxed_iff_leads_back` : in a model of documents that declare shapes, a member is boxed
  exactly when its target leads back to its owner. So nothing holds itself unboxed, and members of
  lists and maps are never boxed;
* `Model.isBoxed_congr` : which members are boxed depends only on the ids and kinds of shapes.
-/

namespace Shapesmith

open Relation

namespace Model

variable {m : Model}

/-! ### Circles -/

/-- A structure or union has an unboxed member whose target is the other structure or union. -/
def HoldsUnboxed (m : Model) (c d : Shape) : Prop :=
  (c.isStruct = true ∨ c.isUnion = true) ∧ (d.isStruct = true ∨ d.isUnion = true) ∧
    ∃ e ∈ m.membersOf c, m.isBoxed e.id = false ∧ d = m.targetOf e

theorem HoldsUnboxed.holdsByValue {c d : Shape} (h : m.HoldsUnboxed c d) : m.HoldsByValue c d := by
  obtain ⟨hk, -, e, he, -, hd⟩ := h
  exact ⟨hk, e, he, hd⟩

/-- What has members of a shape in common is that shape. -/
theorem Paired.owner_unique (hp : m.Paired) (hm : m.Sound) {s t e : Shape} (hs : s ∈ m.shapes)
    (ht : t ∈ m.shapes) (he : e ∈ m.membersOf s) (he' : e ∈ m.membersOf t) : s = t := by
  obtain ⟨hmem, hid⟩ := hm.mem_membersOf_iff.1 he
  obtain ⟨u, -, -, -, hu⟩ := hp e hmem (hm.isMember_of_mem hs he)
  rw [hu s hs hid, hu t ht (hm.mem_membersOf_iff.1 he').2]

theorem isBoxed_iff_of_paired (hm : m.Sound) (hp : m.Paired) {c e : Shape} (hc : c ∈ m.shapes)
    (he : e ∈ m.membersOf c) : m.isBoxed e.id = true ↔
      (c.isStruct = true ∨ c.isUnion = true) ∧ ReflTransGen m.HoldsByValue (m.targetOf e) c := by
  rw [isBoxed_iff hm hc he]
  constructor
  · rintro ⟨h, hh, hk, heh, hback⟩
    obtain rfl := hp.owner_unique hm hc hh he heh
    exact ⟨hk, hback⟩
  · rintro ⟨hk, hback⟩
    exact ⟨c, hc, hk, he, hback⟩

/-- A circle would lead its first member back to the owner, so that the member is boxed. -/
theorem not_transGen_holdsUnboxed (hm : m.Sound) (hp : m.Paired) (c : Shape) :
    ¬ TransGen m.HoldsUnboxed c c := by
  intro h
  have hc : c ∈ m.shapes := by
    obtain ⟨b, -, hlast⟩ := TransGen.tail'_iff.1 h
    exact hlast.holdsByValue.mem hm
  obtain ⟨d, ⟨hk, -, e, he, hunboxed, rfl⟩, hrest⟩ := TransGen.head'_iff.1 h
  have hback : ReflTransGen m.HoldsByValue (m.targetOf e) c :=
    ReflTransGen.mono (fun _ _ hstep => HoldsUnboxed.holdsByValue hstep) _ _ hrest
  rw [(isBoxed_iff_of_paired hm hp hc he).2 ⟨hk, hback⟩] at hunboxed
  cases hunboxed

/-! ### Traits do not matter -/

/-- The shape without its traits. -/
def outlineOf (s : Shape) : Shape := { s with traits := [] }

/-- The model without traits. -/
def outline (m : Model) : Model := ⟨m.shapes.map outlineOf⟩

theorem find?_outline (id : ShapeId) : m.outline.find? id = (m.find? id).map outlineOf :=
  List.find?_map

theorem membersOf_outline (s : Shape) :
    m.outline.membersOf (outlineOf s) = (m.membersOf s).map outlineOf := by
  rw [membersOf, membersOf, List.map_filterMap]
  exact List.filterMap_congr fun id _ => find?_outline id

theorem heldByValue_outline : m.outline.heldByValue = m.heldByValue := by
  funext id
  rw [heldByValue, heldByValue, find?_outline]
  cases m.find? id with
  | none => rfl
  | some s =>
    rw [Option.map_some]
    dsimp only
    rw [membersOf_outline, List.filterMap_map]
    rfl

theorem searchSteps_outline (s : Shape) :
    m.outline.searchSteps (outlineOf s) = m.searchSteps s := by
  rw [searchSteps, searchSteps, outline, ← List.map_cons, List.flatMap_map]
  rfl

/-- Which members are boxed does not depend on traits. -/
theorem isBoxed_outline (id : ShapeId) : m.outline.isBoxed id = m.isBoxed id := by
  have hholders : m.outline.holders id = (m.holders id).map outlineOf := List.filter_map
  have htarget : (m.outline.find? id).bind Shape.target? = (m.find? id).bind Shape.target? := by
    rw [find?_outline]
    cases m.find? id <;> rfl
  rw [isBoxed, isBoxed, htarget]
  cases (m.find? id).bind Shape.target? with
  | none => rfl
  | some target =>
    dsimp only
    rw [hholders, List.any_map, heldByValue_outline]
    refine congrArg (List.any _) (funext fun s => ?_)
    rw [Function.comp_apply, searchSteps_outline]
    rfl

theorem map_outlineOf_eq {as bs : List Shape}
    (h : List.Forall₂ (fun s t => s.id = t.id ∧ s.kind = t.kind) as bs) :
    as.map outlineOf = bs.map outlineOf := by
  induction h with
  | nil => rfl
  | cons hst _ ih => rw [List.map_cons, List.map_cons, ih, outlineOf, outlineOf, hst.1, hst.2]

/-- Which members are boxed depends only on the ids and kinds of shapes. -/
theorem isBoxed_congr {n : Model}
    (h : List.Forall₂ (fun s t => s.id = t.id ∧ s.kind = t.kind) m.shapes n.shapes)
    (id : ShapeId) : m.isBoxed id = n.isBoxed id := by
  rw [← isBoxed_outline, outline, map_outlineOf_eq h, ← outline, isBoxed_outline]

/-! ### Assembled models -/

theorem paired_of_assemble {sources : List String} (h : assemble sources = .ok m)
    (hdocs : ∀ source ∈ sources, ∀ d, Document.ofText source = .ok d → d.DeclaresShapes) :
    m.Paired := by
  have hm := sound_of_assembled ⟨sources, h⟩
  rw [assemble_eq_bind_close] at h
  obtain ⟨shapes, hmerged, hclose⟩ := Except.bind_eq_ok_iff.1 h
  obtain ⟨rfl, -⟩ := of_close hclose
  exact hm.paired (ownsMembers_of_merged hdocs hmerged)

/-- In a model of documents that declare shapes, a member of a structure or union is boxed exactly
when its target leads back to its owner through structures and unions. So nothing holds itself
unboxed. Members of other shapes are never boxed. -/
theorem isBoxed_iff_leads_back {sources : List String} (h : assemble sources = .ok m)
    (hdocs : ∀ source ∈ sources, ∀ d, Document.ofText source = .ok d → d.DeclaresShapes) :
    (∀ c ∈ m.shapes, c.isStruct = true ∨ c.isUnion = true → ∀ e ∈ m.membersOf c,
      (m.isBoxed e.id = true ↔ ReflTransGen m.HoldsByValue (m.targetOf e) c)) ∧
    (∀ c, ¬ TransGen m.HoldsUnboxed c c) ∧
    ∀ s ∈ m.shapes, s.isStruct = false → s.isUnion = false →
      ∀ e ∈ m.membersOf s, m.isBoxed e.id = false := by
  have hm := sound_of_assembled ⟨sources, h⟩
  have hp := paired_of_assemble h hdocs
  refine ⟨fun c hc hk e he => ?_, not_transGen_holdsUnboxed hm hp,
    fun s hs hstruct hunion e he => ?_⟩
  · rw [isBoxed_iff_of_paired hm hp hc he]
    exact and_iff_right hk
  · rw [← Bool.not_eq_true, isBoxed_iff_of_paired hm hp hs he, hstruct, hunion]
    rintro ⟨hk, -⟩
    rcases hk with hk | hk <;> cases hk

end Model

/-! ### Two shapes that hold each other -/

/-- A structure with a list of its kind and a union. -/
def pingShape : Shape :=
  ⟨⟨"a", "Ping", none⟩, .struct [⟨"a", "Ping", some "kids"⟩, ⟨"a", "Ping", some "pong"⟩], []⟩

/-- A union with such a structure. -/
def pongShape : Shape :=
  ⟨⟨"a", "Pong", none⟩, .union [⟨"a", "Pong", some "leaf"⟩, ⟨"a", "Pong", some "ping"⟩], []⟩

/-- A list of such structures. -/
def kidsShape : Shape := ⟨⟨"a", "Kids", none⟩, .list ⟨"a", "Kids", some "member"⟩, []⟩

/-- A member without traits. -/
def plainMember (name member : String) (target : ShapeId) : Shape :=
  ⟨⟨"a", name, some member⟩, .member target, []⟩

/-- The model of these shapes. -/
def Model.rally : Model := ⟨[kidsShape, plainMember "Kids" "member" pingShape.id, pingShape,
  plainMember "Ping" "kids" kidsShape.id, plainMember "Ping" "pong" pongShape.id, pongShape,
  plainMember "Pong" "leaf" Prelude.stringId, plainMember "Pong" "ping" pingShape.id] ++
  bare.shapes⟩

/-- The document of that model. -/
def rallySource : String := "[\"2\",\x7b\"a#Kids\":[\"list\",[\"a#Ping\"]]," ++
  "\"a#Ping\":[\"structure\",\x7b\"kids\":[\"a#Kids\"],\"pong\":[\"a#Pong\"]\x7d]," ++
  "\"a#Pong\":[\"union\",\x7b\"leaf\":[\"smithy.api#String\"],\"ping\":[\"a#Ping\"]\x7d]\x7d]"

theorem Model.isBoxed_iff_leads_back_rally : assemble [rallySource] = .ok rally ∧
    ReflTransGen rally.HoldsByValue pongShape pingShape ∧
    ¬ ReflTransGen rally.HoldsByValue kidsShape pingShape ∧
    (∀ c, ¬ TransGen rally.HoldsUnboxed c c) ∧
    rally.isBoxed ⟨"a", "Kids", some "member"⟩ = false := by
  have hread : Document.ofText rallySource = Document.readList (Json.depthLimit - 1) _ :=
    Document.ofText_list (by
      delta rallySource
      repeat rw [String.toList_append]
      repeat rw [String.toList_ofList]
      rfl)
  have hok : assemble [rallySource] = .ok rally := by
    refine assemble_of_ofText ?_ (by decide)
    rw [hread]
    decide +kernel
  have hdocs : ∀ source ∈ [rallySource], ∀ d, Document.ofText source = .ok d →
      d.DeclaresShapes := by
    have hdecide : (Document.ofText rallySource).map (fun d => decide d.DeclaresShapes) =
        .ok true := by
      rw [hread]
      decide +kernel
    intro source hs d hd
    rw [← List.mem_singleton.1 hs, hd] at hdecide
    exact of_decide_eq_true (Except.ok.inj hdecide)
  obtain ⟨hboxed, hnone, hlists⟩ := isBoxed_iff_leads_back hok hdocs
  have hping := hboxed pingShape (by decide) (.inl rfl)
  refine ⟨hok, ?_, ?_, hnone, hlists kidsShape (by decide) rfl rfl
    (plainMember "Kids" "member" pingShape.id) (by decide)⟩
  · have hpong : rally.targetOf (plainMember "Ping" "pong" pongShape.id) = pongShape := by decide
    rw [← hpong]
    exact (hping _ (by decide)).1 (by decide)
  · have hkids : rally.targetOf (plainMember "Ping" "kids" kidsShape.id) = kidsShape := by decide
    rw [← hkids, ← hping _ (by decide)]
    decide

end Shapesmith
