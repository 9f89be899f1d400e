import Shapesmith.Proofs.Model.Assembled
import Shapesmith.Proofs.ShapeId.Spelling
import Shapesmith.Proofs.Text.Bytes

/-!
# Ids in order

Ids are compared part by part, their texts byte by byte. Both orders are the same, because the marks
of ids come before everything that can stand in the part in front of them: `#` before the dots and
identifiers of a namespace, `$` before what continues a name.

* `ShapeId.Rooted.compare_eq_lt_iff` : the order of ids is that of their texts;
* `ShapeId.IsMemberOf` says that an id is that of a member, and of which container;
* `ShapeId.isMemberOf_of_between` : what lies between ids of one container is a member of it;
* `Model.ListsMembers` is kept by adding declarations: what shapes list are members of theirs;
* `ShapeId.containers_together` puts this together: in a model, members follow their container.
-/

namespace Shapesmith

namespace ShapeId

/-! ### The order of texts -/

/-- Texts with something behind them are compared without it first, if it begins with a mark that
comes before all their characters. -/
theorem append_lt_append_iff {mark : Char} {s t u v : List Char}
    (hu : ∀ c ∈ u, mark < c) (hv : ∀ c ∈ v, mark < c) (hs : ∀ c ∈ s.head?, c = mark)
    (ht : ∀ c ∈ t.head?, c = mark) : u ++ s < v ++ t ↔ u < v ∨ u = v ∧ s < t := by
  -- a shorter text ends at the mark, and this decides like its end
  have hmark {c : Char} {s u t : List Char} (hc : mark < c) (hs : ∀ d ∈ s.head?, d = mark) :
      s < c :: (u ++ t) ∧ ¬ c :: (u ++ t) < s := by
    cases s with
    | nil => simp
    | cons d s =>
      obtain rfl := hs d rfl
      simp only [List.cons_lt_cons_iff, hc, true_or, lt_asymm hc, hc.ne', false_and, or_self,
        not_false_eq_true, and_self]
  induction u generalizing v with
  | nil =>
    cases v with
    | nil => simp
    | cons d v => simp [(hmark (hv d List.mem_cons_self) hs).1]
  | cons c u ih =>
    cases v with
    | nil => simp [(hmark (hu c List.mem_cons_self) ht).2]
    | cons d v =>
      have hrest := ih (fun x hx => hu x (List.mem_cons_of_mem _ hx))
        (fun x hx => hv x (List.mem_cons_of_mem _ hx))
      simp only [List.cons_append, List.cons_lt_cons_iff, hrest, List.cons.injEq]
      tauto

theorem behindName_lt_iff {a b : Option String} :
    behindName (a.map String.toList) < behindName (b.map String.toList) ↔
      compareMember a b = .lt := by
  cases a <;> cases b
  · simp [behindName, compareMember]
  · simp [behindName, compareMember]
  · simp [behindName, compareMember]
  · simp only [Option.map_some, behindName, List.cons_lt_cons_iff, lt_irrefl, true_and, false_or,
      compareMember, ← String.lt_iff_toList_lt]
    exact compareOfLessAndEq_eq_lt.symm

theorem compare_text_eq_lt_iff {s t : String} : compare s t = .lt ↔ s.toList < t.toList :=
  compareOfLessAndEq_eq_lt.trans String.lt_iff_toList_lt

theorem compare_text_eq_eq_iff {s t : String} : compare s t = .eq ↔ s.toList = t.toList :=
  Std.LawfulEqCmp.compare_eq_iff_eq.trans String.toList_inj.symm

/-- The order of ids is that of their texts. -/
theorem Rooted.compare_eq_lt_iff {a b : ShapeId} (ha : a.Rooted) (hb : b.Rooted) :
    a.compare b = .lt ↔ a.text < b.text := by
  have hspace {id : ShapeId} (h : id.Rooted) : ∀ c ∈ id.space.toList, '#' < c :=
    fun c hc => lt_of_lt_of_le (by decide) (h.space.dot_le hc)
  have hname {id : ShapeId} (h : id.Rooted) : ∀ c ∈ id.name.toList, '$' < c :=
    fun c hc => lt_trans (by decide) (h.name.dot_lt hc)
  have hbehind (id : ShapeId) :
      ∀ c ∈ (behindName (id.member.map String.toList)).head?, c = '$' := by
    cases id.member <;> simp [behindName]
  -- first what is behind the `#`, then all of the text
  have hrest : a.name.toList ++ behindName (a.member.map String.toList) <
      b.name.toList ++ behindName (b.member.map String.toList) ↔
        (compare a.name b.name).then (compareMember a.member b.member) = .lt := by
    rw [append_lt_append_iff (hname ha) (hname hb) (hbehind a) (hbehind b), behindName_lt_iff,
      Ordering.then_eq_lt, compare_text_eq_lt_iff, compare_text_eq_eq_iff]
  rw [String.lt_iff_toList_lt, toList_text, toList_text,
    append_lt_append_iff (hspace ha) (hspace hb) (by simp) (by simp), ShapeId.compare,
    Ordering.then_eq_lt, compare_text_eq_lt_iff, compare_text_eq_eq_iff, ← hrest]
  simp

/-! ### Containers -/

/-- The id is that of a member, and the member belongs to the container. -/
def IsMemberOf (id container : ShapeId) : Prop := id.member ≠ none ∧ id.withoutMember = container

theorem isMemberOf_iff {id container : ShapeId} :
    id.IsMemberOf container.withoutMember ↔ ∃ member, id = container.withMember member := by
  obtain ⟨space, name, member⟩ := id
  cases member <;> simp [IsMemberOf, withoutMember, withMember, ShapeId.mk.injEq]

theorem IsMemberOf.withoutMember_eq {id container : ShapeId} (h : id.IsMemberOf container) :
    container.withoutMember = container := by
  rw [← h.2]
  rfl

/-- Members come after their container. -/
theorem IsMemberOf.container_lt {id container : ShapeId} (h : id.IsMemberOf container) :
    container.compare id = .lt := by
  obtain ⟨space, name, member⟩ := id
  obtain ⟨hmember, rfl⟩ := h
  cases member with
  | none => exact absurd rfl hmember
  | some m =>
    rw [ShapeId.compare, Ordering.then_eq_lt, Ordering.then_eq_lt]
    exact .inr ⟨Std.ReflCmp.compare_self, .inr ⟨Std.ReflCmp.compare_self, rfl⟩⟩

/-- What is compared first is at most the other. -/
theorem le_of_then_eq_lt {s t : String} {rest : Ordering}
    (h : (compare s t).then rest = .lt) : s ≤ t := by
  rcases Ordering.then_eq_lt.1 h with h | ⟨h, -⟩
  · exact le_of_lt (compareOfLessAndEq_eq_lt.1 h)
  · exact le_of_eq (Std.LawfulEqCmp.eq_of_compare h)

/-- What lies between two ids of one container is a member of it. -/
theorem isMemberOf_of_between {a b id : ShapeId} (hab : a.withoutMember = b.withoutMember)
    (ha : a.compare id = .lt) (hb : id.compare b = .lt) : id.IsMemberOf a.withoutMember := by
  obtain ⟨space, name, member⟩ := a
  obtain ⟨space', name', member'⟩ := b
  obtain ⟨s, n, m⟩ := id
  simp only [withoutMember, mk.injEq, and_true] at hab
  obtain ⟨rfl, rfl⟩ := hab
  have hself (text : String) : compare text text = .eq := Std.ReflCmp.compare_self
  simp only [ShapeId.compare] at ha hb
  -- namespace and name are bounded by themselves, so that the members decide
  obtain rfl : space = s := le_antisymm (le_of_then_eq_lt ha) (le_of_then_eq_lt hb)
  simp only [hself, Ordering.eq_then] at ha hb
  obtain rfl : name = n := le_antisymm (le_of_then_eq_lt ha) (le_of_then_eq_lt hb)
  simp only [hself, Ordering.eq_then] at ha
  refine ⟨?_, rfl⟩
  rintro rfl
  cases member <;> cases ha

end ShapeId

namespace Model

/-! ### Models -/

/-- Shapes list their own members, or if they have the id of a member, those of its container. -/
def ListsMembers (shapes : List Shape) : Prop :=
  ∀ s ∈ shapes, ∀ id ∈ s.members, id.IsMemberOf s.id.withoutMember

theorem listsMembers_of_shapes {id : ShapeId} {d : Declaration} {group : List Shape}
    (h : d.shapes id = .ok group) : ListsMembers group := by
  obtain ⟨kind, declared, values, h, hlists, -⟩ := Declaration.exists_withMembers h
  simp only [Declaration.withMembers, Except.bind_eq_ok_iff, Except.pure_eq_ok_iff] at h
  obtain ⟨members, hmembers, traits, -, rfl⟩ := h
  have hids := Declaration.map_id_of_collect hmembers
  obtain ⟨hown, -⟩ := hlists traits _ hids
  intro s hs i hi
  rcases List.mem_cons.1 hs with rfl | hs
  · rw [hown, hids] at hi
    obtain ⟨e, -, rfl⟩ := List.mem_map.1 hi
    exact ShapeId.isMemberOf_iff.2 ⟨e.1, rfl⟩
  · obtain ⟨_, -, hstep⟩ := exists_of_mem_collect hmembers hs
    rw [Declaration.members_of_isMember (Declaration.id_of_memberShape hstep).2] at hi
    cases hi

theorem listsMembers_of_assembled {m : Model} (h : m.Assembled) : ListsMembers m.shapes := by
  obtain ⟨sources, h⟩ := h
  simp only [assemble, insertAll_prelude, Except.bind_eq_ok_iff] at h
  obtain ⟨start, hstart, shapes, hshapes, hclose⟩ := h
  obtain ⟨rfl, -⟩ := of_close hclose
  refine addSources_induct (P := ListsMembers) ?_ ?_ hshapes
  · intro source _ d _ e _ id group shapes out _ hgroup hP hins s hs
    rcases (of_insertAll hins).1 s hs with hs | hs
    · exact hP s hs
    · exact listsMembers_of_shapes hgroup s hs
  · cases hstart
    have hbare : ∀ s ∈ bare.shapes, ∀ id ∈ s.members,
        id.member ≠ none ∧ id.withoutMember = s.id.withoutMember := by decide
    exact hbare

/-- A row can be cut in two if what holds of an entry holds of those in front of it. -/
theorem exists_append_of_pairwise {α : Type} {p : α → Prop} {row : List α}
    (h : row.Pairwise fun a b => p b → p a) :
    ∃ front back, row = front ++ back ∧ (∀ a ∈ front, p a) ∧ ∀ a ∈ back, ¬ p a := by
  induction row with
  | nil => exact ⟨[], [], rfl, by simp, by simp⟩
  | cons a row ih =>
    obtain ⟨hfirst, hrest⟩ := List.pairwise_cons.1 h
    by_cases ha : p a
    · obtain ⟨front, back, rfl, hfront, hback⟩ := ih hrest
      exact ⟨a :: front, back, rfl, List.forall_mem_cons.2 ⟨ha, hfront⟩, hback⟩
    · refine ⟨[], a :: row, rfl, by simp, List.forall_mem_cons.2 ⟨ha, fun b hb hp => ?_⟩⟩
      exact ha (hfirst b hb hp)

/-- In shapes that stand in order, the members of a container follow it without anything else
between them. -/
theorem Sorted.exists_members {shapes : List Shape} (h : Sorted shapes) {s : Shape}
    (hs : s ∈ shapes) : ∃ before own after, shapes = before ++ s :: (own ++ after) ∧
      ∀ e ∈ shapes, e ∈ own ↔ e.id.IsMemberOf s.id := by
  obtain ⟨before, rest, rfl⟩ := List.append_of_mem hs
  obtain ⟨-, hrest, hbefore⟩ := List.pairwise_append.1 h
  obtain ⟨hlater, hrest⟩ := List.pairwise_cons.1 hrest
  have hclosed : rest.Pairwise fun a b => b.id.IsMemberOf s.id → a.id.IsMemberOf s.id := by
    refine hrest.imp_of_mem fun {a b} ha _ hab hb => ?_
    rw [← hb.withoutMember_eq]
    exact ShapeId.isMemberOf_of_between (hb.withoutMember_eq.trans hb.2.symm) (hlater a ha) hab
  obtain ⟨own, after, rfl, hown, hafter⟩ := exists_append_of_pairwise hclosed
  refine ⟨before, own, after, rfl, fun e he => ⟨hown e, fun hmember => ?_⟩⟩
  have hlt := hmember.container_lt
  rcases List.mem_append.1 he with he | he
  · -- a member in front of its container would come before itself
    have := ShapeId.compare_trans (hbefore e he s List.mem_cons_self) hlt
    rw [ShapeId.compare_self] at this
    cases this
  · rcases List.mem_cons.1 he with rfl | he
    · rw [ShapeId.compare_self] at hlt
      cases hlt
    · exact (List.mem_append.1 he).resolve_right fun he => hafter e he hmember

end Model

/-- Ids that have been read, and those that come of them by naming members, stand in the order of
the bytes of their texts. What lies between a container and one of its members is a member of the
same container. So in every model each shape is directly followed by all its members, and the
members that a shape lists are among them. A document can also declare a shape under the id of a
member; what it lists then belongs to the container of that id, and nothing belongs to itself. -/
theorem ShapeId.containers_together :
    (∀ a b : ShapeId, a.Obtained → b.Obtained →
      (a.compare b = .lt ↔ Text.bytes a.text < Text.bytes b.text)) ∧
    (∀ (container id : ShapeId) (member : String),
      (container.compare id = .lt ∧ id.compare (container.withMember member) = .lt ∨
        (container.withMember member).compare id = .lt ∧ id.compare container = .lt) →
      ∃ other, id = container.withMember other) ∧
    ∀ m : Model, m.Assembled → ∀ s ∈ m.shapes,
      (∀ e ∈ m.membersOf s, e.id.IsMemberOf s.id.withoutMember) ∧
      ∃ before own after, m.shapes = before ++ s :: (own ++ after) ∧
        ∀ e ∈ m.shapes, e ∈ own ↔ e.id.IsMemberOf s.id := by
  refine ⟨fun a b ha hb => ?_, fun container id member h => ?_, fun m hm s hs => ⟨?_, ?_⟩⟩
  · rw [ha.rooted.compare_eq_lt_iff hb.rooted, Text.bytes_lt_iff]
  · rw [← isMemberOf_iff]
    rcases h with ⟨ha, hb⟩ | ⟨ha, hb⟩
    · exact isMemberOf_of_between (container.withoutMember_withMember member).symm ha hb
    · have hmember := container.withoutMember_withMember member
      exact hmember ▸ isMemberOf_of_between hmember ha hb
  · intro e he
    obtain ⟨-, hid⟩ := (Model.sound_of_assembled hm).mem_membersOf_iff.1 he
    exact Model.listsMembers_of_assembled hm s hs e.id hid
  · exact (Model.sound_of_assembled hm).sorted.exists_members hs

/-- The exception of the prelude is followed by its members. -/
theorem ShapeId.containers_together_exception :
    Text.bytes "a.b#Cog$tooth" < Text.bytes "a.b#Cog1" ∧
    (∃ other, (⟨"smithy.framework", "ValidationException", some "fieldList"⟩ : ShapeId) =
      validationExceptionId.withMember other) ∧
    ∃ before own after,
      Model.bare.shapes = before ++ Prelude.exceptionShape :: (own ++ after) ∧
      ∀ e ∈ Model.bare.shapes, e ∈ own ↔ e.id.IsMemberOf validationExceptionId := by
  obtain ⟨hbytes, hbetween, hmodels⟩ := ShapeId.containers_together
  have htooth : ShapeId.Obtained ⟨"a.b", "Cog", some "tooth"⟩ :=
    .withMember (@ShapeId.Obtained.read "a.b#Cog" _ rfl) "tooth"
  have hcog : ShapeId.Obtained ⟨"a.b", "Cog1", none⟩ := @ShapeId.Obtained.read "a.b#Cog1" _ rfl
  refine ⟨(hbytes _ _ htooth hcog).1 (by decide), ?_, ?_⟩
  · exact hbetween validationExceptionId _ "message" (.inl (by decide))
  · exact (hmodels Model.bare Model.assembled_bare Prelude.exceptionShape (by decide)).2

end Shapesmith
