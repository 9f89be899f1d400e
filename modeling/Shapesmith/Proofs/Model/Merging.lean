import Shapesmith.Proofs.Model.Boxing
import Shapesmith.Proofs.Model.Same

/-!
# Merging documents

Documents, and what they declare, may come in any order and more than once. Of the definitions of
a shape the first is kept, and the others must be the same.

* `Model.Given` : the shapes of the prelude and of declarations;
* `Model.Merges` : what adding shapes one after the other leads to. `Model.exists_insertAll_iff`
  says when it succeeds, without the order in which they are added;
* `Model.exists_assemble_iff` : documents are assembled exactly when they fit together, and then the
  model holds what they declare (`Model.holds_of_assemble`);
* `Model.assemble_unordered` : models of the same documents are the same, and another copy of a
  document changes nothing.
-/

namespace Shapesmith

/-- The shapes of a declaration under the text of its id. -/
def Declaration.lower (declared : String × Declaration) : Except Failure (List Shape) := do
  let id ← ShapeId.read declared.1
  declared.2.shapes id

namespace Document

/-- The documents declare the same, in any order. -/
def Alike (d d' : Document) : Prop := d.shapes.Perm d'.shapes

/-- The lists hold the same documents, in any order and any number of times. -/
structure SameSet (ds ds' : List Document) : Prop where
  /-- The second list holds what the first one holds. -/
  left : ∀ d ∈ ds, ∃ d' ∈ ds', d.Alike d'
  /-- The first list holds what the second one holds. -/
  right : ∀ d' ∈ ds', ∃ d ∈ ds, d'.Alike d

/-- The declarations of documents. -/
def declared (ds : List Document) : List (String × Declaration) := ds.flatMap (·.shapes)

theorem mem_declared_of_alike {ds : List Document} {d d' : Document} (hd : d' ∈ ds)
    (h : d.Alike d') {e : String × Declaration} (he : e ∈ d.shapes) : e ∈ declared ds :=
  List.mem_flatMap.2 ⟨d', hd, h.mem_iff.1 he⟩

theorem SameSet.mem_declared_iff {ds ds' : List Document} (h : SameSet ds ds')
    (e : String × Declaration) : e ∈ declared ds ↔ e ∈ declared ds' := by
  constructor
  · intro he
    obtain ⟨d, hd, he⟩ := List.mem_flatMap.1 he
    obtain ⟨d', hd', halike⟩ := h.left d hd
    exact mem_declared_of_alike hd' halike he
  · intro he
    obtain ⟨d, hd, he⟩ := List.mem_flatMap.1 he
    obtain ⟨d', hd', halike⟩ := h.right d hd
    exact mem_declared_of_alike hd' halike he

end Document

namespace Model

/-! ### Adding shapes -/

variable {shapes group out given : List Shape} {s t : Shape}

/-- Under an id that is taken, a shape must be the same as the one that is there. -/
theorem insert_of_mem (hs : Sorted shapes) (ht : t ∈ shapes) (hid : t.id = s.id) :
    insert shapes s = if t.same s then .ok shapes else .error (.shapeConflict s.id) := by
  induction shapes with
  | nil => cases ht
  | cons u rest ih =>
    obtain ⟨hlt, hrest⟩ := List.pairwise_cons.1 hs
    rw [insert]
    rcases List.mem_cons.1 ht with rfl | ht
    · rw [← hid, ShapeId.compare_self]
    · -- shapes in front of it have smaller ids
      have hgt : s.id.compare u.id = .gt := by
        rw [ShapeId.compare_swap, ← hid, hlt t ht]
        rfl
      rw [hgt]
      dsimp only
      rw [ih hrest ht]
      split <;> rfl

/-- A shape with a new id can be added. -/
theorem exists_insert_of_new (hnew : ∀ t ∈ shapes, t.id ≠ s.id) :
    ∃ out, insert shapes s = .ok out := by
  induction shapes with
  | nil => exact ⟨[s], rfl⟩
  | cons u rest ih =>
    rw [insert]
    cases hc : s.id.compare u.id with
    | lt => exact ⟨_, rfl⟩
    | eq => exact absurd (ShapeId.eq_of_compare hc).symm (hnew u List.mem_cons_self)
    | gt =>
      obtain ⟨out, hout⟩ := ih fun t ht => hnew t (List.mem_cons_of_mem _ ht)
      exact ⟨u :: out, by rw [hout]; rfl⟩

/-- After adding a shape, the same shape is there. -/
theorem exists_same_of_insert (hs : Sorted shapes) (hd : s.traits.Distinct)
    (h : insert shapes s = .ok out) : ∃ t ∈ out, t.same s = true := by
  obtain ⟨hnew, -, t, ht, hid, -⟩ := of_insert h
  rcases hnew t ht with ht' | rfl
  · rw [insert_of_mem hs ht' hid] at h
    split at h
    · rename_i hsame
      exact ⟨t, ht, hsame⟩
    · cases h
  · exact ⟨t, ht, Shape.same_refl hd⟩

/-- What adding given shapes one after the other leads to. -/
structure Merges (given shapes : List Shape) : Prop where
  /-- The order. -/
  sorted : Sorted shapes
  /-- Nothing is added to what is given. -/
  taken : ∀ s ∈ shapes, s ∈ given
  /-- Nothing of what is given is lost. -/
  kept : ∀ s ∈ given, ∃ t ∈ shapes, t.same s = true

theorem merges_nil : Merges [] [] := ⟨List.Pairwise.nil, by simp, by simp⟩

theorem Merges.insert (hm : Merges given shapes) (hd : s.traits.Distinct)
    (h : Model.insert shapes s = .ok out) : Merges (given ++ [s]) out := by
  obtain ⟨hnew, hold, -⟩ := of_insert h
  refine ⟨sorted_insert hm.sorted h, fun t ht => ?_, fun t ht => ?_⟩
  · rcases hnew t ht with ht | rfl
    · exact List.mem_append_left _ (hm.taken t ht)
    · exact List.mem_append_right _ List.mem_cons_self
  · rcases List.mem_append.1 ht with ht | ht
    · obtain ⟨u, hu, hsame⟩ := hm.kept t ht
      exact ⟨u, hold u hu, hsame⟩
    · obtain rfl := List.mem_singleton.1 ht
      exact exists_same_of_insert hm.sorted hd h

theorem Merges.insertAll (hm : Merges given shapes) (hd : ∀ s ∈ group, s.traits.Distinct)
    (h : Model.insertAll shapes group = .ok out) : Merges (given ++ group) out := by
  induction group generalizing given shapes with
  | nil =>
    cases h
    rwa [List.append_nil]
  | cons s group ih =>
    obtain ⟨shapes', hins, hrest⟩ := Except.bind_eq_ok_iff.1 h
    obtain ⟨hs, hgroup⟩ := List.forall_mem_cons.1 hd
    have := ih (hm.insert hs hins) hgroup hrest
    rwa [List.append_assoc, List.singleton_append] at this

/-- Shapes with the same id are the same. -/
def Agreeing (shapes : List Shape) : Prop :=
  ∀ s ∈ shapes, ∀ t ∈ shapes, s.id = t.id → s.same t = true

/-- A shape can be added if it is the same as all those with its id. -/
theorem Merges.exists_insert (hm : Merges given shapes)
    (hagree : ∀ t ∈ given, t.id = s.id → t.same s = true) :
    ∃ out, Model.insert shapes s = .ok out := by
  by_cases hmem : ∃ t ∈ shapes, t.id = s.id
  · obtain ⟨t, ht, hid⟩ := hmem
    exact ⟨shapes, by rw [insert_of_mem hm.sorted ht hid, if_pos (hagree t (hm.taken t ht) hid)]⟩
  · exact exists_insert_of_new fun t ht hid => hmem ⟨t, ht, hid⟩

theorem Merges.exists_insertAll (hm : Merges given shapes) (hd : ∀ s ∈ group, s.traits.Distinct)
    (hagree : Agreeing (given ++ group)) : ∃ out, Model.insertAll shapes group = .ok out := by
  induction group generalizing given shapes with
  | nil => exact ⟨shapes, rfl⟩
  | cons s group ih =>
    obtain ⟨hs, hgroup⟩ := List.forall_mem_cons.1 hd
    obtain ⟨shapes', hins⟩ := hm.exists_insert (s := s) fun t ht =>
      hagree t (List.mem_append_left _ ht) s (List.mem_append_right _ List.mem_cons_self)
    rw [List.append_cons] at hagree
    obtain ⟨out, hout⟩ := ih (hm.insert hs hins) hgroup hagree
    exact ⟨out, Except.bind_eq_ok_iff.2 ⟨shapes', hins, hout⟩⟩

/-- Two definitions that both are the same as the one that is kept are the same. -/
theorem Merges.agreeing (hm : Merges given shapes) (hd : ∀ s ∈ given, s.traits.Distinct) :
    Agreeing given := by
  intro s hs t ht hid
  obtain ⟨u, hu, hus⟩ := hm.kept s hs
  obtain ⟨v, hv, hvt⟩ := hm.kept t ht
  obtain rfl : u = v := hm.sorted.eq_of_id_eq hu hv
    ((Shape.id_eq_of_same hus).trans (hid.trans (Shape.id_eq_of_same hvt).symm))
  have hdu := hd u (hm.taken u hu)
  exact Shape.same_trans (hd s hs) hdu (hd t ht) (Shape.same_symm hdu (hd s hs) hus) hvt

/-- Shapes can be added one after the other exactly when those with the same id are the same. -/
theorem exists_insertAll_iff (hd : ∀ s ∈ given, s.traits.Distinct) :
    (∃ out, insertAll [] given = .ok out) ↔ Agreeing given := by
  constructor
  · rintro ⟨out, h⟩
    exact (merges_nil.insertAll hd h).agreeing hd
  · exact merges_nil.exists_insertAll hd

/-- Adding shapes that are there already changes nothing. -/
theorem insertAll_of_kept (hs : Sorted shapes)
    (h : ∀ s ∈ group, ∃ t ∈ shapes, t.same s = true) : insertAll shapes group = .ok shapes := by
  induction group with
  | nil => rfl
  | cons s group ih =>
    obtain ⟨⟨t, ht, hsame⟩, hgroup⟩ := List.forall_mem_cons.1 h
    refine Except.bind_eq_ok_iff.2 ⟨shapes, ?_, ih hgroup⟩
    rw [insert_of_mem hs ht (Shape.id_eq_of_same hsame), if_pos hsame]

theorem insertAll_append (shapes group more : List Shape) :
    insertAll shapes (group ++ more) =
      insertAll shapes group >>= fun shapes => insertAll shapes more := by
  induction group generalizing shapes with
  | nil => rfl
  | cons s group ih => simp only [List.cons_append, insertAll, ih, bind_assoc]

/-! ### Adding declarations -/

variable {declared declared' : List (String × Declaration)}

/-- The shape is in the prelude or belongs to one of the declarations. -/
def Given (declared : List (String × Declaration)) (s : Shape) : Prop :=
  s ∈ Model.prelude ∨ ∃ e ∈ declared, ∃ group, Declaration.lower e = .ok group ∧ s ∈ group

theorem addDeclarations_append (shapes : List Shape) (declared more : List (String × Declaration)) :
    addDeclarations shapes (declared ++ more) =
      addDeclarations shapes declared >>= fun shapes => addDeclarations shapes more := by
  induction declared generalizing shapes with
  | nil => rfl
  | cons e declared ih => simp only [List.cons_append, addDeclarations, ih, bind_assoc]

/-- Declarations are added by adding all their shapes. -/
theorem addDeclarations_eq_ok_iff : addDeclarations shapes declared = .ok out ↔
    ∃ groups, collect Declaration.lower declared = .ok groups ∧
      insertAll shapes groups.flatten = .ok out := by
  induction declared generalizing shapes with
  | nil => simp [addDeclarations, collect, insertAll]
  | cons e declared ih =>
    simp only [addDeclarations, collect, Declaration.lower, Except.bind_eq_ok_iff,
      Except.pure_eq_ok_iff, ih]
    constructor
    · rintro ⟨id, hid, group, hgroup, shapes', hins, groups, hgroups, hrest⟩
      refine ⟨_, ⟨group, ⟨id, hid, hgroup⟩, groups, hgroups, rfl⟩, ?_⟩
      rw [List.flatten_cons, insertAll_append, Except.bind_eq_ok_iff]
      exact ⟨shapes', hins, hrest⟩
    · rintro ⟨_, ⟨group, ⟨id, hid, hgroup⟩, groups, hgroups, rfl⟩, hins⟩
      rw [List.flatten_cons, insertAll_append, Except.bind_eq_ok_iff] at hins
      obtain ⟨shapes', hins, hrest⟩ := hins
      exact ⟨id, hid, group, hgroup, shapes', hins, groups, hgroups, hrest⟩

/-! ### Adding documents -/

variable {sources : List String} {ds : List Document} {m : Model}

theorem addSources_of_collect (h : collect Document.ofText sources = .ok ds)
    (shapes : List Shape) :
    addSources shapes sources = addDeclarations shapes (Document.declared ds) := by
  have hall := collect_eq_ok_iff.1 h
  clear h
  induction hall generalizing shapes with
  | nil => rfl
  | @cons source d sources ds hd _ ih =>
    rw [addSources, hd, Document.declared, List.flatMap_cons, addDeclarations_append]
    exact congrArg _ (funext ih)

/-- Documents that can be read are merged by adding their shapes to the prelude. -/
theorem merged_eq_ok_iff (h : collect Document.ofText sources = .ok ds) :
    merged sources = .ok shapes ↔
      ∃ groups, collect Declaration.lower (Document.declared ds) = .ok groups ∧
        insertAll [] (Model.prelude ++ groups.flatten) = .ok shapes := by
  rw [merged_eq_addSources, addSources_of_collect h, addDeclarations_eq_ok_iff]
  simp only [insertAll_append, insertAll_prelude]
  rfl

theorem mem_given_iff {groups : List (List Shape)}
    (h : collect Declaration.lower declared = .ok groups) :
    s ∈ Model.prelude ++ groups.flatten ↔ Given declared s := by
  rw [List.mem_append, mem_flatten_collect_iff (Except.map_eq_ok_iff.2 ⟨groups, h, rfl⟩), Given]

/-- What documents declare gives each trait and each key once. -/
theorem distinct_of_given (h : collect Document.ofText sources = .ok ds)
    (hs : Given (Document.declared ds) s) : s.traits.Distinct := by
  rcases hs with hs | ⟨e, he, group, hlower, hs⟩
  · exact distinct_prelude s hs
  · obtain ⟨d, hd, he⟩ := List.mem_flatMap.1 he
    obtain ⟨source, -, hread⟩ := exists_of_mem_collect h hd
    obtain ⟨id, -, hgroup⟩ := Except.bind_eq_ok_iff.1 hlower
    exact Declaration.distinct_of_shapes (Document.tidy_of_ofText hread e he) hgroup s hs

/-! ### Documents that fit together -/

/-- The declarations make up a model. -/
structure Fit (declared : List (String × Declaration)) : Prop where
  /-- Each of them has shapes. -/
  lowered : ∀ e ∈ declared, ∃ group, Declaration.lower e = .ok group
  /-- Shapes with the same id are the same. -/
  agreeing : ∀ s t, Given declared s → Given declared t → s.id = t.id → s.same t = true
  /-- References lead to shapes. -/
  closed : ∀ s, Given declared s → ∀ id ∈ s.references, ∃ t, Given declared t ∧ t.id = id

/-- The model holds the prelude and the declarations, and nothing else. -/
structure Holds (m : Model) (declared : List (String × Declaration)) : Prop where
  /-- Each declaration has shapes. -/
  lowered : ∀ e ∈ declared, ∃ group, Declaration.lower e = .ok group
  /-- Nothing is added. -/
  taken : ∀ s ∈ m.shapes, Given declared s
  /-- Nothing is lost. -/
  kept : ∀ s, Given declared s → ∃ t, m.find? s.id = some t ∧ t.same s = true

theorem given_congr (h : ∀ e, e ∈ declared ↔ e ∈ declared') (s : Shape) :
    Given declared s ↔ Given declared' s := by
  simp only [Given, h]

theorem Fit.congr (h : ∀ e, e ∈ declared ↔ e ∈ declared') (hfit : Fit declared) :
    Fit declared' := by
  have hgiven := given_congr h
  obtain ⟨hlowered, hagreeing, hclosed⟩ := hfit
  simp only [h, hgiven] at hlowered hagreeing hclosed
  exact ⟨hlowered, hagreeing, hclosed⟩

theorem Holds.congr (h : ∀ e, e ∈ declared ↔ e ∈ declared') (hm : m.Holds declared') :
    m.Holds declared where
  lowered e he := hm.lowered e ((h e).1 he)
  taken s hs := (given_congr h s).2 (hm.taken s hs)
  kept s hs := hm.kept s ((given_congr h s).1 hs)

theorem references_eq_of_same (h : s.same t = true) : s.references = t.references := by
  rw [Shape.references, Shape.references, Shape.kind_eq_of_same h, Shape.members,
    Shape.members, Shape.kind_eq_of_same h]

/-- Assembling merges what is given. -/
theorem merges_of_assemble (h : collect Document.ofText sources = .ok ds)
    (hm : assemble sources = .ok m) :
    ∃ groups, collect Declaration.lower (Document.declared ds) = .ok groups ∧
      Merges (Model.prelude ++ groups.flatten) m.shapes := by
  rw [assemble_eq_bind_close] at hm
  obtain ⟨shapes, hmerged, hclose⟩ := Except.bind_eq_ok_iff.1 hm
  obtain ⟨rfl, -⟩ := of_close hclose
  obtain ⟨groups, hgroups, hins⟩ := (merged_eq_ok_iff h).1 hmerged
  exact ⟨groups, hgroups, merges_nil.insertAll
    (fun s hs => distinct_of_given h ((mem_given_iff hgroups).1 hs)) hins⟩

theorem holds_of_assemble (h : collect Document.ofText sources = .ok ds)
    (hm : assemble sources = .ok m) : m.Holds (Document.declared ds) := by
  have hsound := sound_of_assembled ⟨sources, hm⟩
  obtain ⟨groups, hgroups, hmerges⟩ := merges_of_assemble h hm
  refine ⟨collect_isOk_iff.1 ⟨groups, hgroups⟩,
    fun s hs => (mem_given_iff hgroups).1 (hmerges.taken s hs), fun s hs => ?_⟩
  obtain ⟨t, ht, hsame⟩ := hmerges.kept s ((mem_given_iff hgroups).2 hs)
  exact ⟨t, hsound.find?_eq_some_iff.2 ⟨ht, Shape.id_eq_of_same hsame⟩, hsame⟩

/-- Documents that are assembled fit together. -/
theorem fit_of_assemble (h : collect Document.ofText sources = .ok ds)
    (hm : assemble sources = .ok m) : Fit (Document.declared ds) := by
  have hsound := sound_of_assembled ⟨sources, hm⟩
  obtain ⟨groups, hgroups, hmerges⟩ := merges_of_assemble h hm
  have hgiven {s : Shape} := mem_given_iff (s := s) hgroups
  have hagreeing := hmerges.agreeing fun s hs => distinct_of_given h (hgiven.1 hs)
  refine ⟨collect_isOk_iff.1 ⟨groups, hgroups⟩,
    fun s t hs ht => hagreeing s (hgiven.2 hs) t (hgiven.2 ht), fun s hs id hid => ?_⟩
  obtain ⟨t, ht, hsame⟩ := hmerges.kept s (hgiven.2 hs)
  rw [← references_eq_of_same hsame] at hid
  obtain ⟨u, hu, rfl⟩ := hsound.closed t ht id hid
  exact ⟨u, hgiven.1 (hmerges.taken u hu), rfl⟩

/-- Documents that can be read are assembled exactly when they fit together. -/
theorem exists_assemble_iff (h : collect Document.ofText sources = .ok ds) :
    (∃ m, assemble sources = .ok m) ↔ Fit (Document.declared ds) := by
  constructor
  · rintro ⟨m, hm⟩
    exact fit_of_assemble h hm
  · rintro ⟨hlowered, hagreeing, hclosed⟩
    obtain ⟨groups, hgroups⟩ := collect_isOk_iff.2 hlowered
    have hgiven {s : Shape} := mem_given_iff (s := s) hgroups
    have hd := fun s hs => distinct_of_given (s := s) h (hgiven.1 hs)
    obtain ⟨shapes, hins⟩ := (exists_insertAll_iff hd).2 fun s hs t ht =>
      hagreeing s t (hgiven.1 hs) (hgiven.1 ht)
    have hmerges := merges_nil.insertAll hd hins
    refine ⟨⟨shapes⟩, ?_⟩
    rw [assemble_eq_bind_close, (merged_eq_ok_iff h).2 ⟨groups, hgroups, hins⟩]
    refine close_eq_ok_iff.2 ⟨rfl, fun s hs id hid => ?_⟩
    obtain ⟨t, ht, rfl⟩ := hclosed s (hgiven.1 (hmerges.taken s hs)) id hid
    obtain ⟨u, hu, hsame⟩ := hmerges.kept t (hgiven.2 ht)
    exact ⟨u, hu, Shape.id_eq_of_same hsame⟩

/-! ### Models of the same documents -/

variable {n : Model}

/-- Shapes in order that have the same ids have them in the same places. -/
theorem Sorted.map_id_eq {shapes shapes' : List Shape} (h : Sorted shapes) (h' : Sorted shapes')
    (hids : ∀ id, id ∈ shapes.map (·.id) ↔ id ∈ shapes'.map (·.id)) :
    shapes.map (·.id) = shapes'.map (·.id) := by
  have hsorted {shapes : List Shape} (h : Sorted shapes) :
      (shapes.map (·.id)).Pairwise fun a b => a.compare b = .lt := List.pairwise_map.2 h
  refine List.Perm.eq_of_pairwise (fun a b _ _ hab hba => ?_) (hsorted h) (hsorted h')
    ((List.perm_ext_iff_of_nodup h.nodup_ids h'.nodup_ids).2 hids)
  have hself := ShapeId.compare_trans hab hba
  rw [ShapeId.compare_self] at hself
  cases hself

theorem Holds.exists_same (h : m.Holds declared) (h' : n.Holds declared) (hs : s ∈ m.shapes) :
    ∃ t ∈ n.shapes, t.same s = true := by
  obtain ⟨t, ht, hsame⟩ := h'.kept s (h.taken s hs)
  exact ⟨t, List.mem_of_find?_eq_some ht, hsame⟩

/-- Models that hold the same declarations have the same ids. -/
theorem Holds.map_id_eq (h : m.Holds declared) (h' : n.Holds declared) (hm : m.Sound)
    (hn : n.Sound) : m.shapes.map (·.id) = n.shapes.map (·.id) := by
  refine hm.sorted.map_id_eq hn.sorted fun id => ⟨fun hid => ?_, fun hid => ?_⟩
  · obtain ⟨s, hs, rfl⟩ := List.mem_map.1 hid
    obtain ⟨t, ht, hsame⟩ := h.exists_same h' hs
    exact List.mem_map.2 ⟨t, ht, Shape.id_eq_of_same hsame⟩
  · obtain ⟨s, hs, rfl⟩ := List.mem_map.1 hid
    obtain ⟨t, ht, hsame⟩ := h'.exists_same h hs
    exact List.mem_map.2 ⟨t, ht, Shape.id_eq_of_same hsame⟩

/-- Shapes with the same ids in the same places are the same, if those with the same id are. -/
theorem forall₂_same_of_map_id {shapes' : List Shape}
    (hids : shapes.map (·.id) = shapes'.map (·.id))
    (h : ∀ s ∈ shapes, ∀ t ∈ shapes', s.id = t.id → s.same t = true) :
    List.Forall₂ (fun s t => s.same t = true) shapes shapes' := by
  have hall : List.Forall₂ (fun s t : Shape => s.id = t.id) shapes shapes' := by
    rw [← List.forall₂_eq_eq_eq, List.forall₂_map_left_iff, List.forall₂_map_right_iff] at hids
    exact hids
  rw [List.forall₂_iff_zip] at hall ⊢
  refine ⟨hall.1, fun hzip => ?_⟩
  obtain ⟨hs, ht⟩ := List.of_mem_zip hzip
  exact h _ hs _ ht (hall.2 hzip)

/-- Equal shapes, and the same members boxed. -/
structure Equal (m n : Model) : Prop where
  /-- The ids. -/
  ids : m.shapes.map (·.id) = n.shapes.map (·.id)
  /-- The shapes. -/
  shapes : List.Forall₂ (fun s t => s.same t = true) m.shapes n.shapes
  /-- The boxes. -/
  boxed : ∀ id, m.isBoxed id = n.isBoxed id

/-- Models that hold the same declarations are equal. -/
theorem Holds.equal (h : m.Holds declared) (h' : n.Holds declared) (hfit : Fit declared)
    (hm : m.Sound) (hn : n.Sound) : m.Equal n := by
  have hids := h.map_id_eq h' hm hn
  have hsame := forall₂_same_of_map_id hids fun s hs t ht =>
    hfit.agreeing s t (h.taken s hs) (h'.taken t ht)
  refine ⟨hids, hsame, isBoxed_congr (hsame.imp fun s t hst => ?_)⟩
  exact ⟨Shape.id_eq_of_same hst, Shape.kind_eq_of_same hst⟩

theorem addSources_append (shapes : List Shape) (sources more : List String) :
    addSources shapes (sources ++ more) =
      addSources shapes sources >>= fun shapes => addSources shapes more := by
  induction sources generalizing shapes with
  | nil => rfl
  | cons source sources ih => simp only [List.cons_append, addSources, ih, bind_assoc]

/-- Another copy of a document changes nothing. -/
theorem merged_append_of_alike (h : collect Document.ofText sources = .ok ds) {source : String}
    {d : Document} (hd : Document.ofText source = .ok d) (halike : ∃ d' ∈ ds, d.Alike d') :
    merged (sources ++ [source]) = merged sources := by
  obtain ⟨d', hd', halike⟩ := halike
  have hcopy : collect Document.ofText [source] = .ok [d] := by
    rw [collect, hd]
    rfl
  have hmore : merged (sources ++ [source]) =
      merged sources >>= fun shapes => addDeclarations shapes d.shapes := by
    rw [merged_eq_addSources, merged_eq_addSources, addSources_append]
    refine congrArg _ (funext fun shapes => ?_)
    rw [addSources_of_collect hcopy, Document.declared, List.flatMap_singleton]
  rw [hmore]
  cases hmerged : merged sources with
  | error cause => rfl
  | ok shapes =>
    obtain ⟨groups, hgroups, hins⟩ := (merged_eq_ok_iff h).1 hmerged
    have hgiven {s : Shape} := mem_given_iff (s := s) hgroups
    have hmerges := merges_nil.insertAll (fun s hs => distinct_of_given h (hgiven.1 hs)) hins
    have hlower : ∀ e ∈ d.shapes, ∃ group, Declaration.lower e = .ok group := fun e he =>
      collect_isOk_iff.1 ⟨groups, hgroups⟩ e (Document.mem_declared_of_alike hd' halike he)
    obtain ⟨copies, hcopies⟩ := collect_isOk_iff.2 hlower
    refine addDeclarations_eq_ok_iff.2 ⟨copies, hcopies, insertAll_of_kept hmerges.sorted ?_⟩
    intro s hs
    obtain ⟨group, hgroup, hmem⟩ := List.mem_flatten.1 hs
    obtain ⟨e, he, hstep⟩ := exists_of_mem_collect hcopies hgroup
    exact hmerges.kept s (hgiven.2 (.inr
      ⟨e, Document.mem_declared_of_alike hd' halike he, group, hstep, hmem⟩))

/-- Documents in another order, or in other numbers, are assembled to an equal model. It holds what
they declare, and another copy of one of them leaves it exactly as it is. -/
theorem assemble_unordered {sources sources' : List String} {ds ds' : List Document}
    (h : collect Document.ofText sources = .ok ds)
    (h' : collect Document.ofText sources' = .ok ds') (hsame : Document.SameSet ds ds') :
    ((∃ m, assemble sources = .ok m) ↔ ∃ n, assemble sources' = .ok n) ∧
    (∀ m n, assemble sources = .ok m → assemble sources' = .ok n → m.Equal n) ∧
    (∀ m, assemble sources = .ok m → m.Holds (Document.declared ds)) ∧
    ∀ source d, Document.ofText source = .ok d → (∃ d' ∈ ds, d.Alike d') →
      assemble (sources ++ [source]) = assemble sources := by
  have hdeclared := hsame.mem_declared_iff
  refine ⟨?_, fun m n hm hn => ?_, fun m hm => holds_of_assemble h hm, fun source d hd halike => ?_⟩
  · rw [exists_assemble_iff h, exists_assemble_iff h']
    exact ⟨Fit.congr hdeclared, Fit.congr fun e => (hdeclared e).symm⟩
  · have hholds := (holds_of_assemble h' hn).congr hdeclared
    exact (holds_of_assemble h hm).equal hholds (fit_of_assemble h hm)
      (sound_of_assembled ⟨_, hm⟩) (sound_of_assembled ⟨_, hn⟩)
  · rw [assemble_eq_bind_close, merged_append_of_alike h hd halike, ← assemble_eq_bind_close]

end Model

/-! ### Names, declared twice -/

deriving instance DecidableEq for MemberDeclaration, Declaration, Document

/-- A document that declares names, and lists of them. -/
def namesSource : String := "[\"2\",\x7b\"a#Names\":[\"list\",[\"a#Name\"]]," ++
  "\"a#Name\":[\"string\",\x7b\"a#t\":\x7b\"k\":1,\"j\":2\x7d," ++
  "\"smithy.api#length\":\x7b\"min\":1\x7d\x7d]\x7d]"

/-- What that document declares, in another order. -/
def sortedSource : String := "[\"2\",\x7b" ++
  "\"a#Name\":[\"string\",\x7b\"a#t\":\x7b\"k\":1,\"j\":2\x7d," ++
  "\"smithy.api#length\":\x7b\"min\":1\x7d\x7d],\"a#Names\":[\"list\",[\"a#Name\"]]\x7d]"

/-- A document that declares names alone, with traits and keys in another order. -/
def nameSource : String := "[\"2\",\x7b\"a#Name\":[\"string\",\x7b" ++
  "\"smithy.api#length\":\x7b\"min\":1\x7d,\"a#t\":\x7b\"j\":2,\"k\":1\x7d\x7d]\x7d]"

/-- The list of names, as it is declared. -/
def namesDeclaration : String × Declaration := ("a#Names", .list ⟨"a#Name", []⟩ [])

/-- Names, as they are declared with some value of a trait. -/
def nameDeclaration (traits : Table String Json) : String × Declaration :=
  ("a#Name", .simple .string traits)

/-- An object with two integers. -/
def pair (k l : String) (i j : Int) : Json := .obj [(k, .num (.int i)), (l, .num (.int j))]

/-- The bound on the length of names. -/
def lengthValue : String × Json := ("smithy.api#length", .obj [("min", .num (.int 1))])

/-- The model of names with some traits. -/
def Model.names (traits : Traits) : Model := ⟨[⟨⟨"a", "Name", none⟩, .simple .string, traits⟩,
  ⟨⟨"a", "Names", none⟩, .list ⟨"a", "Names", some "member"⟩, []⟩,
  plainMember "Names" "member" ⟨"a", "Name", none⟩] ++ bare.shapes⟩

theorem Model.assemble_unordered_names :
    let first : Traits := [("a#t", .other (pair "k" "j" 1 2)),
      ("smithy.api#length", .length ⟨some 1, none⟩)]
    let second : Traits := [("smithy.api#length", .length ⟨some 1, none⟩),
      ("a#t", .other (pair "j" "k" 2 1))]
    assemble [namesSource, nameSource] = .ok (names first) ∧
    assemble [nameSource, sortedSource, nameSource] = .ok (names second) ∧
    (names first).Equal (names second) ∧
    assemble [namesSource, nameSource, sortedSource] = .ok (names first) := by
  intro first second
  let name := nameDeclaration [("a#t", pair "k" "j" 1 2), lengthValue]
  let name' := nameDeclaration [lengthValue, ("a#t", pair "j" "k" 2 1)]
  have hnames : Document.ofText namesSource = .ok ⟨"2", [namesDeclaration, name]⟩ := by
    rw [Document.ofText_list (by
      delta namesSource
      repeat rw [String.toList_append]
      repeat rw [String.toList_ofList]
      rfl)]
    decide +kernel
  have hsorted : Document.ofText sortedSource = .ok ⟨"2", [name, namesDeclaration]⟩ := by
    rw [Document.ofText_list (by
      delta sortedSource
      repeat rw [String.toList_append]
      repeat rw [String.toList_ofList]
      rfl)]
    decide +kernel
  have hname : Document.ofText nameSource = .ok ⟨"2", [name']⟩ := by
    rw [Document.ofText_list (by
      delta nameSource
      repeat rw [String.toList_append]
      repeat rw [String.toList_ofList]
      rfl)]
    decide +kernel
  have hread : collect Document.ofText [namesSource, nameSource] =
      .ok [⟨"2", [namesDeclaration, name]⟩, ⟨"2", [name']⟩] := by
    simp only [collect, hnames, hname]
    rfl
  have hread' : collect Document.ofText [nameSource, sortedSource, nameSource] =
      .ok [⟨"2", [name']⟩, ⟨"2", [name, namesDeclaration]⟩, ⟨"2", [name']⟩] := by
    simp only [collect, hsorted, hname]
    rfl
  have hsame : Document.SameSet [⟨"2", [namesDeclaration, name]⟩, ⟨"2", [name']⟩]
      [⟨"2", [name']⟩, ⟨"2", [name, namesDeclaration]⟩, ⟨"2", [name']⟩] := by
    constructor <;> simp [Document.Alike, List.Perm.swap]
  obtain ⟨-, hequal, -, hagain⟩ := assemble_unordered hread hread' hsame
  have hok : assemble [namesSource, nameSource] = .ok (names first) := by
    refine assemble_of_addSources ?_ (by decide)
    rw [addSources_of_collect hread]
    decide +kernel
  have hok' : assemble [nameSource, sortedSource, nameSource] = .ok (names second) := by
    refine assemble_of_addSources ?_ (by decide)
    rw [addSources_of_collect hread']
    decide +kernel
  refine ⟨hok, hok', hequal _ _ hok hok', ?_⟩
  rw [← hok]
  exact hagain sortedSource _ hsorted ⟨_, List.mem_cons_self, .swap _ _ _⟩

end Shapesmith
