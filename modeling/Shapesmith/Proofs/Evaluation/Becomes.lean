import Shapesmith.Proofs.Evaluation.Clean

/-!
# What becomes of a value

A value that goes well against a shape comes out with the defaults of its structures filled in and
the nulls in them left out. Everything else stays as it is.

* `Model.Becomes` says so kind by kind;
* `Model.Becomes.exists_part` : a part of what comes out is what became of the same part of the
  value, and `Model.Becomes.exists_position` says this of all positions;
* `Validator.becomes_of_within` : an evaluation without violations gives what becomes of the value.
-/

namespace Shapesmith

namespace Model

variable (m : Model)

/-- What becomes of a value of a shape. -/
inductive Becomes : Shape → Json → Json → Prop
  /-- A simple value stays as it is. -/
  | simple {s : Shape} {t : Simple} (hs : s.kind = .simple t) (j : Json) : Becomes s j j
  /-- A list keeps the number and the order of its items. -/
  | list {s e : Shape} {id : ShapeId} {items built : List Json} (hs : s.kind = .list id)
    (he : m.find? id = some e) (hlength : built.length = items.length)
    (hitems : ∀ (i : Nat) (x w : Json), items[i]? = some x → built[i]? = some w →
      Becomes (m.targetOf e) x w) : Becomes s (.arr items) (.arr built)
  /-- A map keeps its keys and their order. -/
  | map {s e e' : Shape} {k w : ShapeId} {fields built : List (String × Json)}
    (hs : s.kind = .map k w) (he : m.find? k = some e) (he' : m.find? w = some e')
    (hkeys : Table.keys built = Table.keys fields)
    (hnames : ∀ name ∈ Table.keys fields, Becomes (m.targetOf e) (.str name) (.str name))
    (hvalues : ∀ (i : Nat) (f g : String × Json), fields[i]? = some f → built[i]? = some g →
      Becomes (m.targetOf e') f.2 g.2) : Becomes s (.obj fields) (.obj built)
  /-- A union keeps its one member. -/
  | union {s e : Shape} {x w : Json} (hs : s.isUnion = true) (he : e ∈ m.membersOf s)
    (h : Becomes (m.targetOf e) x w) :
    Becomes s (.obj [(e.memberName, x)]) (.obj [(e.memberName, w)])
  /-- A structure has its members completed, each with what became of the value that it takes. -/
  | struct {s : Shape} {fields built : List (String × Json)} (hs : s.isStruct = true)
    (h : m.Completes s fields built)
    (hvalues : ∀ e ∈ m.membersOf s, ∀ x w, e.Takes fields x → (e.memberName, w) ∈ built →
      Becomes (m.targetOf e) x w) : Becomes s (.obj fields) (.obj built)

variable {m} {s : Shape}

/-- Positions stay in the model. -/
theorem Position.shape_mem (hm : m.Sound) {p q : Spot} {trail : List Spot.Step}
    (h : m.Position p trail q) (hp : p.shape ∈ m.shapes) : q.shape ∈ m.shapes := by
  induction h with
  | here => exact hp
  | deeper h _ ih => exact ih (h.shape_mem hm)

namespace Becomes

variable {j w : Json}

/-- Nothing but null becomes null. -/
theorem ne_null (h : m.Becomes s j w) (hj : j ≠ .null) : w ≠ .null := by
  cases h with
  | simple => exact hj
  | list | map | union | struct => exact Json.noConfusion

/-- A text stays as it is. -/
theorem eq_of_str {name : String} (h : m.Becomes s (.str name) w) : w = .str name := by
  cases h
  rfl

/-- Only a structure gains or loses parts. -/
theorem sameSize (h : m.Becomes s j w) (hs : s.isStruct = false) : j.SameSize w := by
  cases h with
  | simple => exact .refl j
  | list _ _ hlength => exact .arr hlength.symm
  | map _ _ _ hkeys => exact .obj (Table.length_eq_of_keys_eq hkeys).symm
  | union => exact .obj rfl
  | struct hstruct =>
    rw [hs] at hstruct
    cases hstruct

/-- What becomes of a value has the type of the value. -/
theorem accepts (h : m.Becomes s j w) (ha : s.kind.Accepts j) : s.kind.Accepts w := by
  cases h with
  | simple => exact ha
  | list hk => exact hk ▸ .list _ _
  | map hk => exact hk ▸ .map _ _ _
  | union hunion =>
    obtain ⟨ids, hk⟩ := Shape.isUnion_iff.1 hunion
    exact hk ▸ .union ids _
  | struct hstruct =>
    obtain ⟨ids, hk⟩ := Shape.isStruct_iff.1 hstruct
    exact hk ▸ .struct ids _

/-! The shape tells which of the cases it is. -/

theorem of_list (h : m.Becomes s j w) {id : ShapeId} (hk : s.kind = .list id) :
    ∃ e items built, m.find? id = some e ∧ j = .arr items ∧ w = .arr built ∧
      built.length = items.length ∧ ∀ (i : Nat) (x w : Json), items[i]? = some x →
        built[i]? = some w → m.Becomes (m.targetOf e) x w := by
  cases h with
  | list hk' he hlength hitems =>
    obtain rfl := Kind.list.inj (hk.symm.trans hk')
    exact ⟨_, _, _, he, rfl, rfl, hlength, hitems⟩
  | simple | map | union | struct => simp_all [Shape.isStruct, Shape.isUnion]

theorem of_map (h : m.Becomes s j w) {k v : ShapeId} (hk : s.kind = .map k v) :
    ∃ e e' fields built, m.find? k = some e ∧ m.find? v = some e' ∧ j = .obj fields ∧
      w = .obj built ∧ Table.keys built = Table.keys fields ∧
      (∀ name ∈ Table.keys fields, m.Becomes (m.targetOf e) (.str name) (.str name)) ∧
      ∀ (i : Nat) (f g : String × Json), fields[i]? = some f → built[i]? = some g →
        m.Becomes (m.targetOf e') f.2 g.2 := by
  cases h with
  | map hk' he he' hkeys hnames hvalues =>
    obtain ⟨rfl, rfl⟩ := Kind.map.inj (hk.symm.trans hk')
    exact ⟨_, _, _, _, he, he', rfl, rfl, hkeys, hnames, hvalues⟩
  | simple | list | union | struct => simp_all [Shape.isStruct, Shape.isUnion]

theorem of_union (h : m.Becomes s j w) (hs : s.isUnion = true) :
    ∃ e ∈ m.membersOf s, ∃ x y, j = .obj [(e.memberName, x)] ∧ w = .obj [(e.memberName, y)] ∧
      m.Becomes (m.targetOf e) x y := by
  cases h with
  | union _ he h => exact ⟨_, he, _, _, rfl, rfl, h⟩
  | simple | list | map => simp_all [Shape.isUnion]
  | struct hstruct =>
    obtain ⟨ids, hk⟩ := Shape.isStruct_iff.1 hstruct
    simp [Shape.isUnion, hk] at hs

theorem of_struct (h : m.Becomes s j w) (hs : s.isStruct = true) :
    ∃ fields built, j = .obj fields ∧ w = .obj built ∧ m.Completes s fields built ∧
      ∀ e ∈ m.membersOf s, ∀ x y, e.Takes fields x → (e.memberName, y) ∈ built →
        m.Becomes (m.targetOf e) x y := by
  cases h with
  | struct _ h hvalues => exact ⟨_, _, rfl, rfl, h, hvalues⟩
  | simple | list | map => simp_all [Shape.isStruct]
  | union hunion =>
    obtain ⟨ids, hk⟩ := Shape.isUnion_iff.1 hunion
    simp [Shape.isStruct, hk] at hs

/-- What comes out gives each key once. -/
theorem distinct (hm : m.Sound) (h : m.Becomes s j w) (hs : s ∈ m.shapes) (hd : j.Distinct) :
    w.Distinct := by
  have hmem {id : ShapeId} {e : Shape} (he : m.find? id = some e) : m.targetOf e ∈ m.shapes :=
    hm.targetOf_mem (hm.find?_eq_some_iff.1 he).1
  induction h with
  | simple => exact hd
  | list hk he hlength _ ih =>
    refine Json.distinct_arr_iff.2 fun w hw => ?_
    obtain ⟨i, hi⟩ := List.mem_iff_getElem?.1 hw
    obtain ⟨x, hx⟩ := exists_getElem?_of_length_eq hlength hi
    exact ih i x w hx hi (hmem he) (Json.distinct_arr_iff.1 hd x (List.mem_of_getElem? hx))
  | map hk he he' hkeys _ _ _ ih =>
    obtain ⟨hnodup, hfields⟩ := Json.distinct_obj_iff.1 hd
    refine Json.distinct_obj_iff.2 ⟨by rwa [hkeys], fun g hg => ?_⟩
    obtain ⟨i, hi⟩ := List.mem_iff_getElem?.1 hg
    obtain ⟨f, hf, -⟩ := Table.exists_getElem?_of_keys_eq hkeys hi
    exact ih i f g hf hi (hmem he') (hfields f (List.mem_of_getElem? hf))
  | union hk he _ ih =>
    have htarget := hm.targetOf_mem (hm.mem_membersOf_iff.1 he).1
    refine Json.distinct_obj_iff.2 ⟨List.nodup_singleton _, fun g hg => ?_⟩
    rw [List.mem_singleton.1 hg]
    exact ih htarget ((Json.distinct_obj_iff.1 hd).2 _ List.mem_cons_self)
  | struct hk h _ ih =>
    refine Json.distinct_obj_iff.2 ⟨h.nodup_keys hm hs, fun g hg => ?_⟩
    obtain ⟨e, he, hname, x, hx⟩ := h.exists_member hg
    have hmember := (hm.mem_membersOf_iff.1 he).1
    exact ih e he x g.2 hx (hname ▸ hg) (hm.targetOf_mem hmember) (hx.distinct hm hmember hd)

/-- Only one value becomes of a value. -/
theorem unique (hm : m.Sound) (hs : s ∈ m.shapes) (hd : j.Distinct) {w' : Json}
    (h : m.Becomes s j w) (h' : m.Becomes s j w') : w' = w := by
  have hmem {id : ShapeId} {e : Shape} (he : m.find? id = some e) : m.targetOf e ∈ m.shapes :=
    hm.targetOf_mem (hm.find?_eq_some_iff.1 he).1
  induction h generalizing w' with
  | simple hk =>
    cases h' with
    | simple => rfl
    | list | map | union | struct => simp_all [Shape.isStruct, Shape.isUnion]
  | list hk he hlength _ ih =>
    obtain ⟨e', _, built', he', hj, rfl, hlength', hitems'⟩ := h'.of_list hk
    cases hj
    obtain rfl := Option.some.inj (he.symm.trans he')
    refine congrArg Json.arr (eq_of_getElem? (hlength.trans hlength'.symm) fun i y' y hy' hy => ?_)
    obtain ⟨x, hx⟩ := exists_getElem?_of_length_eq hlength hy
    have hxd := Json.distinct_arr_iff.1 hd x (List.mem_of_getElem? hx)
    exact ih i x y hx hy (hmem he) hxd (hitems' i x y' hx hy')
  | map hk he he' hkeys _ _ _ ih =>
    obtain ⟨_, e'', _, built', -, hfind, hj, rfl, hkeys', -, hvalues'⟩ := h'.of_map hk
    cases hj
    obtain rfl := Option.some.inj (he'.symm.trans hfind)
    have hlength := Table.length_eq_of_keys_eq (hkeys.trans hkeys'.symm)
    refine congrArg Json.obj (eq_of_getElem? hlength fun i g' g hg' hg => ?_)
    obtain ⟨f, hf, hname⟩ := Table.exists_getElem?_of_keys_eq hkeys hg
    obtain ⟨f', hf', hname'⟩ := Table.exists_getElem?_of_keys_eq hkeys' hg'
    obtain rfl := Option.some.inj (hf.symm.trans hf')
    have hfd := (Json.distinct_obj_iff.1 hd).2 f (List.mem_of_getElem? hf)
    exact Prod.ext (hname'.symm.trans hname)
      (ih i f g hf hg (hmem he') hfd (hvalues' i f g' hf hg'))
  | @union s e x y hk he _ ih =>
    obtain ⟨e', he', x', y', hj, rfl, h'⟩ := h'.of_union hk
    obtain ⟨hname, rfl⟩ : e.memberName = e'.memberName ∧ x = x' := by simpa using hj
    obtain rfl := List.inj_on_of_nodup_map (hm.nodup_memberNames hs) he he' hname
    have htarget := hm.targetOf_mem (hm.mem_membersOf_iff.1 he).1
    rw [ih htarget ((Json.distinct_obj_iff.1 hd).2 _ List.mem_cons_self) h']
  | @struct s fields built hk h _ ih =>
    obtain ⟨_, built', hj, rfl, hcompletes', hvalues'⟩ := h'.of_struct hk
    cases hj
    have hkeys := h.keys_unique hm hs hcompletes'
    have hlength := Table.length_eq_of_keys_eq hkeys.symm
    refine congrArg Json.obj (eq_of_getElem? hlength fun i g' g hg' hg => ?_)
    obtain ⟨f, hf, hname⟩ := Table.exists_getElem?_of_keys_eq hkeys hg'
    obtain rfl := Option.some.inj (hf.symm.trans hg)
    have hmemg := List.mem_of_getElem? hg
    obtain ⟨e, he, hname', x, hx⟩ := h.exists_member hmemg
    have hmember := (hm.mem_membersOf_iff.1 he).1
    have hg' : (e.memberName, g'.2) ∈ built' := by
      rw [hname', hname]
      exact List.mem_of_getElem? hg'
    exact Prod.ext hname.symm (ih e he x f.2 hx (hname' ▸ hmemg) (hm.targetOf_mem hmember)
      (hx.distinct hm hmember hd) (hvalues' e he x g'.2 hx hg'))

/-- A part of what comes out is what became of the same part of the value. -/
theorem exists_part {path : String} {step : Spot.Step} {q : Spot} (hm : m.Sound)
    (hs : s ∈ m.shapes) (h : m.Becomes s j w) (hq : m.Part ⟨s, w, path⟩ step q) :
    ∃ p, m.Part ⟨s, j, path⟩ step p ∧ p.shape = q.shape ∧ p.path = q.path ∧
      m.Becomes q.shape p.value q.value := by
  cases hq with
  | item hk he hx =>
    obtain ⟨e, items, built, he', rfl, hw, hlength, hitems⟩ := h.of_list hk
    cases hw
    obtain rfl := Option.some.inj (he.symm.trans he')
    obtain ⟨y, hy⟩ := exists_getElem?_of_length_eq hlength hx
    exact ⟨_, .item hk he hy, rfl, rfl, hitems _ y _ hy hx⟩
  | key hk he hf =>
    obtain ⟨e, e', fields, built, he', -, rfl, hw, hkeys, hnames, -⟩ := h.of_map hk
    cases hw
    obtain rfl := Option.some.inj (he.symm.trans he')
    obtain ⟨f, hf', hname⟩ := Table.exists_getElem?_of_keys_eq hkeys hf
    have hmem := Table.mem_keys_of_mem (List.mem_of_getElem? hf')
    refine ⟨_, .key hk he hf', by rw [hname], by rw [hname], ?_⟩
    rw [← hname]
    exact hnames _ hmem
  | value hk he hf =>
    obtain ⟨e, e', fields, built, -, he', rfl, hw, hkeys, -, hvalues⟩ := h.of_map hk
    cases hw
    obtain rfl := Option.some.inj (he.symm.trans he')
    obtain ⟨f, hf', hname⟩ := Table.exists_getElem?_of_keys_eq hkeys hf
    exact ⟨_, .value hk he hf', rfl, by rw [hname], hvalues _ f _ hf' hf⟩
  | @member _ e _ _ i y hk he hx =>
    obtain ⟨fields, built, rfl, hw, hcompletes, hvalues⟩ := h.of_struct hk
    cases hw
    have hmem := List.mem_of_getElem? he
    cases hx with
    | given hx hnull =>
      obtain ⟨x, hx'⟩ := (hcompletes.members e hmem).1 (Table.mem_keys_of_mem hx)
      exact ⟨_, .member hk he hx', rfl, rfl, hvalues e hmem x y hx' hx⟩
    | default habs hdefault =>
      -- the default has come in, so that the member is not absent from the result
      obtain ⟨x, hx'⟩ := e.exists_takes_of_default fields hdefault
      obtain ⟨y', hy'⟩ := hcompletes.exists_mem hmem hx'
      exact absurd (habs y' hy') ((hvalues e hmem x y' hx' hy').ne_null hx'.ne_null)
  | choice hk he hx =>
    obtain ⟨e, hmem, x, y, rfl, hw, hbecomes⟩ := h.of_union hk
    cases hw
    obtain ⟨hname, rfl⟩ := Prod.mk.inj (List.mem_singleton.1 hx)
    obtain rfl := List.inj_on_of_nodup_map (hm.nodup_memberNames hs) (List.mem_of_getElem? he)
      hmem hname
    exact ⟨_, .choice hk he List.mem_cons_self, rfl, rfl, hbecomes⟩

/-- A position of what comes out is what became of the same position of the value. -/
theorem exists_position {path : String} {trail : List Spot.Step} {q : Spot} (hm : m.Sound)
    (hs : s ∈ m.shapes) (h : m.Becomes s j w) (hq : m.Position ⟨s, w, path⟩ trail q) :
    ∃ p, m.Position ⟨s, j, path⟩ trail p ∧ p.shape = q.shape ∧ p.path = q.path ∧
      m.Becomes q.shape p.value q.value := by
  induction trail generalizing s j w path with
  | nil =>
    cases hq
    exact ⟨_, .here _, rfl, rfl, h⟩
  | cons step trail ih =>
    obtain - | ⟨hpart, hrest⟩ := hq
    obtain ⟨⟨s', x, place⟩, hx, rfl, rfl, hbecomes⟩ := h.exists_part hm hs hpart
    obtain ⟨p, hp, hshape, hpath, hvalue⟩ := ih (hpart.shape_mem hm) hbecomes hrest
    exact ⟨p, .deeper hx hp, hshape, hpath, hvalue⟩

end Becomes

end Model

namespace Validator

open Verdict

variable {v : Validator} {s : Shape} {path : String} {depth : Nat}

/-- Below the top, an evaluation without violations gives what becomes of the value. -/
theorem becomes_of_descend {t : Shape} (hm : v.model.Sound) (ht : t ∈ v.model.shapes) {j w : Json}
    (hd : j.Distinct) (ha : t.kind.Accepts j) (h : v.descend depth t j path = pure w) :
    v.model.Becomes t j w := by
  induction depth generalizing t j w path with
  | zero => cases h
  | succ depth ih =>
    have hmember {e : Shape} (he : e ∈ v.model.membersOf t) : e ∈ v.model.shapes :=
      (hm.mem_membersOf_iff.1 he).1
    have ih {e : Shape} (he : e ∈ v.model.membersOf t) {x y : Json} (hx : x.Distinct)
        {place : String} (h : v.within depth e x place = pure y) :
        v.model.Becomes (v.model.targetOf e) x y := by
      obtain ⟨ha, -, h⟩ := within_eq_pure_iff.1 h
      exact ih (hm.targetOf_mem (hmember he)) hx ha h
    cases hk : t.kind with
    | simple =>
      rw [descend_simple hk] at h
      cases h
      exact .simple hk j
    | list id =>
      rw [hk] at ha
      obtain - | - := ha
      obtain ⟨e, he, hfind⟩ := hm.find?_item ht hk
      obtain ⟨built, rfl, hlength, hitems⟩ := (descend_list_eq_pure_iff hk hfind).1 h
      refine .list hk hfind hlength fun i x y hx hy => ?_
      exact ih he (Json.distinct_arr_iff.1 hd x (List.mem_of_getElem? hx))
        (hitems i x y hx hy)
    | map k u =>
      rw [hk] at ha
      obtain - | - := ha
      obtain ⟨⟨e, he, hfind⟩, e', he', hfind'⟩ := hm.find?_entry ht hk
      obtain ⟨built, rfl, hkeys, hnames, hvalues⟩ :=
        (descend_map_eq_pure_iff hk hfind hfind').1 h
      refine .map hk hfind hfind' hkeys (fun name hname => ?_) fun i f g hf hg => ?_
      · obtain ⟨key, hkey⟩ := hnames name hname
        have hbecomes := ih he (Json.distinct_str name) hkey
        exact hbecomes.eq_of_str ▸ hbecomes
      · exact ih he' ((Json.distinct_obj_iff.1 hd).2 f (List.mem_of_getElem? hf))
          (hvalues i f g hf hg)
    | union ids =>
      rw [hk] at ha
      cases ha with
      | union _ f =>
        have hunion := Shape.isUnion_iff.2 ⟨ids, hk⟩
        obtain ⟨e, he, hname, y, rfl, hy⟩ := (descend_union_eq_pure_iff hm ht hunion).1 h
        obtain ⟨name, x⟩ := f
        obtain rfl : e.memberName = name := hname
        have hx := (Json.distinct_obj_iff.1 hd).2 _ List.mem_cons_self
        exact .union hunion he (ih he hx hy)
    | struct ids =>
      rw [hk] at ha
      obtain - | - := ha
      have hstruct := Shape.isStruct_iff.2 ⟨ids, hk⟩
      obtain ⟨built, rfl, hcompletes, hvalues⟩ :=
        (descend_struct_eq_pure_iff hm ht hstruct (Json.distinct_obj_iff.1 hd).1).1 h
      refine .struct hstruct hcompletes fun e he x y hx hy => ?_
      exact ih he (hx.distinct hm (hmember he) hd) (hvalues e he x y hx hy)
    | member | operation | service =>
      rw [hk] at ha
      cases ha

/-- An evaluation without violations gives what becomes of the value. -/
theorem becomes_of_within (hm : v.model.Sound) (hs : s ∈ v.model.shapes) {j w : Json}
    (hd : j.Distinct) (h : v.within depth s j path = pure w) :
    v.model.Becomes (v.model.targetOf s) j w := by
  obtain ⟨ha, -, h⟩ := within_eq_pure_iff.1 h
  exact becomes_of_descend hm (hm.targetOf_mem hs) hd ha h

end Validator

end Shapesmith
