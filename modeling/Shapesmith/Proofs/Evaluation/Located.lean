import Shapesmith.Proofs.Evaluation.Completed
import Shapesmith.Proofs.Evaluation.Report
import Shapesmith.Proofs.Text.Pointer

/-!
# What a path leads to

A path is made of names. From a value that is held against a shape they lead on through items of
lists by their indices, through entries of maps by their keys, and through structures and unions by
the names of the members, where a member that is not given leads to its default.

* `Model.Names` says what one name leads to, and `Model.Route` what a row of names leads to, which is
  one value only (`Model.Route.unique`);
* `Model.Marks` : a row of names stands for the value that it leads to, and also for the key of an
  entry if it leads to an entry;
* `Model.Locates` and `Model.Mistypes` say that a path leads to what is reported there;
* `Model.Position.exists_marks` : the path of a position is a row of names that stands for it;
* `Validator.exists_failing_of_mem` : whatever an evaluation reports is a check that fails, even
  when the evaluation is refused later.
-/

namespace Shapesmith

namespace Model

variable (m : Model)

/-- A name leads from a value of a shape to a part of it. -/
inductive Names : Shape → Json → String → Shape → Json → Prop
  /-- The index of an item leads to the item. -/
  | item {s e : Shape} {id : ShapeId} {items : List Json} {i : Nat} {x : Json}
    (hs : s.kind = .list id) (he : m.find? id = some e) (hx : items[i]? = some x) :
    Names s (.arr items) (toString i) (m.targetOf e) x
  /-- The key of an entry leads to its value. -/
  | entry {s e : Shape} {k v : ShapeId} {fields : List (String × Json)} {name : String} {x : Json}
    (hs : s.kind = .map k v) (he : m.find? v = some e) (hx : (name, x) ∈ fields) :
    Names s (.obj fields) name (m.targetOf e) x
  /-- The name of a member of a structure leads to the value that is given, or else to the default. -/
  | member {s e : Shape} {fields : List (String × Json)} {x : Json}
    (hs : s.isStruct = true) (he : e ∈ m.membersOf s) (hx : e.Takes fields x) :
    Names s (.obj fields) e.memberName (m.targetOf e) x
  /-- The name of the member of a union that is chosen leads to its value. -/
  | choice {s e : Shape} {fields : List (String × Json)} {x : Json}
    (hs : s.isUnion = true) (he : e ∈ m.membersOf s) (hx : (e.memberName, x) ∈ fields) :
    Names s (.obj fields) e.memberName (m.targetOf e) x

/-- A row of names leads from a value of a shape to another one. -/
inductive Route : Shape → Json → List String → Shape → Json → Prop
  | nil (s : Shape) (j : Json) : Route s j [] s j
  | cons {s t u : Shape} {j x y : Json} {name : String} {names : List String}
    (h : m.Names s j name t x) (ht : Route t x names u y) : Route s j (name :: names) u y

/-- A row of names stands for what it leads to. The last name may also stand for itself, as the key
of an entry of a map. -/
inductive Marks (s : Shape) (j : Json) : List String → Shape → Json → Prop
  | value {names : List String} {t : Shape} {x : Json} (h : m.Route s j names t x) :
    Marks s j names t x
  | key {names : List String} {name : String} {t e : Shape} {k v : ShapeId}
    {fields : List (String × Json)} (h : m.Route s j names t (.obj fields))
    (ht : t.kind = .map k v) (he : m.find? k = some e) (hname : name ∈ Table.keys fields) :
    Marks s j (names ++ [name]) (m.targetOf e) (.str name)

/-- Something is wrong where a row of names leads. -/
inductive Wrong (s : Shape) (j : Json) : List String → Breach → Prop
  /-- An object does not have a member that its structure needs, or has null there. -/
  | missing {names : List String} {t e : Shape} {fields : List (String × Json)}
    (h : m.Route s j names t (.obj fields)) (ht : t.isStruct = true) (he : e ∈ m.membersOf t)
    (hneeded : e.mustBeGiven = true) (habs : e.AbsentFrom fields) :
    Wrong s j (names ++ [e.memberName]) .missingRequired
  /-- A value, or the key of an entry, breaks a check of its shape. -/
  | check {names : List String} {t : Shape} {x : Json} {c : Check} {breach : Breach}
    (h : m.Marks s j names t x) (hc : c ∈ t.checks) (hb : c.Breaks x breach) :
    Wrong s j names breach

/-- The path of a violation leads to what it reports. -/
structure Locates (s : Shape) (j : Json) (x : Violation) : Prop where
  /-- The names that are read from the path are those that it is made of. -/
  written : Pointer.along "" (Pointer.segments x.path) = x.path
  /-- They lead to what is wrong. -/
  wrong : m.Wrong s j (Pointer.segments x.path) x.breach

/-- A path leads to something below the top that does not have the expected type. -/
structure Mistypes (s : Shape) (j : Json) (path expected : String) : Prop where
  /-- The names that are read from the path are those that it is made of. -/
  written : Pointer.along "" (Pointer.segments path) = path
  /-- There are some. -/
  below : Pointer.segments path ≠ []
  /-- They lead to a value, or the key of an entry, that its shape does not accept. -/
  misfit : ∃ t x, m.Marks s j (Pointer.segments path) t x ∧ ¬ t.kind.Accepts x ∧
    t.typeName = expected

variable {m} {s t u : Shape} {j x y : Json} {name : String} {names : List String}

/-! ### Routes -/

/-- What a name leads to is a part, at the place with that name. -/
theorem Names.exists_part (h : m.Names s j name t x) (path : String) :
    ∃ step, m.Part ⟨s, j, path⟩ step ⟨t, x, pointer path name⟩ := by
  cases h with
  | item hs he hx => exact ⟨_, .item hs he hx⟩
  | entry hs he hx =>
    obtain ⟨i, hi⟩ := List.mem_iff_getElem?.1 hx
    exact ⟨_, .value hs he hi⟩
  | member hs he hx =>
    obtain ⟨i, hi⟩ := List.mem_iff_getElem?.1 he
    exact ⟨_, .member hs hi hx⟩
  | choice hs he hx =>
    obtain ⟨i, hi⟩ := List.mem_iff_getElem?.1 he
    exact ⟨_, .choice hs hi hx⟩

/-- Different indices are written differently. -/
theorem index_eq_of_toString_eq {i i' : Nat} (h : toString i = toString i') : i = i' := by
  rw [Nat.toString_eq_ofList_toDigits, Nat.toString_eq_ofList_toDigits, String.ofList_inj] at h
  rw [← Nat.ofDigitChars_ten_toDigits (n := i), h, Nat.ofDigitChars_ten_toDigits]

/-- A name leads to one value only. -/
theorem Names.unique (hm : m.Sound) (hs : s ∈ m.shapes) (hd : j.Distinct)
    (h : m.Names s j name t x) (h' : m.Names s j name u y) : t = u ∧ x = y := by
  have hmember {e e' : Shape} (he : e ∈ m.membersOf s) (he' : e' ∈ m.membersOf s)
      (hname : e.memberName = e'.memberName) : e = e' :=
    List.inj_on_of_nodup_map (hm.nodup_memberNames hs) he he' hname
  -- the kind of the shape tells which of the four it is
  cases h with
  | @item _ id _ i _ hk he hx =>
    generalize hi : toString i = name at h'
    cases h' with
    | item hk' he' hx' =>
      obtain rfl := index_eq_of_toString_eq hi
      obtain rfl : id = _ := Kind.list.inj (hk.symm.trans hk')
      obtain rfl := Option.some.inj (he.symm.trans he')
      exact ⟨rfl, Option.some.inj (hx.symm.trans hx')⟩
  | entry hk he hx =>
    cases h' with
    | entry hk' he' hx' =>
      obtain ⟨-, rfl⟩ := Kind.map.inj (hk.symm.trans hk')
      obtain rfl := Option.some.inj (he.symm.trans he')
      exact ⟨rfl, Table.value_unique (Json.distinct_obj_iff.1 hd).1 hx hx'⟩
    | member hs' => simp [Shape.isStruct, hk] at hs'
    | choice hs' => simp [Shape.isUnion, hk] at hs'
  | @member e _ _ hstruct he hx =>
    obtain ⟨ids, hk⟩ := Shape.isStruct_iff.1 hstruct
    generalize hname : e.memberName = name at h'
    cases h' with
    | entry hk' => simp [hk] at hk'
    | member _ he' hx' =>
      obtain rfl := hmember he he' hname
      exact ⟨rfl, hx.unique (Json.distinct_obj_iff.1 hd).1 hx'⟩
    | choice hs' => simp [Shape.isUnion, hk] at hs'
  | @choice e _ _ hunion he hx =>
    obtain ⟨ids, hk⟩ := Shape.isUnion_iff.1 hunion
    generalize hname : e.memberName = name at h'
    cases h' with
    | entry hk' => simp [hk] at hk'
    | member hs' => simp [Shape.isStruct, hk] at hs'
    | choice _ he' hx' =>
      obtain rfl := hmember he he' hname
      exact ⟨rfl, Table.value_unique (Json.distinct_obj_iff.1 hd).1 hx hx'⟩

/-- A row of names leads to one value only. -/
theorem Route.unique (hm : m.Sound) (hs : s ∈ m.shapes) (hd : j.Distinct)
    (h : m.Route s j names t x) (h' : m.Route s j names u y) : t = u ∧ x = y := by
  induction h with
  | nil s j =>
    cases h'
    exact ⟨rfl, rfl⟩
  | cons h ht ih =>
    obtain - | ⟨h', ht'⟩ := h'
    obtain ⟨step, hpart⟩ := h.exists_part ""
    obtain ⟨rfl, rfl⟩ := h.unique hm hs hd h'
    exact ih (hpart.shape_mem hm) (hpart.distinct hm hd) ht'

/-- One name before those that stand for something. -/
theorem Marks.cons (h : m.Names s j name t x) (ht : m.Marks t x names u y) :
    m.Marks s j (name :: names) u y := by
  cases ht with
  | value ht => exact .value (.cons h ht)
  | key ht hk he hname => exact .key (.cons h ht) hk he hname

/-- No names stand for the value itself. -/
theorem Marks.eq_of_nil (h : m.Marks s j [] t x) : s = t ∧ j = x := by
  generalize hnil : ([] : List String) = names at h
  cases h with
  | value hroute =>
    subst hnil
    cases hroute
    exact ⟨rfl, rfl⟩
  | key => simp at hnil

/-! ### Positions -/

/-- A part is at the place with a name that stands for it. If the name does not lead to it, it is the
key of an entry. -/
theorem Part.exists_name {p q : Spot} {step : Spot.Step} (h : m.Part p step q) :
    ∃ name, q.path = pointer p.path name ∧ (m.Names p.shape p.value name q.shape q.value ∨
      m.Marks p.shape p.value [name] q.shape q.value ∧ q.value = .str name) := by
  cases h with
  | item hs he hx => exact ⟨_, rfl, .inl (.item hs he hx)⟩
  | key hs he hf =>
    have hname := Table.mem_keys_of_mem (List.mem_of_getElem? hf)
    exact ⟨_, rfl, .inr ⟨.key (.nil _ _) hs he hname, rfl⟩⟩
  | value hs he hf => exact ⟨_, rfl, .inl (.entry hs he (List.mem_of_getElem? hf))⟩
  | member hs he hx => exact ⟨_, rfl, .inl (.member hs (List.mem_of_getElem? he) hx)⟩
  | choice hs he hx => exact ⟨_, rfl, .inl (.choice hs (List.mem_of_getElem? he) hx)⟩

/-- The path of a position is a row of names that stands for it. -/
theorem Position.exists_marks {p q : Spot} {trail : List Spot.Step} (h : m.Position p trail q) :
    ∃ names, q.path = Pointer.along p.path names ∧
      m.Marks p.shape p.value names q.shape q.value := by
  induction h with
  | here p => exact ⟨[], rfl, .value (.nil _ _)⟩
  | deeper hpart hrest ih =>
    obtain ⟨name, hpath, hnames | ⟨hmarks, hvalue⟩⟩ := hpart.exists_name
    · obtain ⟨names, hrest, hmarks⟩ := ih
      exact ⟨name :: names, by rw [hrest, hpath]; rfl, hmarks.cons hnames⟩
    · -- a key is a text, and has no parts
      cases hrest with
      | here => exact ⟨[name], hpath, hmarks⟩
      | deeper hpart' => exact absurd hpart' (Validator.no_part_of_str (v := ⟨m, []⟩) hvalue)

/-! ### What is reported -/

/-- A violation is located when its path is made of names that lead to what is wrong. -/
theorem locates_of_along {v : Violation} (hpath : v.path = Pointer.along "" names)
    (h : m.Wrong s j names v.breach) : m.Locates s j v := by
  have hread : Pointer.segments v.path = names := by rw [hpath, Pointer.segments_along]
  exact ⟨by rw [hread, hpath], hread ▸ h⟩

/-- The path of a check that fails leads to what fails it. -/
theorem Failing.locates {site : Site} (h : m.Failing ⟨s, j, ""⟩ site) :
    m.Locates s j site.violation := by
  cases h with
  | check hpos hc hb =>
    obtain ⟨names, hpath, hmarks⟩ := hpos.exists_marks
    exact locates_of_along hpath (.check hmarks (List.mem_of_getElem? hc) hb)
  | @missing trail p i e hpos he =>
    obtain ⟨names, hpath, hmarks⟩ := hpos.exists_marks
    obtain ⟨s', x, path⟩ := p
    obtain ⟨fields, rfl, habs⟩ := he.absent
    -- an object is not a key
    cases hmarks with
    | value hroute =>
      have hplace : pointer path e.memberName = Pointer.along "" (names ++ [e.memberName]) := by
        rw [Pointer.along_append]
        exact congrArg (pointer · e.memberName) hpath
      exact locates_of_along hplace
        (.missing hroute he.struct (List.mem_of_getElem? he.member) he.needed habs)

/-- The path of a value of the wrong type leads to it, unless it is the value at the top. -/
theorem Misfitting.mistypes {path expected : String} (ha : s.kind.Accepts j)
    (h : m.Misfitting ⟨s, j, ""⟩ (.wrongType path expected)) : m.Mistypes s j path expected := by
  obtain ⟨trail, p, hpos, hunfit⟩ := h
  obtain ⟨names, hpath, hmarks⟩ := hpos.exists_marks
  cases hunfit with
  | wrongType hn =>
    have hnames : names ≠ [] := by
      rintro rfl
      obtain ⟨hshape, hvalue⟩ := hmarks.eq_of_nil
      rw [← hshape, ← hvalue] at hn
      exact hn ha
    have hshown : Validator.shownPath p.path = Pointer.along "" names := by
      rw [hpath, Validator.shownPath, if_neg]
      simpa using Pointer.along_ne_empty hnames
    rw [hshown]
    refine ⟨?_, ?_, ?_⟩ <;> rw [Pointer.segments_along]
    · exact hnames
    · exact ⟨p.shape, p.value, hmarks, hn, rfl⟩

end Model

namespace Validator

variable {v : Validator} {p : Spot} {depth : Nat} {x : Violation}

theorem refuse_violations (names : List String) : (refuse names).violations = [] := by
  cases names <;> rfl

/-- What the checks of a value report is a check that fails. -/
theorem exists_failing_of_check (hc : Compiled v.patterns)
    (h : x ∈ v.violationsOf p.shape.checks p.value p.path) :
    ∃ site, v.model.Failing p site ∧ site.violation = x := by
  obtain ⟨c, hmem, hx⟩ := List.mem_filterMap.1 h
  rw [evaluate_compiledOf hc, Option.map_eq_some_iff] at hx
  obtain ⟨breach, hb, rfl⟩ := hx
  obtain ⟨k, hk⟩ := List.mem_iff_getElem?.1 hmem
  exact ⟨_, .check (.here p) hk (Check.evaluate_eq_some_iff.1 hb), rfl⟩

/-- Whatever an evaluation reports is a check that fails, also when it is refused later on. -/
theorem exists_failing_of_mem (hm : v.model.Sound) (hc : Compiled v.patterns)
    (hp : p.Proper v.model) (h : x ∈ (v.hold depth p).violations) :
    ∃ site, v.model.Failing p site ∧ site.violation = x := by
  induction depth generalizing p with
  | zero =>
    by_cases ha : p.shape.kind.Accepts p.value
    · rw [hold, checkValue_of_accepts ha] at h
      obtain h | ⟨_, -, h⟩ := Verdict.mem_bind_violations h
      · exact exists_failing_of_check hc h
      · cases h
    · rw [hold_of_not_accepts ha] at h
      cases h
  | succ depth ih =>
    by_cases ha : p.shape.kind.Accepts p.value
    · rw [hold_succ (hm.nodup_memberNames hp.shape) hp.value ha] at h
      -- it is reported by a check of the value, or by a slot; a stray is no violation
      obtain h | ⟨_, -, h⟩ := Verdict.mem_bind_violations h
      · exact exists_failing_of_check hc h
      obtain h | ⟨_, -, h⟩ := Verdict.mem_bind_violations h
      · obtain ⟨slot, hslot, h⟩ := Verdict.exists_of_mem_forM h
        cases slot with
        | missing step path =>
          obtain ⟨i, e, rfl, rfl, he⟩ := (Model.missing_mem_slots_iff hp.value).1 hslot
          obtain rfl := List.mem_singleton.1 h
          exact ⟨_, .missing (.here p) he, rfl⟩
        | part step q =>
          have hpart := (Model.part_mem_slots_iff hm hp.shape hp.value).1 hslot
          obtain ⟨site, hsite, hx⟩ := ih (hp.part hm hpart) h
          have hbelow := Model.failing_iff.2 (.inr (.inr ⟨step, q, site, hpart, hsite, rfl⟩))
          exact ⟨site.below step, hbelow, hx⟩
      · rw [refuse_violations] at h
        cases h
    · rw [hold_of_not_accepts ha] at h
      cases h

end Validator

end Shapesmith
