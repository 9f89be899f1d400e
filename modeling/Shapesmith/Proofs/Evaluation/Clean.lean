import Shapesmith.Proofs.Evaluation.Completed

/-!
# Evaluations without violations

An evaluation that gives a value and has nothing to report went well at every step.

* `Verdict.mapM_eq_pure_iff` : a row of steps goes well when each of its steps does;
* `Json.SameSize` : two values that the type and the checks of a shape do not tell apart
  (`Validator.checkValue_of_sameSize`);
* `Validator.eachItem_eq_pure_iff`, `Validator.eachEntry_eq_pure_iff`,
  `Validator.eachChoice_eq_pure_iff` : loops over the parts of a value are such rows;
* `Validator.eachMember_eq_pure_iff` : the loop over the members of a structure looks each of them
  up, although it takes fields out on the way;
* `Validator.memberWithin_eq_pure_iff` : what a member comes to;
* `Validator.within_eq_pure_iff` : a value has the right type and passes its checks before its parts
  are looked at.
-/

namespace Shapesmith

namespace Verdict

variable {α β : Type}

theorem settled_pure (a : α) : (pure a : Verdict α).Settled := by
  intro h
  cases h

theorem bind_eq_pure_iff {x : Verdict α} {f : α → Verdict β} {b : β} :
    x >>= f = pure b ↔ ∃ a, x = pure a ∧ f a = pure b := by
  obtain ⟨vs, e | a⟩ := x
  · simp
  · rw [bind_ok]
    constructor
    · intro h
      obtain ⟨hvs, hout⟩ := Verdict.mk.inj h
      obtain ⟨rfl, hfvs⟩ := List.append_eq_nil_iff.1 hvs
      exact ⟨a, rfl, congrArg₂ Verdict.mk hfvs hout⟩
    · rintro ⟨a', ha, hf⟩
      cases ha
      rw [hf]
      rfl

theorem map_eq_pure_iff {x : Verdict α} {f : α → β} {b : β} :
    f <$> x = pure b ↔ ∃ a, x = pure a ∧ f a = b := by
  rw [← bind_pure_comp, bind_eq_pure_iff]
  simp

/-- A row of steps goes well when each of its steps does. -/
theorem mapM_eq_pure_iff {f : α → Verdict β} {l : List α} {bs : List β} :
    l.mapM f = pure bs ↔ List.Forall₂ (fun a b => f a = pure b) l bs := by
  induction l generalizing bs with
  | nil => simp [eq_comm]
  | cons a l ih =>
    rw [List.mapM_cons, bind_eq_pure_iff, List.forall₂_cons_left_iff]
    simp only [bind_pure_comp, map_eq_pure_iff, ih]
    constructor
    · rintro ⟨b, hb, bs', hbs, rfl⟩
      exact ⟨b, bs', hb, hbs, rfl⟩
    · rintro ⟨b, bs', hb, hbs, rfl⟩
      exact ⟨b, hb, bs', hbs, rfl⟩

end Verdict

/-! ### Values of the same size -/

/-- Two values are equal, or both are lists or objects with as many parts. -/
inductive Json.SameSize : Json → Json → Prop
  | refl (j : Json) : SameSize j j
  | arr {items items' : List Json} (h : items.length = items'.length) :
    SameSize (.arr items) (.arr items')
  | obj {fields fields' : List (String × Json)} (h : fields.length = fields'.length) :
    SameSize (.obj fields) (.obj fields')

theorem Json.SameSize.symm {j j' : Json} (h : j.SameSize j') : j'.SameSize j := by
  cases h with
  | refl => exact .refl _
  | arr h => exact .arr h.symm
  | obj h => exact .obj h.symm

/-- A kind tells lists and objects apart from other values, and an object with one field from
others. -/
theorem Kind.Accepts.of_sameSize {k : Kind} {j j' : Json} (ha : k.Accepts j) (h : j.SameSize j') :
    k.Accepts j' := by
  cases h with
  | refl => exact ha
  | @arr items items' h =>
    cases ha with
    | document => exact .document _
    | list id => exact .list id items'
  | @obj fields fields' h =>
    cases ha with
    | document => exact .document _
    | map k w => exact .map k w fields'
    | struct ids => exact .struct ids fields'
    | union ids field =>
      obtain ⟨field', rfl⟩ := List.length_eq_one_iff.1 h.symm
      exact .union ids field'

/-- A check looks at a list or an object for its length only. -/
theorem Check.evaluate_of_sameSize {j j' : Json} (h : j.SameSize j') (c : Check)
    (compiled : Option Regex) : c.evaluate compiled j = c.evaluate compiled j' := by
  cases h with
  | refl => rfl
  | arr h | obj h => cases c <;> simp only [evaluate, measure?, h]

namespace Validator

open Verdict

variable {v : Validator} {path : String}

/-- Before its parts, a list or an object is looked at for its length only. -/
theorem checkValue_of_sameSize {j j' : Json} (h : j.SameSize j') (s : Shape) (checks : List Check)
    (place : String) : v.checkValue s checks j place = v.checkValue s checks j' place := by
  by_cases ha : s.kind.Accepts j
  · rw [checkValue_of_accepts ha, checkValue_of_accepts (ha.of_sameSize h)]
    simp only [violationsOf, Check.evaluate_of_sameSize h]
  · rw [checkValue_of_not_accepts ha,
      checkValue_of_not_accepts fun ha' => ha (ha'.of_sameSize h.symm)]

/-! ### Loops over parts -/

/-- In a shape with distinct names, a name finds the member that has it. -/
theorem find?_memberName {members : List Shape} (hnames : (members.map Shape.memberName).Nodup)
    {e : Shape} (he : e ∈ members) :
    (members.find? fun f => f.memberName == e.memberName) = some e := by
  cases hf : members.find? fun f => f.memberName == e.memberName with
  | none =>
    have hno := List.find?_eq_none.1 hf e he
    simp at hno
  | some f =>
    have hname : f.memberName = e.memberName := by simpa using List.find?_some hf
    rw [List.inj_on_of_nodup_map hnames (List.mem_of_find?_eq_some hf) he hname]

theorem eachItem_eq_mapM {step : Json → String → Verdict Json} (n : Nat) (items : List Json) :
    eachItem step path n items =
      (items.zipIdx n).mapM fun x => step x.1 (pointer path (toString x.2)) := by
  induction items generalizing n with
  | nil => rfl
  | cons x items ih => rw [eachItem, List.zipIdx_cons, List.mapM_cons, ih]

theorem eachEntry_eq_mapM {key value : Json → String → Verdict Json}
    (fields : List (String × Json)) : eachEntry key value path fields =
      fields.mapM fun f => key (.str f.1) (pointer path f.1) >>= fun _ =>
        (f.1, ·) <$> value f.2 (pointer path f.1) := by
  induction fields with
  | nil => rfl
  | cons f fields ih =>
    rw [eachEntry, List.mapM_cons, ih]
    simp only [bind_assoc, bind_map_left]

theorem eachItem_eq_pure_iff {step : Json → String → Verdict Json} {items built : List Json} :
    eachItem step path 0 items = pure built ↔ built.length = items.length ∧
      ∀ (i : Nat) (x w : Json), items[i]? = some x → built[i]? = some w →
        step x (pointer path (toString i)) = pure w := by
  rw [eachItem_eq_mapM, mapM_eq_pure_iff, forall₂_iff_getElem?, List.length_zipIdx]
  refine and_congr_right fun _ => ⟨fun h i x w hx hw => ?_, fun h i a w ha hw => ?_⟩
  · exact h i (x, i) w (by simp [hx]) hw
  · obtain ⟨x, hx, rfl⟩ : ∃ x, items[i]? = some x ∧ (x, i) = a := by simpa using ha
    exact h i x w hx hw

theorem eachEntry_eq_pure_iff {key value : Json → String → Verdict Json}
    {fields built : List (String × Json)} : eachEntry key value path fields = pure built ↔
      Table.keys built = Table.keys fields ∧
      (∀ name ∈ Table.keys fields, ∃ k, key (.str name) (pointer path name) = pure k) ∧
      ∀ (i : Nat) (f g : String × Json), fields[i]? = some f → built[i]? = some g →
        value f.2 (pointer path f.1) = pure g.2 := by
  rw [eachEntry_eq_mapM, mapM_eq_pure_iff, forall₂_iff_getElem?]
  have hstep {f g : String × Json} :
      (key (.str f.1) (pointer path f.1) >>= fun _ =>
        (f.1, ·) <$> value f.2 (pointer path f.1)) = pure g ↔
      g.1 = f.1 ∧ (∃ k, key (.str f.1) (pointer path f.1) = pure k) ∧
        value f.2 (pointer path f.1) = pure g.2 := by
    rw [bind_eq_pure_iff]
    simp only [map_eq_pure_iff]
    constructor
    · rintro ⟨k, hk, w, hw, rfl⟩
      exact ⟨rfl, ⟨k, hk⟩, hw⟩
    · rintro ⟨hname, ⟨k, hk⟩, hw⟩
      exact ⟨k, hk, g.2, hw, Prod.ext hname.symm rfl⟩
  simp only [hstep]
  constructor
  · rintro ⟨hlength, h⟩
    refine ⟨?_, fun name hname => ?_, fun i f g hf hg => (h i f g hf hg).2.2⟩
    · exact Table.keys_eq_of_forall₂
        (forall₂_iff_getElem?.2 ⟨hlength, fun i f g hf hg => (h i f g hf hg).1⟩)
    · obtain ⟨f, hf, rfl⟩ := List.mem_map.1 hname
      obtain ⟨i, hi⟩ := List.mem_iff_getElem?.1 hf
      obtain ⟨g, hg⟩ := exists_getElem?_of_length_eq hlength.symm hi
      exact (h i f g hi hg).2.1
  · rintro ⟨hkeys, hnames, hvalues⟩
    refine ⟨Table.length_eq_of_keys_eq hkeys, fun i f g hf hg => ?_⟩
    obtain ⟨f', hf', hname⟩ := Table.exists_getElem?_of_keys_eq hkeys hg
    obtain rfl := Option.some.inj (hf.symm.trans hf')
    exact ⟨hname.symm, hnames f.1 (Table.mem_keys_of_mem (List.mem_of_getElem? hf)),
      hvalues i f g hf hg⟩

theorem eachChoice_eq_pure_iff {members : List Shape} {step : Shape → Json → String → Verdict Json}
    {f : String × Json} {built : List (String × Json)} :
    eachChoice members step path [f] = pure built ↔
      ∃ e w, members.find? (fun e => e.memberName == f.1) = some e ∧
        step e f.2 (pointer path f.1) = pure w ∧ built = [(f.1, w)] := by
  rw [eachChoice]
  cases members.find? fun e => e.memberName == f.1 with
  | none => simp [misfit]
  | some e =>
    rw [bind_eq_pure_iff]
    constructor
    · rintro ⟨w, hw, hbuilt⟩
      cases hbuilt
      exact ⟨e, w, rfl, hw, rfl⟩
    · rintro ⟨e', w, he, hw, rfl⟩
      cases he
      exact ⟨w, hw, rfl⟩

/-! ### Members -/

/-- What comes of a member is put before what comes of the others. -/
theorem eachMember_cons {step : Shape → Option Json → String → Verdict (Option Json)} {e : Shape}
    {members : List Shape} {fields : List (String × Json)} :
    eachMember step path (e :: members) fields =
      step e (Table.get? fields e.memberName) (pointer path e.memberName) >>= fun value =>
        (fun rest => value.elim rest fun j => (e.memberName, j) :: rest) <$>
          eachMember step path members (Table.eraseFill fields e.memberName) := by
  rw [eachMember]
  simp only [bind_pure_comp]
  congr 1
  funext value
  cases value <;> rfl

/-! What comes of the first member is found again in what is built, by its name. -/

section First

variable {name other : String} {names : List String} {rest : List (String × Json)}

theorem get?_elim_cons_self (h : name ∉ Table.keys rest) (value : Option Json) :
    Table.get? (value.elim rest fun j => (name, j) :: rest) name = value := by
  cases value with
  | none => exact Table.get?_eq_none_iff.2 h
  | some j => exact if_pos rfl

theorem get?_elim_cons_of_ne (h : other ≠ name) (value : Option Json) :
    Table.get? (value.elim rest fun j => (name, j) :: rest) other = Table.get? rest other := by
  cases value with
  | none => rfl
  | some j => exact if_neg h.symm

theorem keys_elim_cons_sublist (h : (Table.keys rest).Sublist names) (value : Option Json) :
    (Table.keys (value.elim rest fun j => (name, j) :: rest)).Sublist (name :: names) := by
  cases value with
  | none => exact h.cons name
  | some j => exact h.cons_cons name

/-- When names come in this order, the value of the first one comes first. -/
theorem exists_eq_elim_cons {built : List (String × Json)} (hname : name ∉ names)
    (h : (Table.keys built).Sublist (name :: names)) :
    ∃ rest, (Table.keys rest).Sublist names ∧
      built = (Table.get? built name).elim rest fun j => (name, j) :: rest := by
  rcases List.sublist_cons_iff.1 h with hsub | ⟨keys, hkeys, hsub⟩
  · refine ⟨built, hsub, ?_⟩
    rw [Table.get?_eq_none_iff.2 fun hmem => hname (hsub.subset hmem), Option.elim_none]
  · cases built with
    | nil => cases hkeys
    | cons f rest =>
      obtain ⟨rfl, rfl⟩ := List.cons.inj hkeys
      refine ⟨rest, hsub, ?_⟩
      rw [Table.get?, if_pos rfl, Option.elim_some]

end First

/-- The loop over the members of a structure goes well when all names are known and each member goes
well with what is given for it. What comes of it are the values of the members that have one, in
the order of the members. -/
theorem eachMember_eq_pure_iff {step : Shape → Option Json → String → Verdict (Option Json)}
    {members : List Shape} {fields built : List (String × Json)}
    (hnames : (members.map Shape.memberName).Nodup) (hkeys : (Table.keys fields).Nodup) :
    eachMember step path members fields = pure built ↔
      (∀ name ∈ Table.keys fields, ∃ e ∈ members, e.memberName = name) ∧
      (Table.keys built).Sublist (members.map Shape.memberName) ∧
      ∀ e ∈ members, step e (Table.get? fields e.memberName) (pointer path e.memberName) =
        pure (Table.get? built e.memberName) := by
  induction members generalizing fields built with
  | nil =>
    cases fields with
    | nil =>
      rw [eachMember, List.map_nil, List.sublist_nil]
      constructor
      · intro h
        cases h
        exact ⟨by simp, rfl, by simp⟩
      · rintro ⟨-, hbuilt, -⟩
        rw [List.map_eq_nil_iff.1 hbuilt]
        rfl
    | cons f fields =>
      constructor
      · intro h
        cases h
      · rintro ⟨hknown, -⟩
        obtain ⟨e, he, -⟩ := hknown f.1 List.mem_cons_self
        cases he
  | cons e members ih =>
    rw [List.map_cons, List.nodup_cons] at hnames
    have hne : ∀ e' ∈ members, e'.memberName ≠ e.memberName := fun e' he' heq =>
      hnames.1 (heq ▸ List.mem_map_of_mem he')
    have hrest (built : List (String × Json)) :=
      @ih (Table.eraseFill fields e.memberName) built hnames.2
        (Table.nodup_keys_eraseFill hkeys e.memberName)
    -- the other members find what was given for them after this one has taken its field out
    have hsame : ∀ e' ∈ members, Table.get? (Table.eraseFill fields e.memberName) e'.memberName =
        Table.get? fields e'.memberName := fun e' he' =>
      Table.get?_eraseFill_of_ne hkeys (hne e' he')
    have hknown : (∀ name ∈ Table.keys (Table.eraseFill fields e.memberName),
          ∃ e' ∈ members, e'.memberName = name) ↔
        ∀ name ∈ Table.keys fields, ∃ e' ∈ e :: members, e'.memberName = name := by
      simp only [Table.mem_keys_eraseFill hkeys, and_imp, List.exists_mem_cons_iff]
      refine forall₂_congr fun name _ => ⟨fun h => ?_, fun h hn => h.resolve_left (Ne.symm hn)⟩
      by_cases hn : e.memberName = name
      · exact .inl hn
      · exact .inr (h (Ne.symm hn))
    rw [eachMember_cons]
    simp only [bind_eq_pure_iff, map_eq_pure_iff, hrest, hknown, List.forall_mem_cons,
      List.map_cons]
    constructor
    · rintro ⟨value, hvalue, rest, ⟨hfields, hsub, hsteps⟩, rfl⟩
      refine ⟨hfields, keys_elim_cons_sublist hsub value, ?_, fun e' he' => ?_⟩
      · rw [get?_elim_cons_self fun hmem => hnames.1 (hsub.subset hmem), hvalue]
      · rw [get?_elim_cons_of_ne (hne e' he'), ← hsame e' he', hsteps e' he']
    · rintro ⟨hfields, hsub, hvalue, hsteps⟩
      obtain ⟨rest, hrest, hbuilt⟩ := exists_eq_elim_cons hnames.1 hsub
      refine ⟨_, hvalue, rest, ⟨hfields, hrest, fun e' he' => ?_⟩, hbuilt.symm⟩
      have hget : Table.get? built e'.memberName = Table.get? rest e'.memberName := by
        rw [hbuilt, get?_elim_cons_of_ne (hne e' he')]
      rw [hsame e' he', hsteps e' he', hget]

/-- A value that is given and not null is the candidate. -/
theorem candidate_of_ne_null {r : Requirement} {x : Json} (h : x ≠ .null) (place : String) :
    candidate r (some x) place = pure (some x) := by
  cases x with
  | null => exact absurd rfl h
  | bool | num | str | arr | obj => cases r <;> rfl

section Member

variable {e : Shape} {fields : List (String × Json)} {place : String} {depth : Nat}
  (hkeys : (Table.keys fields).Nodup)
include hkeys

/-- A null counts as no candidate. -/
theorem candidate_of_absent {r : Requirement} {name : String}
    (h : ∀ x, (name, x) ∈ fields → x = .null) :
    candidate r (Table.get? fields name) place = candidate r none place := by
  cases hget : Table.get? fields name with
  | none => rfl
  | some x =>
    rw [h x ((Table.get?_eq_some_iff hkeys).1 hget)]
    cases r <;> rfl

/-- A member is held against its target with the value that it takes. -/
theorem memberWithin_of_takes {x : Json} (h : e.Takes fields x) :
    v.memberWithin depth e (Table.get? fields e.memberName) place =
      some <$> v.within depth e x place := by
  cases h with
  | given hx hnull =>
    rw [(Table.get?_eq_some_iff hkeys).2 hx, memberWithin, candidate_of_ne_null hnull]
    rfl
  | default habs hx =>
    rw [memberWithin, candidate_of_absent hkeys habs, Requirement.of_eq_default_iff.2 hx]
    rfl

/-- A member that has to be given and is not is a violation. -/
theorem memberWithin_of_required (h : e.AbsentFrom fields) (hreq : Requirement.of e = .required) :
    v.memberWithin depth e (Table.get? fields e.memberName) place =
      .withViolations [⟨place, .missingRequired⟩] none := by
  rw [memberWithin, candidate_of_absent hkeys h, hreq]
  rfl

/-- A member that is not given may stay away. -/
theorem memberWithin_of_optional (h : e.AbsentFrom fields) (hreq : Requirement.of e = .optional) :
    v.memberWithin depth e (Table.get? fields e.memberName) place = pure none := by
  rw [memberWithin, candidate_of_absent hkeys h, hreq]
  rfl

/-- A member goes well when the value that it takes does, or when it may stay away. -/
theorem memberWithin_eq_pure_iff {value : Option Json} :
    v.memberWithin depth e (Table.get? fields e.memberName) place = pure value ↔
      (∃ x w, e.Takes fields x ∧ v.within depth e x place = pure w ∧ value = some w) ∨
        e.AbsentFrom fields ∧ Requirement.of e = .optional ∧ value = none := by
  constructor
  · intro h
    rcases e.takes_or_absent fields with ⟨x, hx⟩ | ⟨habs, hreq | hreq⟩
    · rw [memberWithin_of_takes hkeys hx, map_eq_pure_iff] at h
      obtain ⟨w, hw, rfl⟩ := h
      exact .inl ⟨x, w, hx, hw, rfl⟩
    · rw [memberWithin_of_required hkeys habs hreq] at h
      cases h
    · rw [memberWithin_of_optional hkeys habs hreq] at h
      cases h
      exact .inr ⟨habs, hreq, rfl⟩
  · rintro (⟨x, w, hx, hw, rfl⟩ | ⟨habs, hreq, rfl⟩)
    · rw [memberWithin_of_takes hkeys hx, hw, map_pure]
    · exact memberWithin_of_optional hkeys habs hreq

end Member

/-- A value goes well when it has the right type, passes its checks and its parts go well. -/
theorem within_eq_pure_iff {depth : Nat} {s : Shape} {j w : Json} :
    v.within depth s j path = pure w ↔
      (v.model.targetOf s).kind.Accepts j ∧
        v.violationsOf (v.model.targetOf s).checks j path = [] ∧
          v.descend depth (v.model.targetOf s) j path = pure w := by
  rw [within]
  by_cases ha : (v.model.targetOf s).kind.Accepts j
  · rw [checkValue_of_accepts ha, bind_eq_pure_iff]
    constructor
    · rintro ⟨u, hu, hw⟩
      exact ⟨ha, congrArg Verdict.violations hu, hw⟩
    · rintro ⟨-, hvs, hw⟩
      exact ⟨(), by rw [hvs]; rfl, hw⟩
  · rw [checkValue_of_not_accepts ha]
    constructor
    · intro h
      cases h
    · rintro ⟨h, -⟩
      exact absurd h ha

/-! ### Levels -/

section Levels

variable {s e : Shape} {depth : Nat}

theorem descend_list {id : ShapeId} (hs : s.kind = .list id) (he : v.model.find? id = some e)
    (items : List Json) : v.descend (depth + 1) s (.arr items) path =
      Json.arr <$> eachItem (v.within depth e) path 0 items := by
  simp only [descend, hs, bind_pure_comp, shapeAt, he, Option.getD_some]
  rfl

theorem descend_map {k w : ShapeId} {e' : Shape} (hs : s.kind = .map k w)
    (he : v.model.find? k = some e) (he' : v.model.find? w = some e')
    (fields : List (String × Json)) : v.descend (depth + 1) s (.obj fields) path =
      Json.obj <$> eachEntry (v.within depth e) (v.within depth e') path fields := by
  simp only [descend, hs, bind_pure_comp, shapeAt, he, he', Option.getD_some]
  rfl

theorem descend_union (hs : s.isUnion = true) (fields : List (String × Json)) :
    v.descend (depth + 1) s (.obj fields) path =
      Json.obj <$> eachChoice (v.model.membersOf s) (v.within depth) path fields := by
  obtain ⟨ids, hk⟩ := Shape.isUnion_iff.1 hs
  simp only [descend, hk, bind_pure_comp]
  rfl

theorem descend_simple {t : Simple} (hs : s.kind = .simple t) (j : Json) :
    v.descend (depth + 1) s j path = pure j := by
  simp only [descend, hs]
  rfl

variable {w : Json}

/-- A list goes well when its items do. -/
theorem descend_list_eq_pure_iff {id : ShapeId} (hs : s.kind = .list id)
    (he : v.model.find? id = some e) {items : List Json} :
    v.descend (depth + 1) s (.arr items) path = pure w ↔
      ∃ built, w = .arr built ∧ built.length = items.length ∧
        ∀ (i : Nat) (x y : Json), items[i]? = some x → built[i]? = some y →
          v.within depth e x (pointer path (toString i)) = pure y := by
  rw [descend_list hs he, map_eq_pure_iff]
  simp only [eachItem_eq_pure_iff]
  constructor
  · rintro ⟨built, h, rfl⟩
    exact ⟨built, rfl, h⟩
  · rintro ⟨built, rfl, h⟩
    exact ⟨built, h, rfl⟩

/-- A map goes well when its keys and their values do. -/
theorem descend_map_eq_pure_iff {k t : ShapeId} {e' : Shape} (hs : s.kind = .map k t)
    (he : v.model.find? k = some e) (he' : v.model.find? t = some e')
    {fields : List (String × Json)} :
    v.descend (depth + 1) s (.obj fields) path = pure w ↔
      ∃ built, w = .obj built ∧ Table.keys built = Table.keys fields ∧
        (∀ name ∈ Table.keys fields,
          ∃ key, v.within depth e (.str name) (pointer path name) = pure key) ∧
        ∀ (i : Nat) (f g : String × Json), fields[i]? = some f → built[i]? = some g →
          v.within depth e' f.2 (pointer path f.1) = pure g.2 := by
  rw [descend_map hs he he', map_eq_pure_iff]
  simp only [eachEntry_eq_pure_iff]
  constructor
  · rintro ⟨built, h, rfl⟩
    exact ⟨built, rfl, h⟩
  · rintro ⟨built, rfl, h⟩
    exact ⟨built, h, rfl⟩

/-- A union goes well when its one member is known and its value does. -/
theorem descend_union_eq_pure_iff (hm : v.model.Sound) (hmem : s ∈ v.model.shapes)
    (hs : s.isUnion = true) {name : String} {x : Json} :
    v.descend (depth + 1) s (.obj [(name, x)]) path = pure w ↔
      ∃ e ∈ v.model.membersOf s, e.memberName = name ∧ ∃ y, w = .obj [(name, y)] ∧
        v.within depth e x (pointer path name) = pure y := by
  rw [descend_union hs, map_eq_pure_iff]
  simp only [eachChoice_eq_pure_iff]
  constructor
  · rintro ⟨built, ⟨e, y, hfind, hy, rfl⟩, rfl⟩
    have hname : e.memberName = name := by simpa using List.find?_some hfind
    exact ⟨e, List.mem_of_find?_eq_some hfind, hname, y, rfl, hy⟩
  · rintro ⟨e, he, rfl, y, rfl, hy⟩
    exact ⟨_, ⟨e, y, find?_memberName (hm.nodup_memberNames hmem) he, hy, rfl⟩, rfl⟩

/-- A structure goes well when it is completed and the values of its members go well. -/
theorem descend_struct_eq_pure_iff (hm : v.model.Sound) (hmem : s ∈ v.model.shapes)
    (hs : s.isStruct = true) {fields : List (String × Json)} (hkeys : (Table.keys fields).Nodup) :
    v.descend (depth + 1) s (.obj fields) path = pure w ↔
      ∃ built, w = .obj built ∧ v.model.Completes s fields built ∧
        ∀ e ∈ v.model.membersOf s, ∀ x y, e.Takes fields x → (e.memberName, y) ∈ built →
          v.within depth e x (pointer path e.memberName) = pure y := by
  have hnames := hm.nodup_memberNames hmem
  rw [descend_struct v hs, map_eq_pure_iff]
  simp only [eachMember_eq_pure_iff hnames hkeys, memberWithin_eq_pure_iff hkeys]
  constructor
  · rintro ⟨built, ⟨hknown, horder, hsteps⟩, rfl⟩
    refine ⟨built, rfl, ⟨hknown, fun e he habs hreq => ?_, horder, fun e he => ?_⟩,
      fun e he x y hx hy => ?_⟩
    · rcases hsteps e he with ⟨x, y, hx, -⟩ | ⟨-, hreq', -⟩
      · rw [habs.takes_iff, hreq] at hx
        cases hx
      · rw [hreq] at hreq'
        cases hreq'
    · rw [← Table.has_iff, Table.has]
      rcases hsteps e he with ⟨x, y, hx, -, hget⟩ | ⟨habs, hreq, hget⟩
      · exact ⟨fun _ => ⟨x, hx⟩, fun _ => by rw [hget]; rfl⟩
      · simp [hget, habs.takes_iff, hreq]
    · rw [← Table.get?_eq_some_iff (horder.nodup hnames)] at hy
      rcases hsteps e he with ⟨x', y', hx', hy', hget⟩ | ⟨habs, hreq, -⟩
      · obtain rfl := hx.unique hkeys hx'
        rwa [Option.some.inj (hy.symm.trans hget)]
      · rw [habs.takes_iff, hreq] at hx
        cases hx
  · rintro ⟨built, rfl, hcompletes, hvalues⟩
    refine ⟨built, ⟨hcompletes.known, hcompletes.order, fun e he => ?_⟩, rfl⟩
    rcases e.takes_or_absent fields with ⟨x, hx⟩ | ⟨habs, hreq | hreq⟩
    · obtain ⟨y, hy⟩ := hcompletes.exists_mem he hx
      exact .inl ⟨x, y, hx, hvalues e he x y hx hy,
        (Table.get?_eq_some_iff (hcompletes.nodup_keys hm hmem)).2 hy⟩
    · exact absurd hreq (hcompletes.needed e he habs)
    · refine .inr ⟨habs, hreq, Table.get?_eq_none_iff.2 fun hname => ?_⟩
      obtain ⟨x, hx⟩ := (hcompletes.members e he).1 hname
      rw [habs.takes_iff, hreq] at hx
      cases hx

end Levels

end Validator

end Shapesmith
