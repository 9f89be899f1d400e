import Shapesmith.Proofs.Evaluation.Clean
import Shapesmith.Proofs.Evaluation.Report

/-!
# The order of fields

The fields of a structure may come in any order. Two values that differ in it only are evaluated
alike: the members of a structure are looked up in their own order, and what taking a field out does
to the order of the others is seen in one place only, which is the unknown name that is reported.

* `Model.Reordered` : two values are the same up to the order of the fields of structures;
* `Model.StraysAlike` : two names are unknown at the same position;
* `Verdict.Matches` : two verdicts are the same up to which unknown name they report;
* `Validator.matches_eachMember` : the loop over the members of a structure, with `eraseFill` on
  both sides;
* `Validator.matches_struct` and one lemma for each other kind of shape : evaluations of values
  whose parts are evaluated alike;
* `Validator.matches_descend`, `Validator.matches_depthBound` : evaluations at one depth, and at the
  depths that the two values ask for.
-/

namespace Shapesmith

/-! ### Verdicts up to a name -/

namespace Verdict

variable {α β γ : Type} {stray stray' : String → String → Prop}

/-- Both verdicts give the same value with the same violations, or both are the same misfit, where
they may report different names if these are related. -/
inductive Matches (stray : String → String → Prop) : Verdict α → Verdict α → Prop
  /-- Both give a value. -/
  | ok (vs : Violations) (a : α) : Matches stray ⟨vs, .ok a⟩ ⟨vs, .ok a⟩
  /-- Both find the wrong type at the same place. -/
  | wrongType (vs : Violations) (path expected : String) :
    Matches stray ⟨vs, .error (.wrongType path expected)⟩ ⟨vs, .error (.wrongType path expected)⟩
  /-- Both find a name that is unknown. -/
  | unknown (vs : Violations) {name name' : String} (h : stray name name') :
    Matches stray ⟨vs, .error (.unknownMember name)⟩ ⟨vs, .error (.unknownMember name')⟩
  /-- Both go on forever. -/
  | endless (vs vs' : Violations) : Matches stray ⟨vs, .error .endless⟩ ⟨vs', .error .endless⟩

theorem matches_refl (x : Verdict α)
    (h : ∀ name, x.outcome = .error (.unknownMember name) → stray name name) :
    x.Matches stray x := by
  obtain ⟨vs, cause | a⟩ := x
  · cases cause with
    | wrongType path expected => exact .wrongType vs path expected
    | unknownMember name => exact .unknown vs (h name rfl)
    | endless => exact .endless vs vs
  · exact .ok vs a

theorem matches_pure (a : α) : (pure a : Verdict α).Matches stray (pure a) := .ok [] a

theorem matches_of_not_settled {x x' : Verdict α} (h : ¬ x.Settled) (h' : ¬ x'.Settled) :
    x.Matches stray x' := by
  obtain ⟨vs, o⟩ := x
  obtain ⟨vs', o'⟩ := x'
  obtain rfl : o = .error .endless := not_not.1 h
  obtain rfl : o' = .error .endless := not_not.1 h'
  exact .endless vs vs'

namespace Matches

variable {x x' : Verdict α}

theorem mono (h : x.Matches stray x')
    (hstray : ∀ name name', stray name name' → stray' name name') : x.Matches stray' x' := by
  cases h with
  | ok vs a => exact .ok vs a
  | wrongType vs path expected => exact .wrongType vs path expected
  | unknown vs h => exact .unknown vs (hstray _ _ h)
  | endless vs vs' => exact .endless vs vs'

theorem settled_iff (h : x.Matches stray x') : x.Settled ↔ x'.Settled := by
  cases h with
  | ok | wrongType | unknown => simp [Settled]
  | endless => rfl

/-- Verdicts that match go on to match. -/
theorem bind (h : x.Matches stray x') {f f' : α → Verdict β}
    (hf : ∀ a, x.outcome = .ok a → (f a).Matches stray (f' a)) :
    (x >>= f).Matches stray (x' >>= f') := by
  cases h with
  | ok vs a =>
    have h := hf a rfl
    rw [bind_ok, bind_ok]
    revert h
    generalize f a = y, f' a = y'
    rintro (⟨us, b⟩ | ⟨us, path, expected⟩ | ⟨us, hname⟩ | ⟨us, us'⟩)
    · exact .ok _ b
    · exact .wrongType _ path expected
    · exact .unknown _ hname
    · exact .endless _ _
  | wrongType vs path expected => exact .wrongType vs path expected
  | unknown vs h => exact .unknown vs h
  | endless vs vs' => exact .endless vs vs'

theorem map (h : x.Matches stray x') (f : α → β) : (f <$> x).Matches stray (f <$> x') := by
  rw [← bind_pure_comp, ← bind_pure_comp]
  exact h.bind fun a _ => matches_pure (f a)

/-- Rows of steps that match do. -/
theorem mapM {f : α → Verdict γ} {f' : β → Verdict γ} {l : List α} {l' : List β}
    (h : List.Forall₂ (fun a b => (f a).Matches stray (f' b)) l l') :
    (l.mapM f).Matches stray (l'.mapM f') := by
  induction h with
  | nil => exact matches_pure []
  | cons hab _ ih =>
    rw [List.mapM_cons, List.mapM_cons]
    exact hab.bind fun c _ => ih.bind fun cs _ => matches_pure (c :: cs)

end Matches

end Verdict

/-! ### Values up to the order of fields -/

namespace Model

variable (m : Model)

/-- Two values of a shape are the same up to the order of the fields of structures in them. -/
inductive Reordered : Shape → Json → Json → Prop
  /-- They are the same. -/
  | same (s : Shape) (j : Json) : Reordered s j j
  /-- They are lists whose items are in the same order. -/
  | list {s e : Shape} {id : ShapeId} {items items' : List Json} (hs : s.kind = .list id)
    (he : m.find? id = some e) (hlength : items'.length = items.length)
    (hitems : ∀ (i : Nat) (x x' : Json), items[i]? = some x → items'[i]? = some x' →
      Reordered (m.targetOf e) x x') : Reordered s (.arr items) (.arr items')
  /-- They are maps whose entries are in the same order. -/
  | map {s e : Shape} {k w : ShapeId} {fields fields' : List (String × Json)}
    (hs : s.kind = .map k w) (he : m.find? w = some e)
    (hkeys : Table.keys fields' = Table.keys fields)
    (hvalues : ∀ (i : Nat) (f f' : String × Json), fields[i]? = some f → fields'[i]? = some f' →
      Reordered (m.targetOf e) f.2 f'.2) : Reordered s (.obj fields) (.obj fields')
  /-- They are structures, whose fields may be in another order, or unions, which have one field.
  Nothing is known of the values of unknown fields, so that these are the same. -/
  | members {s : Shape} {fields fields' : List (String × Json)}
    (hs : s.isStruct = true ∨ s.isUnion = true)
    (hkeys : (Table.keys fields').Perm (Table.keys fields))
    (hvalues : ∀ e ∈ m.membersOf s, ∀ x x', (e.memberName, x) ∈ fields →
      (e.memberName, x') ∈ fields' → Reordered (m.targetOf e) x x')
    (hstrays : ∀ f ∈ fields', (∀ e ∈ m.membersOf s, e.memberName ≠ f.1) → f ∈ fields) :
    Reordered s (.obj fields) (.obj fields')

/-- Two names are unknown at the same position below two values, one in each. -/
def StraysAlike (p p' : Spot) (name name' : String) : Prop :=
  ∃ trail q q', m.Position p trail q ∧ m.Position p' trail q' ∧ q'.shape = q.shape ∧
    q'.path = q.path ∧ m.Unfit q (.unknownMember name) ∧ m.Unfit q' (.unknownMember name')

variable {m} {s : Shape}

namespace Reordered

variable {j j' : Json}

/-- The order of fields does not change how many there are. -/
theorem sameSize (h : m.Reordered s j j') : j.SameSize j' := by
  cases h with
  | same => exact .refl _
  | list _ _ hlength => exact .arr hlength.symm
  | map _ _ hkeys => exact .obj (Table.length_eq_of_keys_eq hkeys).symm
  | members _ hkeys => exact .obj (by simpa [Table.keys] using hkeys.length_eq.symm)

theorem eq_null_iff (h : m.Reordered s j j') : j' = .null ↔ j = .null := by
  cases h with
  | same => rfl
  | list | map | members => exact iff_of_false Json.noConfusion Json.noConfusion

/-- The fields of a structure may be put into another order. -/
theorem of_perm {fields fields' : List (String × Json)} (hs : s.isStruct = true)
    (hkeys : (Table.keys fields).Nodup) (h : fields'.Perm fields) :
    m.Reordered s (.obj fields) (.obj fields') := by
  refine .members (.inl hs) (h.map Prod.fst) (fun e _ x x' hx hx' => ?_)
    fun f hf _ => h.mem_iff.1 hf
  have hget := Table.get?_of_mem hkeys hx
  rw [Table.get?_of_mem hkeys (h.mem_iff.1 hx'), Option.some.injEq] at hget
  exact hget ▸ .same _ x'

end Reordered

namespace StraysAlike

variable {p p' q q' : Spot} {name name' : String}

theorem here {fields fields' : List (String × Json)} {path : String}
    (hs : s.isStruct = true ∨ s.isUnion = true) (h : name ∈ Table.keys fields)
    (h' : name' ∈ Table.keys fields') (hno : ∀ e ∈ m.membersOf s, e.memberName ≠ name)
    (hno' : ∀ e ∈ m.membersOf s, e.memberName ≠ name') :
    m.StraysAlike ⟨s, .obj fields, path⟩ ⟨s, .obj fields', path⟩ name name' :=
  ⟨[], _, _, .here _, .here _, rfl, rfl, .unknown rfl hs h hno, .unknown rfl hs h' hno'⟩

/-- What is unknown in a part is unknown below the whole. -/
theorem of_part {step : Spot.Step} (h : m.StraysAlike q q' name name') (hq : m.Part p step q)
    (hq' : m.Part p' step q') : m.StraysAlike p p' name name' := by
  obtain ⟨trail, r, r', hr, hr', hrest⟩ := h
  exact ⟨step :: trail, r, r', .deeper hq hr, .deeper hq' hr', hrest⟩

end StraysAlike

end Model

namespace Validator

open Verdict

variable {α : Type} {v : Validator} {path : String} {depth : Nat}
  {stray : String → String → Prop}

/-! ### Loops -/

theorem matches_eachItem {step : Json → String → Verdict Json} {items items' : List Json}
    (hlength : items'.length = items.length)
    (h : ∀ (i : Nat) (x x' : Json), items[i]? = some x → items'[i]? = some x' →
      (step x (pointer path (toString i))).Matches stray (step x' (pointer path (toString i)))) :
    (eachItem step path 0 items).Matches stray (eachItem step path 0 items') := by
  rw [eachItem_eq_mapM, eachItem_eq_mapM]
  refine Matches.mapM (forall₂_iff_getElem?.2 ⟨by simpa using hlength, fun i a a' ha ha' => ?_⟩)
  obtain ⟨x, hx, rfl⟩ : ∃ x, items[i]? = some x ∧ (x, i) = a := by simpa using ha
  obtain ⟨x', hx', rfl⟩ : ∃ x', items'[i]? = some x' ∧ (x', i) = a' := by simpa using ha'
  exact h i x x' hx hx'

theorem matches_eachEntry {key value : Json → String → Verdict Json}
    {fields fields' : List (String × Json)} (hkeys : Table.keys fields' = Table.keys fields)
    (h : ∀ (i : Nat) (name : String) (x x' : Json), fields[i]? = some (name, x) →
      fields'[i]? = some (name, x') →
        (key (.str name) (pointer path name)).Matches stray (key (.str name) (pointer path name)) ∧
        (value x (pointer path name)).Matches stray (value x' (pointer path name))) :
    (eachEntry key value path fields).Matches stray (eachEntry key value path fields') := by
  rw [eachEntry_eq_mapM, eachEntry_eq_mapM]
  refine Matches.mapM (forall₂_iff_getElem?.2 ⟨Table.length_eq_of_keys_eq hkeys, ?_⟩)
  rintro i ⟨name, x⟩ ⟨name', x'⟩ hf hf'
  obtain ⟨f, hf'', hname⟩ := Table.exists_getElem?_of_keys_eq hkeys hf'
  obtain rfl := Option.some.inj (hf.symm.trans hf'')
  obtain rfl : name = name' := hname
  obtain ⟨hkey, hvalue⟩ := h i name x x' hf hf'
  exact hkey.bind fun _ _ => hvalue.map _

theorem matches_eachChoice {members : List Shape} {step : Shape → Json → String → Verdict Json}
    {name : String} {x x' : Json}
    (h : ∀ e ∈ members, e.memberName = name →
      (step e x (pointer path name)).Matches stray (step e x' (pointer path name)))
    (hstray : (∀ e ∈ members, e.memberName ≠ name) → stray name name) :
    (eachChoice members step path [(name, x)]).Matches stray
      (eachChoice members step path [(name, x')]) := by
  simp only [eachChoice]
  cases hfind : members.find? fun e => e.memberName == name with
  | none =>
    refine .unknown [] (hstray fun e he heq => ?_)
    simpa [heq] using List.find?_eq_none.1 hfind e he
  | some e =>
    have hname : e.memberName = name := by simpa using List.find?_some hfind
    exact (h e (List.mem_of_find?_eq_some hfind) hname).bind fun y _ => matches_pure _

/-- Two objects give a member or do not give it, both of them. What comes of it then matches if
what comes of the given values does, and what comes of the default. -/
theorem matches_candidate {r : Requirement} {name place : String}
    {fields fields' : List (String × Json)} (hkeys : (Table.keys fields).Nodup)
    (hkeys' : (Table.keys fields').Nodup)
    (hsame : name ∈ Table.keys fields' ↔ name ∈ Table.keys fields)
    (hnull : ∀ x x', (name, x) ∈ fields → (name, x') ∈ fields' → (x' = .null ↔ x = .null))
    {step step' : Json → Verdict (Option Json)}
    (hgiven : ∀ x x', (name, x) ∈ fields → (name, x') ∈ fields' → x ≠ .null → x' ≠ .null →
      (step x).Matches stray (step' x'))
    (hdefault : ∀ x, r = .default x → (∀ y, (name, y) ∈ fields → y = .null) →
      (∀ y, (name, y) ∈ fields' → y = .null) → (step x).Matches stray (step' x)) :
    (candidate r (Table.get? fields name) place >>= fun value =>
      match value with
      | none => pure none
      | some j => step j).Matches stray
    (candidate r (Table.get? fields' name) place >>= fun value =>
      match value with
      | none => pure none
      | some j => step' j) := by
  by_cases habs : ∀ y, (name, y) ∈ fields → y = .null
  · have habs' : ∀ y, (name, y) ∈ fields' → y = .null := by
      intro y' hy'
      obtain ⟨⟨_, y⟩, hy, rfl⟩ := List.mem_map.1 (hsame.1 (Table.mem_keys_of_mem hy'))
      exact (hnull y y' hy hy').2 (habs y hy)
    rw [candidate_of_absent hkeys habs, candidate_of_absent hkeys' habs']
    cases r with
    | required => exact .ok _ none
    | default x => exact hdefault x rfl habs habs'
    | optional => exact .ok _ none
  · push Not at habs
    obtain ⟨x, hx, hne⟩ := habs
    obtain ⟨⟨_, x'⟩, hx', rfl⟩ := List.mem_map.1 (hsame.2 (Table.mem_keys_of_mem hx))
    have hne' : x' ≠ .null := mt (hnull x x' hx hx').1 hne
    rw [Table.get?_of_mem hkeys hx, Table.get?_of_mem hkeys' hx', candidate_of_ne_null hne,
      candidate_of_ne_null hne', pure_bind, pure_bind]
    exact hgiven x x' hx hx' hne hne'

/-- Loops over the members of a structure match when their steps do. Taking the fields out may leave
the others in different orders on both sides, so that another name is left over first. -/
theorem matches_eachMember {step : Shape → Option Json → String → Verdict (Option Json)}
    {members : List Shape} {fields fields' : List (String × Json)}
    (hnames : (members.map Shape.memberName).Nodup) (hkeys : (Table.keys fields).Nodup)
    (hkeys' : (Table.keys fields').Nodup)
    (hsame : ∀ name, name ∈ Table.keys fields' ↔ name ∈ Table.keys fields)
    (hsteps : ∀ e ∈ members,
      (step e (Table.get? fields e.memberName) (pointer path e.memberName)).Matches stray
        (step e (Table.get? fields' e.memberName) (pointer path e.memberName)))
    (hstray : ∀ name ∈ Table.keys fields, ∀ name' ∈ Table.keys fields',
      (∀ e ∈ members, e.memberName ≠ name) → (∀ e ∈ members, e.memberName ≠ name') →
        stray name name') :
    (eachMember step path members fields).Matches stray
      (eachMember step path members fields') := by
  induction members generalizing fields fields' with
  | nil =>
    cases fields with
    | nil =>
      cases fields' with
      | nil => exact .ok [] []
      | cons f' _ => cases (hsame f'.1).1 List.mem_cons_self
    | cons f _ =>
      cases fields' with
      | nil => cases (hsame f.1).2 List.mem_cons_self
      | cons f' _ =>
        refine .unknown [] (hstray f.1 List.mem_cons_self f'.1 List.mem_cons_self ?_ ?_) <;>
          exact fun e he => absurd he List.not_mem_nil
  | cons e members ih =>
    rw [List.map_cons, List.nodup_cons] at hnames
    have hne : ∀ e' ∈ members, e'.memberName ≠ e.memberName := fun e' he' heq =>
      hnames.1 (heq ▸ List.mem_map_of_mem he')
    have hother {name : String} (hname : name ≠ e.memberName)
        (h : ∀ e' ∈ members, e'.memberName ≠ name) : ∀ e' ∈ e :: members, e'.memberName ≠ name :=
      List.forall_mem_cons.2 ⟨hname.symm, h⟩
    rw [eachMember_cons, eachMember_cons]
    refine (hsteps e List.mem_cons_self).bind fun value _ => ?_
    refine (ih hnames.2 (Table.nodup_keys_eraseFill hkeys _) (Table.nodup_keys_eraseFill hkeys' _)
      (fun name => ?_) (fun e' he' => ?_) fun name hname name' hname' hno hno' => ?_).map _
    · rw [Table.mem_keys_eraseFill hkeys, Table.mem_keys_eraseFill hkeys', hsame]
    · rw [Table.get?_eraseFill_of_ne hkeys (hne e' he'),
        Table.get?_eraseFill_of_ne hkeys' (hne e' he')]
      exact hsteps e' (List.mem_cons_of_mem _ he')
    · obtain ⟨hname, hn⟩ := (Table.mem_keys_eraseFill hkeys).1 hname
      obtain ⟨hname', hn'⟩ := (Table.mem_keys_eraseFill hkeys').1 hname'
      exact hstray name hname name' hname' (hother hn hno) (hother hn' hno')

/-! ### Levels -/

/-- Before their parts, values of the same size are evaluated alike. -/
theorem matches_checkValue {t : Shape} {j j' : Json} {checks : List Check} {y y' : Verdict α}
    (h : j.SameSize j') (hparts : t.kind.Accepts j → y.Matches stray y') :
    (v.checkValue t checks j path >>= fun _ => y).Matches stray
      (v.checkValue t checks j' path >>= fun _ => y') := by
  rw [← checkValue_of_sameSize h]
  by_cases ha : t.kind.Accepts j
  · rw [checkValue_of_accepts ha]
    exact (Matches.ok _ ()).bind fun _ _ => hparts ha
  · rw [checkValue_of_not_accepts ha]
    exact .wrongType [] _ _

/-- Parts that two values have at the same step are evaluated alike. -/
def PartsMatch (v : Validator) (depth : Nat) (t : Shape) (j j' : Json) (path : String) : Prop :=
  ∀ (e : Shape) (x x' : Json) (place : String) (step : Spot.Step),
    v.model.Part ⟨t, j, path⟩ step ⟨v.model.targetOf e, x, place⟩ →
    v.model.Part ⟨t, j', path⟩ step ⟨v.model.targetOf e, x', place⟩ →
    v.model.Reordered (v.model.targetOf e) x x' →
      (v.within depth e x place).Matches (v.model.StraysAlike ⟨t, j, path⟩ ⟨t, j', path⟩)
        (v.within depth e x' place)

section Kinds

variable {t e : Shape} {fields fields' : List (String × Json)}

theorem matches_list {id : ShapeId} {items items' : List Json} (hk : t.kind = .list id)
    (he : v.model.find? id = some e) (hlength : items'.length = items.length)
    (hitems : ∀ (i : Nat) (x x' : Json), items[i]? = some x → items'[i]? = some x' →
      v.model.Reordered (v.model.targetOf e) x x')
    (hparts : v.PartsMatch depth t (.arr items) (.arr items') path) :
    (v.descend (depth + 1) t (.arr items) path).Matches
      (v.model.StraysAlike ⟨t, .arr items, path⟩ ⟨t, .arr items', path⟩)
      (v.descend (depth + 1) t (.arr items') path) := by
  rw [descend_list hk he, descend_list hk he]
  refine (matches_eachItem hlength fun i x x' hx hx' => ?_).map Json.arr
  exact hparts e x x' _ _ (.item hk he hx) (.item hk he hx') (hitems i x x' hx hx')

theorem matches_map {e' : Shape} {k w : ShapeId} (hk : t.kind = .map k w)
    (he : v.model.find? k = some e) (he' : v.model.find? w = some e')
    (hkeys : Table.keys fields' = Table.keys fields)
    (hvalues : ∀ (i : Nat) (f f' : String × Json), fields[i]? = some f → fields'[i]? = some f' →
      v.model.Reordered (v.model.targetOf e') f.2 f'.2)
    (hparts : v.PartsMatch depth t (.obj fields) (.obj fields') path) :
    (v.descend (depth + 1) t (.obj fields) path).Matches
      (v.model.StraysAlike ⟨t, .obj fields, path⟩ ⟨t, .obj fields', path⟩)
      (v.descend (depth + 1) t (.obj fields') path) := by
  rw [descend_map hk he he', descend_map hk he he']
  refine (matches_eachEntry hkeys fun i name x x' hx hx' => ⟨?_, ?_⟩).map Json.obj
  · exact hparts e _ _ _ _ (.key hk he hx) (.key hk he hx') (.same _ _)
  · exact hparts e' x x' _ _ (.value hk he' hx) (.value hk he' hx') (hvalues i _ _ hx hx')

section Members

variable (hkeys : (Table.keys fields').Perm (Table.keys fields))
  (hvalues : ∀ e ∈ v.model.membersOf t, ∀ x x', (e.memberName, x) ∈ fields →
    (e.memberName, x') ∈ fields' → v.model.Reordered (v.model.targetOf e) x x')
  (hparts : v.PartsMatch depth t (.obj fields) (.obj fields') path)
include hkeys hvalues hparts

/-- A structure finds the same for each of its members, whatever the order of the fields. -/
theorem matches_struct (hm : v.model.Sound) (ht : t ∈ v.model.shapes) (hs : t.isStruct = true)
    (hnodup : (Table.keys fields).Nodup) (hnodup' : (Table.keys fields').Nodup) :
    (v.descend (depth + 1) t (.obj fields) path).Matches
      (v.model.StraysAlike ⟨t, .obj fields, path⟩ ⟨t, .obj fields', path⟩)
      (v.descend (depth + 1) t (.obj fields') path) := by
  rw [descend_struct v hs, descend_struct v hs]
  refine (matches_eachMember (hm.nodup_memberNames ht) hnodup hnodup' (fun _ => hkeys.mem_iff)
    (fun e he => ?_) fun name hname name' hname' hno hno' =>
      .here (.inl hs) hname hname' hno hno').map Json.obj
  obtain ⟨i, hi⟩ := List.mem_iff_getElem?.1 he
  have hvalues := hvalues e he
  refine matches_candidate hnodup hnodup' hkeys.mem_iff
    (fun x x' hx hx' => (hvalues x x' hx hx').eq_null_iff)
    (fun x x' hx hx' hne hne' => ?_) fun x hreq habs habs' => ?_
  · exact (hparts e x x' _ _ (.member hs hi (.given hx hne)) (.member hs hi (.given hx' hne'))
      (hvalues x x' hx hx')).map some
  · have hdefault := Requirement.of_eq_default_iff.1 hreq
    exact (hparts e x x _ _ (.member hs hi (.default habs hdefault))
      (.member hs hi (.default habs' hdefault)) (.same _ x)).map some

/-- A value of a union has one field, which cannot be put into another order. -/
theorem matches_union (hs : t.isUnion = true) (ha : t.kind.Accepts (.obj fields)) :
    (v.descend (depth + 1) t (.obj fields) path).Matches
      (v.model.StraysAlike ⟨t, .obj fields, path⟩ ⟨t, .obj fields', path⟩)
      (v.descend (depth + 1) t (.obj fields') path) := by
  obtain ⟨ids, hk⟩ := Shape.isUnion_iff.1 hs
  rw [hk] at ha
  cases ha with
  | union _ f =>
    obtain ⟨name, x⟩ := f
    have hkeys := List.perm_singleton.1 hkeys
    obtain ⟨⟨name', x'⟩, rfl⟩ := List.length_eq_one_iff.1
      (Table.length_eq_of_keys_eq (t := [(name, x)]) hkeys)
    obtain rfl : name' = name := by simpa using hkeys
    rw [descend_union hs, descend_union hs]
    refine (matches_eachChoice (fun e he hname => ?_) fun hno =>
      .here (.inr hs) List.mem_cons_self List.mem_cons_self hno hno).map Json.obj
    obtain ⟨i, hi⟩ := List.mem_iff_getElem?.1 he
    subst hname
    exact hparts e x x' _ _ (.choice hs hi List.mem_cons_self) (.choice hs hi List.mem_cons_self)
      (hvalues e he x x' List.mem_cons_self List.mem_cons_self)

end Members

end Kinds

section Levels

variable {t : Shape} {j j' : Json}

/-- Below the top, an evaluation ends when it does with the top. -/
theorem settled_hold_iff (ha : t.kind.Accepts j) :
    (v.hold depth ⟨t, j, path⟩).Settled ↔ (v.descend depth t j path).Settled := by
  rw [hold, checkValue_of_accepts ha, bind_ok]
  exact settled_forget_iff

variable (hm : v.model.Sound) (ht : t ∈ v.model.shapes) (hd : j.Distinct) (ha : t.kind.Accepts j)
include hm ht hd ha

/-- An unknown name that is reported is unknown at some position. -/
theorem straysAlike_of_descend {name : String}
    (h : (v.descend depth t j path).outcome = .error (.unknownMember name)) :
    v.model.StraysAlike ⟨t, j, path⟩ ⟨t, j, path⟩ name name := by
  have hhold : (v.hold depth ⟨t, j, path⟩).outcome = .error (.unknownMember name) := by
    rw [hold, checkValue_of_accepts ha, bind_ok]
    exact forget_outcome_eq_error_iff.2 h
  obtain ⟨trail, q, hq, hunfit⟩ :=
    exists_misfitting_of_error hm ⟨ht, hd⟩ hhold Misfit.noConfusion
  exact ⟨trail, q, q, hq, hq, rfl, rfl, hunfit, hunfit⟩

/-- Any depth that is enough below the top gives the verdict of the bound. -/
theorem descend_approximates_depthBound (depth : Nat) : (v.descend depth t j path).Approximates
    (v.descend (v.depthBound j) t j path) := by
  intro h
  have hbound := settled_depthBound hm ⟨ht, hd⟩ ((settled_hold_iff ha).2 h)
  rw [settled_hold_iff ha] at hbound
  rcases Nat.le_total depth (v.depthBound j) with hle | hle
  · exact descend_approximates_of_le hle h
  · exact (descend_approximates_of_le hle hbound).symm

/-- Below the top, values that are the same up to the order of fields are evaluated alike at any
depth. -/
theorem matches_descend (hd' : j'.Distinct) (h : v.model.Reordered t j j') :
    (v.descend depth t j path).Matches (v.model.StraysAlike ⟨t, j, path⟩ ⟨t, j', path⟩)
      (v.descend depth t j' path) := by
  induction depth generalizing t j j' path with
  | zero => exact .endless [] []
  | succ depth ih =>
    have hparts : v.PartsMatch depth t j j' path := by
      intro e x x' place step hq hq' h
      have hp := Spot.Proper.part hm ⟨ht, hd⟩ hq
      have hp' := Spot.Proper.part hm ⟨ht, hd'⟩ hq'
      exact matches_checkValue h.sameSize fun ha =>
        (ih hp.shape hp.value ha hp'.value h).mono fun _ _ hstray => hstray.of_part hq hq'
    cases h with
    | same => exact matches_refl _ fun name hname => straysAlike_of_descend hm ht hd ha hname
    | list hk he hlength hitems => exact matches_list hk he hlength hitems hparts
    | map hk he hkeys hvalues =>
      obtain ⟨⟨e, -, hfind⟩, -⟩ := hm.find?_entry ht hk
      exact matches_map hk hfind he hkeys hvalues hparts
    | members hs hkeys hvalues =>
      rcases hs with hs | hs
      · exact matches_struct hkeys hvalues hparts hm ht hs (Json.distinct_obj_iff.1 hd).1
          (Json.distinct_obj_iff.1 hd').1
      · exact matches_union hkeys hvalues hparts hs ha

/-- Values that are the same up to the order of fields are evaluated alike at the depths that they
ask for, which need not be the same. -/
theorem matches_depthBound (hd' : j'.Distinct) (h : v.model.Reordered t j j') :
    (v.descend (v.depthBound j) t j path).Matches
      (v.model.StraysAlike ⟨t, j, path⟩ ⟨t, j', path⟩)
      (v.descend (v.depthBound j') t j' path) := by
  have ha' := ha.of_sameSize h.sameSize
  have hmatch (depth : Nat) : (v.descend depth t j path).Matches
      (v.model.StraysAlike ⟨t, j, path⟩ ⟨t, j', path⟩) (v.descend depth t j' path) :=
    matches_descend hm ht hd ha hd' h
  by_cases hsettled : (v.descend (v.depthBound j) t j path).Settled
  · rw [descend_approximates_depthBound hm ht hd' ha' _
      ((hmatch (v.depthBound j)).settled_iff.1 hsettled)]
    exact hmatch _
  · refine matches_of_not_settled hsettled fun hsettled' => hsettled ?_
    have h := (hmatch (v.depthBound j')).settled_iff.2 hsettled'
    rwa [descend_approximates_depthBound hm ht hd ha _ h]

end Levels

end Validator

end Shapesmith
