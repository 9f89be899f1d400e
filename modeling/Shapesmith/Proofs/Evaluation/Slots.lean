import Shapesmith.Proofs.Evaluation.Position
import Shapesmith.Proofs.Evaluation.Verdict
import Shapesmith.Proofs.Json.Distinct
import Shapesmith.Proofs.Model.Assembled

/-!
# One level of an evaluation

Lists, maps, structures and unions are evaluated by loops of their own. Up to the value that is
built, each of them goes through a list of slots.

* `Model.slots` lists the parts of a value and the members that are missing in it, in order;
* `Validator.hold` evaluates a value at a place, and `Validator.hold_succ` says that it holds the
  checks, then the slots, and then looks for members that the shape does not have.
-/

namespace Shapesmith

/-- A part of a value, or a member that is missing in it. -/
inductive Slot
  /-- A part. -/
  | part (step : Spot.Step) (spot : Spot)
  /-- A member that is missing at a place. -/
  | missing (step : Spot.Step) (path : String)

/-- The step to the slot. -/
def Slot.step : Slot → Spot.Step
  | .part step _ | .missing step _ => step

/-- The value of a member that an object gives, if it is not null. -/
def Shape.given? (e : Shape) (fields : List (String × Json)) : Option Json :=
  (Table.get? fields e.memberName).filter fun x => decide (x ≠ .null)

namespace Model

variable (m : Model)

/-- The slot of a member of a structure, if it has one. -/
def memberSlots (fields : List (String × Json)) (path : String) (e : Shape) (i : Nat) :
    List Slot :=
  let place := pointer path e.memberName
  match e.given? fields, Requirement.of e with
  | some x, _ | none, .default x => [.part (.member i) ⟨m.targetOf e, x, place⟩]
  | none, .required => [.missing (.member i) place]
  | none, .optional => []

/-- The slots of a value in order. -/
def slots (p : Spot) : List Slot :=
  let target (id : ShapeId) : Shape := m.targetOf ((m.find? id).getD p.shape)
  match p.shape.kind, p.value with
  | .list id, .arr items => items.zipIdx.map fun x =>
      .part (.item x.2) ⟨target id, x.1, pointer p.path (toString x.2)⟩
  | .map k v, .obj fields => fields.zipIdx.flatMap fun f =>
      [.part (.key f.2) ⟨target k, .str f.1.1, pointer p.path f.1.1⟩,
        .part (.value f.2) ⟨target v, f.1.2, pointer p.path f.1.1⟩]
  | .struct _, .obj fields => (m.membersOf p.shape).zipIdx.flatMap fun e =>
      m.memberSlots fields p.path e.1 e.2
  | .union _, .obj fields => fields.flatMap fun f =>
      ((m.membersOf p.shape).zipIdx.find? fun e => e.1.memberName == f.1).toList.map fun e =>
        .part (.member e.2) ⟨m.targetOf e.1, f.2, pointer p.path e.1.memberName⟩
  | _, _ => []

/-- The members of an object that the shape does not have. -/
def strays (p : Spot) : List String :=
  match p.shape.kind, p.value with
  | .struct _, .obj fields =>
    Table.keys ((m.membersOf p.shape).foldl (fun fs e => Table.eraseFill fs e.memberName) fields)
  | .union _, .obj fields => (Table.keys fields).filter fun name =>
      !(m.membersOf p.shape).any fun e => e.memberName == name
  | _, _ => []

end Model

namespace Validator

variable {v : Validator}

/-- Refuses the first of some names. -/
def refuse : List String → Verdict Unit
  | [] => pure ()
  | name :: _ => .misfit (.unknownMember name)

/-- What a slot contributes: what its part does, or a report. -/
def meet (part : Spot → Verdict Unit) : Slot → Verdict Unit
  | .part _ p => part p
  | .missing _ path => .withViolations [⟨path, .missingRequired⟩] ()

/-! ### Loops -/

theorem forget_eachItem {step : Json → String → Verdict Json} {path : String} {n : Nat}
    {items : List Json} : (eachItem step path n items).forget =
      forM (items.zipIdx n) fun x => (step x.1 (pointer path (toString x.2))).forget := by
  induction items generalizing n with
  | nil => rfl
  | cons x items ih =>
    rw [eachItem, List.zipIdx_cons, List.forM_cons, ← ih]
    simp only [bind_pure_comp, Verdict.forget_bind, Verdict.forget_map]
    rw [Verdict.bind_const]

theorem forget_eachEntry {key value : Json → String → Verdict Json} {path : String}
    {fields : List (String × Json)} : (eachEntry key value path fields).forget =
      forM fields fun f => (key (.str f.1) (pointer path f.1)).forget >>= fun _ =>
        (value f.2 (pointer path f.1)).forget := by
  induction fields with
  | nil => rfl
  | cons f fields ih =>
    rw [eachEntry, List.forM_cons, ← ih]
    simp only [bind_pure_comp, Verdict.forget_bind, Verdict.forget_map, bind_assoc]
    rw [Verdict.bind_const, Verdict.bind_const (value _ _)]

/-- The members of a structure take their fields one after the other. As their names are distinct,
each of them finds what was given for it in the first place. -/
theorem forget_eachMember {step : Shape → Option Json → String → Verdict (Option Json)}
    {path : String} {members : List Shape} {fields : List (String × Json)}
    (hnames : (members.map Shape.memberName).Nodup) (hkeys : (Table.keys fields).Nodup) :
    (eachMember step path members fields).forget =
      (forM members fun e =>
        (step e (Table.get? fields e.memberName) (pointer path e.memberName)).forget) >>= fun _ =>
      refuse (Table.keys
        (members.foldl (fun fs e => Table.eraseFill fs e.memberName) fields)) := by
  induction members generalizing fields with
  | nil => cases fields <;> rfl
  | cons e members ih =>
    rw [List.map_cons, List.nodup_cons] at hnames
    -- the field of one member may be taken out without another member noticing
    have hsame : ∀ e' ∈ members, Table.get? (Table.eraseFill fields e.memberName) e'.memberName =
        Table.get? fields e'.memberName := by
      intro e' he'
      refine Table.get?_eraseFill_of_ne hkeys fun heq => hnames.1 ?_
      exact heq ▸ List.mem_map_of_mem he'
    have hrest := ih hnames.2 (Table.nodup_keys_eraseFill hkeys e.memberName)
    rw [eachMember, List.forM_cons, List.foldl_cons]
    simp only [bind_pure_comp, Verdict.forget_bind, Verdict.forget_map, bind_assoc]
    rw [Verdict.bind_const, hrest, Verdict.forM_congr fun e' he' => by rw [hsame e' he']]

/-! ### Levels -/

variable (v)

/-- Holds a value against a shape, at most `depth` levels deep. -/
def within (depth : Nat) (s : Shape) (value : Json) (path : String) : Verdict Json := do
  let target := v.model.targetOf s
  v.checkValue target target.checks value path
  v.descend depth target value path

/-- Holds a value at a place against its shape, at most `depth` levels deep, for the report. -/
def hold (depth : Nat) (p : Spot) : Verdict Unit :=
  v.checkValue p.shape p.shape.checks p.value p.path >>= fun _ =>
    (v.descend depth p.shape p.value p.path).forget

theorem validate_eq_within (s : Shape) (value : Json) (path : String) :
    v.validate s value path = v.within (v.depthBound value) s value path := rfl

theorem forget_within (depth : Nat) (s : Shape) (value : Json) (path : String) :
    (v.within depth s value path).forget = v.hold depth (v.model.spot s value path) := by
  rw [within, Verdict.forget_bind, hold]
  rfl

theorem forget_validate (s : Shape) (value : Json) (path : String) :
    (v.validate s value path).forget =
      v.hold (v.depthBound value) (v.model.spot s value path) :=
  v.forget_within (v.depthBound value) s value path

variable {v}

theorem checkValue_of_accepts {s : Shape} {value : Json} (h : s.kind.Accepts value)
    (checks : List Check) (path : String) :
    v.checkValue s checks value path = ⟨v.violationsOf checks value path, .ok ()⟩ := by
  rw [checkValue, checkType, if_pos (isOfKind_iff.2 h)]
  rfl

theorem checkValue_of_not_accepts {s : Shape} {value : Json} (h : ¬ s.kind.Accepts value)
    (checks : List Check) (path : String) :
    v.checkValue s checks value path = .misfit (.wrongType (shownPath path) s.typeName) := by
  rw [checkValue, checkType, if_neg (mt isOfKind_iff.1 h)]
  rfl

/-- The slot of a member does what the member does. -/
theorem forget_candidate {m : Model} {e : Shape} {i : Nat} {fields : List (String × Json)}
    {path : String} {step : Json → Verdict Json} {part : Spot → Verdict Unit}
    (h : ∀ j, (step j).forget = part ⟨m.targetOf e, j, pointer path e.memberName⟩) :
    (candidate (.of e) (Table.get? fields e.memberName) (pointer path e.memberName) >>= fun value =>
      match value with
      | none => pure none
      | some j => some <$> step j).forget =
    forM (m.memberSlots fields path e i) (meet part) := by
  have hpart (x : Json) : (some <$> step x).forget =
      forM [Slot.part (.member i) ⟨m.targetOf e, x, pointer path e.memberName⟩] (meet part) := by
    rw [Verdict.forget_map, h, List.forM_cons, List.forM_nil, bind_pure_unit]
    rfl
  rw [Model.memberSlots, Shape.given?]
  -- null counts as absent on both sides
  cases hg : Table.get? fields e.memberName with
  | none =>
    cases Requirement.of e with
    | required => rfl
    | default x => exact hpart x
    | optional => rfl
  | some x =>
    by_cases hx : x = .null
    · subst hx
      cases Requirement.of e with
      | required => rfl
      | default x => exact hpart x
      | optional => rfl
    · have : candidate (.of e) (some x) (pointer path e.memberName) = .ok (some x) := by
        cases x with
        | null => exact absurd rfl hx
        | bool | num | str | arr | obj => cases Requirement.of e <;> rfl
      rw [this, Option.filter_some, if_pos (decide_eq_true hx)]
      exact hpart x

/-! ### Values -/

variable {depth : Nat} {s : Shape} {path : String}

theorem forget_descend_list {id : ShapeId} (hs : s.kind = .list id) (items : List Json) :
    (v.descend (depth + 1) s (.arr items) path).forget =
      forM (v.model.slots ⟨s, .arr items, path⟩) (meet (v.hold depth)) := by
  simp only [descend, hs, Model.slots, List.forM_map]
  rw [bind_pure_comp, Verdict.forget_map, forget_eachItem]
  exact Verdict.forM_congr fun x _ => forget_within _ _ _ _ _

theorem forget_descend_map {k w : ShapeId} (hs : s.kind = .map k w)
    (fields : List (String × Json)) :
    (v.descend (depth + 1) s (.obj fields) path).forget =
      forM (v.model.slots ⟨s, .obj fields, path⟩) (meet (v.hold depth)) := by
  simp only [descend, hs, Model.slots, Verdict.forM_flatMap]
  rw [bind_pure_comp, Verdict.forget_map, forget_eachEntry]
  conv_lhs => rw [← List.zipIdx_map_fst 0 fields, List.forM_map]
  refine Verdict.forM_congr fun f _ => ?_
  rw [List.forM_cons, List.forM_cons, List.forM_nil, bind_pure_unit]
  exact congrArg₂ (fun x y => x >>= fun _ => y) (forget_within _ _ _ _ _)
    (forget_within _ _ _ _ _)

theorem forget_descend_struct {ids : List ShapeId} (hs : s.kind = .struct ids)
    (hnames : ((v.model.membersOf s).map Shape.memberName).Nodup)
    {fields : List (String × Json)} (hkeys : (Table.keys fields).Nodup) :
    (v.descend (depth + 1) s (.obj fields) path).forget =
      forM (v.model.slots ⟨s, .obj fields, path⟩) (meet (v.hold depth)) >>= fun _ =>
        refuse (v.model.strays ⟨s, .obj fields, path⟩) := by
  simp only [descend, hs, Model.slots, Model.strays, Verdict.forM_flatMap]
  rw [bind_pure_comp, Verdict.forget_map, forget_eachMember hnames hkeys]
  conv_lhs => rw [← List.zipIdx_map_fst 0 (v.model.membersOf s), List.forM_map]
  rw [List.zipIdx_map_fst]
  exact congrArg (fun x => x >>= fun _ => refuse _)
    (Verdict.forM_congr fun e _ => forget_candidate fun j => forget_within v depth e.1 j _)

theorem find?_zipIdx {α : Type} (test : α → Bool) (l : List α) (n : Nat) :
    ((l.zipIdx n).find? fun x => test x.1).map (·.1) = l.find? test := by
  induction l generalizing n with
  | nil => rfl
  | cons a l ih =>
    cases h : test a with
    | true => simp [h]
    | false => simp [h, ih]

theorem forget_descend_union {ids : List ShapeId} (hs : s.kind = .union ids)
    (f : String × Json) :
    (v.descend (depth + 1) s (.obj [f]) path).forget =
      forM (v.model.slots ⟨s, .obj [f], path⟩) (meet (v.hold depth)) >>= fun _ =>
        refuse (v.model.strays ⟨s, .obj [f], path⟩) := by
  have hfind := find?_zipIdx (fun e => e.memberName == f.1) (v.model.membersOf s) 0
  simp only [descend, hs, Model.slots, Model.strays, eachChoice, List.flatMap_cons,
    List.flatMap_nil, List.append_nil]
  cases hi : (v.model.membersOf s).zipIdx.find? fun e => e.1.memberName == f.1 with
  | none =>
    rw [hi, Option.map_none, eq_comm] at hfind
    have hany : ((v.model.membersOf s).any fun e => e.memberName == f.1) = false := by
      simpa using hfind
    simp only [hfind, Table.keys_cons, Table.keys_nil, List.filter_cons, hany]
    rfl
  | some e =>
    rw [hi, Option.map_some, eq_comm] at hfind
    have hname : e.1.memberName = f.1 := by simpa using List.find?_some hfind
    have hany : ((v.model.membersOf s).any fun e => e.memberName == f.1) = true :=
      List.any_eq_true.2 ⟨e.1, List.mem_of_find?_eq_some hfind, by simpa using hname⟩
    simp only [hfind, Table.keys_cons, Table.keys_nil, List.filter_cons, hany]
    simp only [Verdict.ok_eq_pure, map_pure, bind_pure_comp, Verdict.forget_map]
    refine (forget_within v depth e.1 f.2 (pointer path f.1)).trans ?_
    rw [Option.toList_some, List.map_singleton, List.forM_cons, List.forM_nil, bind_pure_unit,
      hname]
    exact bind_pure_unit.symm

/-- Below the top, an evaluation holds the slots and then looks for strays. -/
theorem forget_descend_succ {p : Spot}
    (hnames : ((v.model.membersOf p.shape).map Shape.memberName).Nodup) (hd : p.value.Distinct)
    (ha : p.shape.kind.Accepts p.value) :
    (v.descend (depth + 1) p.shape p.value p.path).forget =
      forM (v.model.slots p) (meet (v.hold depth)) >>= fun _ => refuse (v.model.strays p) := by
  obtain ⟨s, j, path⟩ := p
  have hempty (hs : v.model.slots ⟨s, j, path⟩ = []) (ht : v.model.strays ⟨s, j, path⟩ = [])
      (h : v.descend (depth + 1) s j path = .ok j) : (v.descend (depth + 1) s j path).forget =
        forM (v.model.slots ⟨s, j, path⟩) (meet (v.hold depth)) >>= fun _ =>
          refuse (v.model.strays ⟨s, j, path⟩) := by
    rw [hs, ht, h]
    rfl
  cases hk : s.kind with
  | list id =>
    rw [hk] at ha
    obtain - | - := ha
    rw [forget_descend_list hk, Model.strays, hk]
    exact bind_pure_unit.symm
  | map k w =>
    rw [hk] at ha
    obtain - | - := ha
    rw [forget_descend_map hk, Model.strays, hk]
    exact bind_pure_unit.symm
  | struct ids =>
    rw [hk] at ha
    obtain - | - := ha
    exact forget_descend_struct hk hnames (Json.distinct_obj_iff.1 hd).1
  | union ids =>
    rw [hk] at ha
    obtain - | - := ha
    exact forget_descend_union hk _
  | simple | member | operation | service =>
    refine hempty ?_ ?_ ?_
    · simp only [Model.slots, hk]
    · simp only [Model.strays, hk]
    · simp only [descend, hk]

/-- An evaluation holds the checks, then the slots, and then looks for strays. -/
theorem hold_succ {p : Spot}
    (hnames : ((v.model.membersOf p.shape).map Shape.memberName).Nodup) (hd : p.value.Distinct)
    (ha : p.shape.kind.Accepts p.value) :
    v.hold (depth + 1) p =
      (⟨v.violationsOf p.shape.checks p.value p.path, .ok ()⟩ : Verdict Unit) >>= fun _ =>
        forM (v.model.slots p) (meet (v.hold depth)) >>= fun _ =>
          refuse (v.model.strays p) := by
  rw [hold, checkValue_of_accepts ha, forget_descend_succ hnames hd ha]

/-- A value of the wrong type is a misfit. -/
theorem hold_of_not_accepts {p : Spot} (h : ¬ p.shape.kind.Accepts p.value) :
    v.hold depth p = .misfit (.wrongType (shownPath p.path) p.shape.typeName) := by
  rw [hold, checkValue_of_not_accepts h]
  rfl

end Validator

end Shapesmith
