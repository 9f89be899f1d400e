import Mathlib.Algebra.Ring.Int.Defs
import Shapesmith.Proofs.Constraint.Breaks

/-!
# Positions in a value and what is wrong there

A value that is held against a shape has parts, which are held against shapes in turn. Members of
structures that are not given take their defaults, so a value may have parts that it does not
contain, and even infinitely many.

* `Kind.Accepts` : the JSON values that a kind of shape has;
* `Model.Part` : one step from a value to a part, and `Model.Position` any number of steps;
* `Model.Misfitting` : some position has the wrong type or a member that its shape does not have;
* `Model.Failing` : a check that fails at a position, or a member that is missing there;
* `Site.Before` : the order in which failing checks are reported.
-/

namespace Shapesmith

/-- A kind of shape has a JSON value. Members, operations and services have none. -/
inductive Kind.Accepts : Kind → Json → Prop
  | blob (text : String) : Accepts (.simple .blob) (.str text)
  | string (text : String) : Accepts (.simple .string) (.str text)
  | boolean (b : Bool) : Accepts (.simple .boolean) (.bool b)
  | byte {n : Int} (h : -2 ^ 7 ≤ n ∧ n < 2 ^ 7) : Accepts (.simple .byte) (.num (.int n))
  | short {n : Int} (h : -2 ^ 15 ≤ n ∧ n < 2 ^ 15) : Accepts (.simple .short) (.num (.int n))
  | integer {n : Int} (h : -2 ^ 31 ≤ n ∧ n < 2 ^ 31) : Accepts (.simple .integer) (.num (.int n))
  | long {n : Int} (h : -2 ^ 63 ≤ n ∧ n < 2 ^ 63) : Accepts (.simple .long) (.num (.int n))
  | float (n : Number) : Accepts (.simple .float) (.num n)
  | double (n : Number) : Accepts (.simple .double) (.num n)
  | time (n : Number) : Accepts (.simple .timestamp) (.num n)
  | timeText (text : String) : Accepts (.simple .timestamp) (.str text)
  | document (j : Json) : Accepts (.simple .document) j
  | list (member : ShapeId) (items : List Json) : Accepts (.list member) (.arr items)
  | map (key value : ShapeId) (fields : List (String × Json)) :
    Accepts (.map key value) (.obj fields)
  | struct (members : List ShapeId) (fields : List (String × Json)) :
    Accepts (.struct members) (.obj fields)
  | union (members : List ShapeId) (field : String × Json) :
    Accepts (.union members) (.obj [field])

theorem twoTo_cast (n : Nat) : (twoTo n : Int) = 2 ^ n := Int.natCast_pow 2 n

namespace Validator

theorem fits_iff {bits : Nat} {value : Json} :
    fits bits value = true ↔ ∃ n : Int, value = .num (.int n) ∧ -2 ^ bits ≤ n ∧ n < 2 ^ bits := by
  constructor
  · intro h
    unfold fits at h
    split at h
    · rename_i n
      rw [Bool.and_eq_true, decide_eq_true_eq, decide_eq_true_eq, twoTo_cast] at h
      exact ⟨n, rfl, h⟩
    · cases h
  · rintro ⟨n, rfl, h⟩
    rwa [fits, Bool.and_eq_true, decide_eq_true_eq, decide_eq_true_eq, twoTo_cast]

theorem isOfSimple_iff {t : Simple} {value : Json} :
    isOfSimple t value = true ↔ (Kind.simple t).Accepts value := by
  constructor
  · intro h
    unfold isOfSimple at h
    split at h
    · exact .blob _
    · exact .string _
    · exact .boolean _
    · obtain ⟨n, rfl, hn⟩ := fits_iff.1 h
      exact .byte hn
    · obtain ⟨n, rfl, hn⟩ := fits_iff.1 h
      exact .short hn
    · obtain ⟨n, rfl, hn⟩ := fits_iff.1 h
      exact .integer hn
    · obtain ⟨n, rfl, hn⟩ := fits_iff.1 h
      exact .long hn
    · exact .float _
    · exact .double _
    · exact .time _
    · exact .timeText _
    · exact .document _
    · cases h
  · intro h
    cases h with
    | byte h | short h | integer h | long h => exact fits_iff.2 ⟨_, rfl, h⟩
    | document => cases value <;> rfl
    | _ => rfl

/-- The test of the JSON type finds the values that a kind has. -/
theorem isOfKind_iff {k : Kind} {value : Json} : isOfKind k value = true ↔ k.Accepts value := by
  constructor
  · intro h
    unfold isOfKind at h
    split at h
    · exact isOfSimple_iff.1 h
    · exact .list _ _
    · exact .map _ _ _
    · exact .struct _ _
    · rename_i members fields
      obtain ⟨field, rfl⟩ := List.length_eq_one_iff.1 (eq_of_beq h)
      exact .union members field
    · cases h
  · intro h
    cases k with
    | simple t => exact isOfSimple_iff.2 h
    | list | map | struct | union | member | operation | service => cases h <;> rfl

end Validator

/-! ### Positions -/

/-- A value that is held against a shape at a place. -/
structure Spot where
  /-- The shape. -/
  shape : Shape
  /-- The value. -/
  value : Json
  /-- The place. -/
  path : String

/-- A step from a value to a part of it. -/
inductive Spot.Step
  /-- An item of a list. -/
  | item (index : Nat)
  /-- The key of an entry of a map. -/
  | key (index : Nat)
  /-- The value of an entry of a map. -/
  | value (index : Nat)
  /-- A member of a structure or union, by its number in the shape. -/
  | member (index : Nat)
deriving DecidableEq, Repr

/-- The number of a part among all parts of a value. The key of an entry comes right before its
value. -/
def Spot.Step.rank : Step → Nat
  | .item i | .member i => i
  | .key i => 2 * i
  | .value i => 2 * i + 1

/-- An object does not give the member: there is no such field, or it is null. -/
def Shape.AbsentFrom (e : Shape) (fields : List (String × Json)) : Prop :=
  ∀ x, (e.memberName, x) ∈ fields → x = .null

/-- A member of a structure has a value: the one that an object gives, or else its default. -/
inductive Shape.Takes (e : Shape) (fields : List (String × Json)) : Json → Prop
  | given {x : Json} (h : (e.memberName, x) ∈ fields) (hx : x ≠ .null) : Takes e fields x
  | default {x : Json} (h : e.AbsentFrom fields) (hx : e.traits.defaultValue = some x) :
    Takes e fields x

namespace Model

variable (m : Model)

/-- A value has a part, which is held against the target of a member. -/
inductive Part : Spot → Spot.Step → Spot → Prop
  /-- An item of a list. -/
  | item {s e : Shape} {id : ShapeId} {items : List Json} {path : String} {i : Nat} {x : Json}
    (hs : s.kind = .list id) (he : m.find? id = some e) (hx : items[i]? = some x) :
    Part ⟨s, .arr items, path⟩ (.item i) ⟨m.targetOf e, x, pointer path (toString i)⟩
  /-- A key of a map. -/
  | key {s e : Shape} {k v : ShapeId} {fields : List (String × Json)} {path : String} {i : Nat}
    {f : String × Json} (hs : s.kind = .map k v) (he : m.find? k = some e)
    (hf : fields[i]? = some f) :
    Part ⟨s, .obj fields, path⟩ (.key i) ⟨m.targetOf e, .str f.1, pointer path f.1⟩
  /-- A value of a map. -/
  | value {s e : Shape} {k v : ShapeId} {fields : List (String × Json)} {path : String} {i : Nat}
    {f : String × Json} (hs : s.kind = .map k v) (he : m.find? v = some e)
    (hf : fields[i]? = some f) :
    Part ⟨s, .obj fields, path⟩ (.value i) ⟨m.targetOf e, f.2, pointer path f.1⟩
  /-- A member of a structure that is given or has a default. -/
  | member {s e : Shape} {fields : List (String × Json)} {path : String} {i : Nat} {x : Json}
    (hs : s.isStruct = true) (he : (m.membersOf s)[i]? = some e) (hx : e.Takes fields x) :
    Part ⟨s, .obj fields, path⟩ (.member i) ⟨m.targetOf e, x, pointer path e.memberName⟩
  /-- The member of a union that is chosen. -/
  | choice {s e : Shape} {fields : List (String × Json)} {path : String} {i : Nat} {x : Json}
    (hs : s.isUnion = true) (he : (m.membersOf s)[i]? = some e)
    (hx : (e.memberName, x) ∈ fields) :
    Part ⟨s, .obj fields, path⟩ (.member i) ⟨m.targetOf e, x, pointer path e.memberName⟩

/-- The spot of a value that is held against a shape, or against the target of a member. -/
def spot (s : Shape) (value : Json) (path : String) : Spot := ⟨m.targetOf s, value, path⟩

/-- What a trail of steps leads to, from a value to its parts. -/
inductive Position : Spot → List Spot.Step → Spot → Prop
  | here (p : Spot) : Position p [] p
  | deeper {p q r : Spot} {step : Spot.Step} {trail : List Spot.Step} (h : m.Part p step q)
    (ht : Position q trail r) : Position p (step :: trail) r

/-- A value cannot be held against its shape, and why. -/
inductive Unfit (p : Spot) : Misfit → Prop
  /-- It has the wrong type. -/
  | wrongType (h : ¬ p.shape.kind.Accepts p.value) :
    Unfit p (.wrongType (Validator.shownPath p.path) p.shape.typeName)
  /-- It has a member that the shape does not have. -/
  | unknown {fields : List (String × Json)} {name : String} (hv : p.value = .obj fields)
    (hs : p.shape.isStruct = true ∨ p.shape.isUnion = true) (hf : name ∈ Table.keys fields)
    (h : ∀ e ∈ m.membersOf p.shape, e.memberName ≠ name) : Unfit p (.unknownMember name)

/-- Some position cannot be held against its shape, and why. -/
def Misfitting (root : Spot) (cause : Misfit) : Prop :=
  ∃ trail p, m.Position root trail p ∧ m.Unfit p cause

/-- A member of a structure has to be given and is not. -/
structure Missing (p : Spot) (i : Nat) (e : Shape) : Prop where
  /-- The shape is a structure. -/
  struct : p.shape.isStruct = true
  /-- The member. -/
  member : (m.membersOf p.shape)[i]? = some e
  /-- It has to be given. -/
  needed : e.mustBeGiven = true
  /-- It is not. -/
  absent : ∃ fields, p.value = .obj fields ∧ e.AbsentFrom fields

end Model

/-! ### Failing checks -/

/-- A check that fails: where, which one in its row, and what is reported. -/
structure Site where
  /-- The position. -/
  trail : List Spot.Step
  /-- The number of the check. -/
  check : Nat
  /-- The report. -/
  violation : Violation

/-- A check fails below a value. A member that is missing fails at its own position, as the only
check there. -/
inductive Model.Failing (m : Model) (root : Spot) : Site → Prop
  | check {trail : List Spot.Step} {p : Spot} {k : Nat} {c : Check} {breach : Breach}
    (hp : m.Position root trail p) (hc : p.shape.checks[k]? = some c)
    (hb : c.Breaks p.value breach) : Failing m root ⟨trail, k, ⟨p.path, breach⟩⟩
  | missing {trail : List Spot.Step} {p : Spot} {i : Nat} {e : Shape}
    (hp : m.Position root trail p) (he : m.Missing p i e) :
    Failing m root ⟨trail ++ [.member i], 0, ⟨pointer p.path e.memberName, .missingRequired⟩⟩

/-- The site is reported before the other: at the same position the checks go by their numbers, a
value comes before its parts, and parts go by theirs. -/
def Site.Before (a b : Site) : Prop :=
  a.trail.map Spot.Step.rank < b.trail.map Spot.Step.rank ∨ a.trail = b.trail ∧ a.check < b.check

end Shapesmith
