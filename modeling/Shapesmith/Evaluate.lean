import Shapesmith.Constraint.Reach

/-!
# Holding values against a model

A value is held against a shape from the outside to the inside: first its JSON type, then the checks
of the shape, then its parts. Members that are not given take their defaults on the way.

* `Verdict` is what comes out: a value and violations, or the reason why there is none;
* `Validator` is a model whose patterns are all compiled;
* `Validator.validate` holds a value against a shape. Defaults can make this go on forever; a value
  that goes deeper than `Validator.depthBound` does so, and is reported as endless.
-/

namespace Shapesmith

/-- Why a value cannot be held against a shape. -/
inductive Misfit
  /-- A value has the wrong JSON type. -/
  | wrongType (path expected : String)
  /-- A structure or union has no such member. -/
  | unknownMember (name : String)
  /-- Defaults lead to defaults forever. -/
  | endless
deriving DecidableEq, Repr

/-- The wording of a misfit. -/
def Misfit.message : Misfit → String
  | .wrongType path expected => "value at '" ++ path ++ "' is not a valid " ++ expected
  | .unknownMember name => "builder input has no member named `" ++ name ++ "`"
  | .endless => "the defaults of the value have no end"

/-- What happens to a member that is not given. -/
inductive Requirement
  /-- It is a violation. -/
  | required
  /-- It takes a value. -/
  | default (value : Json)
  /-- It stays away. -/
  | optional
deriving DecidableEq, Repr

/-- What happens when a member is not given. -/
def Requirement.of (member : Shape) : Requirement :=
  if member.mustBeGiven then .required
  else
    match member.traits.defaultValue with
    | some value => .default value
    | none => .optional

/-- The requirement as a JSON object. -/
def Requirement.toJson : Requirement → Json
  | .required => .obj [("kind", .str "required")]
  | .default v => .obj [("kind", .str "default"), ("value", v)]
  | .optional => .obj [("kind", .str "optional")]

/-- What comes of a value: the value and all violations in it, or a misfit, with the violations
that were met before it. -/
structure Verdict (α : Type) where
  /-- The violations in the order in which they were met. -/
  violations : Violations
  /-- The value with its defaults, or the misfit. -/
  outcome : Except Misfit α
deriving Repr

namespace Verdict

variable {α β : Type}

/-- A value without violations. -/
def ok (a : α) : Verdict α := ⟨[], .ok a⟩

/-- A misfit. -/
def misfit (e : Misfit) : Verdict α := ⟨[], .error e⟩

/-- A value with violations. -/
def withViolations (vs : Violations) (a : α) : Verdict α := ⟨vs, .ok a⟩

/-- Goes on with a value; the violations add up. -/
def bind (v : Verdict α) (f : α → Verdict β) : Verdict β :=
  match v.outcome with
  | .error e => ⟨v.violations, .error e⟩
  | .ok a =>
    let w := f a
    ⟨v.violations ++ w.violations, w.outcome⟩

instance : Monad Verdict where
  pure := ok
  bind := bind

@[simp] theorem pure_def (a : α) : (pure a : Verdict α) = ⟨[], .ok a⟩ := rfl

@[simp] theorem bind_ok (vs : Violations) (a : α) (f : α → Verdict β) :
    ((⟨vs, .ok a⟩ : Verdict α) >>= f) = ⟨vs ++ (f a).violations, (f a).outcome⟩ := rfl

@[simp] theorem bind_error (vs : Violations) (e : Misfit) (f : α → Verdict β) :
    ((⟨vs, .error e⟩ : Verdict α) >>= f) = ⟨vs, .error e⟩ := rfl

end Verdict

/-- A model with its patterns compiled. -/
structure Validator where
  /-- The model. -/
  model : Model
  /-- The patterns by their texts. -/
  patterns : Table String Regex

namespace Validator

/-- Compiles the patterns of shapes that are not compiled yet. -/
def compilePatterns : Table String Regex → List Shape → Except Failure (Table String Regex)
  | done, [] => .ok done
  | done, s :: rest =>
    match s.traits.pattern with
    | none => compilePatterns done rest
    | some p =>
      if done.has p then compilePatterns done rest
      else
        match Pattern.compile p with
        | .ok r => compilePatterns (done.put p r) rest
        | .error fault => .error (.conflict s.id (.pattern p fault))

/-- The validator of a model, if all patterns in it compile. -/
def ofModel (m : Model) : Except Failure Validator :=
  (compilePatterns [] m.shapes).map fun ps => ⟨m, ps⟩

/-! ### Types -/

/-- The number is an integer of so many bits and a sign. -/
def fits (bits : Nat) : Json → Bool
  | .num (.int n) => decide (-(twoTo bits : Int) ≤ n) && decide (n < twoTo bits)
  | _ => false

/-- The value has the JSON type of a simple kind. -/
def isOfSimple (t : Simple) (value : Json) : Bool :=
  match t, value with
  | .blob, .str _ | .string, .str _ | .boolean, .bool _ => true
  | .byte, v => fits 7 v
  | .short, v => fits 15 v
  | .integer, v => fits 31 v
  | .long, v => fits 63 v
  | .float, .num _ | .double, .num _ => true
  | .timestamp, .num _ | .timestamp, .str _ => true
  | .document, _ => true
  | _, _ => false

/-- The value has the JSON type of a kind of shape. Members, operations and services have no
values. -/
def isOfKind (k : Kind) (value : Json) : Bool :=
  match k, value with
  | .simple t, v => isOfSimple t v
  | .list _, .arr _ => true
  | .map _ _, .obj _ | .struct _, .obj _ => true
  | .union _, .obj fields => fields.length == 1
  | _, _ => false

/-- A place in a message. -/
def shownPath (path : String) : String := if path.isEmpty then "/" else path

/-- The value has the JSON type of a shape. -/
def checkType (s : Shape) (value : Json) (path : String) : Verdict Unit :=
  if isOfKind s.kind value then .ok () else .misfit (.wrongType (shownPath path) s.typeName)

/-! ### Checks -/

variable (v : Validator)

/-- The compiled pattern of a check. -/
def compiledOf : Check → Option Regex
  | .pattern p => v.patterns.get? p
  | _ => none

/-- The violations of checks by a value. -/
def violationsOf (checks : List Check) (value : Json) (path : String) : Violations :=
  checks.filterMap fun check =>
    (check.evaluate (v.compiledOf check) value).map fun breach => ⟨path, breach⟩

/-- The type and the checks of a value. -/
def checkValue (s : Shape) (checks : List Check) (value : Json) (path : String) : Verdict Unit := do
  checkType s value path
  .withViolations (v.violationsOf checks value path) ()

/-! ### Parts -/

/-- The value of a member after its requirement: none if the member stays away, with a violation
if it must not. -/
def candidate (requirement : Requirement) (given : Option Json) (path : String) :
    Verdict (Option Json) :=
  match given, requirement with
  | some .null, .required | none, .required =>
    .withViolations [⟨path, .missingRequired⟩] none
  | some .null, .default value | none, .default value => .ok (some value)
  | some .null, .optional | none, .optional => .ok none
  | some value, _ => .ok (some value)

/-- Holds the items of a list against `step`, from `index` on. -/
def eachItem (step : Json → String → Verdict Json) (path : String) :
    Nat → List Json → Verdict (List Json)
  | _, [] => .ok []
  | index, item :: rest => do
    let item ← step item (pointer path (toString index))
    let rest ← eachItem step path (index + 1) rest
    pure (item :: rest)

/-- Holds the entries of a map against `key` and `value`. -/
def eachEntry (key value : Json → String → Verdict Json) (path : String) :
    List (String × Json) → Verdict (List (String × Json))
  | [] => .ok []
  | (k, j) :: rest => do
    let place := pointer path k
    let _ ← key (.str k) place
    let j ← value j place
    let rest ← eachEntry key value path rest
    pure ((k, j) :: rest)

/-- Holds the members of a structure that are left against `step`, which is given a member and its
value, and takes their values out of `fields`. -/
def eachMember (step : Shape → Option Json → String → Verdict (Option Json)) (path : String) :
    List Shape → List (String × Json) → Verdict (List (String × Json))
  | [], [] => .ok []
  | [], (name, _) :: _ => .misfit (.unknownMember name)
  | member :: rest, fields => do
    let name := member.memberName
    let value ← step member (Table.get? fields name) (pointer path name)
    let built ← eachMember step path rest (Table.eraseFill fields name)
    pure (match value with
      | some j => (name, j) :: built
      | none => built)

/-- Holds the fields of a union against `step`, which is given the member of a field. -/
def eachChoice (members : List Shape) (step : Shape → Json → String → Verdict Json)
    (path : String) : List (String × Json) → Verdict (List (String × Json))
  | [] => .ok []
  | (name, j) :: rest =>
    match members.find? fun member => member.memberName == name with
    | none => .misfit (.unknownMember name)
    | some member => do
      let j ← step member j (pointer path name)
      let rest ← eachChoice members step path rest
      pure ((name, j) :: rest)

/-! ### Values -/

/-- The shape with an id that the model refers to. -/
def shapeAt (id : ShapeId) (around : Shape) : Shape := (v.model.find? id).getD around

/-- Holds the parts of a value against a shape, at most `depth` levels deep. -/
def descend (depth : Nat) (s : Shape) (value : Json) (path : String) : Verdict Json :=
  match depth with
  | 0 => .misfit .endless
  | depth + 1 =>
    let validate (member : Shape) (j : Json) (place : String) : Verdict Json := do
      let target := v.model.targetOf member
      v.checkValue target target.checks j place
      descend depth target j place
    match s.kind, value with
    | .list member, .arr items => do
      let items ← eachItem (validate (v.shapeAt member s)) path 0 items
      pure (.arr items)
    | .map key value, .obj fields => do
      let fields ← eachEntry (validate (v.shapeAt key s)) (validate (v.shapeAt value s)) path fields
      pure (.obj fields)
    | .struct _, .obj fields => do
      let step (member : Shape) (given : Option Json) (place : String) :
          Verdict (Option Json) := do
        let value ← candidate (.of member) given place
        match value with
        | none => pure none
        | some j => (some ·) <$> validate member j place
      let fields ← eachMember step path (v.model.membersOf s) fields
      pure (.obj fields)
    | .union _, .obj fields => do
      let fields ← eachChoice (v.model.membersOf s) validate path fields
      pure (.obj fields)
    | _, j => .ok j

/-- How deep a value can go without repeating itself: a shape and a part of the value or of a
default for each level. -/
def depthBound (value : Json) : Nat :=
  let defaults := v.model.shapes.filterMap fun s => s.traits.defaultValue
  (v.model.shapes.length + 1) * (value.nodes + Json.nodesItems defaults) + 1

/-- Holds a value against a shape, at a place. -/
def validate (s : Shape) (value : Json) (path : String) : Verdict Json := do
  let target := v.model.targetOf s
  v.checkValue target target.checks value path
  v.descend (v.depthBound value) target value path

/-- Holds a member of a structure against its requirement, some checks and its target. -/
def member (requirement : Requirement) (checks : List Check) (target : Shape)
    (given : Option Json) (path : String) : Verdict (Option Json) := do
  let value ← candidate requirement given path
  match value with
  | none => pure none
  | some j =>
    v.checkValue target checks j path
    (some ·) <$> v.descend (v.depthBound j) target j path

end Validator

end Shapesmith
