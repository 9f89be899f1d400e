import Shapesmith.Constraint.Reach

/-!
# Acceptance of a model

A model is accepted for a service when its constraints make sense and generated types can carry
them.

* `Model.accept` goes through all shapes, then through the defaults of all members, then through
  the operations that the service leads to, and fails with the first fault;
* constraints that cannot be carried, and operations that cannot report violations, may be
  tolerated; contradictions may not.
-/

namespace Shapesmith.Model

/-- Fails, unless the fault is tolerated. -/
def tolerate (tolerated : Bool) (fault : Failure) : Except Failure Unit :=
  if tolerated then .ok () else .error fault

/-- A constraint on a member instead of its target. -/
def acceptMember (tolerant : Bool) (s : Shape) : Except Failure Unit :=
  tryEach (fun id =>
      if Table.has s.traits id then tolerate tolerant (.unsupported s.id (.onMember id))
      else .ok ())
    [Trait.lengthId, Trait.rangeId, Trait.patternId]

/-- The bounds of a length measure the shape and do not contradict each other. -/
def acceptLength (tolerant : Bool) (s : Shape) (b : LengthBounds) : Except Failure Unit := do
  let measures := match s.kind with
    | .simple .string | .simple .blob | .list _ | .map _ _ => true
    | _ => false
  if !measures then tolerate tolerant (.unsupported s.id (.onKind Trait.lengthId s.typeName))
  match b.min, b.max with
  | some min, some max =>
    if max < min then .error (.conflict s.id (.length min max)) else .ok ()
  | _, _ => .ok ()

/-- The bounds of a range measure the shape and do not contradict each other. -/
def acceptRange (tolerant : Bool) (s : Shape) (b : RangeBounds) : Except Failure Unit := do
  if !s.isNumber then tolerate tolerant (.unsupported s.id (.onKind Trait.rangeId s.typeName))
  match b.min, b.max with
  | some min, some max =>
    if min.exceeds max then .error (.conflict s.id (.range min max)) else .ok ()
  | _, _ => .ok ()

/-- The pattern measures the shape and is one. -/
def acceptPattern (tolerant : Bool) (s : Shape) (p : String) : Except Failure Unit := do
  if !s.isString then tolerate tolerant (.unsupported s.id (.onKind Trait.patternId s.typeName))
  match Pattern.compile p with
  | .ok _ => .ok ()
  | .error fault => .error (.conflict s.id (.pattern p fault))

/-- Does a step with a trait, if the shape has it. -/
def withTrait {α : Type} (trait : Option α) (step : α → Except Failure Unit) :
    Except Failure Unit :=
  match trait with
  | some a => step a
  | none => .ok ()

/-- The constraints of a shape. -/
def acceptShape (tolerant : Bool) (s : Shape) : Except Failure Unit :=
  if s.isMember then acceptMember tolerant s
  else do
    withTrait s.traits.length (acceptLength tolerant s)
    withTrait s.traits.range (acceptRange tolerant s)
    withTrait s.traits.pattern (acceptPattern tolerant s)

variable (m : Model)

/-- The default of a member passes the checks of the target. -/
def acceptDefault (s : Shape) : Except Failure Unit :=
  withTrait s.traits.defaultValue fun value =>
    match (m.targetOf s).checks.findSome? fun check => check.evaluate none value with
    | some breach => .error (.conflict s.id (.default value breach))
    | none => .ok ()

/-- An operation with constrained input can report violations. -/
def acceptOperation (tolerant : Bool) (s : Shape) : Except Failure Unit :=
  match s.kind with
  | .operation (some input) _ errors =>
    let constrained := (m.find? input).any m.reachesConstrained
    if constrained && !errors.contains validationExceptionId then
      tolerate tolerant (.noValidationException s.id)
    else .ok ()
  | _ => .ok ()

/-- The model is accepted for a service. -/
def accept (service : Shape) (tolerant : Bool) : Except Failure Unit := do
  tryEach (acceptShape tolerant) m.shapes
  tryEach m.acceptDefault (m.shapes.filter (·.isMember))
  tryEach (m.acceptOperation tolerant) (m.walk service)

end Shapesmith.Model
