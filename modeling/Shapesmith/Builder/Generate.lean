import Shapesmith.Builder.Artifact
import Shapesmith.Protocol.Basic

/-!
# Generating artifacts

* `Symbols.artifact` is the artifact of a structure under a protocol. It takes the types of its
  fields from the surface of their members, the types that the builder keeps from their
  unconstrained symbols, and what the builder fails with from the violations of the structure.
-/

namespace Shapesmith.Symbols

/-- What the type of a structure can do without being told how. -/
def derived : List String := ["Debug", "Clone", "PartialEq"]

/-- The name of the function that begins a builder. -/
def beginName : String := "builder"

/-- A name without marks before it. -/
def unmarked : List Char → List Char
  | 'r' :: '#' :: rest => unmarked rest
  | name => name

/-- The name of the function that takes what a field keeps. -/
def internalName (name : String) : String := "set_" ++ String.ofList (unmarked name.toList)

variable (y : Symbols)

/-- The field of a member in the structure. -/
def structField (member : Shape) : Except Failure StructField := do
  let symbol ← y.surface member
  pure ⟨member.fieldName, member.id, symbol.type, member.traits.documentation⟩

/-- The type that checked values of a shape have: a wrapper that everyone may see, or a hidden one
where constrained types are no part of the surface. -/
def validated (s : Shape) : Except Failure Symbol :=
  y.constrained (if y.style.exportConstrained then .exported else .hidden) s

/-- The type that the values of a shape are checked into, and whether they are taken out of it
again; none for shapes that cannot break a constraint. -/
def validation (target : Shape) : Except Failure (Option CodeType × Bool) :=
  if y.model.reachesConstrained target then do
    let checked ← y.validated target
    let surface ← y.surface target
    pure (some checked.type,
      decide (checked.visibility = .hidden) && decide (checked.type ≠ surface.type.stripped))
  else .ok (none, false)

/-- The field of a member in the builder. -/
def builderField (member : Shape) : Except Failure BuilderField := do
  let name := member.fieldName
  let target := y.model.targetOf member
  let surface ← y.surface member
  let stored ← y.unconstrained member
  let (validatedAs, unwrap) ← y.validation target
  pure {
    name
    member := member.id
    memberName := member.memberName
    target := target.id
    stored := .option stored.type
    setter := ⟨name, .exported, surface.type⟩
    internalSetter :=
      if stored.type.stripped = surface.type.stripped then none
      else some ⟨internalName name, .hidden, .option stored.type⟩
    requirement := .of member
    checks := target.checks
    validatedAs
    unwrapIntoPublic := unwrap }

/-- The spelling of the type of an exception; the id of one that is not in the model. -/
def exceptionText (id : ShapeId) : Except Failure String :=
  match y.model.find? id with
  | some s => (y.surface s).map fun symbol => symbol.type.text
  | none => .ok validationExceptionId.text

/-- The violations of a structure, if it can break a constraint. -/
def violationType (p : Protocol) (s : Shape) : Except Failure (Option ViolationType) :=
  if y.model.reachesConstrained s then do
    let symbol ← y.violation s
    let variants ← y.variants s
    let exception ← y.exceptionText p.validationException
    pure (some ⟨symbol.type, symbol.visibility, variants,
      ⟨p.id, p.validationException, exception, Report.badRequest⟩⟩)
  else .ok none

/-- The artifact of a structure. -/
def artifact (p : Protocol) (s : Shape) : Except Failure Artifact :=
  if s.isStruct then do
    let symbol ← y.surface s
    let members := y.model.membersOf s
    let module := moduleBeside symbol.type s
    let fields ← collect y.structField members
    let violation ← y.violationType p s
    let builderFields ← collect y.builderField members
    pure {
      shape := s.id
      structType := ⟨symbol.type.name, symbol.type, .exported, s.traits.documentation, derived,
        fields⟩
      builder := ⟨module, builderName, builderFields,
        ⟨symbol.type, violation.map (·.symbol), true⟩⟩
      violation
      convenience := ⟨symbol.type.name, beginName, .named module builderName⟩ }
  else .error (.notStructure s.id)

end Shapesmith.Symbols
