import Shapesmith.Symbol.Plain

/-!
# Constrained and unconstrained symbols

* `Symbols.constrained` is the symbol of values that have passed their checks: a wrapper for shapes
  that are constrained themselves, collections of wrappers around them, and the plain symbol of
  everything else. Wrappers are either seen by everyone or hidden in a module of their own;
* `Symbols.unconstrained` is the symbol of values that have not been checked yet: the builder of a
  structure that constraints can be reached from, a hidden type for such collections and unions,
  and the plain symbol of everything else;
* `Symbols.surface` is what everyone sees of a shape.
-/

namespace Shapesmith.Symbols

variable (y : Symbols)

/-! ### Constrained symbols -/

/-- The type that holds the checked values of a shape. -/
def wrapperType (visibility : Visibility) (s : Shape) : CodeType :=
  match visibility with
  | .exported => .named Place.model.path s.camelName
  | .hidden =>
    .named (Text.joined Place.constrained.path (s.snakeName ++ "_constrained"))
      (s.camelName ++ "Constrained")

/-- The constrained symbol of a shape whose type goes at most `depth` shapes deep. -/
def constrainedAt (visibility : Visibility) : Nat → Shape → Option Symbol
  | 0, _ => none
  | depth + 1, s =>
    let typeAt (id : ShapeId) : Option CodeType :=
      (y.model.find? id).bind fun t => (constrainedAt visibility depth t).map (·.type)
    let made (type : CodeType) : Symbol := ⟨type, visibility, none⟩
    match s.kind with
    | .member target =>
      (y.model.find? target).bind fun t =>
        (constrainedAt visibility depth t).map fun inner =>
          ⟨y.wrap s inner.type, inner.visibility, s.traits.defaultValue⟩
    | .struct _ | .union _ => y.plainAt y.depth s
    | kind =>
      if y.model.isConstrained s then some (made (wrapperType visibility s))
      else if y.model.reachesConstrained s then
        match kind with
        | .list item => (typeAt item).map fun item => made (.vector item)
        | .map key value =>
          (typeAt key).bind fun key => (typeAt value).map fun value => made (.table key value)
        | _ => y.plainAt y.depth s
      else y.plainAt y.depth s

/-- The symbol of values that have passed their checks. -/
def constrained (visibility : Visibility) (s : Shape) : Except Failure Symbol :=
  finite s (y.constrainedAt visibility y.depth s)

/-- What everyone sees of a shape. -/
def surface (s : Shape) : Except Failure Symbol :=
  if y.style.exportConstrained then y.constrained .exported s else y.plain s

/-! ### Unconstrained symbols -/

/-- The module of what belongs to the type of a shape. -/
def moduleBeside (type : CodeType) (s : Shape) : String :=
  Text.joined (type.space?.getD Place.model.path) s.snakeName

/-- The name of builders. -/
def builderName : String := "Builder"

/-- The type that holds the values of a collection or union before they are checked. -/
def uncheckedType (s : Shape) : CodeType :=
  .named (Text.joined Place.unconstrained.path (s.snakeName ++ "_unconstrained"))
    (s.camelName ++ "Unconstrained")

/-- The symbol of a shape other than a member before its values are checked. -/
def unconstrainedOf (s : Shape) : Option Symbol :=
  let plain := y.plainAt y.depth s
  if y.model.reachesConstrained s then
    match s.kind with
    | .struct _ => plain.map fun p => .exported (.named (moduleBeside p.type s) builderName)
    | .union _ => some ⟨uncheckedType s, .hidden, none⟩
    | .list _ | .map _ _ =>
      if (y.model.membersOf s).any y.model.reachesConstrained then
        some ⟨uncheckedType s, .hidden, none⟩
      else plain
    | _ => plain
  else plain

/-- The unconstrained symbol of a shape that is at most `depth` targets away from one that is no
member. -/
def unconstrainedAt : Nat → Shape → Option Symbol
  | 0, _ => none
  | depth + 1, s =>
    match s.kind with
    | .member target =>
      (y.model.find? target).bind fun t =>
        (unconstrainedAt depth t).map fun inner =>
          ⟨if y.model.isBoxed s.id then .boxed inner.type else inner.type, inner.visibility, none⟩
    | _ => y.unconstrainedOf s

/-- The symbol of values before they are checked. -/
def unconstrained (s : Shape) : Except Failure Symbol := finite s (y.unconstrainedAt y.depth s)

end Shapesmith.Symbols
