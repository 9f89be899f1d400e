import Shapesmith.Proofs.Constraint.Accepted
import Shapesmith.Proofs.Constraint.Breaks
import Shapesmith.Proofs.Model.Walk

/-!
# Acceptance refuses exactly what cannot be represented

Acceptance of a model is a row of steps that ends with the first fault that is not tolerated. What
the steps look for is stated without them.

* `Check.Contradicts` : no value can be held against the check;
* `Shape.Fault`, `Model.Fault` : what can be wrong with a shape and with a model;
* `Model.Representable` : nothing is;
* `Finds` says that a step fails with faults of some kind, and goes well only without fatal ones;
* `Model.accept_iff_representable` : a model is accepted exactly when it is representable, and
  tolerance only leaves out faults that are no contradictions.
-/

namespace Shapesmith

open Relation

/-! ### Faults -/

/-- The failure is a contradiction. -/
def Failure.IsConflict (f : Failure) : Prop := ∃ id detail, f = .conflict id detail

/-- The failure ends acceptance: with tolerance, only a contradiction does. -/
def Failure.Fatal (tolerant : Bool) (f : Failure) : Prop := tolerant = true → f.IsConflict

@[simp] theorem Failure.fatal_false (f : Failure) : f.Fatal false := nofun

@[simp] theorem Failure.fatal_true {f : Failure} : f.Fatal true ↔ f.IsConflict :=
  ⟨fun h => h rfl, fun h _ => h⟩

/-- No value can be held against a check. -/
inductive Check.Contradicts : Check → Conflict → Prop
  /-- The least length is above the greatest. -/
  | length {b : LengthBounds} {unit : LengthUnit} {min max : Nat} (hmin : b.min = some min)
      (hmax : b.max = some max) (h : max < min) :
      Contradicts (.length b unit) (.length min max)
  /-- The least number is above the greatest. -/
  | range {b : RangeBounds} {min max : RangeBound} (hmin : b.min = some min)
      (hmax : b.max = some max) (h : min.exceeds max = true) :
      Contradicts (.range b) (.range min max)
  /-- The pattern does not compile. -/
  | pattern {p : String} {fault : PatternFault} (h : Pattern.compile p = .error fault) :
      Contradicts (.pattern p) (.pattern p fault)

/-- The bounds of a check leave something between them, and its pattern compiles. -/
def Check.Consistent : Check → Prop
  | .length b _ => ∀ min max, b.min = some min → b.max = some max → min ≤ max
  | .range b => ∀ min max, b.min = some min → b.max = some max → min.exceeds max = false
  | .pattern p => ∃ regex, Pattern.compile p = .ok regex

namespace Check

variable {b : LengthBounds} {r : RangeBounds} {unit : LengthUnit} {p : String} {d : Conflict}

theorem contradicts_length_iff : (length b unit).Contradicts d ↔ ∃ min max,
    b.min = some min ∧ b.max = some max ∧ max < min ∧ d = .length min max := by
  constructor
  · rintro ⟨hmin, hmax, hlt⟩
    exact ⟨_, _, hmin, hmax, hlt, rfl⟩
  · rintro ⟨min, max, hmin, hmax, hlt, rfl⟩
    exact .length hmin hmax hlt

theorem contradicts_range_iff : (range r).Contradicts d ↔ ∃ min max,
    r.min = some min ∧ r.max = some max ∧ min.exceeds max = true ∧ d = .range min max := by
  constructor
  · rintro (_ | ⟨hmin, hmax, hexceeds⟩)
    exact ⟨_, _, hmin, hmax, hexceeds, rfl⟩
  · rintro ⟨min, max, hmin, hmax, hexceeds, rfl⟩
    exact .range hmin hmax hexceeds

theorem contradicts_pattern_iff : (pattern p).Contradicts d ↔ ∃ fault,
    Pattern.compile p = .error fault ∧ d = .pattern p fault := by
  constructor
  · rintro (_ | _ | ⟨hfault⟩)
    exact ⟨_, hfault, rfl⟩
  · rintro ⟨fault, hfault, rfl⟩
    exact .pattern hfault

theorem consistent_iff {c : Check} : c.Consistent ↔ ∀ d, ¬ c.Contradicts d := by
  cases c with
  | length b unit =>
    simp only [Consistent, contradicts_length_iff, not_exists, not_and]
    constructor
    · intro h d min max hmin hmax hlt
      exact absurd (h min max hmin hmax) (Nat.not_le.2 hlt)
    · intro h min max hmin hmax
      exact Nat.not_lt.1 fun hlt => h _ min max hmin hmax hlt rfl
  | range b =>
    simp only [Consistent, contradicts_range_iff, not_exists, not_and]
    constructor
    · intro h d min max hmin hmax hexceeds
      rw [h min max hmin hmax] at hexceeds
      cases hexceeds
    · intro h min max hmin hmax
      exact Bool.eq_false_iff.2 fun hexceeds => h _ min max hmin hmax hexceeds rfl
  | pattern p =>
    simp only [Consistent, contradicts_pattern_iff, not_exists, not_and]
    cases Pattern.compile p with
    | ok regex => simp
    | error fault => simp

end Check

namespace Shape

@[simp] theorem checkOf_lengthId (s : Shape) :
    s.checkOf Trait.lengthId = s.traits.length.map fun b => .length b (.of s.kind) :=
  if_pos rfl

@[simp] theorem checkOf_rangeId (s : Shape) :
    s.checkOf Trait.rangeId = s.traits.range.map .range := by
  rw [checkOf, if_neg (by decide), if_pos rfl]

@[simp] theorem checkOf_patternId (s : Shape) :
    s.checkOf Trait.patternId = s.traits.pattern.map .pattern := by
  rw [checkOf, if_neg (by decide), if_neg (by decide), if_pos rfl]

/-- What can be wrong with the check that a trait of a shape stands for: it is not made for the kind
of shape, or it contradicts itself. -/
def CheckFault (s : Shape) (id : String) (c : Check) (f : Failure) : Prop :=
  ¬ c.Suits s.kind ∧ f = .unsupported s.id (.onKind id s.typeName) ∨
    ∃ d, c.Contradicts d ∧ f = .conflict s.id d

/-- The traits that put constraints on values. -/
def measuring : List String := [Trait.lengthId, Trait.rangeId, Trait.patternId]

/-- What can be wrong with the constraints of a shape. -/
inductive Fault (s : Shape) : Failure → Prop
  /-- A member carries a constraint. -/
  | onMember {id : String} (hs : s.isMember = true) (hid : id ∈ measuring)
      (h : Table.has s.traits id = true) : Fault s (.unsupported s.id (.onMember id))
  /-- A check of another shape is at fault. -/
  | ofCheck {id : String} {c : Check} {f : Failure} (hs : s.isMember = false)
      (hc : s.checkOf id = some c) (h : s.CheckFault id c f) : Fault s f

end Shape

namespace Model

/-- What can be wrong with a model and a service. -/
inductive Fault (m : Model) (service : Shape) : Failure → Prop
  /-- The constraints of a shape are at fault. -/
  | ofShape {s : Shape} {f : Failure} (hs : s ∈ m.shapes) (h : s.Fault f) : Fault m service f
  /-- The default of a member breaks a check of the target. -/
  | default {e : Shape} {value : Json} {c : Check} {breach : Breach} (he : e ∈ m.shapes)
      (hk : e.isMember = true) (hv : e.traits.defaultValue = some value)
      (hc : c ∈ (m.targetOf e).checks) (hb : c.Breaks value breach) :
      Fault m service (.conflict e.id (.default value breach))
  /-- An operation takes input that can break a constraint and cannot report it. -/
  | operation {s t : Shape} {input : ShapeId} {output : Option ShapeId} {errors : List ShapeId}
      (hs : ReflTransGen m.Refers service s) (hk : s.kind = .operation (some input) output errors)
      (ht : t ∈ m.shapes) (hid : t.id = input) (hbreak : m.CanBreak t)
      (hno : validationExceptionId ∉ errors) : Fault m service (.noValidationException s.id)

/-- A model can be represented for a service. -/
structure Representable (m : Model) (service : Shape) : Prop where
  /-- No member carries a length, a range or a pattern. -/
  members : ∀ e ∈ m.shapes, e.isMember = true → ∀ id ∈ Shape.measuring,
    Table.has e.traits id = false
  /-- Lengths are on strings, blobs, lists and maps, ranges on numbers, patterns on strings. -/
  kinds : ∀ s ∈ m.shapes, s.isMember = false → ∀ c ∈ s.checks, c.Suits s.kind
  /-- Least bounds are not above greatest ones, and patterns compile. -/
  consistent : ∀ s ∈ m.shapes, s.isMember = false → ∀ c ∈ s.checks, c.Consistent
  /-- The default of a member passes all checks of the target. -/
  defaults : ∀ e ∈ m.shapes, e.isMember = true → ∀ value, e.traits.defaultValue = some value →
    ∀ c ∈ (m.targetOf e).checks, ∀ breach, ¬ c.Breaks value breach
  /-- Operations whose input can break a constraint list the exception that reports it. -/
  operations : ∀ s, ReflTransGen m.Refers service s → ∀ input output errors,
    s.kind = .operation (some input) output errors → ∀ t ∈ m.shapes, t.id = input →
      m.CanBreak t → validationExceptionId ∈ errors

theorem representable_iff {m : Model} {service : Shape} :
    m.Representable service ↔ ∀ f, ¬ m.Fault service f := by
  constructor
  · intro h f hf
    cases hf with
    | ofShape hs hfault =>
      cases hfault with
      | onMember hk hid hhas =>
        rw [h.members _ hs hk _ hid] at hhas
        cases hhas
      | ofCheck hk hc hfault =>
        have hmem := Shape.mem_checks_iff.2 ⟨_, hc⟩
        rcases hfault with ⟨hkind, -⟩ | ⟨d, hd, -⟩
        · exact hkind (h.kinds _ hs hk _ hmem)
        · exact Check.consistent_iff.1 (h.consistent _ hs hk _ hmem) d hd
    | default he hk hv hc hb => exact h.defaults _ he hk _ hv _ hc _ hb
    | operation hs hk ht hid hbreak hno => exact hno (h.operations _ hs _ _ _ hk _ ht hid hbreak)
  · intro h
    refine ⟨fun e he hk id hid => ?_, fun s hs hk c hc => ?_, fun s hs hk c hc => ?_,
      fun e he hk value hv c hc breach hb => h _ (.default he hk hv hc hb), ?_⟩
    · exact Bool.eq_false_iff.2 fun hhas => h _ (.ofShape he (.onMember hk hid hhas))
    · obtain ⟨id, hid⟩ := Shape.mem_checks_iff.1 hc
      by_contra hkind
      exact h _ (.ofShape hs (.ofCheck hk hid (.inl ⟨hkind, rfl⟩)))
    · obtain ⟨id, hid⟩ := Shape.mem_checks_iff.1 hc
      exact Check.consistent_iff.2 fun d hd =>
        h _ (.ofShape hs (.ofCheck hk hid (.inr ⟨d, hd, rfl⟩)))
    · intro s hs input output errors hk t ht hid hbreak
      by_contra hno
      exact h _ (.operation hs hk ht hid hbreak hno)

end Model

/-! ### Steps -/

/-- A step fails with a fatal fault of some kind, and goes well only if there is no such fault. -/
structure Finds (tolerant : Bool) (step : Except Failure Unit) (fault : Failure → Prop) : Prop where
  /-- What the step fails with is a fatal fault of the kind. -/
  sound : ∀ f, step = .error f → fault f ∧ f.Fatal tolerant
  /-- If the step goes well, there is no fatal fault of the kind. -/
  complete : step = .ok () → ∀ f, fault f → ¬ f.Fatal tolerant

namespace Finds

variable {tolerant : Bool} {step rest : Except Failure Unit} {A B : Failure → Prop} {f : Failure}

theorem ok_iff (h : Finds tolerant step A) :
    step = .ok () ↔ ∀ f, A f → ¬ f.Fatal tolerant := by
  refine ⟨h.complete, fun hnone => ?_⟩
  cases hstep : step with
  | ok => rfl
  | error f =>
    obtain ⟨hf, hfatal⟩ := h.sound f hstep
    exact absurd hfatal (hnone f hf)

theorem congr (h : Finds tolerant step A) (hiff : ∀ f, A f ↔ B f) : Finds tolerant step B := by
  obtain rfl : A = B := funext fun f => propext (hiff f)
  exact h

theorem nothing : Finds tolerant (.ok ()) fun _ => False :=
  ⟨fun _ hf => (nomatch hf), fun _ _ h => h.elim⟩

theorem conflict (id : ShapeId) (d : Conflict) :
    Finds tolerant (.error (.conflict id d)) (· = .conflict id d) := by
  refine ⟨fun f hf => ?_, fun h => nomatch h⟩
  obtain rfl := Except.error.inj hf
  exact ⟨rfl, fun _ => ⟨id, d, rfl⟩⟩

/-- What is no contradiction may be tolerated. -/
theorem tolerate (hf : ¬ f.IsConflict) : Finds tolerant (Model.tolerate tolerant f) (· = f) := by
  unfold Model.tolerate
  cases tolerant with
  | true => exact ⟨fun _ h => (nomatch h), fun _ _ hg hfatal => hf (hg ▸ hfatal rfl)⟩
  | false => exact ⟨fun g hg => ⟨(Except.error.inj hg).symm, nofun⟩, fun h => nomatch h⟩

theorem bind (ha : Finds tolerant step A) (hb : Finds tolerant rest B) :
    Finds tolerant (step >>= fun _ => rest) fun f => A f ∨ B f := by
  cases step with
  | error f =>
    refine ⟨fun g hg => ?_, fun h => nomatch h⟩
    obtain rfl := Except.error.inj hg
    obtain ⟨hf, hfatal⟩ := ha.sound f rfl
    exact ⟨.inl hf, hfatal⟩
  | ok =>
    refine ⟨fun f hf => ?_, fun h f hf => ?_⟩
    · obtain ⟨hB, hfatal⟩ := hb.sound f hf
      exact ⟨.inr hB, hfatal⟩
    · rcases hf with hf | hf
      · exact ha.complete rfl f hf
      · exact hb.complete h f hf

theorem when {c : Prop} [Decidable c] (h : Finds tolerant step A) :
    Finds tolerant (if c then step else .ok ()) fun f => c ∧ A f := by
  by_cases hc : c
  · rw [if_pos hc]
    exact h.congr fun f => by simp only [hc, true_and]
  · rw [if_neg hc]
    exact nothing.congr fun f => by simp only [hc, false_and]

theorem tryEach {α : Type} {step : α → Except Failure Unit} {fault : α → Failure → Prop}
    {as : List α} (h : ∀ a ∈ as, Finds tolerant (step a) (fault a)) :
    Finds tolerant (Shapesmith.tryEach step as) fun f => ∃ a ∈ as, fault a f := by
  induction as with
  | nil => exact nothing.congr fun f => by simp
  | cons a rest ih =>
    have hrest := ih fun b hb => h b (List.mem_cons_of_mem _ hb)
    exact ((h a List.mem_cons_self).bind hrest).congr fun f => by simp

theorem withTrait {α : Type} {trait : Option α} {step : α → Except Failure Unit}
    {fault : α → Failure → Prop} (h : ∀ a, Finds tolerant (step a) (fault a)) :
    Finds tolerant (Model.withTrait trait step) fun f => ∃ a, trait = some a ∧ fault a f := by
  cases trait with
  | none => exact nothing.congr fun f => by simp
  | some a => exact (h a).congr fun f => by simp

/-- A check is first held against the kind of shape, then against itself. -/
theorem check {s : Shape} {c : Check} (id : String) {suits : Bool}
    (hsuits : suits = true ↔ c.Suits s.kind)
    (hrest : Finds tolerant rest fun f => ∃ d, c.Contradicts d ∧ f = .conflict s.id d) :
    Finds tolerant (if !suits then do
        Model.tolerate tolerant (.unsupported s.id (.onKind id s.typeName))
        rest
      else rest) (s.CheckFault id c) := by
  have hunsupported : ¬ Failure.IsConflict (.unsupported s.id (.onKind id s.typeName)) :=
    fun ⟨_, _, h⟩ => nomatch h
  by_cases hc : c.Suits s.kind
  · rw [hsuits.2 hc, if_neg (by decide)]
    exact hrest.congr fun f => by simp only [Shape.CheckFault, hc, not_true, false_and, false_or]
  · rw [Bool.eq_false_iff.2 fun h => hc (hsuits.1 h), if_pos (by decide)]
    exact ((tolerate hunsupported).bind hrest).congr fun f => by
      simp only [Shape.CheckFault, hc, not_false_eq_true, true_and]

end Finds

/-! ### Acceptance -/

namespace Model

variable {m : Model} {service s : Shape} {tolerant : Bool}

theorem finds_acceptMember (hs : s.isMember = true) :
    Finds tolerant (acceptMember tolerant s) s.Fault := by
  unfold acceptMember
  refine (Finds.tryEach fun id _ => (Finds.tolerate ?_).when).congr fun f => ?_
  · rintro ⟨_, _, h⟩
    cases h
  · constructor
    · rintro ⟨id, hid, hhas, rfl⟩
      exact .onMember hs hid hhas
    · intro h
      cases h with
      | onMember _ hid hhas => exact ⟨_, hid, hhas, rfl⟩
      | ofCheck hk => rw [hs] at hk; cases hk

theorem finds_acceptLength (b : LengthBounds) : Finds tolerant (acceptLength tolerant s b)
    (s.CheckFault Trait.lengthId (.length b (.of s.kind))) := by
  unfold acceptLength
  refine Finds.check Trait.lengthId ?_ ?_
  · rw [Check.Suits]
    split <;> simp_all
  · simp only [Check.contradicts_length_iff]
    split
    · rename_i min max hmin hmax
      exact (Finds.conflict _ _).when.congr fun f => by simp [hmin, hmax]
    · rename_i hnone
      refine Finds.nothing.congr fun f => ⟨False.elim, ?_⟩
      rintro ⟨_, ⟨min, max, hmin, hmax, -⟩, -⟩
      exact hnone min max hmin hmax

theorem finds_acceptRange (b : RangeBounds) : Finds tolerant (acceptRange tolerant s b)
    (s.CheckFault Trait.rangeId (.range b)) := by
  unfold acceptRange
  refine Finds.check Trait.rangeId ?_ ?_
  · rw [Check.Suits]
    unfold Shape.isNumber
    split <;> simp_all
  · simp only [Check.contradicts_range_iff]
    split
    · rename_i min max hmin hmax
      exact (Finds.conflict _ _).when.congr fun f => by simp [hmin, hmax]
    · rename_i hnone
      refine Finds.nothing.congr fun f => ⟨False.elim, ?_⟩
      rintro ⟨_, ⟨min, max, hmin, hmax, -⟩, -⟩
      exact hnone min max hmin hmax

theorem finds_acceptPattern (p : String) : Finds tolerant (acceptPattern tolerant s p)
    (s.CheckFault Trait.patternId (.pattern p)) := by
  unfold acceptPattern
  refine Finds.check Trait.patternId ?_ ?_
  · rw [Check.Suits]
    unfold Shape.isString
    split <;> simp_all
  · simp only [Check.contradicts_pattern_iff]
    cases Pattern.compile p with
    | ok regex => exact Finds.nothing.congr fun f => by simp
    | error fault => exact (Finds.conflict _ _).congr fun f => by simp

/-- The steps for a shape find what is wrong with its constraints. -/
theorem finds_acceptShape (s : Shape) : Finds tolerant (acceptShape tolerant s) s.Fault := by
  unfold acceptShape
  split
  · exact finds_acceptMember ‹_›
  · rename_i hs
    have hs := Bool.eq_false_iff.2 hs
    refine ((Finds.withTrait finds_acceptLength).bind
      ((Finds.withTrait finds_acceptRange).bind (Finds.withTrait finds_acceptPattern))).congr
        fun f => ?_
    constructor
    · rintro (⟨b, hb, h⟩ | ⟨b, hb, h⟩ | ⟨p, hp, h⟩)
      · exact .ofCheck hs (by simp [hb]) h
      · exact .ofCheck hs (by simp [hb]) h
      · exact .ofCheck hs (by simp [hp]) h
    · intro h
      cases h with
      | onMember hk => rw [hs] at hk; cases hk
      | ofCheck _ hc h =>
        unfold Shape.checkOf at hc
        split_ifs at hc with hid hid hid <;> subst hid <;>
          obtain ⟨b, hb, rfl⟩ := Option.map_eq_some_iff.1 hc
        · exact .inl ⟨b, hb, h⟩
        · exact .inr (.inl ⟨b, hb, h⟩)
        · exact .inr (.inr ⟨b, hb, h⟩)

/-- The step for a member finds the checks of the target that the default breaks. -/
theorem finds_acceptDefault (e : Shape) : Finds tolerant (m.acceptDefault e) fun f =>
    ∃ value, e.traits.defaultValue = some value ∧ ∃ c ∈ (m.targetOf e).checks, ∃ breach,
      c.Breaks value breach ∧ f = .conflict e.id (.default value breach) := by
  unfold acceptDefault
  refine Finds.withTrait fun value => ⟨fun f hf => ?_, fun hok f hf => ?_⟩
  · split at hf
    · rename_i breach hbreach
      obtain rfl := Except.error.inj hf
      obtain ⟨c, hc, hb⟩ := List.exists_of_findSome?_eq_some hbreach
      exact ⟨⟨c, hc, breach, Check.evaluate_eq_some_iff.1 hb, rfl⟩, fun _ => ⟨_, _, rfl⟩⟩
    · cases hf
  · obtain ⟨c, hc, breach, hb, -⟩ := hf
    split at hok
    · cases hok
    · rename_i hnone
      have hpass := List.findSome?_eq_none_iff.1 hnone c hc
      rw [Check.evaluate_eq_some_iff.2 hb] at hpass
      cases hpass

/-- The step for an operation finds that its violations cannot be reported. -/
theorem finds_acceptOperation (hm : m.Sound) (s : Shape) :
    Finds tolerant (m.acceptOperation tolerant s) fun f => ∃ input output errors,
      s.kind = .operation (some input) output errors ∧ (∃ t ∈ m.shapes, t.id = input ∧
        m.CanBreak t) ∧ validationExceptionId ∉ errors ∧ f = .noValidationException s.id := by
  have hinput {input : ShapeId} : (m.find? input).any m.reachesConstrained = true ↔
      ∃ t ∈ m.shapes, t.id = input ∧ m.CanBreak t := by
    rw [Option.any_eq_true]
    constructor
    · rintro ⟨t, ht, hreach⟩
      obtain ⟨hmem, hid⟩ := hm.find?_eq_some_iff.1 ht
      exact ⟨t, hmem, hid, (canBreak_iff hm hmem).2 hreach⟩
    · rintro ⟨t, hmem, rfl, hbreak⟩
      exact ⟨t, hm.find?_id hmem, (canBreak_iff hm hmem).1 hbreak⟩
  unfold acceptOperation
  split
  · rename_i input output errors hk
    refine (Finds.tolerate ?_).when.congr fun f => ?_
    · rintro ⟨_, _, h⟩
      cases h
    · simp only [Bool.and_eq_true, hinput, hk]
      constructor
      · rintro ⟨⟨ht, hno⟩, rfl⟩
        exact ⟨_, _, _, rfl, ht, by simpa using hno, rfl⟩
      · rintro ⟨_, _, _, heq, ht, hno, rfl⟩
        cases heq
        exact ⟨⟨ht, by simpa using hno⟩, rfl⟩
  · rename_i hk
    refine Finds.nothing.congr fun f => ⟨False.elim, ?_⟩
    rintro ⟨input, output, errors, heq, -⟩
    exact hk _ _ _ heq

/-- Acceptance finds what is wrong with a model. -/
theorem finds_accept (hm : m.Sound) (hr : service ∈ m.shapes ∨ service.references = []) :
    Finds tolerant (m.accept service tolerant) (m.Fault service) := by
  refine ((Finds.tryEach fun s _ => finds_acceptShape s).bind
    ((Finds.tryEach fun e _ => finds_acceptDefault e).bind
      (Finds.tryEach fun s _ => finds_acceptOperation hm s))).congr fun f => ?_
  constructor
  · rintro (⟨s, hs, h⟩ | ⟨e, he, value, hv, c, hc, breach, hb, rfl⟩ |
      ⟨s, hs, input, output, errors, hk, ⟨t, ht, hid, hbreak⟩, hno, rfl⟩)
    · exact .ofShape hs h
    · obtain ⟨he, hk⟩ := List.mem_filter.1 he
      exact .default he hk hv hc hb
    · exact .operation ((hm.mem_walk_iff_of_root hr).1 hs) hk ht hid hbreak hno
  · intro h
    cases h with
    | ofShape hs h => exact .inl ⟨_, hs, h⟩
    | default he hk hv hc hb =>
      exact .inr (.inl ⟨_, List.mem_filter.2 ⟨he, hk⟩, _, hv, _, hc, _, hb, rfl⟩)
    | operation hs hk ht hid hbreak hno =>
      exact .inr (.inr ⟨_, (hm.mem_walk_iff_of_root hr).2 hs, _, _, _, hk, ⟨_, ht, hid, hbreak⟩,
        hno, rfl⟩)

/-- Without tolerance, exactly the representable models are accepted. Whatever acceptance fails
with is a fault of the model. With tolerance it fails with contradictions only, so that all models
are accepted that are accepted without. The service is one of the model, or a shape of its own that
refers to nothing. -/
theorem accept_iff_representable (hm : m.Assembled)
    (hr : service ∈ m.shapes ∨ service.references = []) :
    (m.accept service false = .ok () ↔ m.Representable service) ∧
    (m.Representable service ↔ ∀ f, ¬ m.Fault service f) ∧
    (∀ tolerant f, m.accept service tolerant = .error f → m.Fault service f) ∧
    (∀ f, m.accept service true = .error f → f.IsConflict) ∧
    (m.accept service true = .ok () ↔ ∀ f, m.Fault service f → ¬ f.IsConflict) ∧
    (m.accept service false = .ok () → m.accept service true = .ok ()) := by
  have hfinds (tolerant : Bool) : Finds tolerant (m.accept service tolerant) (m.Fault service) :=
    finds_accept (sound_of_assembled hm) hr
  have hstrict : m.accept service false = .ok () ↔ ∀ f, ¬ m.Fault service f := by
    rw [(hfinds false).ok_iff]
    simp only [Failure.fatal_false, not_true]
  have htolerant : m.accept service true = .ok () ↔
      ∀ f, m.Fault service f → ¬ f.IsConflict := by
    rw [(hfinds true).ok_iff]
    simp only [Failure.fatal_true]
  refine ⟨hstrict.trans representable_iff.symm, representable_iff,
    fun tolerant f hf => ((hfinds tolerant).sound f hf).1,
    fun f hf => Failure.fatal_true.1 ((hfinds true).sound f hf).2, htolerant, fun h => ?_⟩
  exact htolerant.2 fun f hf _ => hstrict.1 h f hf

/-! ### A pattern on a member -/

end Model

/-- The only service of the model below. -/
def deskService : Shape := ⟨⟨"a", "Desk", none⟩, .service "1" [], []⟩

/-- A member that carries a pattern, and one that does not compile. -/
def codeShape : Shape := ⟨⟨"a", "Ticket", some "code"⟩, .member ⟨"smithy.api", "String", none⟩,
  [(Trait.patternId, .pattern "(")]⟩

/-- A model with that member. -/
def Model.desk : Model := ⟨[deskService,
  ⟨⟨"a", "Ticket", none⟩, .struct [codeShape.id], []⟩, codeShape] ++ bare.shapes⟩

/-- The document of that model. -/
def deskSource : String := "[\"2\",\x7b" ++
  "\"a#Desk\":[\"service\",\"1\",[]]," ++
  "\"a#Ticket\":[\"structure\",\x7b\"code\":[\"smithy.api#String\"," ++
  "\x7b\"smithy.api#pattern\":\"(\"\x7d]\x7d]\x7d]"

theorem Model.assembled_desk : desk.Assembled := by
  refine assembled_of_list deskSource (by
    delta deskSource
    repeat rw [String.toList_append]
    repeat rw [String.toList_ofList]
    rfl) ?_ (by decide)
  decide +kernel

/-- The pattern on the member is tolerated or not. -/
theorem Model.accept_iff_representable_desk : ¬ Model.desk.Representable deskService ∧
    Model.desk.Fault deskService (.unsupported codeShape.id (.onMember Trait.patternId)) ∧
    ∀ f, Model.desk.Fault deskService f → ¬ f.IsConflict := by
  have hrefused : Model.desk.accept deskService false =
    .error (.unsupported codeShape.id (.onMember Trait.patternId)) := by decide
  have haccepted : Model.desk.accept deskService true = .ok () := by decide
  have hservice : deskService ∈ desk.shapes := by decide
  obtain ⟨hstrict, -, hfault, -, htolerant, -⟩ :=
    accept_iff_representable assembled_desk (.inl hservice)
  refine ⟨fun h => ?_, hfault false _ hrefused, htolerant.1 haccepted⟩
  rw [hstrict.2 h] at hrefused
  cases hrefused

end Shapesmith
