import Shapesmith.Proofs.Binary64.Rounding
import Shapesmith.Proofs.Constraint.Breaks
import Shapesmith.Proofs.Constraint.Faults

/-!
# Bounds of a range and the numbers that they refuse

Two places compare with a bound: acceptance compares the bounds of a range with each other, and a
check compares a number with both. Integers are compared as they are, all else after rounding.

* `RangeBound.order_agrees_iff` : a number that a bound equals lies relative to a third bound as the
  bound does, unless rounding hides the difference of two integers (`RangeBound.Blurs`);
* `RangeBound.large_of_blurs` : one of the two has more than 53 bits then;
* `RangeBound.exceeds_iff_refuses_ends` : so bounds contradict each other exactly when the range
  refuses them, each taken in its own form; other forms of them may be refused or allowed against
  this exactly when rounding hides the difference; and integers are never rounded.
-/

namespace Shapesmith

/-- The range check reports the number. -/
def RangeBounds.Refuses (r : RangeBounds) (n : Number) : Prop :=
  ∃ breach, (Check.range r).evaluate none (.num n) = some breach

theorem RangeBounds.refuses_iff {r : RangeBounds} {n : Number} : r.Refuses n ↔
    (∃ min, r.min = some min ∧ min.order n = .lt) ∨
      ∃ max, r.max = some max ∧ max.order n = .gt := by
  simp only [Refuses, Check.evaluate_eq_some_iff]
  constructor
  · rintro ⟨_, h⟩
    cases h with
    | low hmin h => exact .inl ⟨_, hmin, h⟩
    | high hmax h => exact .inr ⟨_, hmax, h⟩
  · rintro (⟨_, hmin, h⟩ | ⟨_, hmax, h⟩)
    · exact ⟨_, .low hmin h⟩
    · exact ⟨_, .high hmax h⟩

namespace RangeBound

/-! ### Bounds as numbers -/

/-- The bound as a number of the same form. -/
def number : RangeBound → Number
  | .int n => .int n
  | .float x => .float x

variable {own other lo hi : RangeBound} {n : Number} {side : Ordering}

@[simp] theorem order_int_int (b v : Int) : (int b).order (.int v) = compare v b := rfl

@[simp] theorem order_int_float (b : Int) (x : Binary64) :
    (int b).order (.float x) = compare x.signed (Binary64.ofInt b).signed := rfl

@[simp] theorem order_float (y : Binary64) (n : Number) :
    (float y).order n = compare n.toBinary64.signed y.signed := by
  cases n <;> rfl

@[simp] theorem order_number (b : RangeBound) : b.order b.number = .eq := by
  cases b <;> simp [number, Number.toBinary64]

/-- Acceptance compares the least number with the upper bound as a check does. -/
theorem exceeds_iff_order_gt : lo.exceeds hi = true ↔ hi.order lo.number = .gt := by
  cases lo <;> cases hi <;>
    simp [exceeds, number, toBinary64, Number.toBinary64, Binary64.compare, compare_gt_iff_gt]

/-- Acceptance compares the greatest number with the lower bound as a check does. -/
theorem exceeds_iff_order_lt : lo.exceeds hi = true ↔ lo.order hi.number = .lt := by
  cases lo <;> cases hi <;>
    simp [exceeds, number, toBinary64, Number.toBinary64, Binary64.compare, compare_gt_iff_gt,
      compare_lt_iff_lt]

/-! ### Other forms of a bound -/

/-- The integer among a bound and a number of different forms. -/
def mixed? : RangeBound → Number → Option Int
  | .int a, .float _ => some a
  | .float _, .int v => some v
  | _, _ => none

/-- Rounding hides on which side of another bound the integer lies that is one of a bound and a
number, while the other of them is a binary fraction. -/
def Blurs (own : RangeBound) (n : Number) (other : RangeBound) (side : Ordering) : Prop :=
  ∃ v b, own.mixed? n = some v ∧ other = .int b ∧ compare v b = side ∧
    (Binary64.ofInt v).signed = (Binary64.ofInt b).signed

/-- Rounding keeps the order of two integers, or makes them one number. -/
theorem compare_ofInt_iff (hside : side ≠ .eq) (v b : Int) :
    (compare (Binary64.ofInt v).signed (Binary64.ofInt b).signed = side ↔ compare v b = side) ↔
      ¬ (compare v b = side ∧ (Binary64.ofInt v).signed = (Binary64.ofInt b).signed) := by
  cases side with
  | eq => exact absurd rfl hside
  | lt =>
    have hmono (h : v < b) : (Binary64.ofInt v).signed ≤ (Binary64.ofInt b).signed :=
      Binary64.signed_ofInt_mono h.le
    have hback : (Binary64.ofInt v).signed < (Binary64.ofInt b).signed → v < b :=
      Binary64.lt_of_signed_ofInt_lt
    rw [compare_lt_iff_lt, compare_lt_iff_lt]
    omega
  | gt =>
    have hmono (h : b < v) : (Binary64.ofInt b).signed ≤ (Binary64.ofInt v).signed :=
      Binary64.signed_ofInt_mono h.le
    have hback : (Binary64.ofInt b).signed < (Binary64.ofInt v).signed → b < v :=
      Binary64.lt_of_signed_ofInt_lt
    rw [compare_gt_iff_gt, compare_gt_iff_gt]
    omega

/-- A number that a bound equals lies on a side of another bound exactly when the bound does,
unless rounding hides it from one of the two comparisons. -/
theorem order_agrees_iff (hside : side ≠ .eq) (h : own.order n = .eq) (other : RangeBound) :
    (other.order n = side ↔ other.order own.number = side) ↔ ¬ own.Blurs n other side := by
  cases other with
  | float z =>
    have hsigned : n.toBinary64.signed = own.number.toBinary64.signed := by
      cases own <;> cases n <;> simp_all [number, Number.toBinary64]
    simp [Blurs, hsigned]
  | int b =>
    cases own with
    | int a =>
      cases n with
      | int v =>
        obtain rfl : v = a := compare_eq_iff_eq.1 h
        simp [Blurs, mixed?, number]
      | float x =>
        have hx : x.signed = (Binary64.ofInt a).signed := compare_eq_iff_eq.1 h
        simpa [Blurs, mixed?, number, hx] using compare_ofInt_iff hside a b
    | float y =>
      cases n with
      | int v =>
        have hy : (Binary64.ofInt v).signed = y.signed := compare_eq_iff_eq.1 h
        refine iff_comm.trans ?_
        simpa [Blurs, mixed?, number, ← hy] using compare_ofInt_iff hside v b
      | float x =>
        have hx : x.signed = y.signed := compare_eq_iff_eq.1 h
        simp [Blurs, mixed?, number, hx]

/-- Integers of 53 bits are told apart. -/
theorem large_of_blurs (hside : side ≠ .eq) (h : own.Blurs n other side) :
    ∃ v b, own.mixed? n = some v ∧ other = .int b ∧
      (twoTo 53 ≤ v.natAbs ∨ twoTo 53 ≤ b.natAbs) := by
  obtain ⟨v, b, hv, hb, hcompare, heq⟩ := h
  refine ⟨v, b, hv, hb, ?_⟩
  by_contra hsmall
  obtain ⟨hvsmall, hbsmall⟩ := not_or.1 hsmall
  rw [Binary64.signed_ofInt_of_natAbs_lt (Nat.not_le.1 hvsmall),
    Binary64.signed_ofInt_of_natAbs_lt (Nat.not_le.1 hbsmall)] at heq
  have hone : (Binary64.one : Int) ≠ 0 := Int.natCast_ne_zero.2 (twoTo_pos 1074).ne'
  obtain rfl := Int.eq_of_mul_eq_mul_right hone heq
  exact hside ((compare_eq_iff_eq.2 rfl).symm.trans hcompare).symm

/-! ### Acceptance and the check -/

/-- The bounds of a shape's range are at fault exactly when the least exceeds the greatest. -/
theorem fault_range_iff {m : Model} {service s : Shape} (hs : s ∈ m.shapes)
    (hmember : s.isMember = false) (hrange : s.traits.range = some ⟨some lo, some hi⟩) :
    m.Fault service (.conflict s.id (.range lo hi)) ↔ lo.exceeds hi = true := by
  constructor
  · generalize hf : Failure.conflict s.id (.range lo hi) = f
    intro h
    cases h with
    | ofShape _ h =>
      cases h with
      | onMember => cases hf
      | ofCheck _ _ h =>
        obtain ⟨-, rfl⟩ | ⟨d, hd, rfl⟩ := h
        · cases hf
        · obtain ⟨-, rfl⟩ := Failure.conflict.inj hf
          cases hd with
          | range _ _ hexceeds => exact hexceeds
    | default => cases (Failure.conflict.inj hf).2
    | operation => cases hf
  · intro hexceeds
    have hcheck : s.checkOf Trait.rangeId = some (.range ⟨some lo, some hi⟩) := by
      rw [Shape.checkOf_rangeId, hrange, Option.map_some]
    exact .ofShape hs (.ofCheck hmember hcheck (.inr ⟨_, .range rfl rfl hexceeds, rfl⟩))

theorem refuses_iff_of_lower (h : lo.order n ≠ .lt) :
    RangeBounds.Refuses ⟨some lo, some hi⟩ n ↔ hi.order n = .gt := by
  simp [RangeBounds.refuses_iff, h]

theorem refuses_iff_of_upper (h : hi.order n ≠ .gt) :
    RangeBounds.Refuses ⟨some lo, some hi⟩ n ↔ lo.order n = .lt := by
  simp [RangeBounds.refuses_iff, h]

/-- The bounds of a range contradict each other exactly when the range refuses its least number,
and exactly when it refuses its greatest. Another number that equals a bound is refused without
contradiction, or allowed in spite of one, exactly when rounding hides a difference of two integers.
Bounds that contradict each other are a fault of each model that holds a shape with the range, and
such a model is never accepted. Integers between integers are compared exactly. -/
theorem exceeds_iff_refuses_ends (lo hi : RangeBound) :
    (RangeBounds.Refuses ⟨some lo, some hi⟩ lo.number ↔ lo.exceeds hi = true) ∧
    (RangeBounds.Refuses ⟨some lo, some hi⟩ hi.number ↔ lo.exceeds hi = true) ∧
    (∀ n, lo.order n = .eq →
      ((RangeBounds.Refuses ⟨some lo, some hi⟩ n ↔ lo.exceeds hi = true) ↔
        ¬ lo.Blurs n hi .gt)) ∧
    (∀ n, hi.order n = .eq →
      ((RangeBounds.Refuses ⟨some lo, some hi⟩ n ↔ lo.exceeds hi = true) ↔
        ¬ hi.Blurs n lo .lt)) ∧
    (∀ (m : Model) (service s : Shape), m.Assembled →
      (service ∈ m.shapes ∨ service.references = []) → s ∈ m.shapes → s.isMember = false →
      s.traits.range = some ⟨some lo, some hi⟩ →
      (m.Fault service (.conflict s.id (.range lo hi)) ↔ lo.exceeds hi = true) ∧
      ∀ tolerant, m.accept service tolerant = .ok () → lo.exceeds hi = false) ∧
    ∀ (min max : Option Int) (v : Int),
      RangeBounds.Refuses ⟨min.map .int, max.map .int⟩ (.int v) ↔
        (∃ a, min = some a ∧ v < a) ∨ ∃ b, max = some b ∧ b < v := by
  have hlower {n : Number} (h : lo.order n = .eq) :
      RangeBounds.Refuses ⟨some lo, some hi⟩ n ↔ hi.order n = .gt :=
    refuses_iff_of_lower (by rw [h]; decide)
  have hupper {n : Number} (h : hi.order n = .eq) :
      RangeBounds.Refuses ⟨some lo, some hi⟩ n ↔ lo.order n = .lt :=
    refuses_iff_of_upper (by rw [h]; decide)
  refine ⟨?_, ?_, ?_, ?_, ?_, ?_⟩
  · rw [hlower (order_number lo), exceeds_iff_order_gt]
  · rw [hupper (order_number hi), exceeds_iff_order_lt]
  · intro n h
    rw [hlower h, exceeds_iff_order_gt]
    exact order_agrees_iff (by decide) h hi
  · intro n h
    rw [hupper h, exceeds_iff_order_lt]
    exact order_agrees_iff (by decide) h lo
  · intro m service s hm hr hs hmember hrange
    have hfault : m.Fault service (.conflict s.id (.range lo hi)) ↔ lo.exceeds hi = true :=
      fault_range_iff hs hmember hrange
    refine ⟨hfault, fun tolerant haccept => Bool.eq_false_iff.2 fun hexceeds => ?_⟩
    have hfinds : Finds tolerant (m.accept service tolerant) (m.Fault service) :=
      Model.finds_accept (Model.sound_of_assembled hm) hr
    exact hfinds.complete haccept _ (hfault.2 hexceeds) fun _ => ⟨_, _, rfl⟩
  · intro min max v
    rw [RangeBounds.refuses_iff]
    cases min <;> cases max <;> simp [compare_lt_iff_lt, compare_gt_iff_gt]

/-! ### A bound beyond the integers that are kept -/

/-- A least level that is read as a binary fraction. -/
def lowest : RangeBound := .float (.ofInt 9223372036854775808)

/-- The greatest level, one less. -/
def highest : RangeBound := .int 9223372036854775807

/-- A level between the two. -/
def level : Shape := ⟨⟨"a", "Level", none⟩, .simple .double,
  [(Trait.rangeId, .range ⟨some lowest, some highest⟩)]⟩

/-- The document that declares the level. -/
def levelSource : String := "[\"2\",\x7b\"a#Level\":[\"double\"," ++
  "\x7b\"smithy.api#range\":[9223372036854775808,9223372036854775807]\x7d]\x7d]"

/-- A model with the level. -/
def levels : Model := ⟨level :: Model.bare.shapes⟩

theorem assembled_levels : levels.Assembled := by
  refine Model.assembled_of_list levelSource (by
    delta levelSource
    repeat rw [String.toList_append]
    repeat rw [String.toList_ofList]
    rfl) ?_ (by decide)
  decide +kernel

/-- The bounds of the level do not contradict each other, and are allowed in their own forms. The
least is refused as an integer, and the greatest is allowed as a binary fraction. -/
theorem exceeds_iff_refuses_ends_level :
    ¬ levels.Fault deskService (.conflict level.id (.range lowest highest)) ∧
    ¬ RangeBounds.Refuses ⟨some lowest, some highest⟩ lowest.number ∧
    ¬ RangeBounds.Refuses ⟨some lowest, some highest⟩ highest.number ∧
    RangeBounds.Refuses ⟨some lowest, some highest⟩ (.int 9223372036854775808) ∧
    ¬ RangeBounds.Refuses ⟨some lowest, some highest⟩ (.float (.ofInt 9223372036854775807)) ∧
    RangeBounds.Refuses ⟨none, some highest⟩ (.int 9223372036854775808) := by
  have hexceeds : ¬ lowest.exceeds highest = true := by decide +kernel
  obtain ⟨hleast, hgreatest, hlower, hupper, hmodel, hintegers⟩ :=
    exceeds_iff_refuses_ends lowest highest
  obtain ⟨hfault, -⟩ := hmodel levels deskService level assembled_levels (.inr rfl)
    List.mem_cons_self rfl rfl
  refine ⟨fun h => hexceeds (hfault.1 h), fun h => hexceeds (hleast.1 h),
    fun h => hexceeds (hgreatest.1 h), ?_, ?_, (hintegers none (some _) _).2 ?_⟩
  · have hblurs : lowest.Blurs (.int 9223372036854775808) highest .gt :=
      ⟨_, _, rfl, rfl, by decide, by decide +kernel⟩
    by_contra hallowed
    refine (hlower (.int 9223372036854775808) (by decide +kernel)).1 ?_ hblurs
    exact iff_of_false hallowed hexceeds
  · have hclear : ¬ highest.Blurs (.float (.ofInt 9223372036854775807)) lowest .lt := by
      rintro ⟨v, b, -, hb, -⟩
      cases hb
    have hagree := (hupper (.float (.ofInt 9223372036854775807)) (by decide +kernel)).2 hclear
    exact fun h => hexceeds (hagree.1 h)
  · exact .inr ⟨_, rfl, by decide⟩

/-- A model is accepted whose range refuses the integer that it declares as its least. -/
theorem exists_accepted_refuses_least : ∃ (m : Model) (s : Shape) (lo : RangeBound) (least b : Int),
    m.Assembled ∧ s ∈ m.shapes ∧ s.isMember = false ∧
    s.traits.range = some ⟨some lo, some (.int b)⟩ ∧ read (.num (.int least)) = .ok lo ∧
    b < least ∧ lo.exceeds (.int b) = false ∧ m.accept deskService false = .ok () ∧
    RangeBounds.Refuses ⟨some lo, some (.int b)⟩ (.int least) :=
  ⟨levels, level, lowest, 9223372036854775808, 9223372036854775807, assembled_levels,
    List.mem_cons_self, rfl, rfl, rfl, by decide, by decide +kernel, by decide +kernel,
    RangeBounds.refuses_iff.2 (.inr ⟨highest, rfl, by decide⟩)⟩

end RangeBound

end Shapesmith
