import Shapesmith.Evaluate
import Shapesmith.Proofs.Sequence.Success
import Shapesmith.Proofs.Table.Keys

/-!
# What it means to break a check

* `Check.Breaks` says, case by case, which values break a check and how;
* `Check.evaluate_eq_some_iff` : this is what evaluating a check finds;
* `Validator.evaluate_compiledOf` : it finds the same with the pattern that a validator has compiled
  before.
-/

namespace Shapesmith

/-- A value has a length in some unit. -/
inductive Measures : Json → LengthUnit → Nat → Prop
  /-- The bytes of a text. -/
  | bytes (text : String) : Measures (.str text) .bytes text.utf8ByteSize
  /-- The characters of a text. -/
  | chars (text : String) {unit : LengthUnit} (h : unit ≠ .bytes) :
    Measures (.str text) unit text.length
  /-- The items of a list. -/
  | items (items : List Json) (unit : LengthUnit) : Measures (.arr items) unit items.length
  /-- The members of an object. -/
  | fields (fields : List (String × Json)) (unit : LengthUnit) :
    Measures (.obj fields) unit fields.length

theorem measure?_eq_some_iff {value : Json} {unit : LengthUnit} {n : Nat} :
    measure? value unit = some n ↔ Measures value unit n := by
  constructor
  · intro h
    cases value with
    | str text =>
      by_cases hu : unit = .bytes
      · subst hu
        obtain rfl : text.utf8ByteSize = n := Option.some.inj h
        exact .bytes text
      · rw [measure?, if_neg hu, Option.some.injEq] at h
        exact h ▸ .chars text hu
    | arr items => exact Option.some.inj h ▸ .items items unit
    | obj fields => exact Option.some.inj h ▸ .fields fields unit
    | null | bool | num => cases h
  · rintro (text | ⟨text, hu⟩ | items | fields)
    · rfl
    · rw [measure?, if_neg hu]
    · rfl
    · rfl

namespace Check

/-- A value breaks a check in some way. -/
inductive Breaks : Check → Json → Breach → Prop
  /-- The length is below the least. -/
  | short {bounds : LengthBounds} {unit : LengthUnit} {value : Json} {n min : Nat}
    (hn : Measures value unit n) (hmin : bounds.min = some min) (h : n < min) :
    Breaks (.length bounds unit) value (.length n bounds)
  /-- The length is above the greatest. -/
  | long {bounds : LengthBounds} {unit : LengthUnit} {value : Json} {n max : Nat}
    (hn : Measures value unit n) (hmax : bounds.max = some max) (h : max < n) :
    Breaks (.length bounds unit) value (.length n bounds)
  /-- The number is below the least. -/
  | low {bounds : RangeBounds} {n : Number} {min : RangeBound} (hmin : bounds.min = some min)
    (h : min.order n = .lt) : Breaks (.range bounds) (.num n) (.range n bounds)
  /-- The number is above the greatest. -/
  | high {bounds : RangeBounds} {n : Number} {max : RangeBound} (hmax : bounds.max = some max)
    (h : max.order n = .gt) : Breaks (.range bounds) (.num n) (.range n bounds)
  /-- The text does not match. -/
  | mismatch {pattern text : String} (h : Pattern.accepts pattern text = false) :
    Breaks (.pattern pattern) (.str text) (.pattern text pattern)

/-- Evaluating a check finds what a value breaks of it. -/
theorem evaluate_eq_some_iff {check : Check} {value : Json} {breach : Breach} :
    check.evaluate none value = some breach ↔ check.Breaks value breach := by
  constructor
  · intro h
    cases check with
    | length bounds unit =>
      simp only [evaluate] at h
      split at h
      · cases h
      · rename_i n hn
        have hn := measure?_eq_some_iff.1 hn
        split at h
        · rename_i hout
          obtain rfl := Option.some.inj h
          rw [Bool.or_eq_true, Option.any_eq_true, Option.any_eq_true] at hout
          rcases hout with ⟨min, hmin, hlt⟩ | ⟨max, hmax, hlt⟩
          · exact .short hn hmin (of_decide_eq_true hlt)
          · exact .long hn hmax (of_decide_eq_true hlt)
        · cases h
    | range bounds =>
      simp only [evaluate] at h
      split at h
      · split at h
        · rename_i hout
          obtain rfl := Option.some.inj h
          rw [Bool.or_eq_true, Option.any_eq_true, Option.any_eq_true] at hout
          rcases hout with ⟨min, hmin, hlt⟩ | ⟨max, hmax, hgt⟩
          · exact .low hmin (eq_of_beq hlt)
          · exact .high hmax (eq_of_beq hgt)
        · cases h
      · cases h
    | pattern p =>
      simp only [evaluate] at h
      split at h
      · split at h
        · cases h
        · rename_i hno
          obtain rfl := Option.some.inj h
          exact .mismatch (Bool.not_eq_true _ ▸ hno)
      · cases h
  · rintro (⟨hn, hb, h⟩ | ⟨hn, hb, h⟩ | ⟨hb, h⟩ | ⟨hb, h⟩ | h)
    · simp [evaluate, measure?_eq_some_iff.2 hn, hb, h]
    · simp [evaluate, measure?_eq_some_iff.2 hn, hb, h]
    · simp [evaluate, hb, h]
    · simp [evaluate, hb, h]
    · simp [evaluate, h]

end Check

namespace Validator

/-- What is stored under a text is the pattern that the text compiles to. -/
def Compiled (patterns : Table String Regex) : Prop :=
  ∀ p r, patterns.get? p = some r → Pattern.compile p = .ok r

theorem compiled_compilePatterns {shapes : List Shape} {done patterns : Table String Regex}
    (hd : Compiled done) (h : compilePatterns done shapes = .ok patterns) : Compiled patterns := by
  induction shapes generalizing done with
  | nil =>
    cases h
    exact hd
  | cons s shapes ih =>
    rw [compilePatterns] at h
    split at h
    · exact ih hd h
    split at h
    · exact ih hd h
    split at h
    · rename_i p _ _ _ r hr
      refine ih (fun q r' hget => ?_) h
      by_cases hq : q = p
      · subst hq
        rw [Table.get?_put_self] at hget
        exact Option.some.inj hget ▸ hr
      · rw [Table.get?_put_of_ne done r hq] at hget
        exact hd q r' hget
    · cases h

/-- The validator of a model holds the model and has compiled its patterns. -/
theorem of_ofModel {m : Model} {v : Validator} (h : ofModel m = .ok v) :
    v.model = m ∧ Compiled v.patterns := by
  obtain ⟨patterns, hp, rfl⟩ := Except.map_eq_ok_iff.1 h
  exact ⟨rfl, compiled_compilePatterns (by simp [Compiled]) hp⟩

/-- A model without patterns has a validator. -/
theorem ofModel_of_pattern_eq_none {m : Model} (h : ∀ s ∈ m.shapes, s.traits.pattern = none) :
    ofModel m = .ok ⟨m, []⟩ := by
  have hnone (shapes : List Shape) (hs : ∀ s ∈ shapes, s.traits.pattern = none) :
      compilePatterns [] shapes = .ok [] := by
    induction shapes with
    | nil => rfl
    | cons s shapes ih =>
      rw [compilePatterns, hs s List.mem_cons_self]
      exact ih fun t ht => hs t (List.mem_cons_of_mem _ ht)
  rw [ofModel, hnone m.shapes h]
  rfl

/-- A pattern that is at hand is no other than the one of the check. -/
theorem evaluate_compiledOf {v : Validator} (hv : Compiled v.patterns) (check : Check)
    (value : Json) : check.evaluate (v.compiledOf check) value = check.evaluate none value := by
  cases check with
  | length bounds unit => rfl
  | range bounds => rfl
  | pattern p =>
    rw [compiledOf]
    cases hget : v.patterns.get? p with
    | none => rfl
    | some r =>
      cases value with
      | str text => simp only [Check.evaluate, Pattern.accepts, hv p r hget]
      | null | bool | num | arr | obj => rfl

end Validator

end Shapesmith
