import Shapesmith.Proofs.Evaluation.Bound

/-!
# Depth does not change what is built

With more depth an evaluation gets at most further than before. So any two depths that are enough
give the same verdict, the built value included.

* `Verdict.Approximates` : a verdict is another one, or else it is that a value has no end;
* `Validator.descend_approximates` : one level more, by way of one lemma for each loop;
* `Validator.within_eq_of_settled` : two depths that are enough give the same verdict.
-/

namespace Shapesmith

namespace Verdict

variable {α β : Type}

/-- The verdict is the other one, or else it is that a value has no end. -/
def Approximates (x y : Verdict α) : Prop := x.Settled → y = x

theorem settled_map_iff {x : Verdict α} {f : α → β} : (f <$> x).Settled ↔ x.Settled := by
  rw [← settled_forget_iff, forget_map, settled_forget_iff]

namespace Approximates

variable {x x' x'' : Verdict α} {f f' : α → Verdict β}

theorem refl (x : Verdict α) : x.Approximates x := fun _ => rfl

theorem trans (h : x.Approximates x') (h' : x'.Approximates x'') : x.Approximates x'' := by
  intro hx
  have heq := h hx
  rw [h' (heq ▸ hx), heq]

theorem map (f : α → β) (h : x.Approximates x') : (f <$> x).Approximates (f <$> x') := by
  intro hx
  rw [h (settled_map_iff.1 hx)]

/-- Chains approximate each other when their links do, as far as the first chain comes. -/
theorem bind (h : x.Approximates x')
    (hf : ∀ a, x.outcome = .ok a → (f a).Approximates (f' a)) :
    (x >>= f).Approximates (x' >>= f') := by
  intro hx
  rw [h hx.of_bind, bind_def, bind_def]
  cases ho : x.outcome with
  | error e => rfl
  | ok a =>
    -- a link that goes on without end would make the chain do so
    have ha : (f a).Settled := fun he => hx (bind_outcome_eq_error_iff.2 (.inr ⟨a, ho, he⟩))
    dsimp only
    rw [hf a ho ha]

end Approximates

end Verdict

namespace Validator

open Verdict

variable {v : Validator} {path : String}

/-! ### Loops -/

section Loops

variable {step step' : Json → String → Verdict Json}
  (h : ∀ j place, (step j place).Approximates (step' j place))
include h

theorem eachItem_approximates (n : Nat) (items : List Json) :
    (eachItem step path n items).Approximates (eachItem step' path n items) := by
  induction items generalizing n with
  | nil => exact .refl _
  | cons j items ih => exact (h j _).bind fun _ _ => (ih (n + 1)).bind fun _ _ => .refl _

theorem eachEntry_approximates {key key' : Json → String → Verdict Json}
    (hkey : ∀ j place, (key j place).Approximates (key' j place))
    (fields : List (String × Json)) :
    (eachEntry key step path fields).Approximates (eachEntry key' step' path fields) := by
  induction fields with
  | nil => exact .refl _
  | cons f fields ih =>
    exact (hkey _ _).bind fun _ _ => (h _ _).bind fun _ _ => ih.bind fun _ _ => .refl _

end Loops

theorem eachMember_approximates {step step' : Shape → Option Json → String → Verdict (Option Json)}
    (h : ∀ e j place, (step e j place).Approximates (step' e j place)) (members : List Shape)
    (fields : List (String × Json)) :
    (eachMember step path members fields).Approximates (eachMember step' path members fields) := by
  induction members generalizing fields with
  | nil => cases fields <;> exact .refl _
  | cons e members ih => exact (h e _ _).bind fun _ _ => (ih _).bind fun _ _ => .refl _

theorem eachChoice_approximates {step step' : Shape → Json → String → Verdict Json}
    (h : ∀ e j place, (step e j place).Approximates (step' e j place)) (members : List Shape)
    (fields : List (String × Json)) :
    (eachChoice members step path fields).Approximates (eachChoice members step' path fields) := by
  induction fields with
  | nil => exact .refl _
  | cons f fields ih =>
    rw [eachChoice, eachChoice]
    split
    · exact .refl _
    · exact (h _ _ _).bind fun _ _ => ih.bind fun _ _ => .refl _

/-! ### Levels -/

variable (v)

/-- Holds a member of a structure against its requirement and its target, at most `depth` levels
deep. -/
def memberWithin (depth : Nat) (e : Shape) (given : Option Json) (place : String) :
    Verdict (Option Json) := do
  let value ← candidate (.of e) given place
  match value with
  | none => pure none
  | some j => (some ·) <$> v.within depth e j place

theorem descend_struct {s : Shape} (hs : s.isStruct = true) (depth : Nat)
    (fields : List (String × Json)) : v.descend (depth + 1) s (.obj fields) path =
      Json.obj <$> eachMember (v.memberWithin depth) path (v.model.membersOf s) fields := by
  obtain ⟨ids, hk⟩ := Shape.isStruct_iff.1 hs
  simp only [descend, hk, bind_pure_comp]
  rfl

variable {v}

theorem memberWithin_approximates {depth depth' : Nat}
    (h : ∀ s j place, (v.within depth s j place).Approximates (v.within depth' s j place))
    (e : Shape) (given : Option Json) (place : String) :
    (v.memberWithin depth e given place).Approximates (v.memberWithin depth' e given place) := by
  refine Approximates.bind (.refl _) fun value _ => ?_
  cases value with
  | none => exact .refl _
  | some j => exact (h e j place).map _

/-- With one level more, an evaluation gets at most further. -/
theorem descend_approximates (depth : Nat) (s : Shape) (j : Json) (path : String) :
    (v.descend depth s j path).Approximates (v.descend (depth + 1) s j path) := by
  induction depth generalizing s j path with
  | zero => exact fun h => absurd rfl h
  | succ depth ih =>
    have hwithin (t : Shape) (j : Json) (place : String) :
        (v.within depth t j place).Approximates (v.within (depth + 1) t j place) :=
      Approximates.bind (.refl _) fun _ _ => ih _ j place
    cases hk : s.kind with
    | struct ids =>
      cases j with
      | obj fields =>
        have hs := Shape.isStruct_iff.2 ⟨ids, hk⟩
        rw [descend_struct v hs, descend_struct v hs]
        exact (eachMember_approximates (memberWithin_approximates hwithin) _ _).map _
      | _ =>
        simp only [descend, hk]
        exact .refl _
    | list id =>
      cases j with
      | arr items =>
        simp only [descend, hk]
        exact (eachItem_approximates (hwithin _) 0 items).bind fun _ _ => .refl _
      | _ =>
        simp only [descend, hk]
        exact .refl _
    | map k w =>
      cases j with
      | obj fields =>
        simp only [descend, hk]
        exact (eachEntry_approximates (hwithin _) (hwithin _) fields).bind fun _ _ => .refl _
      | _ =>
        simp only [descend, hk]
        exact .refl _
    | union ids =>
      cases j with
      | obj fields =>
        simp only [descend, hk]
        exact (eachChoice_approximates hwithin _ fields).bind fun _ _ => .refl _
      | _ =>
        simp only [descend, hk]
        exact .refl _
    | simple | member | operation | service =>
      simp only [descend, hk]
      exact .refl _

variable {s : Shape} {j : Json}

theorem descend_approximates_of_le {depth depth' : Nat} (hle : depth ≤ depth') :
    (v.descend depth s j path).Approximates (v.descend depth' s j path) := by
  induction hle with
  | refl => exact .refl _
  | step _ ih => exact ih.trans (descend_approximates _ s j path)

theorem within_approximates {depth depth' : Nat} (hle : depth ≤ depth') :
    (v.within depth s j path).Approximates (v.within depth' s j path) :=
  Approximates.bind (.refl _) fun _ _ => descend_approximates_of_le hle

/-- Two depths that are enough give the same verdict. -/
theorem within_eq_of_settled {depth depth' : Nat} (h : (v.within depth s j path).Settled)
    (h' : (v.within depth' s j path).Settled) :
    v.within depth' s j path = v.within depth s j path := by
  rcases Nat.le_total depth depth' with hle | hle
  · exact within_approximates hle h
  · exact (within_approximates hle h').symm

/-- Any depth that is enough for a value gives the verdict of the bound. -/
theorem within_approximates_depthBound (hm : v.model.Sound) (hs : s ∈ v.model.shapes)
    (hd : j.Distinct) (depth : Nat) :
    (v.within depth s j path).Approximates (v.within (v.depthBound j) s j path) := by
  intro h
  refine within_eq_of_settled h ?_
  rw [← settled_forget_iff, forget_within] at h ⊢
  exact settled_depthBound hm (proper_spot hm hs hd path) h

end Validator

end Shapesmith
