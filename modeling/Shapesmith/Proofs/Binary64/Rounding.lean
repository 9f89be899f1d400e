import Mathlib.Data.Nat.Log
import Mathlib.Order.Compare
import Shapesmith.Binary64

/-!
# Rounding keeps the order

A quotient is rounded to a multiple of the gap of the format around it. Between two powers of two
the gap is one, so rounding is division by it with a carry; from a power of two to the next the
rounded quotients stay between the two.

* `Binary64.nearest_mono` : a quotient that is not smaller is not rounded to a smaller number;
* `Binary64.signed_ofInt_mono` : integers are rounded in their order;
* `Binary64.signed_ofInt_of_natAbs_lt` : integers of at most 53 bits are not rounded at all.
-/

namespace Shapesmith

theorem twoTo_pos (n : Nat) : 0 < twoTo n := Nat.two_pow_pos n

theorem twoTo_le_twoTo {m n : Nat} (h : m ≤ n) : twoTo m ≤ twoTo n :=
  Nat.pow_le_pow_right Nat.two_pos h

theorem twoTo_dvd_twoTo {m n : Nat} (h : m ≤ n) : twoTo m ∣ twoTo n := Nat.pow_dvd_pow 2 h

theorem twoTo_add (m n : Nat) : twoTo (m + n) = twoTo m * twoTo n := Nat.pow_add 2 m n

namespace Binary64

/-! ### Division with a carry -/

/-- The quotient nearest to `num / den`; a tie goes to the even one. -/
def roundEven (num den : Nat) : Nat :=
  if den < 2 * (num % den) ∨ den = 2 * (num % den) ∧ num / den % 2 = 1 then num / den + 1
  else num / den

variable {num num' den : Nat}

/-- The number in terms of the step between numbers around the quotient. -/
theorem nearest_eq (num den : Nat) : nearest num den =
    roundEven num (den * twoTo (gap (num / den))) * twoTo (gap (num / den)) := by
  simp only [nearest, roundEven, Bool.or_eq_true, Bool.and_eq_true, decide_eq_true_eq]

theorem div_le_roundEven (num den : Nat) : num / den ≤ roundEven num den := by
  unfold roundEven
  split <;> omega

theorem roundEven_le_succ (num den : Nat) : roundEven num den ≤ num / den + 1 := by
  unfold roundEven
  split <;> omega

theorem roundEven_of_dvd (hden : 0 < den) (h : den ∣ num) : roundEven num den = num / den := by
  rw [roundEven, if_neg]
  have hrest : num % den = 0 := Nat.mod_eq_zero_of_dvd h
  omega

theorem roundEven_mono (h : num ≤ num') : roundEven num den ≤ roundEven num' den := by
  have hquotient : num / den ≤ num' / den := Nat.div_le_div_right h
  by_cases heq : num / den = num' / den
  · -- the same quotient: the greater rest is carried if the smaller one is
    have hrest : num % den ≤ num' % den := by
      have hnum := Nat.div_add_mod num den
      have hnum' := Nat.div_add_mod num' den
      rw [heq] at hnum
      omega
    unfold roundEven
    rw [heq]
    split <;> split <;> omega
  · have hcarry := roundEven_le_succ num den
    have hfloor := div_le_roundEven num' den
    omega

/-! ### From a power of two to the next -/

theorem gap_le_log2 (steps : Nat) : gap steps ≤ steps.log2 := Nat.sub_le _ _

/-- The power of two below a quotient is below the rounded quotient. -/
theorem twoTo_log2_le_nearest (h : num / den ≠ 0) : twoTo (num / den).log2 ≤ nearest num den := by
  rw [nearest_eq]
  generalize hQ : num / den = Q at h ⊢
  have hsplit : twoTo Q.log2 = twoTo (Q.log2 - gap Q) * twoTo (gap Q) := by
    rw [← twoTo_add, Nat.sub_add_cancel (gap_le_log2 Q)]
  have hQlog : twoTo Q.log2 ≤ Q := Nat.log2_self_le h
  have hfloor : twoTo (Q.log2 - gap Q) ≤ num / (den * twoTo (gap Q)) := by
    rw [← Nat.div_div_eq_div_mul, hQ, Nat.le_div_iff_mul_le (twoTo_pos _), ← hsplit]
    exact hQlog
  rw [hsplit]
  exact Nat.mul_le_mul_right _ (hfloor.trans (div_le_roundEven _ _))

/-- A rounded quotient is at most the power of two above the quotient. -/
theorem nearest_le_twoTo (num den : Nat) : nearest num den ≤ twoTo ((num / den).log2 + 1) := by
  rw [nearest_eq]
  generalize hQ : num / den = Q
  have hgap : gap Q ≤ Q.log2 + 1 := (gap_le_log2 Q).trans (Nat.le_succ _)
  have hsplit : twoTo (Q.log2 + 1) = twoTo (Q.log2 + 1 - gap Q) * twoTo (gap Q) := by
    rw [← twoTo_add, Nat.sub_add_cancel hgap]
  have hQlog : Q < twoTo (Q.log2 + 1) := Nat.lt_log2_self
  have hfloor : num / (den * twoTo (gap Q)) < twoTo (Q.log2 + 1 - gap Q) := by
    rw [← Nat.div_div_eq_div_mul, hQ, Nat.div_lt_iff_lt_mul (twoTo_pos _), ← hsplit]
    exact hQlog
  rw [hsplit]
  exact Nat.mul_le_mul_right _ ((roundEven_le_succ _ _).trans hfloor)

/-- Quotients are rounded in their order. -/
theorem nearest_mono (h : num ≤ num') : nearest num den ≤ nearest num' den := by
  have hquotient : num / den ≤ num' / den := Nat.div_le_div_right h
  have hlog : (num / den).log2 ≤ (num' / den).log2 := by
    rw [Nat.log2_eq_log_two, Nat.log2_eq_log_two]
    exact Nat.log_mono_right hquotient
  by_cases hgap : gap (num / den) = gap (num' / den)
  · rw [nearest_eq, nearest_eq, hgap]
    exact Nat.mul_le_mul_right _ (roundEven_mono h)
  · -- a greater gap starts at a power of two
    have hlt : (num / den).log2 + 1 ≤ (num' / den).log2 := by
      unfold gap at hgap
      omega
    have hne : num' / den ≠ 0 := by
      intro hzero
      rw [hzero, Nat.log2_zero] at hlt
      omega
    calc nearest num den ≤ twoTo ((num / den).log2 + 1) := nearest_le_twoTo num den
      _ ≤ twoTo (num' / den).log2 := twoTo_le_twoTo hlt
      _ ≤ nearest num' den := twoTo_log2_le_nearest hne

/-- A quotient that the format holds is not rounded. -/
theorem nearest_of_dvd (h : twoTo (gap num) ∣ num) : nearest num 1 = num := by
  rw [nearest_eq, Nat.div_one, Nat.one_mul, roundEven_of_dvd (twoTo_pos _) h,
    Nat.div_mul_cancel h]

/-! ### Integers -/

theorem signed_ofInt_of_nonneg {n : Int} (h : 0 ≤ n) :
    (ofInt n).signed = nearest (n.natAbs * one) 1 := by
  simp [ofInt, signed, Int.not_lt.2 h]

theorem signed_ofInt_of_neg {n : Int} (h : n < 0) :
    (ofInt n).signed = -(nearest (n.natAbs * one) 1 : Int) := by
  simp [ofInt, signed, h]

/-- Integers are rounded in their order. -/
theorem signed_ofInt_mono {m n : Int} (h : m ≤ n) : (ofInt m).signed ≤ (ofInt n).signed := by
  have hmagnitude {a b : Int} (hab : a.natAbs ≤ b.natAbs) :
      nearest (a.natAbs * one) 1 ≤ nearest (b.natAbs * one) 1 :=
    nearest_mono (Nat.mul_le_mul_right _ hab)
  by_cases hm : 0 ≤ m
  · rw [signed_ofInt_of_nonneg hm, signed_ofInt_of_nonneg (hm.trans h)]
    exact Int.ofNat_le.2 (hmagnitude (by omega))
  · rw [signed_ofInt_of_neg (Int.not_le.1 hm)]
    by_cases hn : 0 ≤ n
    · rw [signed_ofInt_of_nonneg hn]
      omega
    · rw [signed_ofInt_of_neg (Int.not_le.1 hn)]
      exact Int.neg_le_neg (Int.ofNat_le.2 (hmagnitude (by omega)))

/-- Integers whose rounded numbers differ lie in the same order. -/
theorem lt_of_signed_ofInt_lt {m n : Int} (h : (ofInt m).signed < (ofInt n).signed) : m < n := by
  by_contra hle
  exact absurd (signed_ofInt_mono (Int.not_lt.1 hle)) (Int.not_le.2 h)

/-- Around a multiple of a power of two with 53 bits numbers lie no further apart than the power. -/
theorem gap_mul_twoTo_le {m : Nat} (h : m < twoTo 53) (k : Nat) : gap (m * twoTo k) ≤ k := by
  by_cases hzero : m * twoTo k = 0
  · rw [hzero]
    exact (gap_le_log2 0).trans (Nat.zero_le k)
  · have hbound : m * twoTo k < twoTo (53 + k) := by
      rw [twoTo_add, Nat.mul_lt_mul_right (twoTo_pos k)]
      exact h
    have hlog : (m * twoTo k).log2 < 53 + k := (Nat.log2_lt hzero).2 hbound
    unfold gap
    omega

/-- An integer of at most 53 bits is held by the format. -/
theorem signed_ofInt_of_natAbs_lt {n : Int} (h : n.natAbs < twoTo 53) :
    (ofInt n).signed = n * one := by
  have hgap : gap (n.natAbs * one) ≤ 1074 := gap_mul_twoTo_le h 1074
  have hdvd : twoTo (gap (n.natAbs * one)) ∣ n.natAbs * one :=
    Nat.dvd_mul_left_of_dvd (twoTo_dvd_twoTo hgap) _
  by_cases hn : 0 ≤ n
  · rw [signed_ofInt_of_nonneg hn, nearest_of_dvd hdvd, Int.natCast_mul, Int.natAbs_of_nonneg hn]
  · have hneg : n < 0 := Int.not_le.1 hn
    rw [signed_ofInt_of_neg hneg, nearest_of_dvd hdvd, Int.natCast_mul,
      Int.ofNat_natAbs_of_nonpos hneg.le, Int.neg_mul, Int.neg_neg]

end Binary64

end Shapesmith
