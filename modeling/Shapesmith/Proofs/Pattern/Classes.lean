import Mathlib.Logic.Basic
import Shapesmith.Pattern.Class

/-!
# Membership in classes

Putting classes together does to their members what its name says.

* `CharClass.has_ofRanges_iff`, `CharClass.has_union_iff` and `CharClass.has_complement_iff` are
  about the ranges themselves;
* `CharClass.has_inter_iff`, `CharClass.has_minus_iff` and `CharClass.has_differ_iff` follow from
  the last two.
-/

namespace Shapesmith

open Unicode

/-! ### Ranges -/

namespace Spans

theorem inRanges_nil (n : Nat) : ¬ inRanges [] n := by simp [inRanges]

theorem inRanges_cons_iff {s : Nat × Nat} {spans : List (Nat × Nat)} {n : Nat} :
    inRanges (s :: spans) n ↔ (s.1 ≤ n ∧ n ≤ s.2) ∨ inRanges spans n := by
  simp [inRanges]

theorem inRanges_iff {spans : List (Nat × Nat)} {n : Nat} :
    inRanges spans n ↔ ∃ s ∈ spans, s.1 ≤ n ∧ n ≤ s.2 := by
  simp [inRanges]

theorem inRanges_insert_iff {s : Nat × Nat} {spans : List (Nat × Nat)} (hs : IsSpan s)
    (h : ∀ t ∈ spans, IsSpan t) {n : Nat} :
    inRanges (insert s spans) n ↔ (s.1 ≤ n ∧ n ≤ s.2) ∨ inRanges spans n := by
  induction spans generalizing s with
  | nil => exact inRanges_cons_iff
  | cons t rest ih =>
    obtain ⟨ht, hrest⟩ := List.forall_mem_cons.1 h
    simp only [insert]
    split
    · exact inRanges_cons_iff
    case isFalse hnot =>
      split
      · rw [inRanges_cons_iff, ih hs hrest, inRanges_cons_iff, or_left_comm]
      -- ranges that touch hold together what the range joined of them holds
      case isFalse hnot' =>
        have hjoin : (min s.1 t.1 ≤ n ∧ n ≤ max s.2 t.2) ↔
            (s.1 ≤ n ∧ n ≤ s.2) ∨ (t.1 ≤ n ∧ n ≤ t.2) := by
          have := hs.1
          have := ht.1
          omega
        rw [ih (isSpan_join hs ht hnot hnot') hrest, hjoin, inRanges_cons_iff, or_assoc]

theorem inRanges_foldr_insert_iff {ranges spans : List (Nat × Nat)} (hr : ∀ s ∈ ranges, IsSpan s)
    (h : Apart spans) {n : Nat} :
    inRanges (ranges.foldr insert spans) n ↔ inRanges ranges n ∨ inRanges spans n := by
  induction ranges with
  | nil => simp [inRanges_nil]
  | cons s rest ih =>
    obtain ⟨hs, hrest⟩ := List.forall_mem_cons.1 hr
    rw [List.foldr_cons, inRanges_insert_iff hs (apart_foldr_insert hrest h).isSpan, ih hrest,
      inRanges_cons_iff, or_assoc]

/-- The parts of a range hold its characters. -/
theorem inRanges_characters_iff {s : Nat × Nat} {n : Nat} :
    inRanges (characters s) n ↔ n.isValidChar ∧ s.1 ≤ n ∧ n ≤ s.2 := by
  simp only [inRanges, characters, List.any_filter, List.any_cons, List.any_nil, Nat.isValidChar,
    Bool.or_eq_true, Bool.and_eq_true, decide_eq_true_eq, Bool.false_eq_true, or_false]
  omega

/-- Between ranges that begin at `next` or later lies, from `next` on, what is in none of them. -/
theorem inRanges_gaps_iff {next : Nat} {spans : List (Nat × Nat)} (h : Apart spans)
    (hnext : ∀ s ∈ spans, next ≤ s.1) {n : Nat} (hn : n < 0x110000) :
    inRanges (gaps next spans) n ↔ next ≤ n ∧ ¬ inRanges spans n := by
  obtain ⟨hspan, hgaps⟩ := h
  induction spans generalizing next with
  | nil =>
    simp only [gaps]
    split
    · simp only [inRanges_cons_iff, inRanges_nil, or_false, Bool.false_eq_true, not_false_eq_true,
        and_true]
      omega
    · simp only [inRanges_nil, Bool.false_eq_true, not_false_eq_true, and_true, false_iff]
      omega
  | cons s rest ih =>
    obtain ⟨⟨hs, -⟩, hrest⟩ := List.forall_mem_cons.1 hspan
    obtain ⟨hfirst, hgaps⟩ := List.pairwise_cons.1 hgaps
    have hle := hnext s (List.mem_cons_self ..)
    have hbehind : inRanges rest n → s.2 < n := by
      intro hin
      obtain ⟨t, ht, hn⟩ := inRanges_iff.1 hin
      have := hfirst t ht
      omega
    have ih := ih (fun t ht => Nat.le_of_lt (hfirst t ht)) hrest hgaps
    have hgap : inRanges (gaps next (s :: rest)) n ↔
        (next ≤ n ∧ n < s.1) ∨ (s.2 < n ∧ ¬ inRanges rest n) := by
      simp only [gaps]
      split
      · rw [inRanges_cons_iff, ih]
        refine or_congr ?_ Iff.rfl
        simp only
        omega
      · rw [ih]
        refine (or_iff_right ?_).symm
        omega
    rw [hgap, inRanges_cons_iff]
    by_cases hin : inRanges rest n
    · have := hbehind hin
      simp only [hin, not_true_eq_false, and_false, or_true, or_false, iff_false]
      omega
    · simp only [hin, not_false_eq_true, and_true, Bool.false_eq_true, or_false]
      omega

end Spans

/-! ### Classes -/

namespace CharClass

variable {a b c : CharClass} {n : Nat}

/-- Only characters belong to classes. -/
theorem isValidChar_of_has (h : c.has n) : n.isValidChar := by
  obtain ⟨s, hs, hn⟩ := Spans.inRanges_iff.1 h
  obtain ⟨hle, hsplit⟩ := c.apart.isSpan s hs
  simp only [Nat.isValidChar]
  omega

theorem has_ofRanges_iff {ranges : List (Nat × Nat)} :
    (ofRanges ranges).has n ↔ n.isValidChar ∧ inRanges ranges n := by
  have hspan := Spans.isSpan_characters ranges
  rw [has, ofRanges, Spans.inRanges_foldr_insert_iff hspan Spans.apart_nil,
    or_iff_left (Spans.inRanges_nil n), Spans.inRanges_iff, Spans.inRanges_iff]
  constructor
  · rintro ⟨r, hr, hn⟩
    obtain ⟨s, hs, hr⟩ := List.mem_flatMap.1 hr
    obtain ⟨hchar, hn⟩ := Spans.inRanges_characters_iff.1 (Spans.inRanges_iff.2 ⟨r, hr, hn⟩)
    exact ⟨hchar, s, hs, hn⟩
  · rintro ⟨hchar, s, hs, hn⟩
    obtain ⟨r, hr, hn⟩ := Spans.inRanges_iff.1 (Spans.inRanges_characters_iff.2 ⟨hchar, hn⟩)
    exact ⟨r, List.mem_flatMap.2 ⟨s, hs, hr⟩, hn⟩

theorem has_union_iff : (a.union b).has n ↔ a.has n ∨ b.has n :=
  Spans.inRanges_foldr_insert_iff a.apart.isSpan b.apart

theorem has_complement_iff (hn : n.isValidChar) : c.complement.has n ↔ ¬ c.has n := by
  have hlt : n < 0x110000 := by
    simp only [Nat.isValidChar] at hn
    omega
  rw [complement, has_ofRanges_iff,
    Spans.inRanges_gaps_iff c.apart (fun _ _ => Nat.zero_le _) hlt]
  simp [hn, has]

theorem has_inter_iff (hn : n.isValidChar) : (a.inter b).has n ↔ a.has n ∧ b.has n := by
  rw [inter, has_complement_iff hn, has_union_iff, has_complement_iff hn, has_complement_iff hn,
    not_or, not_not, not_not]

theorem has_minus_iff (hn : n.isValidChar) : (a.minus b).has n ↔ a.has n ∧ ¬ b.has n := by
  rw [minus, has_inter_iff hn, has_complement_iff hn]

theorem has_differ_iff (hn : n.isValidChar) : (a.differ b).has n ↔ Xor (a.has n) (b.has n) := by
  rw [differ, has_union_iff, has_minus_iff hn, has_minus_iff hn, Xor]

end CharClass

end Shapesmith
