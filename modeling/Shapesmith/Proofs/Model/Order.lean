import Shapesmith.ShapeId

/-!
# The order of ids

`ShapeId.compare` goes through namespace, name and member.

* it is a linear order: equal ids are the same (`ShapeId.eq_of_compare`), it can be turned around
  (`ShapeId.compare_swap`) and chained (`ShapeId.compare_trans`).
-/

namespace Shapesmith.ShapeId

theorem compareMember_eq (a b : Option String) : compareMember a b = compare a b := by
  cases a <;> cases b <;> rfl

/-- The order of ids, written as one component after the other. -/
theorem compare_eq_lex (a b : ShapeId) :
    a.compare b = compareLex (compareOn (·.space))
      (compareLex (compareOn (·.name)) (compareOn (·.member))) a b := by
  simp only [ShapeId.compare, compareMember_eq, compareLex, compareOn]

theorem compare_self (a : ShapeId) : a.compare a = .eq := by
  rw [compare_eq_lex]
  exact Std.ReflCmp.compare_self

theorem compare_swap (a b : ShapeId) : a.compare b = (b.compare a).swap := by
  rw [compare_eq_lex, compare_eq_lex]
  exact Std.OrientedCmp.eq_swap

theorem compare_trans {a b c : ShapeId} (hab : a.compare b = .lt) (hbc : b.compare c = .lt) :
    a.compare c = .lt := by
  rw [compare_eq_lex] at *
  exact Std.TransCmp.lt_trans hab hbc

theorem compare_isLE_trans {a b c : ShapeId} (hab : (a.compare b != .gt) = true)
    (hbc : (b.compare c != .gt) = true) : (a.compare c != .gt) = true := by
  simp only [bne_iff_ne, ← Ordering.isLE_iff_ne_gt] at *
  rw [compare_eq_lex] at *
  exact Std.TransCmp.isLE_trans hab hbc

theorem compare_isLE_total (a b : ShapeId) :
    ((a.compare b != .gt) || b.compare a != .gt) = true := by
  rw [compare_swap a b]
  cases b.compare a <;> decide

theorem eq_of_compare {a b : ShapeId} (h : a.compare b = .eq) : a = b := by
  simp only [ShapeId.compare, compareMember_eq, Ordering.then_eq_eq] at h
  obtain ⟨hspace, hname, hmember⟩ := h
  obtain ⟨space, name, member⟩ := a
  obtain ⟨space', name', member'⟩ := b
  obtain rfl : space = space' := Std.LawfulEqCmp.eq_of_compare hspace
  obtain rfl : name = name' := Std.LawfulEqCmp.eq_of_compare hname
  obtain rfl : member = member' := Std.LawfulEqCmp.eq_of_compare hmember
  rfl

end Shapesmith.ShapeId
