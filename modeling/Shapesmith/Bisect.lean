/-!
# Binary search

* `bisect` looks for an entry of a list that has been put in order: it looks at the middle one and
  goes on in one half;
* `bisect_eq_find?` says that it overlooks nothing.
-/

namespace Shapesmith

variable {α : Type}

/-- Looks for the entry that is sought; `order` compares an entry with that one. -/
def bisect (order : α → Ordering) (as : List α) : Option α :=
  match hdrop : as.drop (as.length / 2) with
  | [] => none
  | a :: later =>
    have hlen : as.length - as.length / 2 = later.length + 1 := by
      rw [← List.length_drop, hdrop, List.length_cons]
    match order a with
    | .eq => some a
    | .gt => bisect order (as.take (as.length / 2))
    | .lt => bisect order later
termination_by as.length
decreasing_by
  · rw [List.length_take]
    omega
  · omega

/-- Whatever comes behind an entry that is not too low is too high. -/
def Ascending (order : α → Ordering) (as : List α) : Prop :=
  as.Pairwise fun a b => order a ≠ .lt → order b = .gt

variable {order : α → Ordering} {front later as : List α} {a : α}

/-- What is sought is not in front of an entry that is not too high. -/
theorem Ascending.find?_front (h : Ascending order (front ++ a :: later)) (ha : order a ≠ .gt) :
    front.find? (fun b => order b = .eq) = none := by
  rw [List.find?_eq_none]
  intro b hb heq
  have hlow : order b ≠ .lt := by
    rw [of_decide_eq_true heq]
    decide
  exact ha ((List.pairwise_append.1 h).2.2 b hb a List.mem_cons_self hlow)

/-- What is sought is not behind an entry that is too high. -/
theorem Ascending.find?_later (h : Ascending order (front ++ a :: later)) (ha : order a = .gt) :
    later.find? (fun b => order b = .eq) = none := by
  rw [List.find?_eq_none]
  intro b hb heq
  have hlow : order a ≠ .lt := by
    rw [ha]
    decide
  have hhigh := (List.pairwise_cons.1 (List.pairwise_append.1 h).2.1).1 b hb hlow
  rw [of_decide_eq_true heq] at hhigh
  cases hhigh

/-- Nothing is overlooked. -/
theorem bisect_eq_find? (h : Ascending order as) :
    bisect order as = as.find? fun a => order a = .eq := by
  have hsplit {as later : List α} {a : α} (hdrop : as.drop (as.length / 2) = a :: later) :
      as.take (as.length / 2) ++ a :: later = as := by
    rw [← hdrop, List.take_append_drop]
  fun_induction bisect order as with
  | case1 as hdrop =>
    have hlen := congrArg List.length hdrop
    simp only [List.length_drop, List.length_nil] at hlen
    obtain rfl : as = [] := List.length_eq_zero_iff.1 (by omega)
    rfl
  | case2 as a later hdrop _ ha =>
    rw [← hsplit hdrop] at h ⊢
    rw [List.find?_append, h.find?_front (by simp [ha]), List.find?_cons_of_pos (by simp [ha])]
    rfl
  | case3 as a later hdrop _ ha ih =>
    -- the middle is too high, and all behind it are
    rw [ih (h.sublist (List.take_sublist _ _))]
    rw [← hsplit hdrop] at h
    calc (as.take (as.length / 2)).find? (fun b => order b = .eq)
        = (as.take (as.length / 2) ++ a :: later).find? (fun b => order b = .eq) := by
          rw [List.find?_append, List.find?_cons_of_neg (by simp [ha]), h.find?_later ha,
            Option.or_none]
      _ = as.find? (fun b => order b = .eq) := by rw [hsplit hdrop]
  | case4 as a later hdrop _ ha ih =>
    -- the middle is too low, and nothing before it is what is sought
    have hback : Ascending order (a :: later) := hdrop ▸ h.sublist (List.drop_sublist _ _)
    rw [ih hback.tail]
    rw [← hsplit hdrop] at h
    calc later.find? (fun b => order b = .eq)
        = (as.take (as.length / 2) ++ a :: later).find? (fun b => order b = .eq) := by
          rw [List.find?_append, h.find?_front (by simp [ha]),
            List.find?_cons_of_neg (by simp [ha]), Option.none_or]
      _ = as.find? (fun b => order b = .eq) := by rw [hsplit hdrop]

end Shapesmith
