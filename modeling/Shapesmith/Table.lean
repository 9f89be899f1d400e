/-!
# Tables in insertion order

A `Table` is a list of keyed entries that keeps the order in which the keys were first given.

* `Table.put` replaces in place or appends, so a key never moves;
* `Table.eraseFill` takes an entry out and moves the last entry into the gap.
-/

namespace Shapesmith

/-- Entries in the order in which their keys were first given. -/
abbrev Table (κ α : Type) := List (κ × α)

namespace Table

variable {κ α β : Type} [DecidableEq κ]

/-- The value stored under `key`. -/
def get? : Table κ α → κ → Option α
  | [], _ => none
  | (k, v) :: rest, key => if k = key then some v else get? rest key

/-- Whether `key` has an entry. -/
def has (t : Table κ α) (key : κ) : Bool := (t.get? key).isSome

/-- Stores `value` under `key`, in the place of the old entry or at the end. -/
def put : Table κ α → κ → α → Table κ α
  | [], key, value => [(key, value)]
  | (k, v) :: rest, key, value =>
    if k = key then (k, value) :: rest else (k, v) :: put rest key value

/-- The table that a run of `put`s leaves: the last value of a key wins at its first place. -/
def ofEntries (entries : List (κ × α)) : Table κ α :=
  entries.foldl (fun t e => t.put e.1 e.2) []

/-- The keys in order. -/
def keys (t : Table κ α) : List κ := t.map (·.1)

/-- Takes the entry of `key` out; the last entry moves into its place. -/
def eraseFill : Table κ α → κ → Table κ α
  | [], _ => []
  | (k, v) :: rest, key =>
    if k = key then
      match rest.getLast? with
      | none => []
      | some last => last :: rest.dropLast
    else (k, v) :: eraseFill rest key

@[simp] theorem get?_nil (key : κ) : get? ([] : Table κ α) key = none := rfl

theorem get?_put_self (t : Table κ α) (key : κ) (value : α) :
    (t.put key value).get? key = some value := by
  induction t with
  | nil => simp [put, get?]
  | cons e rest ih =>
    by_cases h : e.1 = key
    · simp [put, get?, h]
    · simp [put, get?, h, ih]

theorem get?_put_of_ne (t : Table κ α) {key other : κ} (value : α) (h : other ≠ key) :
    (t.put key value).get? other = t.get? other := by
  induction t with
  | nil => simp [put, get?, Ne.symm h]
  | cons e rest ih =>
    by_cases hk : e.1 = key
    · simp [put, get?, hk, Ne.symm h]
    · by_cases ho : e.1 = other
      · simp [put, get?, ho, h]
      · simp [put, get?, hk, ho, ih]

/-- Storing keeps the keys of a known entry and appends a new one. -/
theorem keys_put (t : Table κ α) (key : κ) (value : α) :
    (t.put key value).keys = if key ∈ t.keys then t.keys else t.keys ++ [key] := by
  induction t with
  | nil => simp [put, keys]
  | cons e rest ih =>
    by_cases hk : e.1 = key
    · simp [put, keys, hk]
    · have hk' : key ≠ e.1 := fun h => hk h.symm
      simp only [keys] at ih
      by_cases hm : key ∈ rest.map (·.1)
      · simp [put, keys, hk, ih, hm]
      · simp only [put, keys, hk, if_false, List.map_cons, ih, hm, List.mem_cons, hk', false_or]
        rfl

theorem has_iff (t : Table κ α) (key : κ) : t.has key = true ↔ key ∈ t.keys := by
  induction t with
  | nil => simp [has, keys]
  | cons e rest ih =>
    by_cases hk : e.1 = key
    · simp [has, keys, get?, hk]
    · have hk' : key ≠ e.1 := fun h => hk h.symm
      simp only [has, keys] at ih
      simp [has, keys, get?, hk, hk', ih]

end Table

end Shapesmith
