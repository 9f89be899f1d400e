import Shapesmith.Constraint.Violation
import Shapesmith.ShapeId

/-!
# Pointers are read back

A place is written as a row of steps, each behind a `/`, with `~` and `/` escaped in the steps. It
is read by cutting it at each `/` and undoing the escapes, first `~1` and then `~0`. The order
matters, since a step may hold the text `~1` itself, which is escaped to `~01`.

* `Pointer.along` extends a place by a row of steps, `Pointer.segments` reads the steps of a place;
* `Pointer.segments_along` : what is read is what was written, whatever the texts of the steps;
* `Pointer.along_injective` : so different rows of steps lead to different places.
-/

namespace Shapesmith.Pointer

/-- The place that a row of steps leads to. -/
def along (base : String) (steps : List String) : String := steps.foldl pointer base

/-- Puts `c` in the place of each `a` that is followed by `b`, from the left to the right. -/
def replacePair (a b c : Char) : List Char → List Char
  | x :: y :: rest =>
    if x = a ∧ y = b then c :: replacePair a b c rest else x :: replacePair a b c (y :: rest)
  | text => text

/-- Undoes the escapes of a step: `~1` is a slash, and after that `~0` is a tilde. -/
def unescape (text : List Char) : List Char := replacePair '~' '0' '~' (replacePair '~' '1' '/' text)

/-- The steps of a place: the pieces between slashes without the empty one in front, their escapes
undone. -/
def segments (path : String) : List String :=
  ((ShapeId.pieces '/' path.toList).drop 1).map fun piece => String.ofList (unescape piece)

theorem along_append (base : String) (steps steps' : List String) :
    along base (steps ++ steps') = along (along base steps) steps' := List.foldl_append

/-! ### Escapes -/

section Replace

variable {a b c x y : Char} {text : List Char}

theorem replacePair_pair : replacePair a b c (a :: b :: text) = c :: replacePair a b c text := by
  simp [replacePair]

theorem replacePair_cons_of_ne (h : x ≠ a) :
    replacePair a b c (x :: text) = x :: replacePair a b c text := by
  cases text <;> simp [replacePair, h]

theorem replacePair_cons_cons_of_ne (h : y ≠ b) :
    replacePair a b c (x :: y :: text) = x :: replacePair a b c (y :: text) := by
  simp [replacePair, h]

end Replace

/-- A character of a step with its tilde escaped, but not its slash. -/
def tildeChar (c : Char) : List Char := if c = '~' then ['~', '0'] else [c]

section Chars

variable {c : Char} (text : List Char)

theorem pointerChar_tilde : pointerChar '~' ++ text = '~' :: '0' :: text := rfl

theorem pointerChar_slash : pointerChar '/' ++ text = '~' :: '1' :: text := rfl

theorem pointerChar_of_ne (htilde : c ≠ '~') (hslash : c ≠ '/') :
    pointerChar c ++ text = c :: text := by
  rw [pointerChar, if_neg htilde, if_neg hslash]
  rfl

theorem tildeChar_tilde : tildeChar '~' ++ text = '~' :: '0' :: text := rfl

theorem tildeChar_of_ne (htilde : c ≠ '~') : tildeChar c ++ text = c :: text := by
  rw [tildeChar, if_neg htilde]
  rfl

end Chars

/-- The first pass finds the slashes and nothing else: no tilde is left before a one. -/
theorem replacePair_slash (text : List Char) :
    replacePair '~' '1' '/' (text.flatMap pointerChar) = text.flatMap tildeChar := by
  induction text with
  | nil => rfl
  | cons c text ih =>
    rw [List.flatMap_cons, List.flatMap_cons]
    by_cases htilde : c = '~'
    · rw [htilde, pointerChar_tilde, tildeChar_tilde, replacePair_cons_cons_of_ne (by decide),
        replacePair_cons_of_ne (by decide), ih]
    · by_cases hslash : c = '/'
      · rw [hslash, pointerChar_slash, tildeChar_of_ne _ (by decide), replacePair_pair, ih]
      · rw [pointerChar_of_ne _ htilde hslash, tildeChar_of_ne _ htilde,
          replacePair_cons_of_ne htilde, ih]

/-- The second pass finds the tildes. -/
theorem replacePair_tilde (text : List Char) :
    replacePair '~' '0' '~' (text.flatMap tildeChar) = text := by
  induction text with
  | nil => rfl
  | cons c text ih =>
    rw [List.flatMap_cons]
    by_cases htilde : c = '~'
    · rw [htilde, tildeChar_tilde, replacePair_pair, ih]
    · rw [tildeChar_of_ne _ htilde, replacePair_cons_of_ne htilde, ih]

/-- The escapes of a step are undone. -/
theorem unescape_flatMap (text : List Char) : unescape (text.flatMap pointerChar) = text := by
  rw [unescape, replacePair_slash, replacePair_tilde]

/-- An escaped step holds no slash. -/
theorem ne_slash_of_mem {text : List Char} {c : Char} (h : c ∈ text.flatMap pointerChar) :
    c ≠ '/' := by
  obtain ⟨x, -, hx⟩ := List.mem_flatMap.1 h
  rintro rfl
  by_cases htilde : x = '~'
  · subst htilde
    exact absurd hx (by decide)
  · by_cases hslash : x = '/'
    · subst hslash
      exact absurd hx (by decide)
    · rw [pointerChar, if_neg htilde, if_neg hslash, List.mem_singleton] at hx
      exact hslash hx.symm

/-! ### Pieces -/

/-- A text without the mark goes in front of the first piece. -/
theorem pieces_append {mark : Char} {text rest : List Char} {piece : List Char}
    {others : List (List Char)} (hrest : ShapeId.pieces mark rest = piece :: others)
    (h : ∀ c ∈ text, c ≠ mark) :
    ShapeId.pieces mark (text ++ rest) = (text ++ piece) :: others := by
  induction text with
  | nil => exact hrest
  | cons c text ih =>
    have ih := ih fun d hd => h d (List.mem_cons_of_mem _ hd)
    rw [List.cons_append, ShapeId.pieces, if_neg (h c List.mem_cons_self), ih]
    rfl

theorem toList_pointer (base step : String) :
    (pointer base step).toList = base.toList ++ '/' :: step.toList.flatMap pointerChar := by
  simp [pointer, pointerStep]

theorem toList_along (base : String) (steps : List String) : (along base steps).toList =
    base.toList ++ steps.flatMap fun step => '/' :: step.toList.flatMap pointerChar := by
  induction steps generalizing base with
  | nil => simp [along]
  | cons step steps ih =>
    rw [along, List.foldl_cons, ← along, ih, toList_pointer]
    simp

/-- A place below another one is written with a slash. -/
theorem along_ne_empty {base : String} {steps : List String} (h : steps ≠ []) :
    along base steps ≠ "" := by
  intro hempty
  have hlist := congrArg String.toList hempty
  obtain ⟨step, steps, rfl⟩ := List.exists_cons_of_ne_nil h
  simp [toList_along] at hlist

/-- Between the slashes stand the escaped steps, behind an empty piece. -/
theorem pieces_steps (steps : List String) :
    ShapeId.pieces '/' (steps.flatMap fun step => '/' :: step.toList.flatMap pointerChar) =
      [] :: steps.map fun step => step.toList.flatMap pointerChar := by
  induction steps with
  | nil => rfl
  | cons step steps ih =>
    rw [List.flatMap_cons, List.cons_append, ShapeId.pieces, if_pos rfl,
      pieces_append ih fun c hc => ne_slash_of_mem hc, List.append_nil, List.map_cons]

/-- The steps that a place was made of are read from it. -/
theorem segments_along (steps : List String) : segments (along "" steps) = steps := by
  rw [segments, toList_along, String.toList_empty, List.nil_append, pieces_steps, List.drop_one,
    List.tail_cons, List.map_map]
  have hread : ∀ step ∈ steps, ((fun piece => String.ofList (unescape piece)) ∘
      fun step : String => step.toList.flatMap pointerChar) step = step := by
    intro step _
    rw [Function.comp_apply, unescape_flatMap, String.ofList_toList]
  rw [List.map_congr_left hread, List.map_id']

example : segments "/a~1b/~01//0" = ["a/b", "~1", "", "0"] := by decide

/-- Different rows of steps lead to different places. -/
theorem along_injective {steps steps' : List String} (h : along "" steps = along "" steps') :
    steps = steps' := by
  rw [← segments_along steps, h, segments_along]

end Shapesmith.Pointer
