import Shapesmith.Proofs.Symbol.Stages
import Shapesmith.Proofs.Symbol.Unambiguous
import Shapesmith.Proofs.Text.Names

/-!
# Symbols are well named

All symbols of shapes are made of types of the language and of generated types, whose modules and
names come from names in snake case and in camel case. So none of them holds punctuation, and the
spelling of a symbol says which type it is.

* `Symbols.Gives` : the symbols that can be asked for a shape;
* `Symbols.Gives.wellNamed` : all of them are well named;
* `Symbols.spelling_unambiguous` : types with the same spelling are the same, be they well named at
  any depth or types of symbols.
-/

namespace Shapesmith

open Text

namespace Symbols

open CodeType

variable {y : Symbols} {s : Shape} {symbol : Symbol} {depth : Nat}

/-- A symbol that can be asked for a shape. -/
inductive Gives (y : Symbols) (s : Shape) (symbol : Symbol) : Prop
  /-- The plain symbol. -/
  | plain (h : y.plain s = .ok symbol)
  /-- The symbol of checked values. -/
  | constrained (visibility : Visibility) (h : y.constrained visibility s = .ok symbol)
  /-- The symbol of values before they are checked. -/
  | unconstrained (h : y.unconstrained s = .ok symbol)
  /-- The symbol of violations. -/
  | violation (h : y.violation s = .ok symbol)

theorem isStep_of_nameChar {text : String} (h : ∀ c ∈ text.toList, NameChar c ∨ c = '_') :
    IsStep text := by
  have hpunctuation : ∀ c ∈ punctuation, ¬ (NameChar c ∨ c = '_') := forall_of_all (by decide)
  exact fun c hc hmem => hpunctuation c hc (h c hmem)

theorem isStep_camelCase (text : String) : IsStep (camelCase text) :=
  isStep_of_nameChar fun _ hc => .inl (nameChar_of_mem_camelCase hc)

theorem isStep_snakeCase (text : String) : IsStep (snakeCase text) :=
  isStep_of_nameChar fun _ => nameChar_of_mem_snakeCase

/-- Each module of generated types is at most one step below the root. -/
theorem exists_path (place : Place) :
    ∃ steps, (∀ step ∈ steps, IsStep step) ∧ place.path = modulePath steps := by
  cases place with
  | root => exact ⟨[], by simp, rfl⟩
  | model => exact ⟨["model"], by decide, by decide⟩
  | input => exact ⟨["input"], by decide, by decide⟩
  | output => exact ⟨["output"], by decide, by decide⟩
  | error => exact ⟨["error"], by decide, by decide⟩
  | operation => exact ⟨["operation"], by decide, by decide⟩
  | constrained => exact ⟨["constrained"], by decide, by decide⟩
  | unconstrained => exact ⟨["unconstrained"], by decide, by decide⟩

theorem wellNamed_named (place : Place) {base : String} (hbase : IsStep base) :
    (CodeType.named place.path base).WellNamed := ⟨exists_path place, hbase⟩

/-- A type in a module one step below another. -/
theorem wellNamed_joined {path step base : String}
    (hpath : ∃ steps, (∀ step ∈ steps, IsStep step) ∧ path = modulePath steps)
    (hstep : IsStep step) (hbase : IsStep base) :
    (CodeType.named (joined path step) base).WellNamed := by
  obtain ⟨steps, hsteps, rfl⟩ := hpath
  refine ⟨⟨steps ++ [step], ?_, (modulePath_concat steps step).symm⟩, hbase⟩
  intro step' hmem
  rcases List.mem_append.1 hmem with hmem | hmem
  · exact hsteps step' hmem
  · exact List.mem_singleton.1 hmem ▸ hstep

theorem wellNamed_declared : (y.declared s).WellNamed := by
  refine wellNamed_named _ ?_
  unfold typeName
  dsimp only
  split
  · exact (isStep_camelCase _).append (by decide)
  · exact isStep_camelCase _

theorem wellNamed_wrapperType {visibility : Visibility} :
    (wrapperType visibility s).WellNamed := by
  cases visibility with
  | exported => exact wellNamed_named .model (isStep_camelCase _)
  | hidden =>
    exact wellNamed_joined (exists_path .constrained) ((isStep_snakeCase _).append (by decide))
      ((isStep_camelCase _).append (by decide))

theorem wellNamed_uncheckedType : (uncheckedType s).WellNamed :=
  wellNamed_joined (exists_path .unconstrained) ((isStep_snakeCase _).append (by decide))
    ((isStep_camelCase _).append (by decide))

theorem wellNamed_stripped {type : CodeType} (h : type.WellNamed) : type.stripped.WellNamed := by
  induction type with
  | option inner ih | boxed inner ih => exact ih h
  | _ => exact h

theorem wellNamed_beside {type : CodeType} (h : type.WellNamed) {base : String}
    (hbase : IsStep base) : (CodeType.named (moduleBeside type s) base).WellNamed := by
  refine wellNamed_joined ?_ (isStep_snakeCase _) hbase
  have hstripped := wellNamed_stripped h
  unfold CodeType.space?
  split
  · rename_i space base' heq
    rw [heq] at hstripped
    exact hstripped.1
  · exact exists_path .model

theorem wellNamed_wrap {member : Shape} {type : CodeType} (h : type.WellNamed) :
    (y.wrap member type).WellNamed := by
  unfold wrap
  split_ifs <;> exact h

theorem wellNamed_of_plainAt (h : y.plainAt depth s = some symbol) : symbol.type.WellNamed := by
  induction depth generalizing s symbol with
  | zero => cases h
  | succ depth ih =>
    cases spelled_of_plainAt h with
    | @simple type _ => cases type <;> exact trivial
    | list _ _ hinner =>
      have hitem := ih hinner
      exact hitem
    | map _ _ hinner _ hinner' =>
      have hkey := ih hinner
      have hvalue := ih hinner'
      exact ⟨hkey, hvalue⟩
    | member _ _ hinner => exact wellNamed_wrap (wellNamed_stripped (ih hinner))
    | declared => exact wellNamed_declared

theorem wellNamed_of_constrainedAt {visibility : Visibility}
    (h : y.constrainedAt visibility depth s = some symbol) : symbol.type.WellNamed := by
  induction depth generalizing s symbol with
  | zero => cases h
  | succ depth ih =>
    cases hk : s.isMember with
    | true =>
      obtain ⟨id, hkind⟩ := Shape.isMember_iff.1 hk
      simp only [constrainedAt, hkind] at h
      obtain ⟨t, -, h⟩ := Option.bind_eq_some_iff.1 h
      obtain ⟨inner, hinner, rfl⟩ := Option.map_eq_some_iff.1 h
      exact wellNamed_wrap (ih hinner)
    | false =>
      cases checked_of_constrainedAt hk h with
      | plain h => exact wellNamed_of_plainAt h
      | wrapper => exact wellNamed_wrapperType
      | list _ _ _ hinner =>
        have hitem := ih hinner
        exact hitem
      | map _ _ _ hinner _ hinner' =>
        have hkey := ih hinner
        have hvalue := ih hinner'
        exact ⟨hkey, hvalue⟩

theorem wellNamed_of_unconstrainedOf (h : y.unconstrainedOf s = some symbol) :
    symbol.type.WellNamed := by
  have hplain (h : y.plainAt y.depth s = some symbol) := wellNamed_of_plainAt h
  unfold unconstrainedOf at h
  split at h
  · split at h
    · obtain ⟨p, hp, rfl⟩ := Option.map_eq_some_iff.1 h
      exact wellNamed_beside (wellNamed_of_plainAt hp) (by decide)
    · cases h
      exact wellNamed_uncheckedType
    · split at h
      · cases h
        exact wellNamed_uncheckedType
      · exact hplain h
    · split at h
      · cases h
        exact wellNamed_uncheckedType
      · exact hplain h
    · exact hplain h
  · exact hplain h

theorem wellNamed_of_unconstrainedAt (h : y.unconstrainedAt depth s = some symbol) :
    symbol.type.WellNamed := by
  induction depth generalizing s symbol with
  | zero => cases h
  | succ depth ih =>
    cases hk : s.isMember with
    | true =>
      obtain ⟨id, hkind⟩ := Shape.isMember_iff.1 hk
      simp only [unconstrainedAt, hkind] at h
      obtain ⟨t, -, h⟩ := Option.bind_eq_some_iff.1 h
      obtain ⟨inner, hinner, rfl⟩ := Option.map_eq_some_iff.1 h
      have hinner := ih hinner
      dsimp only
      split_ifs <;> exact hinner
    | false =>
      rw [unconstrainedAt_of_not_isMember hk] at h
      exact wellNamed_of_unconstrainedOf h

/-- All symbols of shapes are well named. -/
theorem Gives.wellNamed (h : y.Gives s symbol) : symbol.type.WellNamed := by
  cases h with
  | plain h => exact wellNamed_of_plainAt (plain_eq_ok_iff.1 h)
  | constrained visibility h => exact wellNamed_of_constrainedAt (constrained_eq_ok_iff.1 h)
  | unconstrained h => exact wellNamed_of_unconstrainedAt (finite_eq_ok_iff.1 h)
  | violation h =>
    unfold Symbols.violation at h
    dsimp only at h
    split at h
    · obtain ⟨owner, howner, h⟩ := Except.bind_eq_ok_iff.1 h
      obtain rfl := Except.ok.inj h
      exact wellNamed_beside (wellNamed_of_plainAt (plain_eq_ok_iff.1 howner)) (by decide)
    · obtain rfl := Except.ok.inj h
      exact trivial

/-! ### Spellings -/

/-- Well-named types are the same exactly if their spellings are, and all symbols of shapes are well
named. -/
theorem spelling_unambiguous :
    (∀ t u : CodeType, t.WellNamed → u.WellNamed → (t.text = u.text ↔ t = u)) ∧
    ∀ (y : Symbols) (s : Shape) (symbol : Symbol), y.Gives s symbol → symbol.type.WellNamed := by
  refine ⟨fun t u ht hu => ⟨text_inj ht hu, fun h => ?_⟩, fun y s symbol h => h.wellNamed⟩
  rw [h]

/-- A table of values that may be absent. -/
def gaps : CodeType := .table .string (.option (.named "crate::model::gear" "Builder"))

/-- A table that may be absent. -/
def absent : CodeType := .option (.table .string (.named "crate::model::gear" "Builder"))

/-- A structure without members, and the symbols of a model without shapes. -/
def gear : Shape := ⟨⟨"a", "Gear", none⟩, .struct [], []⟩

/-- The symbols of a model without shapes. -/
def spare : Symbols := ⟨⟨[]⟩, gear, .server true, []⟩

theorem spelling_unambiguous_gear : gaps.WellNamed ∧ absent.WellNamed ∧ gaps.text ≠ absent.text ∧
    ∃ symbol, spare.Gives gear symbol ∧ symbol.type.WellNamed := by
  obtain ⟨hiff, hgives⟩ := spelling_unambiguous
  have hmodule : ∃ steps, (∀ step ∈ steps, IsStep step) ∧
      "crate::model::gear" = modulePath steps := ⟨["model", "gear"], by decide, by decide⟩
  have hgaps : gaps.WellNamed := ⟨trivial, hmodule, by decide⟩
  have habsent : absent.WellNamed := ⟨trivial, hmodule, by decide⟩
  have hplain : spare.Gives gear (.exported (spare.declared gear)) := .plain rfl
  refine ⟨hgaps, habsent, fun h => ?_, _, hplain, hgives _ _ _ hplain⟩
  have heq := (hiff _ _ hgaps habsent).1 h
  cases heq

end Symbols

end Shapesmith
