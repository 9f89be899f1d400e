import Mathlib.Data.List.Infix
import Shapesmith.Proofs.Symbol.Stages
import Shapesmith.Proofs.Text.Names
import Shapesmith.Symbol.Rows

/-!
# What everyone sees

The surface of a shape is its plain symbol, or the symbol of its checked values in wrappers that
everyone may see. Each generated type in it is of a module that is not hidden.

* `CodeType.Nameable` : everyone may name the type, with all types that occur in it;
* `CodeType.Nameable.not_infix_text`, `CodeType.Nameable.not_mentions` : neither the spelling of
  such a type nor the type itself names a hidden module;
* `Symbols.shown_of_surface` : the surface of a shape is for everyone, and such a type;
* `SymbolRow.exposesHidden_of_shown` : so a row of symbols does not expose what is hidden.
-/

namespace Shapesmith

open Text

/-- The generated code keeps the module to itself. -/
def Place.isHidden : Place → Bool
  | .constrained | .unconstrained => true
  | _ => false

/-- What the spelling of a type from below a module begins with. -/
def Place.mark (place : Place) : List Char := (Text.joined place.path "").toList

/-- Every generated type in the type is of a module that is not hidden, and has a plain name. -/
def CodeType.Nameable : CodeType → Prop
  | .vector inner | .option inner | .boxed inner => inner.Nameable
  | .table key value => key.Nameable ∧ value.Nameable
  | .named space name =>
    (∃ place : Place, place.isHidden = false ∧ space = place.path) ∧ ∀ c ∈ name.toList, NameChar c
  | _ => True

/-! ### Spellings -/

/-- A text does not lie across a character that is not in it. -/
theorem infix_of_append_cons {needle before after : List Char} {c : Char} (hc : c ∉ needle)
    (h : needle <:+: before ++ c :: after) : needle <:+: before ∨ needle <:+: after := by
  rcases List.infix_append_iff.1 h with h | h | ⟨start, rest, rfl, hstart, hrest⟩
  · exact .inl h
  · rcases List.infix_cons_iff.1 h with h | h
    -- the text would begin with the character
    · cases needle with
      | nil => exact .inl List.nil_infix
      | cons d needle =>
        obtain ⟨rfl, -⟩ := List.cons_prefix_cons.1 h
        exact absurd List.mem_cons_self hc
    · exact .inr h
  -- what lies behind `before` would begin with it
  · cases rest with
    | nil => exact .inl (by simpa using hstart.isInfix)
    | cons d rest =>
      obtain ⟨rfl, -⟩ := List.cons_prefix_cons.1 hrest
      exact absurd (List.mem_append_right _ List.mem_cons_self) hc

/-- A text does not reach into one without its last character. -/
theorem infix_of_append {start before after : List Char} {c : Char} (hc : c ∉ after)
    (h : start ++ [c] <:+: before ++ after) : start ++ [c] <:+: before := by
  rcases List.infix_append_iff.1 h with h | h | ⟨front, rest, heq, hfront, hrest⟩
  · exact h
  · exact absurd (h.subset (List.mem_append_right _ List.mem_cons_self)) hc
  -- what lies in `after` would end in the last character
  · cases List.eq_nil_or_concat rest with
    | inl hnil =>
      rw [hnil, List.append_nil] at heq
      exact heq ▸ hfront.isInfix
    | inr hlast =>
      obtain ⟨middle, d, rfl⟩ := hlast
      rw [List.concat_eq_append, ← List.append_assoc] at heq
      obtain ⟨-, hd⟩ := List.append_inj' heq rfl
      cases hd
      exact absurd (hrest.subset (by simp)) hc

theorem occursIn_iff {needle text : List Char} :
    SymbolRow.occursIn needle text = true ↔ needle <:+: text := by
  induction text with
  | nil => simp [SymbolRow.occursIn]
  | cons c rest ih => simp [SymbolRow.occursIn, List.infix_cons_iff, ih]

namespace Place

/-- The marks of hidden modules hold none of the punctuation that stands between types. -/
theorem not_mem_mark {place : Place} (h : place.isHidden = true) :
    ∀ c ∈ ['<', '>', ',', ' '], c ∉ place.mark := by
  -- as a test of the list: deciding the quantifier can go through all characters there are
  have hall : ['<', '>', ',', ' '].all (fun c => decide (c ∉ place.mark)) = true := by
    cases place <;> revert h <;> decide
  exact fun c hc => of_decide_eq_true (List.all_eq_true.1 hall c hc)

theorem exists_mark {place : Place} (h : place.isHidden = true) :
    ∃ start, place.mark = start ++ [':'] := by
  cases place with
  | constrained => exact ⟨"crate::constrained:".toList, by decide⟩
  | unconstrained => exact ⟨"crate::unconstrained:".toList, by decide⟩
  | _ => cases h

theorem mark_ne_nil {place : Place} (h : place.isHidden = true) : place.mark ≠ [] := by
  obtain ⟨start, hmark⟩ := exists_mark h
  simp [hmark]

/-- Modules that are not hidden do not lie below one that is. -/
theorem not_infix_mark {place place' : Place} (h : place.isHidden = true)
    (h' : place'.isHidden = false) : ¬ place.mark <:+: place'.mark := by
  cases place <;> revert h <;> cases place' <;> revert h' <;> decide

end Place

namespace CodeType

variable {t inner : CodeType} {place : Place}

/-- The spellings of the types that come with the language and take no arguments. -/
def givenTexts : List String := [
  "::std::string::String", "bool", "i8", "i16", "i32", "i64", "f32", "f64",
  "::aws_smithy_types::Blob", "::aws_smithy_types::DateTime", "::aws_smithy_types::Document",
  "::std::convert::Infallible"]

theorem not_infix_givenTexts (h : place.isHidden = true) :
    ∀ given ∈ givenTexts, ¬ place.mark <:+: given.toList := by
  cases place <;> revert h <;> decide

/-- What the spellings of those that take arguments begin with. -/
def openings : List String := [
  "::std::vec::Vec<", "::std::collections::HashMap<", "::std::option::Option<",
  "::std::boxed::Box<"]

theorem not_infix_openings (h : place.isHidden = true) :
    ∀ opening ∈ openings, ¬ place.mark <:+: opening.toList := by
  cases place <;> revert h <;> decide

/-- A type with arguments names a hidden module only in them. -/
theorem not_infix_applied (h : place.isHidden = true) {opening : String}
    (hopening : opening ∈ openings) {arguments : String}
    (harguments : ¬ place.mark <:+: arguments.toList) :
    ¬ place.mark <:+: (opening ++ arguments ++ ">").toList := by
  have hbracket : ∀ opening ∈ openings, opening.toList.getLast? = some '<' := by decide
  obtain ⟨front, hfront⟩ := List.getLast?_eq_some_iff.1 (hbracket opening hopening)
  have htext : (opening ++ arguments ++ ">").toList =
      front ++ '<' :: (arguments.toList ++ ['>']) := by
    simp [String.toList_append, hfront]
  rw [htext]
  intro hfound
  have hpunctuation := Place.not_mem_mark h
  rcases infix_of_append_cons (hpunctuation '<' (by decide)) hfound with hfound | hfound
  · have hbefore : front <:+: opening.toList := hfront ▸ (List.prefix_append _ _).isInfix
    exact not_infix_openings h opening hopening (hfound.trans hbefore)
  · rcases infix_of_append_cons (hpunctuation '>' (by decide)) hfound with hfound | hfound
    · exact harguments hfound
    · exact Place.mark_ne_nil h (List.eq_nil_of_infix_nil hfound)

/-- The spelling of a type that everyone may name does not name a hidden module. -/
theorem Nameable.not_infix_text (ht : t.Nameable) (h : place.isHidden = true) :
    ¬ place.mark <:+: t.text.toList := by
  induction t with
  | vector inner ih | option inner ih | boxed inner ih =>
    exact not_infix_applied h (by decide) (ih ht)
  | table key value ihkey ihvalue =>
    have htext : (table key value).text =
        "::std::collections::HashMap<" ++ (key.text ++ ", " ++ value.text) ++ ">" := by
      -- unfolding `text` by its equations takes long, because of its literals
      change "::std::collections::HashMap<" ++ key.text ++ ", " ++ value.text ++ ">" = _
      simp only [String.append_assoc]
    rw [htext]
    refine not_infix_applied h (by decide) fun hfound => ?_
    rw [String.toList_append, String.toList_append, List.append_assoc] at hfound
    have hpunctuation := Place.not_mem_mark h
    rcases infix_of_append_cons (hpunctuation ',' (by decide)) hfound with hfound | hfound
    · exact ihkey ht.1 hfound
    · have hblank : place.mark <:+: [] ++ ' ' :: value.text.toList := hfound
      rcases infix_of_append_cons (hpunctuation ' ' (by decide)) hblank with hfound | hfound
      · exact Place.mark_ne_nil h (List.eq_nil_of_infix_nil hfound)
      · exact ihvalue ht.2 hfound
  | named space name =>
    obtain ⟨⟨place', hplace', rfl⟩, hname⟩ := ht
    have htext : (named place'.path name).text.toList = place'.mark ++ name.toList := by
      change (place'.path ++ "::" ++ name).toList = _
      simp [Place.mark, joined, String.toList_append]
    rw [htext]
    intro hfound
    obtain ⟨start, hmark⟩ := Place.exists_mark h
    rw [hmark] at hfound
    -- a mark ends in a colon, which the name does not hold
    have hcolon : ':' ∉ name.toList := fun hmem => by
      have hchar := hname ':' hmem
      revert hchar
      decide
    have hbefore := infix_of_append hcolon hfound
    exact Place.not_infix_mark h hplace' (hmark ▸ hbefore)
  | _ => exact not_infix_givenTexts h _ (by decide)

/-- A type that everyone may name mentions no type of a hidden module. -/
theorem Nameable.not_mentions (ht : t.Nameable) (h : place.isHidden = true) :
    ¬ t.Mentions place.path := by
  induction t with
  | vector inner ih | option inner ih | boxed inner ih => exact ih ht
  | table key value ihkey ihvalue => exact not_or.2 ⟨ihkey ht.1, ihvalue ht.2⟩
  | named space name =>
    obtain ⟨⟨place', hplace', rfl⟩, -⟩ := ht
    rintro ⟨module, heq⟩
    -- then the mark of that module would begin with the one of the hidden module
    have hmark : place'.mark = place.mark ++ (module.toList ++ [':', ':']) := by
      simp [Place.mark, heq, joined, String.toList_append]
    exact Place.not_infix_mark h hplace' (hmark ▸ (List.prefix_append _ _).isInfix)
  | _ => exact id

theorem Nameable.stripped (h : t.Nameable) : t.stripped.Nameable := by
  induction t with
  | option inner ih | boxed inner ih => exact ih h
  | _ => exact h

end CodeType

/-! ### Surfaces -/

/-- Everyone may see the symbol and name its type. -/
structure Symbol.Shown (symbol : Symbol) : Prop where
  /-- The symbol is for everyone. -/
  visibility : symbol.visibility = .exported
  /-- So are the types that occur in it. -/
  type : symbol.type.Nameable

/-- The modules that are noted for shapes are not hidden. -/
def EndsShown (ends : Table ShapeId Place) : Prop :=
  ∀ id place, ends.get? id = some place → place.isHidden = false

theorem EndsShown.put {ends : Table ShapeId Place} (h : EndsShown ends) (id : ShapeId)
    {place : Place} (hplace : place.isHidden = false) : EndsShown (ends.put id place) := by
  intro id' place' hget
  by_cases heq : id' = id
  · rw [heq, Table.get?_put_self] at hget
    cases hget
    exact hplace
  · rw [Table.get?_put_of_ne _ _ heq] at hget
    exact h id' place' hget

/-- Only the modules of inputs and of outputs are noted. -/
theorem EndsShown.noted {ends : Table ShapeId Place} (h : EndsShown ends) (s : Shape) :
    EndsShown (notedEnds ends s) := by
  unfold notedEnds
  cases s.kind with
  | operation input output errors =>
    cases input with
    | none =>
      cases output with
      | none => exact h
      | some output => exact h.put output rfl
    | some input =>
      cases output with
      | none => exact h.put input rfl
      | some output => exact (h.put input rfl).put output rfl
  | _ => exact h

theorem EndsShown.foldl {ends : Table ShapeId Place} (h : EndsShown ends) (shapes : List Shape) :
    EndsShown (shapes.foldl notedEnds ends) := by
  induction shapes generalizing ends with
  | nil => exact h
  | cons s shapes ih => exact ih (h.noted s)

namespace Symbols

variable {y : Symbols} {s : Shape} {symbol : Symbol} {depth : Nat}

theorem endsShown_of_ofModel {m : Model} {service : Shape} {style : Style} {tolerant : Bool}
    (h : ofModel m service style tolerant = .ok y) : EndsShown y.ends := by
  obtain ⟨_, -, h⟩ := Except.bind_eq_ok_iff.1 h
  obtain rfl := Except.ok.inj h
  have hnil : EndsShown [] := fun _ _ h => by cases h
  exact hnil.foldl _

theorem isHidden_placeOf (hy : EndsShown y.ends) : (y.placeOf s).isHidden = false := by
  have hdata : (if s.traits.error.isSome then Place.error
      else (y.ends.get? s.id).getD .model).isHidden = false := by
    split
    · rfl
    · cases hget : y.ends.get? s.id with
      | none => rfl
      | some place => exact hy s.id place hget
  unfold placeOf
  cases s.kind with
  | operation | service => rfl
  | _ => exact hdata

theorem nameChar_of_mem_typeName {c : Char} (h : c ∈ (y.typeName s).toList) : NameChar c := by
  have hcamel {c : Char} (h : c ∈ s.camelName.toList) : NameChar c := nameChar_of_mem_camelCase h
  have hend : errorEnd.toList.all (fun c => decide (NameChar c)) = true := by decide
  unfold typeName at h
  dsimp only at h
  split at h
  · rw [String.toList_append] at h
    rcases List.mem_append.1 h with h | h
    · exact hcamel h
    · exact of_decide_eq_true (List.all_eq_true.1 hend c h)
  · exact hcamel h

theorem nameable_declared (hy : EndsShown y.ends) : (y.declared s).Nameable :=
  ⟨⟨_, isHidden_placeOf hy, rfl⟩, fun _ => nameChar_of_mem_typeName⟩

theorem nameable_wrapperType : (wrapperType .exported s).Nameable :=
  ⟨⟨.model, rfl, rfl⟩, fun _ => nameChar_of_mem_camelCase⟩

theorem nameable_wrap {member : Shape} {type : CodeType} (h : type.Nameable) :
    (y.wrap member type).Nameable := by
  unfold wrap
  split_ifs <;> exact h

theorem nameable_of_plainAt (hy : EndsShown y.ends) (h : y.plainAt depth s = some symbol) :
    symbol.type.Nameable := by
  induction depth generalizing s symbol with
  | zero => cases h
  | succ depth ih =>
    cases spelled_of_plainAt h with
    | @simple type _ => cases type <;> exact trivial
    | list _ _ hinner =>
      have hitem := ih hinner
      exact hitem
    | map _ _ hinner _ hinner' =>
      have hkey := ih hinner
      have hvalue := ih hinner'
      exact ⟨hkey, hvalue⟩
    | member _ _ hinner => exact nameable_wrap (ih hinner).stripped
    | declared => exact nameable_declared hy

/-- Plain symbols are shown. -/
theorem shown_of_plainAt (hy : EndsShown y.ends) (h : y.plainAt depth s = some symbol) :
    symbol.Shown :=
  ⟨visibility_of_plainAt h, nameable_of_plainAt hy h⟩

/-- So are the symbols of checked values in wrappers that everyone may see. -/
theorem shown_of_constrainedAt (hy : EndsShown y.ends)
    (h : y.constrainedAt .exported depth s = some symbol) : symbol.Shown := by
  induction depth generalizing s symbol with
  | zero => cases h
  | succ depth ih =>
    cases hk : s.isMember with
    | true =>
      obtain ⟨id, hkind⟩ := Shape.isMember_iff.1 hk
      simp only [constrainedAt, hkind] at h
      obtain ⟨t, -, h⟩ := Option.bind_eq_some_iff.1 h
      obtain ⟨inner, hinner, rfl⟩ := Option.map_eq_some_iff.1 h
      have hshown := ih hinner
      exact ⟨hshown.visibility, nameable_wrap hshown.type⟩
    | false =>
      cases checked_of_constrainedAt hk h with
      | plain h => exact shown_of_plainAt hy h
      | wrapper => exact ⟨rfl, nameable_wrapperType⟩
      | list _ _ _ hinner => exact ⟨rfl, (ih hinner).type⟩
      | map _ _ _ hinner _ hinner' => exact ⟨rfl, (ih hinner).type, (ih hinner').type⟩

/-- Surfaces are shown. -/
theorem shown_of_surface (hy : EndsShown y.ends) (h : y.surface s = .ok symbol) :
    symbol.Shown := by
  unfold surface at h
  split at h
  · exact shown_of_constrainedAt hy (constrained_eq_ok_iff.1 h)
  · exact shown_of_plainAt hy (plain_eq_ok_iff.1 h)

theorem surface_of_row {r : SymbolRow} (h : y.row s = .ok r) : y.surface s = .ok r.surface := by
  simp only [row, Except.bind_eq_ok_iff, Except.pure_eq_ok_iff] at h
  obtain ⟨surface, hsurface, _, -, _, -, _, -, _, -, rfl⟩ := h
  exact hsurface

end Symbols

/-- A row whose surface is shown does not expose what is hidden. -/
theorem SymbolRow.exposesHidden_of_shown {row : SymbolRow} (h : row.surface.Shown) :
    row.exposesHidden = false := by
  have hnames (place : Place) (hplace : place.isHidden = true) :
      occursIn (joined place.path "").toList row.surface.type.text.toList = false := by
    rw [← Bool.not_eq_true, occursIn_iff]
    exact h.type.not_infix_text hplace
  rw [exposesHidden, h.visibility]
  dsimp only
  rw [hnames .constrained rfl, hnames .unconstrained rfl]
  decide

end Shapesmith
