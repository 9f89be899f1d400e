import Shapesmith.Builder.Generate
import Shapesmith.Proofs.Symbol.Expression

/-!
# The types of a value on its way

A value that is set for a member is kept unchecked, then checked, then seen by everyone. The symbols
of these stages are made independently of each other.

* `Symbols.Spelled` : what a plain symbol can be;
* `Symbols.plainAt_unique` : however deep a type may go, it is the same;
* `Symbols.Checked` : what the symbol of checked values can be, at a shape other than a member;
* `Symbols.eq_or_mentions` : checked values in hidden wrappers have the plain type, unless their
  type names a wrapper at some depth;
* `Symbols.surface_of_member`, `Symbols.unconstrained_of_member` : a member has the types of its
  target, but for options and boxes.
-/

namespace Shapesmith

/-- A generated type of a module below the path occurs in the type, at some depth. -/
def CodeType.Mentions (path : String) : CodeType → Prop
  | .vector inner | .option inner | .boxed inner => inner.Mentions path
  | .table key value => key.Mentions path ∨ value.Mentions path
  | .named space _ => ∃ module, space = Text.joined path module
  | _ => False

/-- Structures, unions, operations and services have a generated type. -/
def Kind.IsNamed : Kind → Prop
  | .struct _ | .union _ | .operation _ _ _ | .service _ _ => True
  | _ => False

namespace Symbols

variable {y : Symbols} {s e t : Shape} {id : ShapeId} {visibility : Visibility}
  {symbol symbol' : Symbol} {depth depth' : Nat}

theorem finite_eq_ok_iff {α : Type} {x : Option α} {a : α} :
    finite s x = .ok a ↔ x = some a := by
  cases x <;> simp [finite]

@[simp] theorem stripped_wrap (member : Shape) (type : CodeType) :
    (y.wrap member type).stripped = type.stripped := by
  unfold wrap
  split_ifs <;> simp

theorem mentions_wrap {member : Shape} {type : CodeType} {path : String}
    (h : type.Mentions path) : (y.wrap member type).Mentions path := by
  unfold wrap
  split_ifs <;> exact h

/-! ### How deep a type may go -/

/-- A type that is found one way is found in each way that finds more. -/
theorem bind_type_mono {find find' : Shape → Option Symbol}
    (hfind : ∀ t symbol, find t = some symbol → find' t = some symbol) {x : Option Shape}
    {type : CodeType} (h : (x.bind fun t => (find t).map (·.type)) = some type) :
    (x.bind fun t => (find' t).map (·.type)) = some type := by
  obtain ⟨t, rfl, h⟩ := Option.bind_eq_some_iff.1 h
  obtain ⟨inner, hinner, rfl⟩ := Option.map_eq_some_iff.1 h
  rw [Option.bind_some, hfind t inner hinner, Option.map_some]

/-- A shape that has a plain symbol keeps it when its type may go deeper. -/
theorem plainAt_succ (h : y.plainAt depth s = some symbol) :
    y.plainAt (depth + 1) s = some symbol := by
  induction depth generalizing s symbol with
  | zero => cases h
  | succ depth ih =>
    rw [plainAt] at h ⊢
    cases hk : s.kind with
    | list item =>
      simp only [hk] at h ⊢
      obtain ⟨type, hitem, rfl⟩ := Option.map_eq_some_iff.1 h
      rw [bind_type_mono (fun _ _ => ih) hitem, Option.map_some]
    | map key value =>
      simp only [hk] at h ⊢
      obtain ⟨type, hkey, h⟩ := Option.bind_eq_some_iff.1 h
      obtain ⟨type', hvalue, rfl⟩ := Option.map_eq_some_iff.1 h
      rw [bind_type_mono (fun _ _ => ih) hkey, Option.bind_some,
        bind_type_mono (fun _ _ => ih) hvalue, Option.map_some]
    | member target =>
      simp only [hk] at h ⊢
      obtain ⟨type, htarget, rfl⟩ := Option.map_eq_some_iff.1 h
      rw [bind_type_mono (fun _ _ => ih) htarget, Option.map_some]
    | _ => simpa only [hk] using h

theorem plainAt_mono (hle : depth ≤ depth') (h : y.plainAt depth s = some symbol) :
    y.plainAt depth' s = some symbol := by
  induction hle with
  | refl => exact h
  | step _ ih => exact plainAt_succ ih

/-- A shape has one plain symbol, at whatever depth. -/
theorem plainAt_unique (h : y.plainAt depth s = some symbol)
    (h' : y.plainAt depth' s = some symbol') : symbol = symbol' := by
  rcases Nat.le_total depth depth' with hle | hle
  · exact Option.some.inj ((plainAt_mono hle h).symm.trans h')
  · exact Option.some.inj (h.symm.trans (plainAt_mono hle h'))

/-- What the plain symbol of a shape can be. -/
inductive Spelled (y : Symbols) (depth : Nat) (s : Shape) : Symbol → Prop
  /-- A type that comes with the language. -/
  | simple {type : Simple} (hk : s.kind = .simple type) :
    Spelled y depth s (.exported (.ofSimple type))
  /-- A list of items. -/
  | list {item : ShapeId} {e : Shape} {inner : Symbol} (hk : s.kind = .list item)
    (he : y.model.find? item = some e) (hinner : y.plainAt depth e = some inner) :
    Spelled y depth s (.exported (.vector inner.type))
  /-- A table of entries. -/
  | map {key value : ShapeId} {e e' : Shape} {inner inner' : Symbol}
    (hk : s.kind = .map key value) (he : y.model.find? key = some e)
    (hinner : y.plainAt depth e = some inner) (he' : y.model.find? value = some e')
    (hinner' : y.plainAt depth e' = some inner') :
    Spelled y depth s (.exported (.table inner.type inner'.type))
  /-- The type of a target, for a member. -/
  | member {target : ShapeId} {t : Shape} {inner : Symbol} (hk : s.kind = .member target)
    (ht : y.model.find? target = some t) (hinner : y.plainAt depth t = some inner) :
    Spelled y depth s ⟨y.wrap s inner.type.stripped, .exported, s.traits.defaultValue⟩
  /-- A generated type. -/
  | declared (hk : s.kind.IsNamed) : Spelled y depth s (.exported (y.declared s))

/-- A plain symbol is spelled with those one level deeper. -/
theorem spelled_of_plainAt (h : y.plainAt (depth + 1) s = some symbol) :
    y.Spelled depth s symbol := by
  have htype {id : ShapeId} {type : CodeType}
      (h : ((y.model.find? id).bind fun t => (y.plainAt depth t).map (·.type)) = some type) :
      ∃ t inner, y.model.find? id = some t ∧ y.plainAt depth t = some inner ∧
        inner.type = type := by
    obtain ⟨t, ht, h⟩ := Option.bind_eq_some_iff.1 h
    obtain ⟨inner, hinner, rfl⟩ := Option.map_eq_some_iff.1 h
    exact ⟨t, inner, ht, hinner, rfl⟩
  rw [plainAt] at h
  cases hk : s.kind with
  | simple type =>
    simp only [hk] at h
    cases h
    exact .simple hk
  | list item =>
    simp only [hk] at h
    obtain ⟨type, hitem, rfl⟩ := Option.map_eq_some_iff.1 h
    obtain ⟨e, inner, he, hinner, rfl⟩ := htype hitem
    exact .list hk he hinner
  | map key value =>
    simp only [hk] at h
    obtain ⟨type, hkey, h⟩ := Option.bind_eq_some_iff.1 h
    obtain ⟨type', hvalue, rfl⟩ := Option.map_eq_some_iff.1 h
    obtain ⟨e, inner, he, hinner, rfl⟩ := htype hkey
    obtain ⟨e', inner', he', hinner', rfl⟩ := htype hvalue
    exact .map hk he hinner he' hinner'
  | member target =>
    simp only [hk] at h
    obtain ⟨type, htarget, rfl⟩ := Option.map_eq_some_iff.1 h
    obtain ⟨t, inner, ht, hinner, rfl⟩ := htype htarget
    exact .member hk ht hinner
  | struct | union | operation | service =>
    simp only [hk] at h
    cases h
    exact .declared (by rw [hk]; trivial)

/-- So does the symbol of its checked values. -/
theorem constrainedAt_succ (h : y.constrainedAt visibility depth s = some symbol) :
    y.constrainedAt visibility (depth + 1) s = some symbol := by
  induction depth generalizing s symbol with
  | zero => cases h
  | succ depth ih =>
    rw [constrainedAt] at h ⊢
    cases hk : s.kind with
    | list item =>
      simp only [hk] at h ⊢
      -- only a list of checked items goes deeper
      split_ifs at h ⊢
      · exact h
      · obtain ⟨type, hitem, rfl⟩ := Option.map_eq_some_iff.1 h
        rw [bind_type_mono (fun _ _ => ih) hitem, Option.map_some]
      · exact h
    | map key value =>
      simp only [hk] at h ⊢
      split_ifs at h ⊢
      · exact h
      · obtain ⟨type, hkey, h⟩ := Option.bind_eq_some_iff.1 h
        obtain ⟨type', hvalue, rfl⟩ := Option.map_eq_some_iff.1 h
        rw [bind_type_mono (fun _ _ => ih) hkey, Option.bind_some,
          bind_type_mono (fun _ _ => ih) hvalue, Option.map_some]
      · exact h
    | member target =>
      simp only [hk] at h ⊢
      obtain ⟨t, ht, h⟩ := Option.bind_eq_some_iff.1 h
      obtain ⟨inner, hinner, rfl⟩ := Option.map_eq_some_iff.1 h
      rw [ht, Option.bind_some, ih hinner, Option.map_some]
    | _ => simpa only [hk] using h

/-- A shape with a plain symbol has one for its checked values. -/
theorem exists_constrainedAt_of_plainAt (hle : depth ≤ y.depth)
    (h : y.plainAt depth s = some symbol) :
    ∃ checked, y.constrainedAt visibility depth s = some checked := by
  induction depth generalizing s symbol with
  | zero => cases h
  | succ depth ih =>
    have hplain : y.plainAt y.depth s = some symbol := plainAt_mono hle h
    have ih {s : Shape} {symbol : Symbol} (h : y.plainAt depth s = some symbol) :=
      ih (Nat.le_of_succ_le hle) h
    rw [constrainedAt]
    cases spelled_of_plainAt h with
    | simple hk =>
      simp only [hk]
      split_ifs <;> simp [hplain]
    | list hk he hinner =>
      obtain ⟨inner, hinner⟩ := ih hinner
      simp only [hk]
      split_ifs <;> simp [he, hinner, hplain]
    | map hk he hinner he' hinner' =>
      obtain ⟨inner, hinner⟩ := ih hinner
      obtain ⟨inner', hinner'⟩ := ih hinner'
      simp only [hk]
      split_ifs <;> simp [he, hinner, he', hinner', hplain]
    | member hk ht hinner =>
      obtain ⟨inner, hinner⟩ := ih hinner
      simp [hk, ht, hinner]
    | declared hnamed =>
      cases hk : s.kind with
      | struct | union => exact ⟨_, hplain⟩
      | operation | service =>
        dsimp only
        split_ifs <;> simp [hplain]
      | _ =>
        rw [hk] at hnamed
        cases hnamed

/-! ### Shapes other than members -/

/-- What the symbol of the checked values of a shape other than a member can be. -/
inductive Checked (y : Symbols) (visibility : Visibility) (depth : Nat) (s : Shape) : Symbol → Prop
  /-- The plain symbol. -/
  | plain {symbol : Symbol} (h : y.plainAt y.depth s = some symbol) :
    Checked y visibility depth s symbol
  /-- A wrapper of its own. -/
  | wrapper (h : y.model.isConstrained s = true) :
    Checked y visibility depth s ⟨wrapperType visibility s, visibility, none⟩
  /-- A list of checked items. -/
  | list {item : ShapeId} {e : Shape} {inner : Symbol} (h : y.model.reachesConstrained s = true)
    (hk : s.kind = .list item) (he : y.model.find? item = some e)
    (hinner : y.constrainedAt visibility depth e = some inner) :
    Checked y visibility depth s ⟨.vector inner.type, visibility, none⟩
  /-- A table of checked entries. -/
  | map {key value : ShapeId} {e e' : Shape} {inner inner' : Symbol}
    (h : y.model.reachesConstrained s = true) (hk : s.kind = .map key value)
    (he : y.model.find? key = some e) (hinner : y.constrainedAt visibility depth e = some inner)
    (he' : y.model.find? value = some e')
    (hinner' : y.constrainedAt visibility depth e' = some inner') :
    Checked y visibility depth s ⟨.table inner.type inner'.type, visibility, none⟩

/-- Checked values of a shape other than a member are made one level deeper. -/
theorem checked_of_constrainedAt (hk : s.isMember = false)
    (h : y.constrainedAt visibility (depth + 1) s = some symbol) :
    y.Checked visibility depth s symbol := by
  rw [constrainedAt] at h
  cases hkind : s.kind with
  | member target => simp [Shape.isMember, hkind] at hk
  | struct | union =>
    simp only [hkind] at h
    exact .plain h
  | list item =>
    simp only [hkind] at h
    split_ifs at h with hc hr
    · cases h
      exact .wrapper hc
    · obtain ⟨type, hitem, rfl⟩ := Option.map_eq_some_iff.1 h
      obtain ⟨e, he, hitem⟩ := Option.bind_eq_some_iff.1 hitem
      obtain ⟨inner, hinner, rfl⟩ := Option.map_eq_some_iff.1 hitem
      exact .list hr hkind he hinner
    · exact .plain h
  | map key value =>
    simp only [hkind] at h
    split_ifs at h with hc hr
    · cases h
      exact .wrapper hc
    · obtain ⟨type, hkey, h⟩ := Option.bind_eq_some_iff.1 h
      obtain ⟨type', hvalue, rfl⟩ := Option.map_eq_some_iff.1 h
      obtain ⟨e, he, hkey⟩ := Option.bind_eq_some_iff.1 hkey
      obtain ⟨inner, hinner, rfl⟩ := Option.map_eq_some_iff.1 hkey
      obtain ⟨e', he', hvalue⟩ := Option.bind_eq_some_iff.1 hvalue
      obtain ⟨inner', hinner', rfl⟩ := Option.map_eq_some_iff.1 hvalue
      exact .map hr hkind he hinner he' hinner'
    · exact .plain h
  | _ =>
    simp only [hkind] at h
    split_ifs at h with hc hr
    · cases h
      exact .wrapper hc
    · exact .plain h
    · exact .plain h

/-- Options and boxes stand only around the types of members. -/
theorem stripped_of_plainAt (hk : s.isMember = false) (h : y.plainAt depth s = some symbol) :
    symbol.type.stripped = symbol.type := by
  cases depth with
  | zero => cases h
  | succ depth =>
    cases spelled_of_plainAt h with
    | @simple type _ => cases type <;> rfl
    | member hkind => simp [Shape.isMember, hkind] at hk
    | list | map | declared => rfl

/-- Plain symbols are for everyone. -/
theorem visibility_of_plainAt (h : y.plainAt depth s = some symbol) :
    symbol.visibility = .exported := by
  cases depth with
  | zero => cases h
  | succ depth => cases spelled_of_plainAt h <;> rfl

theorem Checked.stripped (h : y.Checked visibility depth s symbol) (hk : s.isMember = false) :
    symbol.type.stripped = symbol.type := by
  cases h with
  | plain h => exact stripped_of_plainAt hk h
  | wrapper => cases visibility <;> rfl
  | list | map => rfl

/-- Checked values that are not in wrappers of the visibility are plain. -/
theorem Checked.visibility_eq (h : y.Checked visibility depth s symbol) :
    symbol.visibility = visibility ∨ y.plainAt y.depth s = some symbol := by
  cases h with
  | plain h => exact .inr h
  | wrapper | list | map => exact .inl rfl

/-- Values that cannot break a constraint are plain when they are checked. -/
theorem Checked.of_reachesConstrained (h : y.Checked visibility depth s symbol)
    (hm : y.model.Sound) (hs : s ∈ y.model.shapes) (hk : s.isMember = false)
    (hr : y.model.reachesConstrained s = false) : y.plainAt y.depth s = some symbol := by
  cases h with
  | plain h => exact h
  | wrapper h =>
    rw [Model.reachesConstrained_of_isConstrained hm hs hk h] at hr
    cases hr
  | list h | map h =>
    rw [h] at hr
    cases hr

/-! ### Members -/

theorem plainAt_of_member (hk : s.kind = .member id) (ht : y.model.find? id = some t)
    (h : y.plainAt depth s = some symbol) : ∃ inner, y.plainAt depth t = some inner ∧
      symbol = ⟨y.wrap s inner.type.stripped, .exported, s.traits.defaultValue⟩ := by
  cases depth with
  | zero => cases h
  | succ depth =>
    simp only [plainAt, hk, ht, Option.bind_some, Option.map_map] at h
    obtain ⟨inner, hinner, rfl⟩ := Option.map_eq_some_iff.1 h
    exact ⟨inner, plainAt_succ hinner, rfl⟩

theorem constrainedAt_of_member (hk : s.kind = .member id) (ht : y.model.find? id = some t)
    (h : y.constrainedAt visibility depth s = some symbol) :
    ∃ inner, y.constrainedAt visibility depth t = some inner ∧
      symbol.type = y.wrap s inner.type := by
  cases depth with
  | zero => cases h
  | succ depth =>
    simp only [constrainedAt, hk, ht, Option.bind_some] at h
    obtain ⟨inner, hinner, rfl⟩ := Option.map_eq_some_iff.1 h
    exact ⟨inner, constrainedAt_succ hinner, rfl⟩

theorem plainAt_of_list (hk : s.kind = .list id) (he : y.model.find? id = some e)
    (h : y.plainAt depth s = some symbol) :
    ∃ inner, y.plainAt depth e = some inner ∧ symbol.type = .vector inner.type := by
  cases depth with
  | zero => cases h
  | succ depth =>
    simp only [plainAt, hk, he, Option.bind_some, Option.map_map] at h
    obtain ⟨inner, hinner, rfl⟩ := Option.map_eq_some_iff.1 h
    exact ⟨inner, plainAt_succ hinner, rfl⟩

theorem plainAt_of_map {key value : ShapeId} {e' : Shape} (hk : s.kind = .map key value)
    (he : y.model.find? key = some e) (he' : y.model.find? value = some e')
    (h : y.plainAt depth s = some symbol) : ∃ inner inner', y.plainAt depth e = some inner ∧
      y.plainAt depth e' = some inner' ∧ symbol.type = .table inner.type inner'.type := by
  cases depth with
  | zero => cases h
  | succ depth =>
    simp only [plainAt, hk, he, he', Option.bind_some] at h
    obtain ⟨type, hkey, h⟩ := Option.bind_eq_some_iff.1 h
    obtain ⟨type', hvalue, rfl⟩ := Option.map_eq_some_iff.1 h
    obtain ⟨inner, hinner, rfl⟩ := Option.map_eq_some_iff.1 hkey
    obtain ⟨inner', hinner', rfl⟩ := Option.map_eq_some_iff.1 hvalue
    exact ⟨inner, inner', plainAt_succ hinner, plainAt_succ hinner', rfl⟩

/-- Checked values in hidden wrappers have the plain type, or the type names a wrapper. -/
theorem eq_or_mentions (hm : y.model.Sound)
    (hdirect : ∀ e ∈ y.model.shapes, (y.model.targetOf e).isMember = false)
    (hs : s ∈ y.model.shapes) (h : y.constrainedAt .hidden depth s = some symbol)
    (hplain : y.plainAt depth' s = some symbol') :
    symbol.type = symbol'.type ∨ symbol.type.Mentions Place.constrained.path := by
  induction depth generalizing s symbol symbol' depth' with
  | zero => cases h
  | succ depth ih =>
    cases hk : s.isMember with
    | true =>
      -- the target is no member, so that nothing is stripped off its plain type
      obtain ⟨id, hkind⟩ := Shape.isMember_iff.1 hk
      have ht := hm.find?_of_member hs hkind
      simp only [constrainedAt, hkind, ht, Option.bind_some] at h
      obtain ⟨inner, hinner, rfl⟩ := Option.map_eq_some_iff.1 h
      obtain ⟨inner', hinner', heq'⟩ := plainAt_of_member hkind ht hplain
      rw [stripped_of_plainAt (hdirect s hs) hinner'] at heq'
      rcases ih (hm.targetOf_mem hs) hinner hinner' with heq | hmentions
      · exact .inl (by rw [heq', heq])
      · exact .inr (mentions_wrap hmentions)
    | false =>
      cases checked_of_constrainedAt hk h with
      | plain h => exact .inl (congrArg _ (plainAt_unique h hplain))
      | wrapper => exact .inr ⟨_, rfl⟩
      | list _ hkind he hinner =>
        obtain ⟨inner', hinner', heq'⟩ := plainAt_of_list hkind he hplain
        rcases ih (hm.find?_eq_some_iff.1 he).1 hinner hinner' with heq | hmentions
        · exact .inl (by rw [heq', heq])
        · exact .inr hmentions
      | map _ hkind he hkey he' hvalue =>
        obtain ⟨inner, inner', hinner, hinner', heq'⟩ := plainAt_of_map hkind he he' hplain
        rcases ih (hm.find?_eq_some_iff.1 he).1 hkey hinner with hkeys | hmentions
        · rcases ih (hm.find?_eq_some_iff.1 he').1 hvalue hinner' with hvalues | hmentions
          · exact .inl (by rw [heq', hkeys, hvalues])
          · exact .inr (.inr hmentions)
        · exact .inr (.inl hmentions)

/-! ### The three stages -/

theorem plain_eq_ok_iff : y.plain s = .ok symbol ↔ y.plainAt y.depth s = some symbol :=
  finite_eq_ok_iff

theorem constrained_eq_ok_iff : y.constrained visibility s = .ok symbol ↔
    y.constrainedAt visibility y.depth s = some symbol :=
  finite_eq_ok_iff

theorem checked_of_constrained (hk : s.isMember = false)
    (h : y.constrained visibility s = .ok symbol) :
    y.Checked visibility y.model.shapes.length s symbol :=
  checked_of_constrainedAt hk (constrained_eq_ok_iff.1 h)

theorem stripped_of_surface (hk : s.isMember = false) (h : y.surface s = .ok symbol) :
    symbol.type.stripped = symbol.type := by
  unfold surface at h
  split at h
  · exact (checked_of_constrained hk h).stripped hk
  · exact stripped_of_plainAt hk (plain_eq_ok_iff.1 h)

/-- Everyone sees a member as its target, but for options and boxes. -/
theorem surface_of_member (hk : e.kind = .member id) (ht : y.model.find? id = some t)
    (hkt : t.isMember = false) (h : y.surface e = .ok symbol) :
    ∃ inner, y.surface t = .ok inner ∧ symbol.type.stripped = inner.type := by
  unfold surface at h ⊢
  split at h
  · obtain ⟨inner, hinner, heq⟩ := constrainedAt_of_member hk ht (constrained_eq_ok_iff.1 h)
    refine ⟨inner, by simp_all [constrained_eq_ok_iff], ?_⟩
    rw [heq, stripped_wrap, (checked_of_constrainedAt hkt hinner).stripped hkt]
  · obtain ⟨inner, hinner, heq⟩ := plainAt_of_member hk ht (plain_eq_ok_iff.1 h)
    refine ⟨inner, by simp_all [plain_eq_ok_iff], ?_⟩
    rw [heq, stripped_wrap, CodeType.stripped_stripped, stripped_of_plainAt hkt hinner]

theorem unconstrainedAt_of_not_isMember (hk : s.isMember = false) :
    y.unconstrainedAt (depth + 1) s = y.unconstrainedOf s := by
  rw [unconstrainedAt]
  cases hkind : s.kind with
  | member target => simp [Shape.isMember, hkind] at hk
  | _ => rfl

theorem unconstrained_eq_ok_iff (hk : s.isMember = false) :
    y.unconstrained s = .ok symbol ↔ y.unconstrainedOf s = some symbol := by
  rw [unconstrained, finite_eq_ok_iff, depth, unconstrainedAt_of_not_isMember hk]

theorem stripped_of_unconstrainedOf (hk : s.isMember = false)
    (h : y.unconstrainedOf s = some symbol) : symbol.type.stripped = symbol.type := by
  have hplain (h : y.plainAt y.depth s = some symbol) := stripped_of_plainAt hk h
  unfold unconstrainedOf at h
  split at h
  · split at h
    · obtain ⟨_, -, rfl⟩ := Option.map_eq_some_iff.1 h
      rfl
    · cases h
      rfl
    · split at h
      · cases h
        rfl
      · exact hplain h
    · split at h
      · cases h
        rfl
      · exact hplain h
    · exact hplain h
  · exact hplain h

/-- What is kept for a member is what is kept for its target, but for a box. -/
theorem unconstrained_of_member (hk : e.kind = .member id) (ht : y.model.find? id = some t)
    (hkt : t.isMember = false) (h : y.unconstrained e = .ok symbol) :
    ∃ inner, y.unconstrained t = .ok inner ∧ symbol.type.stripped = inner.type := by
  rw [unconstrained, finite_eq_ok_iff, depth, unconstrainedAt] at h
  simp only [hk, ht, Option.bind_some] at h
  obtain ⟨inner, hinner, rfl⟩ := Option.map_eq_some_iff.1 h
  have hof : y.unconstrainedOf t = some inner := by
    cases hn : y.model.shapes.length with
    | zero =>
      rw [hn] at hinner
      cases hinner
    | succ n => rwa [hn, unconstrainedAt_of_not_isMember hkt] at hinner
  have hstripped := stripped_of_unconstrainedOf hkt hof
  refine ⟨inner, (unconstrained_eq_ok_iff hkt).2 hof, ?_⟩
  split_ifs <;> exact hstripped

end Symbols

end Shapesmith
