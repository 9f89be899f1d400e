import Shapesmith.Proofs.Constraint.Accepted
import Shapesmith.Proofs.Symbol.Nesting
import Shapesmith.Proofs.Symbol.Stages

/-!
# Symbols of shapes with and without constraints

Each kind of symbol finds out for itself whether a shape can break a constraint. They come to the
same: a shape that cannot has its plain symbol everywhere and nothing to report, one that can has a
violation type with variants.

* `Symbols.Uniform` : the symbols of a shape are its plain symbol, and nothing is ever violated;
* `Symbols.Fallible` : the shape has a violation type, and its variants are not empty;
* `Symbols.uniform_or_fallible` : each shape with a plain symbol is of one of these sorts, the
  latter exactly if a constraint can be reached.
-/

namespace Shapesmith

/-- The type without an option around it. -/
def CodeType.present : CodeType → CodeType
  | .option inner => inner
  | t => t

theorem CodeType.stripped_ne_option (t inner : CodeType) : t.stripped ≠ .option inner := by
  induction t with
  | option t ih => exact ih
  | boxed t ih => exact ih
  | _ => simp [stripped]

/-- A type without options and boxes around it has no option around it. -/
theorem CodeType.present_of_stripped {t : CodeType} (h : t.stripped = t) : t.present = t := by
  cases t with
  | option inner => exact absurd h (stripped_ne_option _ _)
  | _ => rfl

/-! ### Shapes that are constrained themselves -/

namespace Model

variable {m : Model} {s t : Shape}

/-- A shape is constrained by a check of its own or by a member that has to be given. -/
theorem of_isConstrained (hk : s.isMember = false) (h : m.isConstrained s = true) :
    (∃ c, c ∈ s.checks) ∨ s.isStruct = true ∧ ∃ e ∈ m.membersOf s, e.mustBeGiven = true := by
  have hlength (h : s.traits.length.isSome = true) : ∃ c, c ∈ s.checks := by
    obtain ⟨b, hb⟩ := Option.isSome_iff_exists.1 h
    exact ⟨_, Shape.mem_checks_iff.2 ⟨Trait.lengthId, by rw [Shape.checkOf, if_pos rfl, hb]; rfl⟩⟩
  have hrange (h : s.traits.range.isSome = true) : ∃ c, c ∈ s.checks := by
    obtain ⟨b, hb⟩ := Option.isSome_iff_exists.1 h
    exact ⟨_, Shape.mem_checks_iff.2 ⟨Trait.rangeId, by
      rw [Shape.checkOf, if_neg (by decide), if_pos rfl, hb]; rfl⟩⟩
  have hpattern (h : s.traits.pattern.isSome = true) : ∃ c, c ∈ s.checks := by
    obtain ⟨p, hp⟩ := Option.isSome_iff_exists.1 h
    exact ⟨_, Shape.mem_checks_iff.2 ⟨Trait.patternId, by
      rw [Shape.checkOf, if_neg (by decide), if_neg (by decide), if_pos rfl, hp]; rfl⟩⟩
  rw [isConstrained, targetOf_of_not_isMember hk] at h
  cases hkind : s.kind with
  | simple type =>
    left
    cases type with
    | string =>
      simp only [hkind, Bool.or_eq_true] at h
      exact h.elim hlength hpattern
    | blob =>
      simp only [hkind] at h
      exact hlength h
    | _ =>
      simp only [hkind, Bool.and_eq_true] at h
      exact hrange h.2
  | list item =>
    simp only [hkind] at h
    exact .inl (hlength h)
  | map key value =>
    simp only [hkind] at h
    exact .inl (hlength h)
  | struct ids =>
    simp only [hkind, List.any_eq_true] at h
    exact .inr ⟨by simp [Shape.isStruct, hkind], h⟩
  | _ => simp [hkind] at h

/-- What can break a constraint is constrained itself or has a member that can. -/
theorem isConstrained_or_exists_member (hm : m.Sound) (hs : s ∈ m.shapes)
    (hk : s.isMember = false) (h : m.reachesConstrained s = true) : m.isConstrained s = true ∨
      ∃ e ∈ m.membersOf s, m.reachesConstrained e = true := by
  obtain ⟨t, ht, hc⟩ := (reachesConstrained_iff hm hs).1 h
  rw [targetOf_of_not_isMember hk] at ht
  -- the way to the constrained shape ends at once or begins with a member
  cases ht.cases_head with
  | inl heq => exact .inl (heq ▸ hc)
  | inr hstep =>
    obtain ⟨_, ⟨e, he, rfl⟩, hrest⟩ := hstep
    exact .inr ⟨e, he, (reachesConstrained_iff hm (hm.mem_membersOf_iff.1 he).1).2 ⟨t, hrest, hc⟩⟩

end Model

namespace Symbols

variable {y : Symbols} {s t : Shape} {id : ShapeId} {visibility : Visibility}
  {symbol plain : Symbol} {depth : Nat}

/-! ### Shapes that cannot break a constraint -/

theorem constrainedAt_of_not_reaches (hm : y.model.Sound) (hs : s ∈ y.model.shapes)
    (hk : s.isMember = false) (hr : y.model.reachesConstrained s = false) :
    y.constrainedAt visibility (depth + 1) s = y.plainAt y.depth s := by
  have hc : y.model.isConstrained s = false := by
    by_contra hc
    rw [Model.reachesConstrained_of_isConstrained hm hs hk (by simpa using hc)] at hr
    cases hr
  rw [constrainedAt]
  cases hkind : s.kind with
  | member target => simp [Shape.isMember, hkind] at hk
  | _ => simp [hc, hr]

theorem unconstrainedAt_of_not_reaches (hk : s.isMember = false)
    (hr : y.model.reachesConstrained s = false) :
    y.unconstrainedAt (depth + 1) s = y.plainAt y.depth s := by
  rw [unconstrainedAt_of_not_isMember hk, unconstrainedOf, hr, if_neg Bool.false_ne_true]

/-- The symbols of a shape are its plain symbol, and it has no violations. -/
structure Uniform (y : Symbols) (s : Shape) (plain : Symbol) : Prop where
  /-- Checked values, in whatever wrappers. -/
  constrained : ∀ visibility, y.constrained visibility s = .ok plain
  /-- Values before they are checked, of a shape other than a member. -/
  unconstrained : s.isMember = false → y.unconstrained s = .ok plain
  /-- Values of a member before they are checked are there and have no default yet. -/
  kept : s.isMember = true → y.unconstrained s = .ok (.exported plain.type.present)
  /-- The type of the violations has no values. -/
  violation : y.violation s = .ok (.exported .infallible)
  /-- There are no variants. -/
  variants : y.variants s = .ok []

/-- The shape has a type of violations of its own. -/
structure Fallible (y : Symbols) (s : Shape) : Prop where
  /-- The type of the violations is a generated one. -/
  violation : ∃ module visibility,
    y.violation s = .ok ⟨.named module violationName, visibility, none⟩
  /-- There are variants as far as the types that they carry have an end. -/
  defined : (∃ vs, y.variants s = .ok vs) ↔ y.model.PartsHaveTypes (y.model.targetOf s)
  /-- There is one at least. -/
  variants : ∀ vs, y.variants s = .ok vs → vs ≠ []

theorem violation_of_not_reaches (hr : y.model.reachesConstrained (y.model.targetOf s) = false) :
    y.violation s = .ok (.exported .infallible) ∧ y.variants s = .ok [] := by
  simp [violation, variants, hr]

theorem uniform_of_not_isMember (hm : y.model.Sound) (hs : s ∈ y.model.shapes)
    (hk : s.isMember = false) (hr : y.model.reachesConstrained s = false)
    (hplain : y.plain s = .ok plain) : y.Uniform s plain := by
  rw [plain_eq_ok_iff] at hplain
  have htarget := Model.targetOf_of_not_isMember (m := y.model) hk
  obtain ⟨hviolation, hvariants⟩ := violation_of_not_reaches (htarget.symm ▸ hr)
  refine ⟨fun visibility => ?_, fun _ => ?_, fun h => ?_, hviolation, hvariants⟩
  · rw [constrained_eq_ok_iff, depth, constrainedAt_of_not_reaches hm hs hk hr, hplain]
  · rw [unconstrained, finite_eq_ok_iff, depth, unconstrainedAt_of_not_reaches hk hr, hplain]
  · rw [hk] at h
    cases h

theorem uniform_of_member (hm : y.model.Sound) (hs : s ∈ y.model.shapes)
    (hk : s.kind = .member id) (hdirect : (y.model.targetOf s).isMember = false)
    (hr : y.model.reachesConstrained s = false) (hplain : y.plain s = .ok plain) :
    y.Uniform s plain := by
  have ht := hm.find?_of_member hs hk
  have htmem := hm.targetOf_mem hs
  have hrt : y.model.reachesConstrained (y.model.targetOf s) = false := by
    by_contra h
    rw [Model.reachesConstrained_of_targetOf hm hs hdirect (by simpa using h)] at hr
    cases hr
  obtain ⟨inner, hinner, rfl⟩ := plainAt_of_member hk ht (plain_eq_ok_iff.1 hplain)
  have hvisible := visibility_of_plainAt hinner
  have hstripped := stripped_of_plainAt hdirect hinner
  rw [hstripped]
  -- there is a shape, the target, so that one level is left for it
  obtain ⟨n, hn⟩ : ∃ n, y.model.shapes.length = n + 1 :=
    Nat.exists_eq_succ_of_ne_zero (Nat.ne_of_gt (List.length_pos_of_mem htmem))
  obtain ⟨hviolation, hvariants⟩ := violation_of_not_reaches hrt
  refine ⟨fun visibility => ?_, fun h => ?_, fun _ => ?_, hviolation, hvariants⟩
  · rw [constrained_eq_ok_iff, depth, hn, constrainedAt]
    simp [hk, ht, constrainedAt_of_not_reaches hm htmem hdirect hrt, hinner, hvisible]
  · simp [Shape.isMember, hk] at h
  · have hpresent : (y.wrap s inner.type).present =
        if y.model.isBoxed s.id then .boxed inner.type else inner.type := by
      rw [wrap]
      by_cases hnull : y.model.isNullable y.style.nullability s = true
      · rw [if_pos hnull, CodeType.present]
      · rw [if_neg hnull]
        by_cases hb : y.model.isBoxed s.id = true
        · rw [if_pos hb]
          rfl
        · rw [if_neg hb, CodeType.present_of_stripped hstripped]
    rw [unconstrained, finite_eq_ok_iff, depth, hn, unconstrainedAt]
    simp [hk, ht, unconstrainedAt_of_not_reaches hdirect hrt, hinner, hvisible, hpresent,
      Symbol.exported]

/-! ### Shapes that can break a constraint -/

theorem exists_variant (hm : y.model.Sound) (hs : s ∈ y.model.shapes)
    (hk : (y.model.targetOf s).isMember = false)
    (hr : y.model.reachesConstrained (y.model.targetOf s) = true) {vs : List Variant}
    (hvs : y.variants s = .ok vs) : ∃ w, w ∈ vs := by
  have hmem := hm.targetOf_mem hs
  have htypes := (variants_isOk_iff hm hs).1 ⟨vs, hvs⟩ hr
  have hof {w : Variant} := (mem_variants_iff hm hs rfl hvs (w := w)).2
  -- one variant for each reason: a check, a member to be given, the violations of a member
  rcases Model.isConstrained_or_exists_member hm hmem hk hr with hc | ⟨e, he, hreach⟩
  · rcases Model.of_isConstrained hk hc with ⟨c, hcheck⟩ | ⟨hstruct, e, he, hneed⟩
    · exact ⟨_, hof ⟨hr, .inl ⟨c, hcheck, rfl⟩⟩⟩
    · exact ⟨_, hof ⟨hr, .inr (.inl ⟨e, he, hstruct, hneed, rfl⟩)⟩⟩
  · have hemem := (hm.mem_membersOf_iff.1 he).1
    have htype := htypes e he ((Model.canBreak_iff hm hemem).2 hreach)
    obtain ⟨symbol, hsymbol⟩ := (violation_isOk_iff hm hemem hreach).2 htype
    obtain ⟨w, hw⟩ := exists_nests hm he symbol.type
    exact ⟨w, hof ⟨hr, .inr (.inr ⟨e, he, hreach, symbol, hsymbol, hw⟩)⟩⟩

theorem fallible_of_reaches (hm : y.model.Sound) (hs : s ∈ y.model.shapes)
    (hdirect : (y.model.targetOf s).isMember = false)
    (hr : y.model.reachesConstrained s = true) (hplain : y.plain s = .ok plain) :
    y.Fallible s := by
  have hrt := Model.reachesConstrained_targetOf hm hs hr
  constructor
  · have htype : y.model.HasType s := (plain_isOk_iff hm hs).1 ⟨plain, hplain⟩
    have htarget : y.model.HasType (y.model.targetOf s) := by
      cases hk : s.isMember with
      | false => rwa [Model.targetOf_of_not_isMember hk]
      | true =>
        obtain ⟨id, hk⟩ := Shape.isMember_iff.1 hk
        exact htype.inv (.target hk (hm.find?_of_member hs hk))
    obtain ⟨owner, howner⟩ := (plain_isOk_iff hm (hm.targetOf_mem hs)).2 htarget
    exact ⟨_, _, by rw [violation, if_pos hrt, howner]; rfl⟩
  · constructor
    · rintro ⟨vs, hvs⟩
      exact (variants_isOk_iff hm hs).1 ⟨vs, hvs⟩ hrt
    · exact fun htypes => (variants_isOk_iff hm hs).2 fun _ => htypes
  · rintro vs hvs rfl
    obtain ⟨w, hw⟩ := exists_variant hm hs hdirect hrt hvs
    cases hw

/-! ### All shapes -/

/-- If no member targets another member, a shape with a plain symbol either has it for all its
values and breaks nothing, or can break a constraint and has a violation type with variants. -/
theorem uniform_or_fallible {m : Model} (hm : m.Assembled)
    (hdirect : ∀ e ∈ m.shapes, (m.targetOf e).isMember = false) {service : Shape} {style : Style}
    {tolerant : Bool} {y : Symbols} (hy : ofModel m service style tolerant = .ok y) {s : Shape}
    (hs : s ∈ m.shapes) {plain : Symbol} (hplain : y.plain s = .ok plain) :
    (¬ m.CanBreak s → y.Uniform s plain) ∧ (m.CanBreak s → y.Fallible s) := by
  obtain ⟨rfl, -⟩ := of_ofModel hy
  have hm := Model.sound_of_assembled hm
  rw [Model.canBreak_iff hm hs, Bool.not_eq_true]
  refine ⟨fun hr => ?_, fun hr => fallible_of_reaches hm hs (hdirect s hs) hr hplain⟩
  cases hk : s.isMember with
  | false => exact uniform_of_not_isMember hm hs hk hr hplain
  | true =>
    obtain ⟨id, hkind⟩ := Shape.isMember_iff.1 hk
    exact uniform_of_member hm hs hkind (hdirect s hs) hr hplain

/-- A reported path is a text without checks, a tree can lack its branches. -/
theorem uniform_or_fallible_forest :
    forest.Uniform (Prelude.member Prelude.fieldId "path" Prelude.stringId Prelude.required)
      (.exported .string) ∧ forest.Fallible treeShape := by
  have hdirect : ∀ e ∈ Model.forest.shapes, (Model.forest.targetOf e).isMember = false := by decide
  have hsound := Model.sound_of_assembled Model.assembled_forest
  constructor
  · have hpath : Prelude.member Prelude.fieldId "path" Prelude.stringId Prelude.required ∈
        Model.forest.shapes := by decide
    have hkept := mt (Model.canBreak_iff hsound hpath).1 (by decide)
    exact (uniform_or_fallible Model.assembled_forest hdirect ofModel_forest hpath
      (by decide)).1 hkept
  · have htree : treeShape ∈ Model.forest.shapes := by decide
    have hplain : forest.plain treeShape = .ok (.exported (.named "crate::model" "Tree")) := by
      decide
    exact (uniform_or_fallible Model.assembled_forest hdirect ofModel_forest htree hplain).2
      ((Model.canBreak_iff hsound htree).2 (by decide))

end Symbols

end Shapesmith
