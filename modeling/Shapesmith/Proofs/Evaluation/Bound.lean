import Mathlib.Data.List.Perm.Subperm
import Mathlib.Data.List.ProdSigma
import Shapesmith.Proofs.Evaluation.Parts
import Shapesmith.Proofs.Json.Subtrees

/-!
# How deep an evaluation can go

An evaluation that gets by with some depth does the same with any greater one. The least depth that
is enough for a value is one more than the least depth for one of its parts, so below a value that
needs a great depth there are parts that need every smaller depth. No two of these are the same
value for the same shape, whence their number is bounded.

* `Validator.hold_add` : more depth changes nothing;
* `Validator.settled_depthBound` : if any depth is enough for a value, `Validator.depthBound` is;
* `Validator.Ends` says that some depth is enough, and `Validator.ends_iff` that this is decided by
  `Validator.validate`.
-/

namespace Shapesmith

namespace Verdict

variable {α β : Type} {f g : α → Verdict Unit} {l : List α}

/-- The verdict is not that a value has no end. -/
def Settled (x : Verdict α) : Prop := x.outcome ≠ .error .endless

theorem Settled.of_bind {x : Verdict α} {f : α → Verdict β} (h : (x >>= f).Settled) : x.Settled :=
  fun he => h (bind_outcome_eq_error_iff.2 (.inl he))

theorem Settled.bind {x : Verdict α} {f : α → Verdict β} (hx : x.Settled)
    (hf : ∀ a, (f a).Settled) : (x >>= f).Settled := by
  intro he
  rcases bind_outcome_eq_error_iff.1 he with he | ⟨a, -, he⟩
  · exact hx he
  · exact hf a he

theorem settled_forget_iff {x : Verdict α} : x.forget.Settled ↔ x.Settled :=
  not_congr forget_outcome_eq_error_iff

/-- A settled row stays as it is when its settled steps do. -/
theorem forM_eq_of_settled (h : (forM l f).Settled) (hfg : ∀ a ∈ l, (f a).Settled → g a = f a) :
    forM l g = forM l f := by
  induction l with
  | nil => rfl
  | cons a l ih =>
    rw [List.forM_cons] at h
    rw [List.forM_cons, List.forM_cons, hfg a List.mem_cons_self h.of_bind]
    cases ho : (f a).outcome with
    | error e =>
      rw [bind_def, bind_def, ho]
    | ok u =>
      have hrest : (forM l f).Settled := fun he =>
        h (bind_outcome_eq_error_iff.2 (.inr ⟨u, ho, he⟩))
      rw [ih hrest fun b hb => hfg b (List.mem_cons_of_mem _ hb)]

/-- Both verdicts go well, or both are that a value has no end, or neither is either. -/
def Alike (x y : Verdict Unit) : Prop :=
  (x.outcome = .ok () ↔ y.outcome = .ok ()) ∧
    (x.outcome = .error .endless ↔ y.outcome = .error .endless)

theorem Alike.bind {x y x' y' : Verdict Unit} (h : x.Alike y) (h' : x'.Alike y') :
    (x >>= fun _ => x').Alike (y >>= fun _ => y') := by
  constructor
  · simp only [bind_outcome_eq_ok_iff, Unique.exists_iff, PUnit.default_eq_unit, h.1, h'.1]
  · simp only [bind_outcome_eq_error_iff, Unique.exists_iff, PUnit.default_eq_unit, h.1, h.2, h'.2]

theorem alike_of_not_settled {x y : Verdict Unit} (hx : ¬ x.Settled) (hy : ¬ y.Settled) :
    x.Alike y := by
  simp [Alike, not_not.1 hx, not_not.1 hy]

theorem alike_of_misfit {d e : Misfit} (hd : d ≠ .endless) (he : e ≠ .endless) :
    (misfit d : Verdict Unit).Alike (misfit e) := by
  simp [Alike, misfit, hd, he]

theorem alike_of_ok {x y : Verdict Unit} (hx : x.outcome = .ok ()) (hy : y.outcome = .ok ()) :
    x.Alike y := by
  simp [Alike, hx, hy]

/-- Rows of steps that end alike end alike. -/
theorem Alike.forM {l : List α} {l' : List β} {f : α → Verdict Unit} {g : β → Verdict Unit}
    (h : List.Forall₂ (fun a b => (f a).Alike (g b)) l l') :
    (ForM.forM l f).Alike (ForM.forM l' g) := by
  induction h with
  | nil => exact alike_of_ok rfl rfl
  | cons hab _ ih => exact hab.bind ih

end Verdict

namespace Validator

variable {v : Validator} {p q : Spot} {depth : Nat}

theorem hold_zero (h : p.shape.kind.Accepts p.value) : ¬ (v.hold 0 p).Settled := by
  rw [hold, checkValue_of_accepts h]
  exact fun hn => hn rfl

theorem settled_slots (hm : v.model.Sound) (hp : p.Proper v.model)
    (ha : p.shape.kind.Accepts p.value) (h : (v.hold (depth + 1) p).Settled) :
    (forM (v.model.slots p) (meet (v.hold depth))).Settled := by
  rw [hold_succ (hm.nodup_memberNames hp.shape) hp.value ha] at h
  exact Verdict.Settled.of_bind fun he =>
    h (Verdict.bind_outcome_eq_error_iff.2 (.inr ⟨(), rfl, he⟩))

/-- One level more changes nothing. -/
theorem hold_succ_eq (hm : v.model.Sound) (hp : p.Proper v.model)
    (h : (v.hold depth p).Settled) : v.hold (depth + 1) p = v.hold depth p := by
  induction depth generalizing p with
  | zero =>
    by_cases ha : p.shape.kind.Accepts p.value
    · exact absurd h (hold_zero ha)
    · rw [hold_of_not_accepts ha, hold_of_not_accepts ha]
  | succ depth ih =>
    by_cases ha : p.shape.kind.Accepts p.value
    · have hnames := hm.nodup_memberNames hp.shape
      rw [hold_succ hnames hp.value ha, hold_succ hnames hp.value ha,
        Verdict.forM_eq_of_settled (settled_slots hm hp ha h)]
      intro slot hslot hsettled
      cases slot with
      | missing step path => rfl
      | part step q =>
        exact ih (hp.part hm ((Model.part_mem_slots_iff hm hp.shape hp.value).1 hslot)) hsettled
    · rw [hold_of_not_accepts ha, hold_of_not_accepts ha]

/-- More depth changes nothing. -/
theorem hold_add (hm : v.model.Sound) (hp : p.Proper v.model) (h : (v.hold depth p).Settled)
    (more : Nat) : v.hold (depth + more) p = v.hold depth p := by
  induction more with
  | zero => rfl
  | succ more ih =>
    rw [← Nat.add_assoc, hold_succ_eq hm hp (by rwa [ih]), ih]

theorem settled_mono (hm : v.model.Sound) (hp : p.Proper v.model) {depth' : Nat}
    (hle : depth ≤ depth') (h : (v.hold depth p).Settled) : (v.hold depth' p).Settled := by
  obtain ⟨more, rfl⟩ := Nat.exists_eq_add_of_le hle
  rwa [hold_add hm hp h]

/-! ### Needed depths -/

variable (v)

/-- The depth is enough for a value, and the one before is not. -/
def Needs (depth : Nat) (p : Spot) : Prop :=
  (v.hold (depth + 1) p).Settled ∧ ¬ (v.hold depth p).Settled

variable {v}

/-- Below a value that needs more than one level, some part needs one level less. -/
theorem exists_part_needs (hm : v.model.Sound) (hp : p.Proper v.model)
    (h : v.Needs (depth + 1) p) : ∃ step q, v.model.Part p step q ∧ v.Needs depth q := by
  by_contra hno
  have ha : p.shape.kind.Accepts p.value := by
    by_contra hn
    rw [Needs, hold_of_not_accepts hn, hold_of_not_accepts hn] at h
    exact h.2 h.1
  have hnames := hm.nodup_memberNames hp.shape
  -- otherwise the slots do the same one level less, and so does the value
  refine h.2 ?_
  rw [hold_succ hnames hp.value ha, Verdict.forM_eq_of_settled (settled_slots hm hp ha h.1),
    ← hold_succ hnames hp.value ha]
  · exact h.1
  · intro slot hslot hsettled
    cases slot with
    | missing step path => rfl
    | part step q =>
      have hpart := (Model.part_mem_slots_iff hm hp.shape hp.value).1 hslot
      have hq : (v.hold depth q).Settled := by
        by_contra hn
        exact hno ⟨step, q, hpart, hsettled, hn⟩
      exact (hold_succ_eq hm (hp.part hm hpart) hq).symm

/-! ### The place does not matter -/

/-- Slots hold the same value against the same shape, or both are missing members. -/
def SameSlot : Slot → Slot → Prop
  | .part _ p, .part _ q => p.shape = q.shape ∧ p.value = q.value
  | .missing _ _, .missing _ _ => True
  | _, _ => False

theorem forall₂_flatMap {α β : Type} {R : β → β → Prop} {f g : α → List β} {l : List α}
    (h : ∀ a, List.Forall₂ R (f a) (g a)) : List.Forall₂ R (l.flatMap f) (l.flatMap g) := by
  induction l with
  | nil => exact .nil
  | cons a l ih => exact List.rel_append (h a) ih

theorem forall₂_slots {m : Model} {p q : Spot} (hs : p.shape = q.shape) (hv : p.value = q.value) :
    List.Forall₂ SameSlot (m.slots p) (m.slots q) := by
  obtain ⟨s, j, path⟩ := p
  obtain ⟨s', j', path'⟩ := q
  obtain rfl : s = s' := hs
  obtain rfl : j = j' := hv
  unfold Model.slots
  dsimp only
  split
  · rw [List.forall₂_map_left_iff, List.forall₂_map_right_iff]
    exact List.forall₂_same.2 fun x _ => ⟨rfl, rfl⟩
  · refine forall₂_flatMap fun f => ?_
    exact .cons ⟨rfl, rfl⟩ (.cons ⟨rfl, rfl⟩ .nil)
  · refine forall₂_flatMap fun e => ?_
    unfold Model.memberSlots
    dsimp only
    split
    · exact .cons ⟨rfl, rfl⟩ .nil
    · exact .cons ⟨rfl, rfl⟩ .nil
    · exact .cons trivial .nil
    · exact .nil
  · refine forall₂_flatMap fun f => ?_
    rw [List.forall₂_map_left_iff, List.forall₂_map_right_iff]
    exact List.forall₂_same.2 fun e _ => ⟨rfl, rfl⟩
  · exact .nil

/-- How an evaluation ends does not depend on the place. -/
theorem alike_hold (hm : v.model.Sound) (hp : p.Proper v.model) (hs : p.shape = q.shape)
    (hv : p.value = q.value) : (v.hold depth p).Alike (v.hold depth q) := by
  induction depth generalizing p q with
  | zero =>
    by_cases ha : p.shape.kind.Accepts p.value
    · exact Verdict.alike_of_not_settled (hold_zero ha) (hold_zero (by rwa [← hs, ← hv]))
    · rw [hold_of_not_accepts ha, hold_of_not_accepts (by rwa [← hs, ← hv])]
      exact Verdict.alike_of_misfit (by simp) (by simp)
  | succ depth ih =>
    by_cases ha : p.shape.kind.Accepts p.value
    · have hnames := hm.nodup_memberNames hp.shape
      rw [hold_succ hnames hp.value ha,
        hold_succ (by rwa [← hs]) (by rw [← hv]; exact hp.value) (by rwa [← hs, ← hv])]
      have hslots : List.Forall₂ (fun a b => a ∈ v.model.slots p ∧ SameSlot a b)
          (v.model.slots p) (v.model.slots q) :=
        (List.forall₂_and_left _ _).2 ⟨fun a ha => ha, forall₂_slots hs hv⟩
      have hstrays : v.model.strays p = v.model.strays q := by
        rw [Model.strays, Model.strays, hs, hv]
      refine (Verdict.alike_of_ok rfl rfl).bind (Verdict.Alike.bind (.forM ?_) ?_)
      · refine hslots.imp fun a b hab => ?_
        obtain ⟨hmem, hab⟩ := hab
        cases a with
        | missing step place =>
          cases b with
          | missing step' place' => exact Verdict.alike_of_ok rfl rfl
          | part step' q' => exact hab.elim
        | part step p' =>
          cases b with
          | missing step' place' => exact hab.elim
          | part step' q' =>
            have hpart := (Model.part_mem_slots_iff hm hp.shape hp.value).1 hmem
            exact ih (hp.part hm hpart) hab.1 hab.2
      · rw [hstrays]
        exact ⟨.rfl, .rfl⟩
    · rw [hold_of_not_accepts ha, hold_of_not_accepts (by rwa [← hs, ← hv])]
      exact Verdict.alike_of_misfit (by simp) (by simp)

theorem settled_congr (hm : v.model.Sound) (hp : p.Proper v.model) (hs : p.shape = q.shape)
    (hv : p.value = q.value) : (v.hold depth p).Settled ↔ (v.hold depth q).Settled :=
  not_congr (alike_hold hm hp hs hv).2

/-- A value needs one depth. -/
theorem Needs.unique (hm : v.model.Sound) (hp : p.Proper v.model) (hs : p.shape = q.shape)
    (hv : p.value = q.value) {depth' : Nat} (h : v.Needs depth p) (h' : v.Needs depth' q) :
    depth = depth' := by
  obtain ⟨henough, hless⟩ := h
  obtain ⟨henough', hless'⟩ := h'
  rw [← settled_congr hm hp hs hv] at henough' hless'
  by_contra hne
  rcases Nat.lt_or_gt_of_ne hne with hlt | hlt
  · exact hless' (settled_mono hm hp hlt henough)
  · exact hless (settled_mono hm hp hlt henough')

/-! ### The bound -/

variable (v)

/-- The values that can come up below a value: the values inside of it and of the defaults. -/
def valuesBelow (value : Json) : List Json :=
  value.subtrees ++ Json.subtreesItems (v.model.shapes.filterMap fun s => s.traits.defaultValue)

theorem depthBound_eq (value : Json) : v.depthBound value =
    (v.model.shapes.length + 1) * (v.valuesBelow value).length + 1 := by
  rw [depthBound, valuesBelow, List.length_append, Json.length_subtrees,
    Json.length_subtreesItems]

variable {v}

theorem mem_valuesBelow_of_inside {value a b : Json} (hab : a ∈ b.subtrees)
    (hb : b ∈ v.valuesBelow value) : a ∈ v.valuesBelow value := by
  rcases List.mem_append.1 hb with hb | hb
  · exact List.mem_append_left _ (Json.mem_subtrees_trans hab _ hb)
  · exact List.mem_append_right _ (Json.mem_subtreesItems_trans hab _ hb)

/-- A part comes from the value or from a default, unless it is a key. -/
theorem part_mem_valuesBelow (hm : v.model.Sound) {value : Json} {step : Spot.Step}
    (h : v.model.Part p step q) (hp : p.value ∈ v.valuesBelow value) :
    q.value ∈ v.valuesBelow value ∨ ∃ name, q.value = .str name := by
  cases h with
  | item hs he hx =>
    exact .inl (mem_valuesBelow_of_inside (Json.item_mem_subtrees (List.mem_of_getElem? hx)) hp)
  | key hs he hf => exact .inr ⟨_, rfl⟩
  | value hs he hf =>
    exact .inl (mem_valuesBelow_of_inside (Json.field_mem_subtrees (List.mem_of_getElem? hf)) hp)
  | member hs he hx =>
    cases hx with
    | given hx hnull => exact .inl (mem_valuesBelow_of_inside (Json.field_mem_subtrees hx) hp)
    | default habs hx =>
      have hmem := (hm.mem_membersOf_iff.1 (List.mem_of_getElem? he)).1
      have hdefault : _ ∈ v.model.shapes.filterMap fun s => s.traits.defaultValue :=
        List.mem_filterMap.2 ⟨_, hmem, hx⟩
      exact .inl (List.mem_append_right _
        (Json.mem_subtreesItems_iff.2 ⟨_, hdefault, Json.self_mem_subtrees _⟩))
  | choice hs he hx => exact .inl (mem_valuesBelow_of_inside (Json.field_mem_subtrees hx) hp)

/-- A text has no parts. -/
theorem no_part_of_str {name : String} (h : p.value = .str name) {step : Spot.Step} :
    ¬ v.model.Part p step q := by
  rintro (- | - | - | - | -) <;> cases h

/-- Below a value that needs some depth there are as many others that need less, one for each
smaller depth. -/
theorem exists_chain (hm : v.model.Sound) (value : Json) (hp : p.Proper v.model)
    (h : v.Needs depth p) (hv : depth ≠ 0 → p.value ∈ v.valuesBelow value) :
    ∃ chain : List Spot, chain.length = depth ∧
      (chain.Pairwise fun a b => ¬ (a.shape = b.shape ∧ a.value = b.value)) ∧
      ∀ a ∈ chain, a.shape ∈ v.model.shapes ∧ a.value ∈ v.valuesBelow value ∧
        ∃ less, less < depth ∧ v.Needs (less + 1) a := by
  induction depth generalizing p with
  | zero => exact ⟨[], rfl, .nil, by simp⟩
  | succ depth ih =>
    obtain ⟨step, q, hpart, hq⟩ := exists_part_needs hm hp h
    have hpv := hv (Nat.succ_ne_zero depth)
    -- the part is no key of a map if it needs a level itself, since a text has no parts
    have hqv : depth ≠ 0 → q.value ∈ v.valuesBelow value := by
      intro hne
      obtain ⟨less, rfl⟩ := Nat.exists_eq_succ_of_ne_zero hne
      obtain ⟨step', r, hpart', -⟩ := exists_part_needs hm (hp.part hm hpart) hq
      rcases part_mem_valuesBelow hm hpart hpv with hqv | ⟨name, hname⟩
      · exact hqv
      · exact absurd hpart' (no_part_of_str hname)
    obtain ⟨chain, hlen, hdistinct, hall⟩ := ih (hp.part hm hpart) hq hqv
    refine ⟨p :: chain, by rw [List.length_cons, hlen], ?_, ?_⟩
    -- a value that comes again needs the same depth again, but all others need less
    · refine List.pairwise_cons.2 ⟨fun a ha hsame => ?_, hdistinct⟩
      obtain ⟨-, -, less, hless, hneeds⟩ := hall a ha
      have := h.unique hm hp hsame.1 hsame.2 hneeds
      omega
    · intro a ha
      rcases List.mem_cons.1 ha with rfl | ha
      · exact ⟨hp.shape, hpv, depth, Nat.lt_succ_self depth, h⟩
      · obtain ⟨hs, hav, less, hless, hneeds⟩ := hall a ha
        exact ⟨hs, hav, less, Nat.lt_succ_of_lt hless, hneeds⟩

theorem depth_le_of_needs (hm : v.model.Sound) (hp : p.Proper v.model) (h : v.Needs depth p) :
    depth ≤ v.model.shapes.length * (v.valuesBelow p.value).length := by
  obtain ⟨chain, hlen, hdistinct, hall⟩ := exists_chain hm p.value hp h fun _ =>
    List.mem_append_left _ (Json.self_mem_subtrees _)
  have hnodup : (chain.map fun a => (a.shape, a.value)).Nodup := by
    refine List.pairwise_map.2 (hdistinct.imp fun {a b} hab heq => hab ?_)
    exact Prod.mk.inj heq
  have hsub : (chain.map fun a => (a.shape, a.value)) ⊆
      v.model.shapes ×ˢ v.valuesBelow p.value := by
    intro x hx
    obtain ⟨a, ha, rfl⟩ := List.mem_map.1 hx
    obtain ⟨hs, hv, -⟩ := hall a ha
    exact List.mem_product.2 ⟨hs, hv⟩
  have hle := (List.subperm_of_subset hnodup hsub).length_le
  rwa [List.length_map, hlen, List.length_product] at hle

/-- If any depth is enough for a value, the bound is. -/
theorem settled_depthBound (hm : v.model.Sound) (hp : p.Proper v.model)
    (h : (v.hold depth p).Settled) : (v.hold (v.depthBound p.value) p).Settled := by
  -- go down to the least depth that is enough, which is the one that the value needs
  induction depth with
  | zero => exact settled_mono hm hp (Nat.zero_le _) h
  | succ depth ih =>
    by_cases hless : (v.hold depth p).Settled
    · exact ih hless
    · have hle := depth_le_of_needs hm hp ⟨h, hless⟩
      refine settled_mono hm hp ?_ h
      rw [depthBound_eq, Nat.add_mul]
      omega

/-! ### Ends -/

variable (v)

/-- Some depth is enough for a value, and it stays enough. -/
def Ends (s : Shape) (value : Json) (path : String) : Prop :=
  ∃ depth, ∀ more, (v.within (depth + more) s value path).outcome ≠ .error .endless

variable {v} {s : Shape} {value : Json} {path : String}

theorem proper_spot (hm : v.model.Sound) (hs : s ∈ v.model.shapes) (hd : value.Distinct)
    (path : String) :
    (v.model.spot s value path).Proper v.model :=
  ⟨hm.targetOf_mem hs, hd⟩

theorem ends_of_settled (hm : v.model.Sound) (hs : s ∈ v.model.shapes) (hd : value.Distinct)
    (h : (v.hold depth (v.model.spot s value path)).Settled) : v.Ends s value path := by
  refine ⟨depth, fun more => ?_⟩
  change (v.within (depth + more) s value path).Settled
  rw [← Verdict.settled_forget_iff, forget_within]
  exact settled_mono hm (proper_spot hm hs hd path) (Nat.le_add_right _ _) h

/-- Whether any depth is enough for a value is decided by holding it against its shape. -/
theorem ends_iff (hm : v.model.Sound) (hs : s ∈ v.model.shapes) (hd : value.Distinct) :
    v.Ends s value path ↔ (v.validate s value path).outcome ≠ .error .endless := by
  have hp := proper_spot hm hs hd path
  constructor
  · rintro ⟨depth, h⟩
    have h : (v.within depth s value path).Settled := h 0
    rw [← Verdict.settled_forget_iff, forget_within] at h
    rw [validate_eq_within]
    change (v.within _ s value path).Settled
    rw [← Verdict.settled_forget_iff, forget_within]
    exact settled_depthBound hm hp h
  · intro h
    change (v.validate s value path).Settled at h
    rw [validate_eq_within, ← Verdict.settled_forget_iff, forget_within] at h
    exact ends_of_settled hm hs hd h

end Validator

end Shapesmith
