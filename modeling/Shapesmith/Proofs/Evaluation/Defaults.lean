import Shapesmith.Proofs.Builder.Build
import Shapesmith.Proofs.Json.Subtrees

/-!
# Evaluations end when no default comes up below itself

An evaluation goes from a value to parts that are inside of it, or to defaults. Only the latter can
make it go on forever, and as there are finitely many of them, some default then comes up below
itself.

* `Model.Part.nodes_lt_or_default` : a part is smaller than the value or a default;
* `Validator.Enters` : an evaluation goes from a value to a part, and
  `Validator.exists_enters_of_endless` : one without an end goes to a part without an end;
* `Validator.exists_settled` : if no default comes up below itself, all evaluations end;
* `Validator.defaultRecurs_iff` : whether one does is decided by evaluating the defaults;
* `Validator.evaluations_end_iff` : all evaluations and builds of a model end exactly then.
-/

namespace Shapesmith

open Relation (TransGen)

/-- The value is the default of a member, held against the target of the member. -/
def Model.IsDefault (m : Model) (p : Spot) : Prop :=
  ∃ e ∈ m.shapes, p.shape = m.targetOf e ∧ e.traits.defaultValue = some p.value

theorem Model.IsDefault.proper {m : Model} (hm : m.Sound) {p : Spot} (h : m.IsDefault p) :
    p.Proper m := by
  obtain ⟨e, he, hs, hd⟩ := h
  exact ⟨hs ▸ hm.targetOf_mem he, (hm.tidy e he).default _ hd⟩

/-- A part is smaller than the value or the default of a member. -/
theorem Model.Part.nodes_lt_or_default {m : Model} (hm : m.Sound) {p q : Spot} {step : Spot.Step}
    (h : m.Part p step q) : q.value.nodes < p.value.nodes ∨ m.IsDefault q := by
  have hfields {fields : List (String × Json)} {f : String × Json} (hf : f ∈ fields) :
      f.2.nodes < (Json.obj fields).nodes := by
    have := Json.nodes_le_of_mem_fields hf
    rw [Json.nodes]
    omega
  cases h with
  | item hs he hx =>
    have hle := Json.nodes_le_of_mem_items (List.mem_of_getElem? hx)
    exact .inl (by rw [Json.nodes]; exact Nat.lt_one_add_iff.2 hle)
  | key hs he hf =>
    exact .inl (Nat.lt_of_le_of_lt (Json.nodes_pos _) (hfields (List.mem_of_getElem? hf)))
  | value hs he hf => exact .inl (hfields (List.mem_of_getElem? hf))
  | member hs he hx =>
    cases hx with
    | given hx hnull => exact .inl (hfields hx)
    | default habs hx =>
      exact .inr ⟨_, (hm.mem_membersOf_iff.1 (List.mem_of_getElem? he)).1, rfl, hx⟩
  | choice hs he hx => exact .inl (hfields hx)

/-- A settled row comes to a step when the steps before it go well as far as they are settled. -/
theorem Verdict.Settled.step {α : Type} {f : α → Verdict Unit} {before after : List α} {a : α}
    (h : (forM (before ++ a :: after) f).Settled)
    (hok : ∀ b ∈ before, (f b).Settled → (f b).outcome = .ok ()) : (f a).Settled := by
  induction before with
  | nil =>
    rw [List.nil_append, List.forM_cons] at h
    exact h.of_bind
  | cons b before ih =>
    rw [List.cons_append, List.forM_cons] at h
    have hb := hok b List.mem_cons_self h.of_bind
    refine ih (fun he => h ?_) fun c hc => hok c (List.mem_cons_of_mem _ hc)
    exact Verdict.bind_outcome_eq_error_iff.2 (.inr ⟨(), hb, he⟩)

namespace Validator

variable (v : Validator)

/-- An evaluation finds the value to have the right types and members, all the way down. -/
def Fits (p : Spot) : Prop := ∃ depth, (v.hold depth p).outcome = .ok ()

/-- An evaluation goes from a value of the right type to a part: the parts before it fit. -/
def Enters (p q : Spot) : Prop :=
  p.shape.kind.Accepts p.value ∧ ∃ step, v.model.Part p step q ∧
    ∀ step' r, v.model.Part p step' r → step'.rank < step.rank → v.Fits r

/-- No depth is enough for the value. -/
def Endless (p : Spot) : Prop := ∀ depth, ¬ (v.hold depth p).Settled

/-- A default comes up again below itself. -/
def DefaultRecurs : Prop :=
  ∃ p q, v.model.IsDefault p ∧ TransGen v.Enters p q ∧ q.shape = p.shape ∧ q.value = p.value

variable {v} {p q : Spot} {depth : Nat}

theorem Fits.outcome_eq (hm : v.model.Sound) (hp : p.Proper v.model) (h : v.Fits p)
    (hs : (v.hold depth p).Settled) : (v.hold depth p).outcome = .ok () := by
  obtain ⟨depth', h⟩ := h
  have hs' : (v.hold depth' p).Settled := by simp [Verdict.Settled, h]
  rw [← hold_add hm hp hs depth', Nat.add_comm, hold_add hm hp hs' depth, h]

theorem Enters.proper (hm : v.model.Sound) (hp : p.Proper v.model) (h : v.Enters p q) :
    q.Proper v.model := by
  obtain ⟨-, step, hpart, -⟩ := h
  exact hp.part hm hpart

/-! ### What an evaluation enters takes less depth -/

theorem Enters.settled (hm : v.model.Sound) (hp : p.Proper v.model) (h : v.Enters p q)
    (hs : (v.hold (depth + 1) p).Settled) : (v.hold depth q).Settled := by
  obtain ⟨ha, step, hpart, hfit⟩ := h
  have hslots := settled_slots hm hp ha hs
  have hranks := Model.pairwise_slots (m := v.model) ha
  have hmem := (Model.part_mem_slots_iff hm hp.shape hp.value).2 hpart
  obtain ⟨before, after, heq⟩ := List.append_of_mem hmem
  rw [heq] at hslots hranks
  refine hslots.step (a := Slot.part step q) fun slot hslot hsettled => ?_
  cases slot with
  | missing step' path => rfl
  | part step' r =>
    have hlt := (List.pairwise_append.1 hranks).2.2 _ hslot _ List.mem_cons_self
    have hr : v.model.Part p step' r := (Model.part_mem_slots_iff hm hp.shape hp.value).1
      (heq ▸ List.mem_append_left _ hslot)
    exact (hfit step' r hr hlt).outcome_eq hm (hp.part hm hr) hsettled

theorem exists_settled_of_transGen (hm : v.model.Sound) (hp : p.Proper v.model)
    (h : TransGen v.Enters p q) (hs : (v.hold depth p).Settled) :
    ∃ less < depth, (v.hold less q).Settled := by
  induction h using TransGen.head_induction_on generalizing depth with
  | single h =>
    cases depth with
    | zero => exact absurd hs (hold_zero h.1)
    | succ depth => exact ⟨depth, Nat.lt_succ_self depth, h.settled hm hp hs⟩
  | head h _ ih =>
    cases depth with
    | zero => exact absurd hs (hold_zero h.1)
    | succ depth =>
      obtain ⟨less, hless, hq⟩ := ih (h.proper hm hp) (h.settled hm hp hs)
      exact ⟨less, Nat.lt_succ_of_lt hless, hq⟩

/-- A value that comes up again below itself has no end. -/
theorem endless_of_transGen (hm : v.model.Sound) (hp : p.Proper v.model)
    (h : TransGen v.Enters p q) (hs : q.shape = p.shape) (hv : q.value = p.value) :
    v.Endless p := by
  intro depth
  -- it would need less depth the second time
  induction depth using Nat.strongRecOn with
  | ind depth ih =>
    intro hsettled
    obtain ⟨less, hless, hq⟩ := exists_settled_of_transGen hm hp h hsettled
    exact ih less hless ((settled_congr hm hp hs.symm hv.symm).2 hq)

/-! ### An evaluation without an end -/

/-- More depth changes nothing for a row of slots either. -/
theorem forM_meet_add (hm : v.model.Sound) {slots : List Slot}
    (hp : ∀ step q, Slot.part step q ∈ slots → q.Proper v.model)
    (h : (forM slots (meet (v.hold depth))).Settled) (more : Nat) :
    forM slots (meet (v.hold (depth + more))) = forM slots (meet (v.hold depth)) := by
  refine Verdict.forM_eq_of_settled h fun slot hslot hsettled => ?_
  cases slot with
  | missing step path => rfl
  | part step q => exact hold_add hm (hp step q hslot) hsettled more

/-- Some depth is enough for a row of slots if some depth is for each part that is entered. -/
theorem exists_settled_slots (hm : v.model.Sound) {slots : List Slot}
    (hp : ∀ step q, Slot.part step q ∈ slots → q.Proper v.model)
    (h : ∀ before step q after, slots = before ++ .part step q :: after →
      (∀ step' r, Slot.part step' r ∈ before → v.Fits r) →
        ∃ depth, (v.hold depth q).Settled) :
    ∃ depth, (forM slots (meet (v.hold depth))).Settled := by
  induction slots with
  | nil => exact ⟨0, by simp [Verdict.Settled]⟩
  | cons slot slots ih =>
    have hp' : ∀ step q, Slot.part step q ∈ slots → q.Proper v.model := fun step q hq =>
      hp step q (List.mem_cons_of_mem _ hq)
    have hrest (hslot : ∀ step q, slot = .part step q → v.Fits q) :
        ∃ depth, (forM slots (meet (v.hold depth))).Settled := by
      refine ih hp' fun before step q after heq hbefore => ?_
      refine h (slot :: before) step q after (by rw [heq, List.cons_append]) fun step' r hr => ?_
      rcases List.mem_cons.1 hr with rfl | hr
      · exact hslot step' r rfl
      · exact hbefore step' r hr
    simp only [List.forM_cons]
    cases slot with
    | missing step path =>
      obtain ⟨depth, hdepth⟩ := hrest (by simp)
      exact ⟨depth, .bind (by simp [meet, Verdict.Settled, Verdict.withViolations]) fun _ => hdepth⟩
    | part step q =>
      obtain ⟨depth, hq⟩ := h [] step q slots rfl (by simp)
      have hqp := hp step q List.mem_cons_self
      cases ho : (v.hold depth q).outcome with
      -- the row stops at a part that does not fit
      | error cause =>
        refine ⟨depth, fun he => hq ?_⟩
        rcases Verdict.bind_outcome_eq_error_iff.1 he with he | ⟨_, hok, -⟩
        · exact he
        · rw [meet, ho] at hok
          cases hok
      | ok u =>
        obtain ⟨depth', hdepth'⟩ := hrest fun step' q' heq => by
          cases heq
          exact ⟨depth, ho⟩
        refine ⟨depth' + depth, .bind ?_ fun _ => ?_⟩
        · exact settled_mono hm hqp (Nat.le_add_left _ _) hq
        · rwa [forM_meet_add hm hp' hdepth']

/-- An evaluation without an end goes to a part without an end. -/
theorem exists_enters_of_endless (hm : v.model.Sound) (hp : p.Proper v.model)
    (h : v.Endless p) : ∃ q, v.Enters p q ∧ v.Endless q := by
  by_contra hno
  have ha : p.shape.kind.Accepts p.value := by
    by_contra hn
    refine h 0 ?_
    rw [hold_of_not_accepts hn]
    simp [Verdict.Settled, Verdict.misfit]
  have hpart {step : Spot.Step} {q : Spot} (hq : Slot.part step q ∈ v.model.slots p) :
      v.model.Part p step q := (Model.part_mem_slots_iff hm hp.shape hp.value).1 hq
  obtain ⟨depth, hslots⟩ : ∃ depth, (forM (v.model.slots p) (meet (v.hold depth))).Settled := by
    refine exists_settled_slots hm (fun step q hq => hp.part hm (hpart hq)) ?_
    intro before step q after heq hbefore
    by_contra hq
    refine hno ⟨q, ⟨ha, step, hpart (by rw [heq]; simp), fun step' r hr hlt => ?_⟩,
      not_exists.1 hq⟩
    -- parts of smaller number come before it, as slots are in order
    have hranks := Model.pairwise_slots (m := v.model) ha
    have hmem := (Model.part_mem_slots_iff hm hp.shape hp.value).2 hr
    rw [heq] at hranks hmem
    obtain ⟨-, hafter, -⟩ := List.pairwise_append.1 hranks
    rcases List.mem_append.1 hmem with hmem | hmem
    · exact hbefore step' r hmem
    · rcases List.mem_cons.1 hmem with heq' | hmem
      · cases heq'
        exact absurd hlt (Nat.lt_irrefl _)
      · exact absurd hlt (Nat.lt_asymm ((List.pairwise_cons.1 hafter).1 _ hmem))
  refine h (depth + 1) ?_
  rw [hold_succ (hm.nodup_memberNames hp.shape) hp.value ha]
  refine Verdict.Settled.bind (by simp [Verdict.Settled]) fun _ => hslots.bind fun _ => ?_
  cases v.model.strays p <;> simp [refuse, Verdict.Settled, Verdict.misfit]

/-- An evaluation without an end comes to a default without an end. -/
theorem exists_default_of_endless (hm : v.model.Sound) (hp : p.Proper v.model)
    (h : v.Endless p) : ∃ q, TransGen v.Enters p q ∧ v.model.IsDefault q ∧ v.Endless q := by
  -- the values get smaller up to there
  induction hn : p.value.nodes using Nat.strongRecOn generalizing p with
  | ind n ih =>
    subst hn
    obtain ⟨q, hpq, hq⟩ := exists_enters_of_endless hm hp h
    obtain ⟨-, step, hpart, -⟩ := id hpq
    rcases hpart.nodes_lt_or_default hm with hlt | hdef
    · obtain ⟨r, hqr, hr⟩ := ih _ hlt (hpq.proper hm hp) hq rfl
      exact ⟨r, .head hpq hqr, hr⟩
    · exact ⟨q, .single hpq, hdef, hq⟩

/-- An evaluation without an end comes to any number of defaults, one below the other. -/
theorem exists_defaults_of_endless (hm : v.model.Sound) (hp : p.Proper v.model)
    (h : v.Endless p) (n : Nat) : ∃ chain : List Spot, chain.length = n ∧
      chain.Pairwise (TransGen v.Enters) ∧
        ∀ a ∈ chain, TransGen v.Enters p a ∧ v.model.IsDefault a := by
  induction n generalizing p with
  | zero => exact ⟨[], rfl, .nil, by simp⟩
  | succ n ih =>
    obtain ⟨q, hpq, hdef, hq⟩ := exists_default_of_endless hm hp h
    obtain ⟨chain, hlen, hbelow, hall⟩ := ih (hdef.proper hm) hq
    refine ⟨q :: chain, by rw [List.length_cons, hlen], ?_, ?_⟩
    · exact List.pairwise_cons.2 ⟨fun a ha => (hall a ha).1, hbelow⟩
    · refine List.forall_mem_cons.2 ⟨⟨hpq, hdef⟩, fun a ha => ?_⟩
      exact ⟨hpq.trans (hall a ha).1, (hall a ha).2⟩

/-- If no default comes up below itself, some depth is enough for each value. -/
theorem exists_settled (hm : v.model.Sound) (hno : ¬ v.DefaultRecurs) (hp : p.Proper v.model) :
    ∃ depth, (v.hold depth p).Settled := by
  by_contra hend
  let defaults := v.model.shapes.filterMap fun e =>
    e.traits.defaultValue.map fun d => (v.model.targetOf e, d)
  obtain ⟨chain, hlen, hbelow, hall⟩ :=
    exists_defaults_of_endless hm hp (not_exists.1 hend) (defaults.length + 1)
  -- there are more of them than defaults, and so one is there twice
  have hnodup : (chain.map fun a => (a.shape, a.value)).Nodup := by
    refine List.pairwise_map.2 (hbelow.imp_of_mem fun {a b} ha _ hab heq => hno ?_)
    obtain ⟨hs, hv⟩ := Prod.mk.inj heq
    exact ⟨a, b, (hall a ha).2, hab, hs.symm, hv.symm⟩
  have hsub : (chain.map fun a => (a.shape, a.value)) ⊆ defaults := by
    intro x hx
    obtain ⟨a, ha, rfl⟩ := List.mem_map.1 hx
    obtain ⟨e, he, hs, hd⟩ := (hall a ha).2
    exact List.mem_filterMap.2 ⟨e, he, by rw [hd, hs, Option.map_some]⟩
  have hle := (List.subperm_of_subset hnodup hsub).length_le
  rw [List.length_map, hlen] at hle
  exact absurd hle (Nat.not_succ_le_self _)

/-- A default comes up again below itself exactly when the evaluation of some default has no
end. -/
theorem defaultRecurs_iff (hm : v.model.Sound) : v.DefaultRecurs ↔
    ∃ e ∈ v.model.shapes, ∃ d, e.traits.defaultValue = some d ∧
      (v.validate e d "").outcome = .error .endless := by
  constructor
  · rintro ⟨p, q, ⟨e, he, hshape, hd⟩, hpq, hs, hv⟩
    have hp := Model.IsDefault.proper hm ⟨e, he, hshape, hd⟩
    refine ⟨e, he, p.value, hd, ?_⟩
    by_contra hne
    obtain ⟨depth, h⟩ := (ends_iff hm he hp.value).2 hne
    have hsettled : (v.within depth e p.value "").Settled := h 0
    rw [← Verdict.settled_forget_iff, forget_within] at hsettled
    have hsame : (v.hold depth p).Settled ↔ (v.hold depth (v.model.spot e p.value "")).Settled :=
      settled_congr hm hp hshape rfl
    exact endless_of_transGen hm hp hpq hs hv depth (hsame.2 hsettled)
  · rintro ⟨e, he, d, hd, hout⟩
    by_contra hno
    have hdistinct := (hm.tidy e he).default _ hd
    obtain ⟨depth, h⟩ := exists_settled hm hno (proper_spot hm he hdistinct "")
    exact (ends_iff hm he hdistinct).1 (ends_of_settled hm he hdistinct h) hout

end Validator

/-! ### A chest -/

/-- A doll is painted, and may have a doll inside. -/
def dollShape : Shape :=
  ⟨⟨"a", "Doll", none⟩, .struct [⟨"a", "Doll", some "inner"⟩, ⟨"a", "Doll", some "paint"⟩], []⟩

/-- The paint of a doll is red unless it says otherwise. -/
def paintMember : Shape :=
  ⟨⟨"a", "Doll", some "paint"⟩, .member Prelude.stringId,
    [(Trait.defaultId, .default (.str "red"))]⟩

/-- A chest has a doll. -/
def chestShape : Shape := ⟨⟨"a", "Chest", none⟩, .struct [⟨"a", "Chest", some "doll"⟩], []⟩

/-- The doll of a chest has another one inside unless it is given. -/
def chestMember : Shape :=
  ⟨⟨"a", "Chest", some "doll"⟩, .member dollShape.id,
    [(Trait.defaultId, .default (.obj [("inner", .obj [])]))]⟩

/-- The model of these shapes. Dolls hold dolls, but no doll is the default of itself. -/
def Model.chest : Model := ⟨[chestShape, chestMember, dollShape,
  ⟨⟨"a", "Doll", some "inner"⟩, .member dollShape.id, []⟩, paintMember] ++ bare.shapes⟩

/-- The document of that model. -/
def chestSource : String := "[\"2\",\x7b" ++
  "\"a#Doll\":[\"structure\",\x7b\"inner\":[\"a#Doll\"]," ++
    "\"paint\":[\"smithy.api#String\",\x7b\"smithy.api#default\":\"red\"\x7d]\x7d]," ++
  "\"a#Chest\":[\"structure\",\x7b\"doll\":[\"a#Doll\"," ++
    "\x7b\"smithy.api#default\":\x7b\"inner\":\x7b\x7d\x7d\x7d]\x7d]\x7d]"

theorem Model.assembled_chest : chest.Assembled := by
  refine assembled_of_list chestSource (by
    delta chestSource
    repeat rw [String.toList_append]
    repeat rw [String.toList_ofList]
    rfl) ?_ (by decide)
  decide +kernel

/-- The symbols of the model on a server. -/
def Symbols.chest : Symbols := ⟨.chest, Placeholder.service, .server true, []⟩

/-- What is built of nothing. -/
def fullChest : Json := .obj [("doll",
  .obj [("inner", .obj [("paint", .str "red")]), ("paint", .str "red")])]

namespace Validator

/-- The evaluations of both defaults end. -/
theorem not_defaultRecurs_chest : ¬ (⟨.chest, []⟩ : Validator).DefaultRecurs := by
  rw [defaultRecurs_iff (Model.sound_of_assembled Model.assembled_chest)]
  rintro ⟨e, he, d, hd, hout⟩
  have hdefaults : ∀ e ∈ Model.chest.shapes, ∀ d ∈ e.traits.defaultValue,
      ((⟨.chest, []⟩ : Validator).validate e d "").outcome ≠ .error .endless := by
    decide +kernel
  exact hdefaults e he d hd hout

/-! ### Models -/

/-- All evaluations of a model end, and all builds do, exactly when no default comes up below
itself. The depth that is never exceeded is `Validator.depthBound`. -/
theorem evaluations_end_iff {m : Model} (hm : m.Assembled) {v : Validator}
    (hv : ofModel m = .ok v) :
    ((∀ s ∈ m.shapes, ∀ value : Json, value.Distinct → ∀ path, v.Ends s value path ∧
        (v.validate s value path).outcome ≠ .error .endless) ∧
      ∀ (y : Symbols) (p : Protocol), y.model = m → ∀ s ∈ m.shapes, ∀ a,
        y.artifact p s = .ok a → ∀ given, (Json.obj given).Distinct →
          a.build v given ≠ .error (.misfit .endless)) ↔
    ¬ v.DefaultRecurs := by
  obtain ⟨rfl, -⟩ := of_ofModel hv
  have hm := Model.sound_of_assembled hm
  constructor
  · rintro ⟨hends, -⟩ hrecurs
    obtain ⟨e, he, d, hd, hout⟩ := (defaultRecurs_iff hm).1 hrecurs
    exact (hends e he d ((hm.tidy e he).default _ hd) "").2 hout
  · intro hno
    constructor
    · intro s hs value hd path
      obtain ⟨depth, h⟩ := exists_settled hm hno (proper_spot hm hs hd path)
      have hends := ends_of_settled hm hs hd h
      exact ⟨hends, (ends_iff hm hs hd).1 hends⟩
    -- a build does what an evaluation of the structure does below its top
    · intro y p hy s hs a ha given hgiven hbuild
      obtain ⟨hstruct, hfields, -⟩ := Symbols.of_artifact ha
      rw [hy] at hfields
      obtain ⟨name, hname⟩ | ⟨step, q, hpart, he⟩ :=
        Artifact.of_build_misfit hm hs hstruct hfields hgiven hbuild
      · cases hname
      · have hp : Spot.Proper v.model ⟨s, .obj given, ""⟩ := ⟨hs, hgiven⟩
        have hq := hp.part hm hpart
        obtain ⟨depth, h⟩ := exists_settled hm hno hq
        exact settled_depthBound hm hq h he

/-- All evaluations of the model with the chest end, those of dolls within dolls included, and so do
all builds of chests. What is built of nothing is a chest with a doll within a doll, both of them
red. -/
theorem evaluations_end_chest :
    (∀ s ∈ Model.chest.shapes, ∀ value : Json, value.Distinct → ∀ path,
      (⟨.chest, []⟩ : Validator).Ends s value path) ∧
    ∃ a, Symbols.chest.artifact Placeholder.protocol chestShape = .ok a ∧
      (∀ given, (Json.obj given).Distinct →
        a.build ⟨.chest, []⟩ given ≠ .error (.misfit .endless)) ∧
      a.build ⟨.chest, []⟩ [] = .ok fullChest := by
  have hv : ofModel .chest = .ok ⟨.chest, []⟩ := ofModel_of_pattern_eq_none (by decide)
  have hbuild : (Symbols.chest.artifact Placeholder.protocol chestShape).map
      (fun a => a.build ⟨.chest, []⟩ []) = .ok (.ok fullChest) := by
    decide +kernel
  obtain ⟨a, ha, hbuild⟩ := Except.map_eq_ok_iff.1 hbuild
  obtain ⟨hends, hbuilds⟩ :=
    (evaluations_end_iff Model.assembled_chest hv).2 not_defaultRecurs_chest
  exact ⟨fun s hs value hd path => (hends s hs value hd path).1, a, ha,
    hbuilds _ _ rfl chestShape (by decide) a ha, hbuild⟩

end Validator

/-! ### A default without an end -/

/-- A structure with one member, whose values are structures of the same kind. -/
def nestShape : Shape := ⟨⟨"a", "N", none⟩, .struct [⟨"a", "N", some "n"⟩], []⟩

/-- The model of that structure. The member takes the empty structure by default. -/
def Model.nest : Model := ⟨[nestShape,
  ⟨⟨"a", "N", some "n"⟩, .member ⟨"a", "N", none⟩, [(Trait.defaultId, .default (.obj []))]⟩] ++
    bare.shapes⟩

/-- The document of that model. -/
def nestSource : String := "[\"2\",\x7b\"a#N\":[\"structure\",\x7b\"n\":[\"a#N\"," ++
  "\x7b\"smithy.api#default\":\x7b\x7d\x7d]\x7d]\x7d]"

theorem Model.assembled_nest : nest.Assembled := by
  refine assembled_of_list nestSource (by
    delta nestSource
    repeat rw [String.toList_append]
    repeat rw [String.toList_ofList]
    rfl) ?_ (by decide)
  decide +kernel

/-- A model can be assembled and accepted, and the evaluation of an empty structure in it goes
deeper than any depth. -/
theorem exists_accepted_endless : ∃ (m : Model) (v : Validator) (service s : Shape),
    m.Assembled ∧ m.accept service false = .ok () ∧ Validator.ofModel m = .ok v ∧ s ∈ m.shapes ∧
      s.isStruct = true ∧ ¬ v.Ends s (.obj []) "" := by
  have hv : Validator.ofModel .nest = .ok ⟨.nest, []⟩ :=
    Validator.ofModel_of_pattern_eq_none (by decide)
  have haccept : Model.nest.accept ⟨⟨"test", "Service", none⟩, .service "" [], []⟩ false =
      .ok () := by decide
  have hs : nestShape ∈ Model.nest.shapes := List.mem_cons_self
  have hendless : ((⟨.nest, []⟩ : Validator).validate nestShape (.obj []) "").outcome =
      .error .endless := by decide +kernel
  refine ⟨.nest, ⟨.nest, []⟩, _, nestShape, Model.assembled_nest, haccept, hv, hs, rfl, ?_⟩
  have hsound := Model.sound_of_assembled Model.assembled_nest
  rw [Validator.ends_iff hsound hs (by decide)]
  exact fun hne => hne hendless

end Shapesmith
