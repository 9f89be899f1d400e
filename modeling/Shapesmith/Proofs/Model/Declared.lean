import Shapesmith.Model.Document
import Shapesmith.Proofs.Json.Distinct
import Shapesmith.Proofs.Json.Record

/-!
# What a document can declare

Whatever a document says, the declarations that are read from it are tidy: members have distinct
names, and the values of traits give each key once.

* `Declaration.Tidy` is this property;
* `Document.tidy_of_ofText` : the declarations of a document have it.

Reading is a chain of loops that add to what was read before, so each loop has one lemma saying that
it keeps the property.
-/

namespace Shapesmith

/-- The values of traits give each key once. -/
def DistinctTraits (traits : Table String Json) : Prop := ∀ e ∈ traits, e.2.Distinct

/-- Members have distinct names, and the values of their traits give each key once. -/
def TidyMembers (members : Table String MemberDeclaration) : Prop :=
  members.keys.Nodup ∧ ∀ e ∈ members, DistinctTraits e.2.traits

namespace Declaration

open Json

/-- Members have distinct names, and the values of all traits give each key once. -/
def Tidy : Declaration → Prop
  | .simple _ traits | .operation _ _ _ traits | .service _ _ traits => DistinctTraits traits
  | .list member traits => DistinctTraits member.traits ∧ DistinctTraits traits
  | .map key value traits =>
    DistinctTraits key.traits ∧ DistinctTraits value.traits ∧ DistinctTraits traits
  | .struct members traits | .union members traits => TidyMembers members ∧ DistinctTraits traits

theorem distinctTraits_of_readTraits {j : Json} {traits : Table String Json}
    (h : readTraits j = .ok traits) : DistinctTraits traits := by
  intro e he
  obtain ⟨x, hx⟩ := (table_of_asTable h).2 e he
  rw [← Except.ok.inj hx]
  exact distinct_unique x

theorem distinctTraits_of_readMember {j : Json} {m : MemberDeclaration}
    (h : readMember j = .ok m) : DistinctTraits m.traits := by
  obtain ⟨s, hs, rfl⟩ := Except.map_eq_ok_iff.1 h
  refine Record.read_induct (P := fun s => DistinctTraits s.2) (by simp [memberRecord,
    DistinctTraits]) ?_ hs
  intro s hs field j s' h
  simp only [memberRecord] at h
  split at h
  · obtain ⟨t, -, rfl⟩ := Except.map_eq_ok_iff.1 h
    exact hs
  · obtain ⟨ts, hts, rfl⟩ := Except.map_eq_ok_iff.1 h
    exact distinctTraits_of_readTraits hts

/-- The parts that a declaration is made of are tidy. -/
structure Parts.Tidy (p : Parts) : Prop where
  /-- The traits of the first member. -/
  first : ∀ m ∈ p.first, DistinctTraits m.traits
  /-- The traits of the second member. -/
  second : ∀ m ∈ p.second, DistinctTraits m.traits
  /-- The members. -/
  members : TidyMembers p.members
  /-- The traits. -/
  traits : DistinctTraits p.traits

theorem Parts.Tidy.set {p p' : Parts} (hp : p.Tidy) {field : String} {j : Json}
    (h : p.set field j = .ok p') : p'.Tidy := by
  unfold Parts.set at h
  split at h
  · obtain ⟨m, hm, rfl⟩ := Except.map_eq_ok_iff.1 h
    refine { hp with first := fun m' hm' => ?_ }
    obtain rfl := Option.some.inj hm'
    exact distinctTraits_of_readMember hm
  split at h
  · obtain ⟨m, hm, rfl⟩ := Except.map_eq_ok_iff.1 h
    refine { hp with second := fun m' hm' => ?_ }
    obtain rfl := Option.some.inj hm'
    exact distinctTraits_of_readMember hm
  split at h
  · obtain ⟨ms, hms, rfl⟩ := Except.map_eq_ok_iff.1 h
    obtain ⟨hnodup, hread⟩ := table_of_asTable hms
    refine { hp with members := ⟨hnodup, fun e he => ?_⟩ }
    obtain ⟨x, hx⟩ := hread e he
    exact distinctTraits_of_readMember hx
  split at h
  · obtain ⟨t, -, rfl⟩ := Except.map_eq_ok_iff.1 h
    exact { hp with }
  split at h
  · obtain ⟨t, -, rfl⟩ := Except.map_eq_ok_iff.1 h
    exact { hp with }
  split at h
  · obtain ⟨ts, -, rfl⟩ := Except.map_eq_ok_iff.1 h
    exact { hp with }
  split at h
  · obtain ⟨v, -, rfl⟩ := Except.map_eq_ok_iff.1 h
    exact { hp with }
  · obtain ⟨ts, hts, rfl⟩ := Except.map_eq_ok_iff.1 h
    exact { hp with traits := distinctTraits_of_readTraits hts }

theorem tidy_ofParts {p : Parts} (hp : p.Tidy) (type : String) : (ofParts type p).Tidy := by
  have hnone : DistinctTraits ([] : Table String Json) := by simp [DistinctTraits]
  have hfirst : DistinctTraits (p.first.getD ⟨"", []⟩).traits := by
    cases h : p.first with
    | none => exact hnone
    | some m => exact hp.first m h
  have hsecond : DistinctTraits (p.second.getD ⟨"", []⟩).traits := by
    cases h : p.second with
    | none => exact hnone
    | some m => exact hp.second m h
  unfold ofParts
  split
  · exact hp.traits
  split
  · exact ⟨hfirst, hp.traits⟩
  split
  · exact ⟨hfirst, hsecond, hp.traits⟩
  split
  · exact ⟨hp.members, hp.traits⟩
  split
  · exact ⟨hp.members, hp.traits⟩
  split
  · exact hp.traits
  · exact hp.traits

theorem tidy_of_ofContent {type : String} {content : Json} {d : Declaration}
    (h : ofContent type content = .ok d) : d.Tidy := by
  unfold ofContent at h
  split at h
  · rename_i p hp
    cases h
    refine tidy_ofParts (Record.read_induct (P := Parts.Tidy) ?_ ?_ hp) type
    · have hstart : (formOf type).start = {} := by
        unfold formOf
        split_ifs <;> rfl
      rw [hstart]
      exact ⟨by simp, by simp, ⟨List.nodup_nil, by simp⟩, by simp [DistinctTraits]⟩
    · intro s hs field j s' h
      have hset : (formOf type).set s field j = s.set field j := by
        unfold formOf
        split_ifs <;> rfl
      exact hs.set (hset ▸ h)
  · cases h

/-! ### Loops -/

theorem tidy_of_readObject {fuel depth : Nat} {first : Bool} {type : Option String}
    {done : List (String × Json)} {text : List Char} {out : Declaration × List Char}
    (h : readObject fuel depth first type done text = .ok out) : out.1.Tidy := by
  induction fuel generalizing first type done text with
  | zero => cases h
  | succ fuel ih =>
    rw [readObject] at h
    obtain ⟨⟨key, rest⟩, -, h⟩ := Except.bind_eq_ok_iff.1 h
    cases key with
    | none =>
      cases type with
      | none => cases h
      | some type =>
        obtain ⟨d, hd, h⟩ := Except.bind_eq_ok_iff.1 h
        cases h
        exact tidy_of_ofContent hd
    | some key =>
      dsimp only at h
      split at h
      · split at h
        · cases h
        · obtain ⟨-, -, h⟩ := Except.bind_eq_ok_iff.1 h
          obtain ⟨rest', -, h⟩ := Except.bind_eq_ok_iff.1 h
          obtain ⟨⟨word, rest''⟩, -, h⟩ := Except.bind_eq_ok_iff.1 h
          exact ih h
      · obtain ⟨rest', -, h⟩ := Except.bind_eq_ok_iff.1 h
        obtain ⟨⟨value, rest''⟩, -, h⟩ := Except.bind_eq_ok_iff.1 h
        exact ih h

theorem tidy_of_read {depth : Nat} {text : List Char} {out : Declaration × List Char}
    (h : Declaration.read depth text = .ok out) : out.1.Tidy := by
  unfold Declaration.read at h
  split at h
  · split at h
    · cases h
    · exact tidy_of_readObject h
  · split at h
    · cases h
    · obtain ⟨⟨more, rest⟩, -, h⟩ := Except.bind_eq_ok_iff.1 h
      dsimp only at h
      split at h
      · cases h
      · obtain ⟨-, -, h⟩ := Except.bind_eq_ok_iff.1 h
        obtain ⟨⟨word, rest'⟩, -, h⟩ := Except.bind_eq_ok_iff.1 h
        obtain ⟨⟨content, rest''⟩, -, h⟩ := Except.bind_eq_ok_iff.1 h
        obtain ⟨d, hd, h⟩ := Except.bind_eq_ok_iff.1 h
        cases h
        exact tidy_of_ofContent hd
  · exact absurd h (refuseNext_ne_ok _ _ _)

/-- Declarations that are read are tidy if those read before are. -/
theorem tidy_of_readAll {fuel depth : Nat} {first : Bool} {done : Table String Declaration}
    {text : List Char} {out : Table String Declaration × List Char}
    (hdone : ∀ e ∈ done, e.2.Tidy) (h : readAll fuel depth first done text = .ok out) :
    ∀ e ∈ out.1, e.2.Tidy := by
  induction fuel generalizing first done text with
  | zero => cases h
  | succ fuel ih =>
    rw [readAll] at h
    obtain ⟨⟨key, rest⟩, -, h⟩ := Except.bind_eq_ok_iff.1 h
    cases key with
    | none =>
      cases h
      exact hdone
    | some key =>
      obtain ⟨rest', -, h⟩ := Except.bind_eq_ok_iff.1 h
      obtain ⟨⟨d, rest''⟩, hd, h⟩ := Except.bind_eq_ok_iff.1 h
      refine ih (fun e he => ?_) h
      rcases Table.mem_put he with he | rfl
      · exact hdone e he
      · exact tidy_of_read (under_eq_ok_iff.1 hd)

end Declaration

namespace Document

open Json

theorem tidy_of_readShapes {depth : Nat} {text : List Char}
    {out : Table String Declaration × List Char} (h : readShapes depth text = .ok out) :
    ∀ e ∈ out.1, e.2.Tidy := by
  unfold readShapes at h
  split at h
  · exact Declaration.tidy_of_readAll (by simp) h
  · exact absurd h (refuseNext_ne_ok _ _ _)

theorem tidy_of_readMembers {fuel depth : Nat} {first : Bool} {version : Option String}
    {shapes : Option (Table String Declaration)} {text : List Char} {d : Document}
    (hshapes : ∀ ds ∈ shapes, ∀ e ∈ ds, e.2.Tidy)
    (h : readMembers fuel depth first version shapes text = .ok d) :
    ∀ e ∈ d.shapes, e.2.Tidy := by
  induction fuel generalizing first version shapes text with
  | zero => cases h
  | succ fuel ih =>
    simp only [readMembers] at h
    obtain ⟨⟨key, rest⟩, -, h⟩ := Except.bind_eq_ok_iff.1 h
    cases key with
    | none =>
      cases version with
      | none => cases h
      | some version =>
        cases h
        cases shapes with
        | none => simp
        | some ds => exact hshapes ds rfl
    | some key =>
      dsimp only at h
      split at h
      · split at h
        · cases h
        · obtain ⟨-, -, h⟩ := Except.bind_eq_ok_iff.1 h
          obtain ⟨rest', -, h⟩ := Except.bind_eq_ok_iff.1 h
          obtain ⟨⟨v, rest''⟩, -, h⟩ := Except.bind_eq_ok_iff.1 h
          exact ih hshapes h
      split at h
      · split at h
        · cases h
        · obtain ⟨-, -, h⟩ := Except.bind_eq_ok_iff.1 h
          obtain ⟨rest', -, h⟩ := Except.bind_eq_ok_iff.1 h
          obtain ⟨⟨ds, rest''⟩, hds, h⟩ := Except.bind_eq_ok_iff.1 h
          refine ih (fun ds' hds' => ?_) h
          obtain rfl := Option.some.inj hds'
          exact tidy_of_readShapes (under_eq_ok_iff.1 hds)
      · obtain ⟨rest', -, h⟩ := Except.bind_eq_ok_iff.1 h
        obtain ⟨⟨_, rest''⟩, -, h⟩ := Except.bind_eq_ok_iff.1 h
        exact ih hshapes h

theorem tidy_of_readList {depth : Nat} {text : List Char} {d : Document}
    (h : readList depth text = .ok d) : ∀ e ∈ d.shapes, e.2.Tidy := by
  unfold readList at h
  obtain ⟨⟨more, rest⟩, -, h⟩ := Except.bind_eq_ok_iff.1 h
  dsimp only at h
  split at h
  · cases h
  · obtain ⟨-, -, h⟩ := Except.bind_eq_ok_iff.1 h
    obtain ⟨⟨version, rest'⟩, -, h⟩ := Except.bind_eq_ok_iff.1 h
    obtain ⟨⟨more', rest''⟩, -, h⟩ := Except.bind_eq_ok_iff.1 h
    dsimp only at h
    split at h
    · cases h
      simp
    · obtain ⟨⟨ds, rest₃⟩, hds, h⟩ := Except.bind_eq_ok_iff.1 h
      obtain ⟨-, -, h⟩ := Except.bind_eq_ok_iff.1 h
      cases h
      exact tidy_of_readShapes (under_eq_ok_iff.1 hds)

/-- The declarations of a document are tidy. -/
theorem tidy_of_ofText {source : String} {d : Document} (h : ofText source = .ok d) :
    ∀ e ∈ d.shapes, e.2.Tidy := by
  unfold ofText at h
  dsimp only at h
  split at h
  · exact tidy_of_readMembers (by simp) h
  · exact tidy_of_readList h
  · exact absurd h (refuseNext_ne_ok _ _ _)

end Document

end Shapesmith
