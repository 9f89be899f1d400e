import Mathlib.Data.String.Basic
import Shapesmith.Failure

/-!
# How ids are spelled

An id is spelled as identifiers with dots between them, `#`, an identifier, and perhaps `$` and one
more identifier. Members can also be given names that are no identifiers; their ids can be written
like others, but are not read back.

* `ShapeId.Identifier`, `ShapeId.Dotted` and `ShapeId.Spelling` are the grammar of ids;
* `ShapeId.parse?_eq_some_iff` : reading finds the one id that has a text, if its parts are spelled
  after the grammar;
* `ShapeId.Rooted` says this of namespace and name alone. It is kept when members are named or left
  out (`ShapeId.Obtained.rooted`), and is enough to tell ids apart by their texts
  (`ShapeId.Rooted.eq_of_text_eq`);
* `ShapeId.read_spelling` puts this together.
-/

namespace Shapesmith.ShapeId

/-! ### The grammar -/

/-- The text is an identifier: a letter of ASCII or an underscore, and after it letters, digits and
underscores. -/
def Identifier (text : String) : Prop :=
  ∃ c rest, text.toList = c :: rest ∧ (c.isAlpha = true ∨ c = '_') ∧
    ∀ d ∈ rest, d.isAlphanum = true ∨ d = '_'

/-- The text is one or more identifiers with dots between them. -/
def Dotted (text : String) : Prop :=
  ∃ parts : List String, parts ≠ [] ∧ (∀ p ∈ parts, Identifier p) ∧ text = ".".intercalate parts

/-- The texts that spell ids. -/
inductive Spelling : String → Prop
  /-- The id of a shape. -/
  | shape {space name : String} (hs : Dotted space) (hn : Identifier name) :
    Spelling (space ++ "#" ++ name)
  /-- The id of a member. -/
  | member {space name member : String} (hs : Dotted space) (hn : Identifier name)
    (hm : Identifier member) : Spelling (space ++ "#" ++ name ++ "$" ++ member)

/-- Namespace and name are spelled after the grammar. The member can be any text. -/
structure Rooted (id : ShapeId) : Prop where
  /-- The namespace. -/
  space : Dotted id.space
  /-- The name. -/
  name : Identifier id.name

/-- The ids that come of reading texts, and of naming members and leaving them out. -/
inductive Obtained : ShapeId → Prop
  /-- An id that has been read. -/
  | read {text : String} {id : ShapeId} (h : read text = .ok id) : Obtained id
  /-- The id of a member, whatever its name. -/
  | withMember {id : ShapeId} (h : Obtained id) (member : String) : Obtained (id.withMember member)
  /-- The id of the shape that a member belongs to. -/
  | withoutMember {id : ShapeId} (h : Obtained id) : Obtained id.withoutMember

/-! ### Identifiers -/

theorem isIdentifier_iff {text : String} : isIdentifier text.toList = true ↔ Identifier text := by
  unfold isIdentifier Identifier
  cases text.toList with
  | nil => simp
  | cons c rest => simp [isHead, isTail]

theorem isIdentifier_iff_ofList {text : List Char} :
    isIdentifier text = true ↔ Identifier (String.ofList text) := by
  rw [← isIdentifier_iff, String.toList_ofList]

/-- Letters, digits and underscores come after `-` in the order of characters, and so after the
marks of ids. -/
theorem lt_of_isTail {c : Char} (h : c.isAlphanum = true ∨ c = '_') : '.' < c := by
  rcases h with h | rfl
  · delta Char.isAlphanum Char.isAlpha Char.isUpper Char.isLower Char.isDigit at h
    simp only [Bool.or_eq_true, Bool.and_eq_true, decide_eq_true_eq,
      UInt32.le_iff_toNat_le] at h
    show '.'.val < c.val
    rw [UInt32.lt_iff_toNat_lt]
    have hdot : '.'.val.toNat = 46 := rfl
    have hupper : 'A'.val.toNat = 65 := rfl
    have hlower : 'a'.val.toNat = 97 := rfl
    have hdigit : '0'.val.toNat = 48 := rfl
    omega
  · decide

theorem Identifier.dot_lt {text : String} (h : Identifier text) {c : Char} (hc : c ∈ text.toList) :
    '.' < c := by
  obtain ⟨d, rest, htext, hd, hrest⟩ := h
  rw [htext] at hc
  rcases List.mem_cons.1 hc with rfl | hc
  · refine lt_of_isTail (hd.imp_left fun halpha => ?_)
    rw [Char.isAlphanum, halpha, Bool.true_or]
  · exact lt_of_isTail (hrest c hc)

theorem Identifier.not_mem {text : String} (h : Identifier text) {mark : Char} (hm : mark ≤ '.') :
    mark ∉ text.toList := fun hc => absurd (h.dot_lt hc) (Char.not_lt.2 hm)

/-! ### Namespaces -/

theorem pieces_eq_splitOn (mark : Char) (text : List Char) :
    pieces mark text = text.splitOn mark := by
  induction text with
  | nil => rfl
  | cons c text ih =>
    rw [pieces, List.splitOn_cons_eq_if_modifyHead, ih]
    by_cases hc : c = mark
    · simp [hc]
    · cases h : text.splitOn mark with
      | nil => exact absurd h (List.splitOn_ne_nil _ _)
      | cons p ps => simp [hc]

/-- A namespace is cut at its dots into identifiers. -/
theorem isNamespace_iff {text : String} : isNamespace text.toList = true ↔ Dotted text := by
  rw [isNamespace, List.all_eq_true, pieces_eq_splitOn]
  constructor
  · intro h
    refine ⟨(text.toList.splitOn '.').map String.ofList, ?_, ?_, ?_⟩
    · simp
    · intro p hp
      obtain ⟨q, hq, rfl⟩ := List.mem_map.1 hp
      exact isIdentifier_iff_ofList.1 (h q hq)
    · apply String.toList_injective
      have hparts : ((text.toList.splitOn '.').map String.ofList).map String.toList =
          text.toList.splitOn '.' := by simp [Function.comp_def]
      rw [String.toList_intercalate, hparts]
      exact (List.intercalate_splitOn '.').symm
  · rintro ⟨parts, hne, hparts, rfl⟩ q hq
    have hsplit : (".".intercalate parts).toList.splitOn '.' = parts.map String.toList := by
      rw [String.toList_intercalate]
      refine List.splitOn_intercalate '.' (fun q hq => ?_) (by simpa using hne)
      obtain ⟨p, hp, rfl⟩ := List.mem_map.1 hq
      exact (hparts p hp).not_mem (by decide)
    rw [hsplit] at hq
    obtain ⟨p, hp, rfl⟩ := List.mem_map.1 hq
    exact isIdentifier_iff.2 (hparts p hp)

theorem dot_le_of_mem_intercalate {parts : List String} (h : ∀ p ∈ parts, Identifier p) {c : Char}
    (hc : c ∈ (".".intercalate parts).toList) : '.' ≤ c := by
  induction parts with
  | nil => simp at hc
  | cons p parts ih =>
    have hp : c ∈ p.toList → '.' ≤ c := fun hc => le_of_lt ((h p List.mem_cons_self).dot_lt hc)
    by_cases hne : parts = []
    · subst hne
      rw [String.intercalate_singleton] at hc
      exact hp hc
    · rw [String.intercalate_cons_of_ne_nil hne, String.toList_append, String.toList_append,
        List.mem_append, List.mem_append] at hc
      rcases hc with (hc | hc) | hc
      · exact hp hc
      · have hdot : c = '.' := by simpa using hc
        exact le_of_eq hdot.symm
      · exact ih (fun q hq => h q (List.mem_cons_of_mem _ hq)) hc

/-- A namespace has no character that comes before the dot, and so none of the marks behind it. -/
theorem Dotted.dot_le {text : String} (h : Dotted text) {c : Char} (hc : c ∈ text.toList) :
    '.' ≤ c := by
  obtain ⟨parts, -, hparts, rfl⟩ := h
  exact dot_le_of_mem_intercalate hparts hc

theorem Dotted.not_mem {text : String} (h : Dotted text) {mark : Char} (hm : mark < '.') :
    mark ∉ text.toList := fun hc => absurd (h.dot_le hc) (Char.not_le.2 hm)

/-! ### Cutting -/

theorem cut?_eq_none_iff {mark : Char} {text : List Char} :
    cut? mark text = none ↔ mark ∉ text := by
  induction text with
  | nil => simp [cut?]
  | cons c text ih =>
    by_cases hc : c = mark
    · simp [cut?, hc]
    · simp [cut?, hc, ih, Ne.symm hc]

/-- A text is cut at the first mark. -/
theorem cut?_eq_some_iff {mark : Char} {text a b : List Char} :
    cut? mark text = some (a, b) ↔ mark ∉ a ∧ text = a ++ mark :: b := by
  induction text generalizing a with
  | nil => simp [cut?]
  | cons c text ih =>
    by_cases hc : c = mark
    · cases a with
      | nil => simp [cut?, hc]
      | cons d a =>
        simp only [cut?, hc, if_true, List.cons_append, List.cons.injEq, List.mem_cons, not_or]
        constructor
        · intro h
          cases h
        · rintro ⟨⟨hd, -⟩, rfl, -⟩
          exact absurd rfl hd
    · cases a with
      | nil => simp [cut?, hc]
      | cons d a =>
        have hstep : cut? mark (c :: text) = some (d :: a, b) ↔
            c = d ∧ cut? mark text = some (a, b) := by
          cases h : cut? mark text with
          | none => simp [cut?, hc, h]
          | some p => simp [cut?, hc, h, Prod.ext_iff, and_assoc]
        rw [hstep, ih, List.cons_append, List.cons.injEq, List.mem_cons, not_or]
        constructor
        · rintro ⟨rfl, ha, rfl⟩
          exact ⟨⟨Ne.symm hc, ha⟩, rfl, rfl⟩
        · rintro ⟨⟨-, ha⟩, rfl, rfl⟩
          exact ⟨rfl, ha, rfl⟩

/-- What is written behind the name of a shape. -/
def behindName : Option (List Char) → List Char
  | none => []
  | some member => '$' :: member

/-- Name and member are told apart by the first `$`. -/
theorem splitMember_eq_iff {text name : List Char} {member : Option (List Char)} :
    splitMember text = (name, member) ↔ '$' ∉ name ∧ text = name ++ behindName member := by
  unfold splitMember
  cases h : cut? '$' text with
  | none =>
    rw [cut?_eq_none_iff] at h
    cases member with
    | none =>
      simp only [Prod.mk.injEq, and_true, behindName, List.append_nil]
      constructor
      · rintro rfl
        exact ⟨h, rfl⟩
      · rintro ⟨-, rfl⟩
        rfl
    | some member =>
      simp only [Prod.mk.injEq, reduceCtorEq, and_false, behindName, false_iff, not_and]
      rintro - rfl
      exact h (by simp)
  | some p =>
    obtain ⟨name', member'⟩ := p
    cases member with
    | none =>
      obtain ⟨-, rfl⟩ := cut?_eq_some_iff.1 h
      simp only [Prod.mk.injEq, reduceCtorEq, and_false, behindName, List.append_nil, false_iff,
        not_and]
      rintro hname rfl
      exact hname (by simp)
    | some member =>
      rw [behindName, ← cut?_eq_some_iff, h]
      simp

/-! ### Reading -/

theorem toList_text (id : ShapeId) : id.text.toList =
    id.space.toList ++ '#' :: (id.name.toList ++ behindName (id.member.map String.toList)) := by
  unfold text
  cases id.member with
  | none => simp [behindName]
  | some m => simp [behindName]

/-- An id whose namespace and name hold no marks is found in its text again, whatever its member. -/
theorem parts_of_text {id : ShapeId} (hs : '#' ∉ id.space.toList) (hn : '$' ∉ id.name.toList) :
    cut? '#' id.text.toList =
      some (id.space.toList, id.name.toList ++ behindName (id.member.map String.toList)) ∧
    splitMember (id.name.toList ++ behindName (id.member.map String.toList)) =
      (id.name.toList, id.member.map String.toList) :=
  ⟨cut?_eq_some_iff.2 ⟨hs, toList_text id⟩, splitMember_eq_iff.2 ⟨hn, rfl⟩⟩

/-- Reading finds the id that has the text, if all its parts are spelled after the grammar. -/
theorem parse?_eq_some_iff {text : String} {id : ShapeId} :
    parse? text = some id ↔ id.Rooted ∧ (∀ m ∈ id.member, Identifier m) ∧ id.text = text := by
  unfold parse?
  constructor
  · intro h
    split at h
    · cases h
    · rename_i space rest hcut
      obtain ⟨-, htext⟩ := cut?_eq_some_iff.1 hcut
      cases hsplit : splitMember rest with
      | mk name member =>
        obtain ⟨-, rfl⟩ := splitMember_eq_iff.1 hsplit
        simp only [hsplit] at h
        split at h
        · rename_i hgood
          cases h
          simp only [Bool.and_eq_true] at hgood
          obtain ⟨⟨hs, hn⟩, hm⟩ := hgood
          rw [← String.toList_ofList (l := space), isNamespace_iff] at hs
          refine ⟨⟨hs, isIdentifier_iff_ofList.1 hn⟩, ?_, ?_⟩
          · cases member with
            | none => simp
            | some m => simpa [isIdentifier_iff_ofList] using hm
          · apply String.toList_injective
            rw [toList_text, htext]
            cases member <;> simp
        · cases h
  · rintro ⟨⟨hs, hn⟩, hm, rfl⟩
    obtain ⟨hcut, hsplit⟩ := parts_of_text (hs.not_mem (by decide)) (hn.not_mem (by decide))
    have hmember : (id.member.map String.toList).all isIdentifier = true := by
      cases h : id.member with
      | none => rfl
      | some m => exact isIdentifier_iff.2 (hm m h)
    rw [hcut]
    simp only [hsplit, isNamespace_iff.2 hs, isIdentifier_iff.2 hn, hmember]
    simp [Function.comp_def]

/-- The texts that spell ids are those that are read. -/
theorem spelling_iff {text : String} : Spelling text ↔ ∃ id, parse? text = some id := by
  constructor
  · rintro (⟨hs, hn⟩ | ⟨hs, hn, hm⟩)
    · exact ⟨⟨_, _, none⟩, parse?_eq_some_iff.2 ⟨⟨hs, hn⟩, nofun, rfl⟩⟩
    · refine ⟨⟨_, _, some _⟩, parse?_eq_some_iff.2 ⟨⟨hs, hn⟩, fun m h => ?_, rfl⟩⟩
      cases h
      exact hm
  · rintro ⟨⟨space, name, member⟩, h⟩
    obtain ⟨⟨hs, hn⟩, hm, rfl⟩ := parse?_eq_some_iff.1 h
    cases member with
    | none => exact .shape hs hn
    | some m => exact .member hs hn (hm m rfl)

theorem read_eq_ok_iff {text : String} {id : ShapeId} :
    read text = .ok id ↔ parse? text = some id := by
  unfold read
  cases parse? text <;> simp

theorem read_of_not_spelling {text : String} (h : ¬ Spelling text) :
    read text = .error (.badShapeId text) := by
  rw [spelling_iff, not_exists] at h
  unfold read
  cases hparse : parse? text with
  | none => rfl
  | some id => exact absurd hparse (h id)

/-! ### Writing -/

/-- Ids are told apart by their texts, whatever texts are names of members. -/
theorem Rooted.eq_of_text_eq {a b : ShapeId} (ha : a.Rooted) (hb : b.Rooted)
    (h : a.text = b.text) : a = b := by
  obtain ⟨hcut, hsplit⟩ :=
    parts_of_text (ha.space.not_mem (by decide)) (ha.name.not_mem (by decide))
  obtain ⟨hcut', hsplit'⟩ :=
    parts_of_text (hb.space.not_mem (by decide)) (hb.name.not_mem (by decide))
  rw [h, hcut', Option.some.injEq, Prod.mk.injEq] at hcut
  obtain ⟨hspace, hrest⟩ := hcut
  rw [← hrest, hsplit', Prod.mk.injEq] at hsplit
  obtain ⟨hname, hmember⟩ := hsplit
  cases a
  cases b
  simp only [mk.injEq]
  exact ⟨(String.toList_injective hspace).symm, (String.toList_injective hname).symm,
    (Option.map_injective (fun _ _ => String.toList_injective) hmember).symm⟩

/-- Naming members and leaving them out touches neither namespace nor name. -/
theorem Obtained.rooted {id : ShapeId} (h : id.Obtained) : id.Rooted := by
  induction h with
  | read h => exact (parse?_eq_some_iff.1 (read_eq_ok_iff.1 h)).1
  | withMember _ member ih => exact ⟨ih.space, ih.name⟩
  | withoutMember _ ih => exact ⟨ih.space, ih.name⟩

/-- A text is read exactly when it spells an id, and the id that is read has this text; any other
text is refused. Ids that have been read, and those that come of them by naming members and leaving
them out, have texts of their own, and are read back from them exactly when the name of the member,
if there is one, is an identifier. -/
theorem read_spelling :
    (∀ text, (∃ id, read text = .ok id) ↔ Spelling text) ∧
    (∀ text, ¬ Spelling text → read text = .error (.badShapeId text)) ∧
    (∀ text id, read text = .ok id → id.text = text) ∧
    (∀ a b : ShapeId, a.Obtained → b.Obtained → a.text = b.text → a = b) ∧
    ∀ a : ShapeId, a.Obtained → (read a.text = .ok a ↔ ∀ m ∈ a.member, Identifier m) := by
  refine ⟨fun text => ?_, fun text => read_of_not_spelling, fun text id h => ?_,
    fun a b ha hb => ha.rooted.eq_of_text_eq hb.rooted, fun a ha => ?_⟩
  · simp only [read_eq_ok_iff, spelling_iff]
  · exact (parse?_eq_some_iff.1 (read_eq_ok_iff.1 h)).2.2
  · rw [read_eq_ok_iff, parse?_eq_some_iff]
    exact ⟨fun h => h.2.1, fun h => ⟨ha.rooted, h, rfl⟩⟩

/-- Cogs can have a member named `$`, whose id is not read back. -/
theorem read_spelling_cog :
    Spelling "a.b#Cog$tooth" ∧
    read "a..b#Cog" = .error (.badShapeId "a..b#Cog") ∧
    (∀ id, read "a.b#Cog$tooth" = .ok id → id.text = "a.b#Cog$tooth") ∧
    ∃ cog : ShapeId, cog.Obtained ∧ (cog.withMember "tooth").withoutMember = cog ∧
      read (cog.withMember "tooth").text = .ok (cog.withMember "tooth") ∧
      read (cog.withMember "$").text ≠ .ok (cog.withMember "$") := by
  obtain ⟨hspell, hrefuse, htext, heq, hback⟩ := read_spelling
  have hcog : read "a.b#Cog" = .ok ⟨"a.b", "Cog", none⟩ := rfl
  have hbad : ¬ Spelling "a..b#Cog" := by
    rw [← hspell]
    rintro ⟨id, h⟩
    cases h
  have hobtained : Obtained ⟨"a.b", "Cog", none⟩ := .read hcog
  refine ⟨(hspell _).1 ⟨_, rfl⟩, hrefuse _ hbad, htext _, _, hobtained, ?_, ?_, ?_⟩
  · exact heq _ _ (.withoutMember (hobtained.withMember "tooth")) hobtained rfl
  · rw [hback _ (hobtained.withMember "tooth")]
    rintro m ⟨⟩
    exact isIdentifier_iff.1 rfl
  · rw [Ne, hback _ (hobtained.withMember "$")]
    intro h
    have := isIdentifier_iff.2 (h "$" rfl)
    cases this

end Shapesmith.ShapeId
