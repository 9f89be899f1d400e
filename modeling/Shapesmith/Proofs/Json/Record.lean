import Shapesmith.Json.Record
import Shapesmith.Proofs.Sequence.Success
import Shapesmith.Proofs.Table.Keys

/-!
# What reading keeps

A value of a given form is read part by part, and a record field by field. What each part brings
about and no other undoes holds of all that has been read.

* `Json.table_of_asTable` : a table has distinct keys, and its values are what was read;
* `Json.Record.readObject_induct` and `Json.Record.readList_induct` : the invariants of the two ways
  of giving a record, with the fields that have been given or are left as part of them;
* `Json.Record.read_induct` : what every field keeps holds of each record that is read, and
  `Json.Record.read_required` : so does what a required field brings about;
* `Json.Record.read_obj` : an object that gives all fields is read by setting them in turn.
-/

namespace Shapesmith.Json

variable {σ α : Type}

theorem under_eq_ok_iff {step : Step} {r : Except Fault α} {a : α} :
    under step r = .ok a ↔ r = .ok a := by
  cases r <;> simp [under]

/-- What is read where null means nothing. -/
theorem asOption_eq_some {read : Json → Except Fault α} {j : Json} {a : α}
    (h : asOption read j = .ok (some a)) : j ≠ .null ∧ read j = .ok a := by
  cases j with
  | null => cases h
  | _ =>
    obtain ⟨b, hb, heq⟩ := Except.map_eq_ok_iff.1 h
    obtain rfl := Option.some.inj heq
    exact ⟨nofun, hb⟩

theorem asOption_optional (text : Option String) : asOption asText (optional text) = .ok text := by
  cases text <;> rfl

theorem asList_strings (texts : List String) : asList asText (strings texts) = .ok texts := by
  have heach (index : Nat) : readEach asText index (texts.map .str) = .ok texts := by
    induction texts generalizing index with
    | nil => rfl
    | cons text texts ih =>
      rw [List.map_cons, readEach, ih]
      rfl
  exact heach 0

/-! ### Tables -/

theorem exists_read_of_readMembersEach {read : Json → Except Fault α}
    {fields : List (String × Json)} {t : List (String × α)}
    (h : readMembersEach read fields = .ok t) {e : String × α} (he : e ∈ t) :
    ∃ j, read j = .ok e.2 := by
  induction fields generalizing t with
  | nil =>
    cases h
    cases he
  | cons f fields ih =>
    rw [readMembersEach] at h
    simp only [Except.bind_eq_ok_iff, under_eq_ok_iff, Except.pure_eq_ok_iff] at h
    obtain ⟨a, ha, as, has, rfl⟩ := h
    rcases List.mem_cons.1 he with rfl | he
    · exact ⟨f.2, ha⟩
    · exact ih has he

/-- A table has distinct keys, and its values are what was read. -/
theorem table_of_asTable {read : Json → Except Fault α} {j : Json} {t : Table String α}
    (h : asTable read j = .ok t) : t.keys.Nodup ∧ ∀ e ∈ t, ∃ x, read x = .ok e.2 := by
  unfold asTable at h
  split at h
  · obtain ⟨entries, hentries, rfl⟩ := Except.map_eq_ok_iff.1 h
    exact ⟨Table.nodup_keys_ofEntries entries, fun e he =>
      exists_read_of_readMembersEach hentries (Table.mem_of_mem_ofEntries he)⟩
  · cases h

namespace Record

variable {r : Record σ} {s out : σ} {surplus : Nat → String} {j : Json}

/-! ### The two ways of giving a record -/

/-- The members of an object keep an invariant of the record and of the fields given so far. -/
theorem readObject_induct {P : σ → List String → Prop}
    (hset : ∀ s seen, P s seen → ∀ field j s', r.set s field j = .ok s' → P s' (field :: seen))
    {members : List (String × Json)} {seen given : List String} (hs : P s seen)
    (h : r.readObject s seen members = .ok (out, given)) : P out given := by
  induction members generalizing s seen with
  | nil =>
    cases h
    exact hs
  | cons e members ih =>
    obtain ⟨key, j⟩ := e
    rw [readObject] at h
    split at h
    · split at h
      · cases h
      · simp only [Except.bind_eq_ok_iff, under_eq_ok_iff] at h
        obtain ⟨s', hs', hrest⟩ := h
        exact ih (hset s seen hs key j s' hs') hrest
    · exact ih hs h

/-- The items of a list keep an invariant of the record and of the fields that are left. Fields
that are required are not left out. -/
theorem readList_induct {P : σ → List String → Prop}
    (hset : ∀ s field left, P s (field :: left) → ∀ j s', r.set s field j = .ok s' → P s' left)
    (hskip : ∀ s field left, P s (field :: left) → field ∉ r.required → P s left)
    {left : List String} {items : List Json} {index : Nat} (hs : P s left)
    (h : r.readList s index left items = .ok out) : P out [] := by
  induction left generalizing items s index with
  | nil =>
    cases h
    exact hs
  | cons field left ih =>
    cases items with
    | nil =>
      rw [readList] at h
      split at h
      · cases h
      · rename_i hno
        exact ih (hskip s field left hs fun hreq => hno (List.contains_iff_mem.2 hreq)) h
    | cons j items =>
      simp only [readList, Except.bind_eq_ok_iff, under_eq_ok_iff] at h
      obtain ⟨s', hs', hrest⟩ := h
      exact ih (hset s field left hs j s' hs') hrest

/-- A record has been given as an object with all required fields, or as a list. -/
theorem of_read (h : r.read surplus j = .ok s) :
    (∃ members given, r.readObject r.start [] members = .ok (s, given) ∧
      ∀ field ∈ r.fields, field ∈ r.required → field ∈ given) ∨
    ∃ items, r.readList r.start 0 r.fields items = .ok s := by
  unfold read at h
  split at h
  · rename_i members
    obtain ⟨⟨out, given⟩, hout, h⟩ := Except.bind_eq_ok_iff.1 h
    dsimp only at h
    split at h
    · cases h
    · rename_i hnone
      cases h
      refine .inl ⟨members, given, hout, fun field hfield hreq => ?_⟩
      simpa [hreq] using List.find?_eq_none.1 hnone field hfield
  · rename_i items
    obtain ⟨out, hout, h⟩ := Except.bind_eq_ok_iff.1 h
    split at h
    · cases h
    · cases h
      exact .inr ⟨items, hout⟩
  · cases h

/-! ### What fields keep -/

/-- What holds of the empty record and is kept by every field holds of a record that was read. -/
theorem read_induct {P : σ → Prop} (hstart : P r.start)
    (hset : ∀ s, P s → ∀ field j s', r.set s field j = .ok s' → P s')
    (h : r.read surplus j = .ok s) : P s := by
  obtain ⟨members, given, h, -⟩ | ⟨items, h⟩ := of_read h
  · exact readObject_induct (P := fun s _ => P s) (fun s _ => hset s) hstart h
  · exact readList_induct (P := fun s _ => P s) (fun s field _ hs => hset s hs field)
      (fun _ _ _ hs _ => hs) hstart h

/-- What setting a required field brings about, and no field undoes, holds of each record that is
read. -/
theorem read_required {Q : σ → Prop} {field : String} (hfield : field ∈ r.fields)
    (hreq : field ∈ r.required) (hset : ∀ s j s', r.set s field j = .ok s' → Q s')
    (hkeep : ∀ s, Q s → ∀ other j s', r.set s other j = .ok s' → Q s')
    (h : r.read surplus j = .ok s) : Q s := by
  obtain ⟨members, given, h, hgiven⟩ | ⟨items, h⟩ := of_read h
  · refine readObject_induct (P := fun s given => field ∈ given → Q s) ?_
      (fun hmem => absurd hmem List.not_mem_nil) h (hgiven field hfield hreq)
    intro s seen hs other j s' hs' hmem
    rcases List.mem_cons.1 hmem with rfl | hmem
    · exact hset s j s' hs'
    · exact hkeep s (hs hmem) other j s' hs'
  · have hdone : field ∈ [] ∨ Q s := by
      refine readList_induct (P := fun s left => field ∈ left ∨ Q s) ?_ ?_ (.inl hfield) h
      · rintro s other left (hmem | hq) j s' hs'
        · rcases List.mem_cons.1 hmem with rfl | hmem
          · exact .inr (hset s j s' hs')
          · exact .inl hmem
        · exact .inr (hkeep s hq other j s' hs')
      · rintro s other left (hmem | hq) hno
        -- a field that is left out is not the required one
        · exact .inl ((List.mem_cons.1 hmem).resolve_left fun heq => hno (heq ▸ hreq))
        · exact .inr hq
    exact hdone.resolve_left List.not_mem_nil

/-! ### Objects that give all fields -/

/-- Known fields that are given once are set in turn. -/
theorem readObject_of_foldlM {members : List (String × Json)} {seen : List String}
    (hseen : ∀ key ∈ Table.keys members, key ∉ seen) (hn : (Table.keys members).Nodup)
    (hknown : ∀ key ∈ Table.keys members, key ∈ r.fields)
    (h : members.foldlM (fun s e => r.set s e.1 e.2) s = .ok out) :
    r.readObject s seen members = .ok (out, (Table.keys members).reverse ++ seen) := by
  induction members generalizing s seen with
  | nil =>
    obtain rfl := Except.ok.inj h
    rfl
  | cons e members ih =>
    obtain ⟨key, j⟩ := e
    rw [Table.keys_cons] at hseen hknown hn ⊢
    rw [List.foldlM_cons] at h
    obtain ⟨s', hs', h⟩ := Except.bind_eq_ok_iff.1 h
    obtain ⟨hkey, hn⟩ := List.nodup_cons.1 hn
    have hlater : ∀ other ∈ Table.keys members, other ∉ key :: seen := by
      intro other hother hmem
      rcases List.mem_cons.1 hmem with rfl | hmem
      · exact hkey hother
      · exact hseen other (List.mem_cons_of_mem _ hother) hmem
    have hrest := ih hlater hn (fun other hother => hknown other (List.mem_cons_of_mem _ hother)) h
    have hnew : key ∉ seen := hseen key List.mem_cons_self
    have hfield : key ∈ r.fields := hknown key List.mem_cons_self
    simp [readObject, hfield, hnew, hs', under, hrest, bind, Except.bind]

/-- An object that gives all fields is read by setting them in turn. -/
theorem read_obj {members : List (String × Json)} (hkeys : Table.keys members = r.fields)
    (hn : r.fields.Nodup) (hrequired : ∀ field ∈ r.required, field ∈ r.fields)
    (h : members.foldlM (fun s e => r.set s e.1 e.2) r.start = .ok s) (surplus : Nat → String) :
    r.read surplus (.obj members) = .ok s := by
  have hobject := readObject_of_foldlM (fun _ _ => List.not_mem_nil) (hkeys ▸ hn)
    (fun key hkey => hkeys ▸ hkey) h
  have hnone : (r.fields.find? fun f => r.required.contains f &&
      !((Table.keys members).reverse ++ []).contains f) = none := by
    refine List.find?_eq_none.2 fun field _ hfield => ?_
    simp only [Bool.and_eq_true, List.contains_iff_mem, Bool.not_eq_true', List.append_nil,
      List.mem_reverse, Bool.eq_false_iff, ne_eq, hkeys] at hfield
    exact hfield.2 (hrequired field hfield.1)
  simp only [read, hobject, bind, Except.bind, hnone]
  rfl

end Record

end Shapesmith.Json
