import Mathlib.Data.List.Basic
import Shapesmith.Text.Words

/-!
# The characters of names

Names in camel case are made of the letters and digits of a text in one of their cases. So they hold
no punctuation of ASCII, whatever the text is. Names in snake case hold underscores besides.

* `Text.NameChar` : letters and digits, and whatever is beyond ASCII;
* `Text.nameChar_of_mem_camelCase` : names in camel case hold no other characters;
* `Text.nameChar_of_mem_snakeCase` : names in snake case hold no others but underscores;
* `Text.getLast?_snakeCase_ne` : and no underscore at their end.
-/

namespace Shapesmith

/-- A letter or digit of ASCII, or a character beyond ASCII. -/
def Text.NameChar (c : Char) : Prop := c.isAlphanum = true ∨ 128 ≤ c.toNat

instance : DecidablePred Text.NameChar := fun _ => inferInstanceAs (Decidable (_ ∨ _))

open Text

namespace Unicode

/-! ### Cases of characters -/

theorem nameChar_of_isAlphanumeric {c : Char} (h : isAlphanumeric c = true) : NameChar c := by
  unfold isAlphanumeric at h
  by_cases hc : c.toNat < 128
  · rw [if_pos hc] at h
    exact .inl h
  · exact .inr (Nat.le_of_not_lt hc)

theorem nameChar_ofNat {n : Nat} (hlow : 128 ≤ n) (hn : n.isValidChar) :
    NameChar (Char.ofNat n) := by
  have heq : (Char.ofNat n).toNat = n := by
    rw [Char.ofNat, dif_pos hn]
    rfl
  right
  rwa [heq]

/-- A run sends what is beyond ASCII there again, or a single code point to a letter. -/
theorem caseRuns_tame : ∀ r ∈ lowerRuns ++ upperRuns, r.last < 128 ∨
    128 ≤ r.first + r.shift ∧ r.last + r.shift < 0xd800 ∨
    0xdfff < r.first + r.shift ∧ r.last + r.shift < 0x110000 ∨
    r.first = r.last ∧ NameChar (Char.ofNat (r.first + r.shift).toNat) := by
  decide +kernel

theorem upperSeveral_tame : ∀ e ∈ upperSeveral, ∀ n ∈ e.2, NameChar (Char.ofNat n) := by
  decide +kernel

theorem nameChar_mapBy {runs : List CaseRun} (hruns : runs ⊆ lowerRuns ++ upperRuns) {c : Char}
    (hc : 128 ≤ c.toNat) : NameChar (Char.ofNat (mapBy runs c.toNat)) := by
  unfold mapBy
  cases h : runs.findSome? (·.image? c.toNat) with
  | none =>
    rw [Option.getD_none, Char.ofNat_toNat]
    exact .inr hc
  | some n =>
    obtain ⟨r, hr, himage⟩ := List.exists_of_findSome?_eq_some h
    unfold CaseRun.image? at himage
    split at himage
    · rename_i hin
      obtain ⟨hfirst, hlast, -⟩ := hin
      cases himage
      rw [Option.getD_some]
      -- a run of ASCII does not hold the character; the others stay clear of the surrogates
      rcases caseRuns_tame r (hruns hr) with hascii | ⟨hlow, hhigh⟩ | ⟨hlow, hhigh⟩ |
        ⟨hone, hname⟩
      · omega
      · exact nameChar_ofNat (by omega) (.inl (by omega))
      · exact nameChar_ofNat (by omega) (.inr ⟨by omega, by omega⟩)
      · have hc : c.toNat = r.first := by omega
        rwa [hc]
    · cases himage

/-- What holds of each code point below 128 holds of each character of ASCII. -/
theorem forall_ascii {P : Char → Prop} (h : ∀ n < 128, P (Char.ofNat n)) {c : Char}
    (hc : c.toNat < 128) : P c := by
  have hn := h c.toNat hc
  rwa [Char.ofNat_toNat] at hn

theorem isAlphanum_toLower {c : Char} (hc : c.toNat < 128) :
    c.isAlphanum = true → c.toLower.isAlphanum = true :=
  forall_ascii (P := fun c => c.isAlphanum = true → c.toLower.isAlphanum = true) (by decide) hc

theorem isAlphanum_toUpper {c : Char} (hc : c.toNat < 128) :
    c.isAlphanum = true → c.toUpper.isAlphanum = true :=
  forall_ascii (P := fun c => c.isAlphanum = true → c.toUpper.isAlphanum = true) (by decide) hc

theorem nameChar_of_mem_lower {c d : Char} (hc : NameChar c) (hd : d ∈ lower c) : NameChar d := by
  unfold lower at hd
  by_cases hascii : c.toNat < 128
  · rw [if_pos hascii, List.mem_singleton] at hd
    have halnum := hc.resolve_right (Nat.not_le_of_lt hascii)
    exact hd ▸ .inl (isAlphanum_toLower hascii halnum)
  · rw [if_neg hascii] at hd
    -- the capital I with a dot is the one character with two in lower case
    by_cases hdotted : c.toNat = 0x130
    · rw [if_pos hdotted, List.mem_cons, List.mem_singleton] at hd
      rcases hd with rfl | rfl
      · decide
      · decide
    · rw [if_neg hdotted, List.mem_singleton] at hd
      exact hd ▸ nameChar_mapBy (List.subset_append_left _ _) (Nat.le_of_not_lt hascii)

theorem nameChar_of_mem_upper {c d : Char} (hc : NameChar c) (hd : d ∈ upper c) : NameChar d := by
  unfold upper at hd
  by_cases hascii : c.toNat < 128
  · rw [if_pos hascii, List.mem_singleton] at hd
    have halnum := hc.resolve_right (Nat.not_le_of_lt hascii)
    exact hd ▸ .inl (isAlphanum_toUpper hascii halnum)
  · rw [if_neg hascii] at hd
    split at hd
    · rename_i n ns hfind
      obtain ⟨k, hk, rfl⟩ := List.mem_map.1 hd
      exact upperSeveral_tame _ (List.mem_of_find?_eq_some hfind) k hk
    · rw [List.mem_singleton] at hd
      exact hd ▸ nameChar_mapBy (List.subset_append_right _ _) (Nat.le_of_not_lt hascii)

end Unicode

namespace Text

open Unicode

/-- A text does not begin with another whose characters are not its first ones. -/
theorem ne_append_of_not_prefix {text front : String} (h : ¬ front.toList <+: text.toList)
    (rest : String) : text ≠ front ++ rest := by
  rintro rfl
  exact h (by rw [String.toList_append]; exact List.prefix_append _ _)

/-! ### Words -/

theorem isAlphanumeric_of_mem_runs {text run : List Char} (h : run ∈ runs text) {c : Char}
    (hc : c ∈ run) : isAlphanumeric c = true := by
  induction text generalizing run with
  | nil =>
    rw [runs, List.mem_singleton] at h
    rw [h] at hc
    cases hc
  | cons d rest ih =>
    rw [runs] at h
    by_cases hd : isAlphanumeric d = true
    · rw [if_pos hd] at h
      split at h
      · rw [List.mem_singleton] at h
        rw [h, List.mem_singleton] at hc
        rwa [hc]
      · rename_i r rs hruns
        rcases List.mem_cons.1 h with rfl | h
        · rcases List.mem_cons.1 hc with rfl | hc
          · exact hd
          · exact ih (hruns ▸ List.mem_cons_self) hc
        · exact ih (hruns ▸ List.mem_cons_of_mem _ h) hc
    · rw [if_neg hd] at h
      rcases List.mem_cons.1 h with rfl | h
      · cases hc
      · exact ih h hc

/-- Cutting keeps characters. -/
theorem mem_of_mem_cut {m : Mode} {word rest w : List Char} (h : w ∈ cut m word rest) {c : Char}
    (hc : c ∈ w) : c ∈ word ∨ c ∈ rest := by
  fun_induction cut m word rest with
  | case1 => cases h
  | case2 m word d =>
    rw [List.mem_singleton] at h
    simpa [h, or_comm] using hc
  | case3 m word d next rest hcut ih =>
    rcases List.mem_cons.1 h with rfl | h
    · have := List.mem_reverse.1 hc
      grind
    · have := ih h
      grind
  | case4 m word d next rest _ hcut ih =>
    rcases List.mem_cons.1 h with rfl | h
    · exact .inl (List.mem_reverse.1 hc)
    · have := ih h
      grind
  | case5 m word d next rest _ _ ih =>
    have := ih h
    grind

theorem nameChar_of_mem_words {text : String} {word : List Char} (h : word ∈ words text)
    {c : Char} (hc : c ∈ word) : NameChar c := by
  obtain ⟨run, hrun, hword⟩ := List.mem_flatMap.1 h
  rcases mem_of_mem_cut hword hc with hnil | hmem
  · cases hnil
  · exact nameChar_of_isAlphanumeric (isAlphanumeric_of_mem_runs hrun hmem)

theorem nameChar_of_mem_lowerWord {word : List Char} (h : ∀ c ∈ word, NameChar c) {c : Char}
    (hc : c ∈ lowerWord word) : NameChar c := by
  fun_induction lowerWord word with
  | case1 => cases hc
  | case2 =>
    rw [List.mem_singleton] at hc
    rw [hc]
    decide
  | case3 d rest _ ih =>
    rcases List.mem_append.1 hc with hc | hc
    · exact nameChar_of_mem_lower (h d List.mem_cons_self) hc
    · exact ih (fun e he => h e (List.mem_cons_of_mem _ he)) hc

theorem mem_of_mem_intercalate {α : Type} {separator : List α} {parts : List (List α)} {a : α}
    (h : a ∈ separator.intercalate parts) : a ∈ separator ∨ ∃ part ∈ parts, a ∈ part := by
  induction parts with
  | nil => simp at h
  | cons part parts ih =>
    cases parts with
    | nil =>
      rw [List.intercalate_singleton] at h
      exact .inr ⟨part, List.mem_cons_self, h⟩
    | cons next parts =>
      rw [List.intercalate_cons_cons, List.mem_append, List.mem_append] at h
      rcases h with (h | h) | h
      · exact .inr ⟨part, List.mem_cons_self, h⟩
      · exact .inl h
      · exact (ih h).imp_right fun ⟨q, hq, ha⟩ => ⟨q, List.mem_cons_of_mem _ hq, ha⟩

/-- The words of names in snake case are joined by underscores, and hold no punctuation of ASCII. -/
theorem nameChar_of_mem_snakeCase {text : String} {c : Char} (h : c ∈ (snakeCase text).toList) :
    NameChar c ∨ c = '_' := by
  rw [snakeCase, String.toList_ofList] at h
  rcases mem_of_mem_intercalate h with h | ⟨_, hlower, hc⟩
  · exact .inr (List.mem_singleton.1 h)
  · obtain ⟨word, hword, rfl⟩ := List.mem_map.1 hlower
    exact .inl (nameChar_of_mem_lowerWord (fun c => nameChar_of_mem_words hword) hc)

/-- Words have characters. -/
theorem ne_nil_of_mem_cut {m : Mode} {word rest w : List Char} (hm : m ≠ .none → word ≠ [])
    (h : w ∈ cut m word rest) : w ≠ [] := by
  fun_induction cut m word rest with
  | case1 => cases h
  | case2 m word c =>
    rw [List.mem_singleton.1 h]
    simp
  | case3 m word c next rest hcut ih =>
    rcases List.mem_cons.1 h with rfl | h
    · simp
    · exact ih (fun hnone => absurd rfl hnone) h
  | case4 m word c next rest _ hcut ih =>
    -- a run of capitals is cut only where there is one
    rcases List.mem_cons.1 h with rfl | h
    · simpa using hm (by simp [hcut.1])
    · exact ih (fun hnone => absurd rfl hnone) h
  | case5 m word c next rest _ _ ih => exact ih (fun _ => List.cons_ne_nil c word) h

theorem lower_ne_nil (c : Char) : lower c ≠ [] := by
  unfold lower
  split
  · simp
  · split <;> simp

theorem lowerWord_ne_nil {word : List Char} (h : word ≠ []) : lowerWord word ≠ [] := by
  fun_cases lowerWord word with
  | case1 => exact absurd rfl h
  | case2 => simp
  | case3 c rest => simp [lower_ne_nil]

/-- Parts that are not empty and hold no separator do not end in one when they are joined. -/
theorem getLast?_intercalate_ne {α : Type} {a : α} {parts : List (List α)}
    (h : ∀ part ∈ parts, part ≠ [] ∧ a ∉ part) : ([a].intercalate parts).getLast? ≠ some a := by
  induction parts with
  | nil => simp
  | cons part parts ih =>
    obtain ⟨hpart, hparts⟩ := List.forall_mem_cons.1 h
    cases parts with
    | nil =>
      rw [List.intercalate_singleton]
      exact fun hlast => hpart.2 (List.mem_of_getLast? hlast)
    | cons next parts =>
      have hne : [a].intercalate (next :: parts) ≠ [] := by
        have hnext := (hparts next List.mem_cons_self).1
        cases parts <;> simp [hnext]
      rw [List.intercalate_cons_cons, List.getLast?_append_of_ne_nil _ hne]
      exact ih hparts

/-- Names in snake case do not end in an underscore. -/
theorem getLast?_snakeCase_ne (text : String) : (snakeCase text).toList.getLast? ≠ some '_' := by
  rw [snakeCase, String.toList_ofList]
  refine getLast?_intercalate_ne fun part hpart => ?_
  obtain ⟨word, hword, rfl⟩ := List.mem_map.1 hpart
  obtain ⟨run, -, hcut⟩ := List.mem_flatMap.1 hword
  have hne : word ≠ [] := ne_nil_of_mem_cut (fun hnone => absurd rfl hnone) hcut
  refine ⟨lowerWord_ne_nil hne, fun hmem => ?_⟩
  exact absurd (nameChar_of_mem_lowerWord (fun c => nameChar_of_mem_words hword) hmem) (by decide)

/-- Names in camel case hold no punctuation of ASCII. -/
theorem nameChar_of_mem_camelCase {text : String} {c : Char} (h : c ∈ (camelCase text).toList) :
    NameChar c := by
  rw [camelCase, String.toList_ofList] at h
  obtain ⟨word, hword, hc⟩ := List.mem_flatMap.1 h
  have hall : ∀ c ∈ word, NameChar c := fun c => nameChar_of_mem_words hword
  cases word with
  | nil => cases hc
  | cons d rest =>
    rcases List.mem_append.1 hc with hc | hc
    · exact nameChar_of_mem_upper (hall d List.mem_cons_self) hc
    · exact nameChar_of_mem_lowerWord (fun e he => hall e (List.mem_cons_of_mem _ he)) hc

end Text

end Shapesmith
