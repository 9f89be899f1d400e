import Mathlib.Data.List.Induction
import Shapesmith.Symbol.Basic
import Shapesmith.Symbol.Naming

/-!
# Spellings of types are unambiguous

The spelling of a type begins with its head, and its arguments follow in brackets. Nothing in a head
can be taken for the brackets and commas behind it, so that a reader finds the same head and the
same arguments again.

* `CodeType.WellNamed` : the modules and the names of the generated types in a type hold no
  punctuation;
* `CodeType.eq_of_parts` : a type is determined by its head and its arguments;
* `CodeType.decodes` : a text that begins with the spelling of a well-named type determines the type
  and the rest;
* `CodeType.text_inj` : so well-named types with the same spelling are the same.
-/

namespace Shapesmith

open Text

/-- A text is cut at the first of some characters in one way only. -/
theorem append_inj_of_head (stop : Char → Prop) {a b r r' : List Char} (ha : ∀ c ∈ a, ¬ stop c)
    (hb : ∀ c ∈ b, ¬ stop c) (hr : ∀ c ∈ r.head?, stop c) (hr' : ∀ c ∈ r'.head?, stop c)
    (h : a ++ r = b ++ r') : a = b ∧ r = r' := by
  induction a generalizing b with
  | nil =>
    cases b with
    | nil => exact ⟨rfl, h⟩
    | cons d b =>
      rw [List.nil_append] at h
      exact absurd (hr d (by simp [h])) (hb d List.mem_cons_self)
  | cons c a ih =>
    cases b with
    | nil =>
      rw [List.nil_append] at h
      exact absurd (hr' c (by simp [← h])) (ha c List.mem_cons_self)
    | cons d b =>
      rw [List.cons_append, List.cons_append] at h
      obtain ⟨rfl, htail⟩ := List.cons.inj h
      obtain ⟨rfl, hrest⟩ := ih (fun e he => ha e (List.mem_cons_of_mem _ he))
        (fun e he => hb e (List.mem_cons_of_mem _ he)) htail
      exact ⟨rfl, hrest⟩

namespace CodeType

/-- The characters that stand between the names in a spelling. -/
def punctuation : List Char := [':', '<', '>', ',', ' ']

/-- A text that can be one step of a path. -/
def IsStep (text : String) : Prop := ∀ c ∈ punctuation, c ∉ text.toList

/-- What is decided of the characters in a list, and not by going through all that there are. -/
theorem forall_of_all {P : Char → Prop} [DecidablePred P] {l : List Char}
    (h : (l.all fun c => decide (P c)) = true) : ∀ c ∈ l, P c :=
  fun c hc => of_decide_eq_true (List.all_eq_true.1 h c hc)

instance : DecidablePred IsStep := fun text =>
  List.decidableBAll (fun c => c ∉ text.toList) punctuation

theorem IsStep.append {text text' : String} (h : IsStep text) (h' : IsStep text') :
    IsStep (text ++ text') := by
  intro c hc hmem
  rw [String.toList_append, List.mem_append] at hmem
  exact hmem.elim (h c hc) (h' c hc)

/-- The path of a module some steps below the root of the generated code. -/
def modulePath (steps : List String) : String := steps.foldl joined Place.root.path

/-- Each generated type in the type lies in a module below the root, and neither a step to the
module nor its name holds punctuation. -/
def WellNamed : CodeType → Prop
  | .vector inner | .option inner | .boxed inner => inner.WellNamed
  | .table key value => key.WellNamed ∧ value.WellNamed
  | .named space name =>
    (∃ steps, (∀ step ∈ steps, IsStep step) ∧ space = modulePath steps) ∧ IsStep name
  | _ => True

/-! ### Heads and arguments -/

/-- The head of sequences. -/
def vectorHead : String := "::std::vec::Vec"
/-- The head of tables. -/
def tableHead : String := "::std::collections::HashMap"
/-- The head of options. -/
def optionHead : String := "::std::option::Option"
/-- The head of boxes. -/
def boxedHead : String := "::std::boxed::Box"

/-- What the spelling of a type begins with, up to its arguments. -/
def head : CodeType → String
  | .vector _ => vectorHead
  | .table _ _ => tableHead
  | .option _ => optionHead
  | .boxed _ => boxedHead
  | t => t.text

/-- The types inside the brackets behind the head. -/
def arguments : CodeType → List CodeType
  | .vector inner | .option inner | .boxed inner => [inner]
  | .table key value => [key, value]
  | _ => []

/-- How arguments go on behind the first. -/
def listed : List CodeType → List Char
  | [] => ['>']
  | t :: rest => ',' :: ' ' :: (t.text.toList ++ listed rest)

/-- Arguments in their brackets. -/
def enclosed : List CodeType → List Char
  | [] => []
  | t :: rest => '<' :: (t.text.toList ++ listed rest)

variable {s t u : CodeType} {space base : String}

/-- A head with its bracket, what stands inside and the bracket at the end. -/
theorem toList_applied (opening head : String) (h : opening.toList = head.toList ++ ['<'])
    (inside : String) :
    (opening ++ inside ++ ">").toList = head.toList ++ '<' :: (inside.toList ++ ['>']) := by
  rw [String.toList_append, String.toList_append, h]
  simp

theorem toList_text (t : CodeType) : t.text.toList = t.head.toList ++ enclosed t.arguments := by
  -- the spellings are given, as unfolding `text` by its equations takes long
  cases t with
  | vector inner => exact toList_applied "::std::vec::Vec<" vectorHead (by decide) inner.text
  | option inner =>
    exact toList_applied "::std::option::Option<" optionHead (by decide) inner.text
  | boxed inner => exact toList_applied "::std::boxed::Box<" boxedHead (by decide) inner.text
  | table key value =>
    have happlied := toList_applied "::std::collections::HashMap<" tableHead (by decide)
      (key.text ++ (", " ++ value.text))
    rw [← String.append_assoc, ← String.append_assoc] at happlied
    refine happlied.trans ?_
    simp [head, enclosed, arguments, listed, String.toList_append]
  | _ => exact (List.append_nil _).symm

theorem toList_text_named :
    (named space base).text.toList = space.toList ++ ':' :: ':' :: base.toList := by
  change (space ++ "::" ++ base).toList = _
  rw [String.toList_append, String.toList_append, List.append_assoc]
  rfl

/-- The types that come with the language and take no arguments. -/
def given : List CodeType := [.string, .bool, .i8, .i16, .i32, .i64, .f32, .f64, .blob, .dateTime,
  .document, .infallible]

/-- The type with a head and arguments, if it is not a generated one. -/
def ofParts (head : String) : List CodeType → Option CodeType
  | [] => given.find? fun t => t.text = head
  | [inner] =>
    if head = vectorHead then some (.vector inner)
    else if head = optionHead then some (.option inner)
    else some (.boxed inner)
  | [key, value] => some (.table key value)
  | _ => none

/-- A type that is not generated is made of its parts. -/
theorem ofParts_parts (ht : ∀ space base, t ≠ .named space base) :
    ofParts t.head t.arguments = some t := by
  cases t with
  | named space base => exact absurd rfl (ht space base)
  | vector inner => rw [head, arguments, ofParts, if_pos rfl]
  | option inner => rw [head, arguments, ofParts, if_neg (by decide), if_pos rfl]
  | boxed inner => rw [head, arguments, ofParts, if_neg (by decide), if_neg (by decide)]
  | table key value => rfl
  | _ => decide

theorem modulePath_concat (steps : List String) (step : String) :
    modulePath (steps ++ [step]) = joined (modulePath steps) step := by
  simp [modulePath]

theorem exists_toList_modulePath (steps : List String) :
    ∃ rest, (modulePath steps).toList = 'c' :: rest := by
  induction steps using List.reverseRecOn with
  | nil => exact ⟨_, rfl⟩
  | append_singleton steps step ih =>
    obtain ⟨rest, hrest⟩ := ih
    refine ⟨rest ++ "::".toList ++ step.toList, ?_⟩
    simp [modulePath_concat, joined, String.toList_append, hrest]

/-- A generated type is none of the given ones. -/
theorem ofParts_named (ht : (named space base).WellNamed) :
    ofParts (named space base).head (named space base).arguments = none := by
  obtain ⟨⟨steps, -, rfl⟩, -⟩ := ht
  obtain ⟨rest, hrest⟩ := exists_toList_modulePath steps
  have hgiven : ∀ t ∈ given, t.text.toList.head? ≠ some 'c' := by decide
  refine List.find?_eq_none.2 fun t ht htext => hgiven t ht ?_
  have htext : t.text = (named (modulePath steps) base).text := of_decide_eq_true htext
  rw [htext, toList_text_named, hrest]
  rfl

/-- The name of a generated type stands behind the last colon. -/
theorem named_inj {space' base' : String} (hbase : IsStep base) (hbase' : IsStep base')
    (h : (named space base).text = (named space' base').text) :
    named space base = named space' base' := by
  have hcolon {text : String} (htext : IsStep text) : ∀ c ∈ text.toList.reverse, c ≠ ':' := by
    rintro c hc rfl
    exact htext ':' (by decide) (List.mem_reverse.1 hc)
  have hreverse := congrArg (fun text => text.toList.reverse) h
  simp only [toList_text_named, List.reverse_append, List.reverse_cons, List.append_assoc,
    List.singleton_append] at hreverse
  obtain ⟨hname, hspace⟩ := append_inj_of_head (· = ':') (hcolon hbase) (hcolon hbase')
    (by simp) (by simp) hreverse
  have hname := List.reverse_inj.1 hname
  have hspace := List.reverse_inj.1 (List.append_cancel_left hspace)
  rw [String.toList_inj.1 hname, String.toList_inj.1 hspace]

/-- A type is determined by its head and its arguments. -/
theorem eq_of_parts (ht : t.WellNamed) (hu : u.WellNamed) (hhead : t.head = u.head)
    (harguments : t.arguments = u.arguments) : t = u := by
  have hparts : ofParts t.head t.arguments = ofParts u.head u.arguments := by
    rw [hhead, harguments]
  by_cases htn : ∃ space base, t = named space base
  · obtain ⟨space, base, rfl⟩ := htn
    rw [ofParts_named ht] at hparts
    by_cases hun : ∃ space base, u = named space base
    · obtain ⟨space', base', rfl⟩ := hun
      exact named_inj ht.2 hu.2 hhead
    · rw [ofParts_parts (by simpa using hun)] at hparts
      cases hparts
  · rw [ofParts_parts (by simpa using htn)] at hparts
    by_cases hun : ∃ space base, u = named space base
    · obtain ⟨space', base', rfl⟩ := hun
      rw [ofParts_named hu] at hparts
      cases hparts
    · rw [ofParts_parts (by simpa using hun)] at hparts
      exact Option.some.inj hparts

/-! ### Reading a type off the front of a text -/

/-- A head ends where the text ends, at a bracket or at a comma. -/
def IsStop (c : Char) : Prop := c = '<' ∨ c = '>' ∨ c = ','

instance : DecidablePred IsStop := fun _ => inferInstanceAs (Decidable (_ ∨ _))

/-- Behind a whole type no bracket opens. -/
def Ends (rest : List Char) : Prop := ∀ c ∈ rest.head?, c = '>' ∨ c = ','

theorem Ends.isStop {rest : List Char} (h : Ends rest) : ∀ c ∈ rest.head?, IsStop c :=
  fun c hc => .inr (h c hc)

theorem ends_listed (ts : List CodeType) (rest : List Char) : Ends (listed ts ++ rest) := by
  cases ts with
  | nil => simp [Ends, listed]
  | cons t ts => simp [Ends, listed]

theorem isStop_enclosed (ts : List CodeType) {rest : List Char} (h : Ends rest) :
    ∀ c ∈ (enclosed ts ++ rest).head?, IsStop c := by
  cases ts with
  | nil => exact h.isStop
  | cons t ts => simp [IsStop, enclosed]

theorem IsStep.not_isStop {text : String} (h : IsStep text) : ∀ c ∈ text.toList, ¬ IsStop c := by
  rintro c hc (rfl | rfl | rfl)
  · exact h '<' (by decide) hc
  · exact h '>' (by decide) hc
  · exact h ',' (by decide) hc

theorem not_isStop_modulePath {steps : List String} (h : ∀ step ∈ steps, IsStep step) :
    ∀ c ∈ (modulePath steps).toList, ¬ IsStop c := by
  induction steps using List.reverseRecOn with
  | nil => exact forall_of_all (by decide)
  | append_singleton steps step ih =>
    intro c hc
    rw [modulePath_concat, joined, String.toList_append, String.toList_append, List.mem_append,
      List.mem_append] at hc
    have hcolons : ∀ c ∈ "::".toList, ¬ IsStop c := forall_of_all (by decide)
    rcases hc with (hc | hc) | hc
    · exact ih (fun step hstep => h step (List.mem_append_left _ hstep)) c hc
    · exact hcolons c hc
    · exact (h step (by simp)).not_isStop c hc

theorem not_isStop_head (ht : t.WellNamed) : ∀ c ∈ t.head.toList, ¬ IsStop c := by
  cases t with
  | named space base =>
    obtain ⟨⟨steps, hsteps, rfl⟩, hbase⟩ := ht
    intro c hc
    change c ∈ (named (modulePath steps) base).text.toList at hc
    rw [toList_text_named, List.mem_append, List.mem_cons, List.mem_cons] at hc
    rcases hc with hc | rfl | rfl | hc
    · exact not_isStop_modulePath hsteps c hc
    · decide
    · decide
    · exact hbase.not_isStop c hc
  | vector => exact (forall_of_all (by decide) : ∀ c ∈ vectorHead.toList, ¬ IsStop c)
  | table => exact (forall_of_all (by decide) : ∀ c ∈ tableHead.toList, ¬ IsStop c)
  | option => exact (forall_of_all (by decide) : ∀ c ∈ optionHead.toList, ¬ IsStop c)
  | boxed => exact (forall_of_all (by decide) : ∀ c ∈ boxedHead.toList, ¬ IsStop c)
  | _ => exact forall_of_all (by decide)

theorem WellNamed.of_mem_arguments (ht : t.WellNamed) (hu : u ∈ t.arguments) : u.WellNamed := by
  cases t with
  | vector inner | option inner | boxed inner => exact List.mem_singleton.1 hu ▸ ht
  | table key value =>
    rw [arguments, List.mem_cons, List.mem_singleton] at hu
    rcases hu with rfl | rfl
    · exact ht.1
    · exact ht.2
  | _ => cases hu

/-- A text that begins with the spelling of the type, and goes on behind a whole type, begins with
the spelling of no other. -/
def Decodes (t : CodeType) : Prop := ∀ u rest rest', u.WellNamed → Ends rest → Ends rest' →
  t.text.toList ++ rest = u.text.toList ++ rest' → t = u ∧ rest = rest'

theorem listed_inj {ts us : List CodeType} {rest rest' : List Char} (ht : ∀ t ∈ ts, t.Decodes)
    (hu : ∀ u ∈ us, u.WellNamed) (h : listed ts ++ rest = listed us ++ rest') :
    ts = us ∧ rest = rest' := by
  induction ts generalizing us with
  | nil =>
    cases us with
    | nil => exact ⟨rfl, (List.cons.inj h).2⟩
    | cons u us => simp [listed] at h
  | cons t ts ih =>
    cases us with
    | nil => simp [listed] at h
    | cons u us =>
      simp only [listed, List.cons_append, List.append_assoc, List.cons.injEq, true_and] at h
      obtain ⟨rfl, htail⟩ := ht t List.mem_cons_self u _ _ (hu u List.mem_cons_self)
        (ends_listed ts rest) (ends_listed us rest') h
      obtain ⟨rfl, hrest⟩ := ih (fun t ht' => ht t (List.mem_cons_of_mem _ ht'))
        (fun u hu' => hu u (List.mem_cons_of_mem _ hu')) htail
      exact ⟨rfl, hrest⟩

theorem enclosed_inj {ts us : List CodeType} {rest rest' : List Char} (hrest : Ends rest)
    (hrest' : Ends rest') (ht : ∀ t ∈ ts, t.Decodes) (hu : ∀ u ∈ us, u.WellNamed)
    (h : enclosed ts ++ rest = enclosed us ++ rest') : ts = us ∧ rest = rest' := by
  cases ts with
  | nil =>
    cases us with
    | nil => exact ⟨rfl, h⟩
    | cons u us =>
      -- a bracket would open behind the type on the left
      rw [enclosed, List.nil_append] at h
      have hbracket := hrest '<' (by simp [h, enclosed])
      simp at hbracket
  | cons t ts =>
    cases us with
    | nil =>
      rw [enclosed, enclosed, List.nil_append] at h
      have hbracket := hrest' '<' (by simp [← h])
      simp at hbracket
    | cons u us =>
      simp only [enclosed, List.cons_append, List.append_assoc, List.cons.injEq, true_and] at h
      obtain ⟨rfl, htail⟩ := ht t List.mem_cons_self u _ _ (hu u List.mem_cons_self)
        (ends_listed ts rest) (ends_listed us rest') h
      obtain ⟨rfl, hrest⟩ := listed_inj (fun t ht' => ht t (List.mem_cons_of_mem _ ht'))
        (fun u hu' => hu u (List.mem_cons_of_mem _ hu')) htail
      exact ⟨rfl, hrest⟩

/-- A type is read off the front of a text if its arguments are. -/
theorem decodes_of_arguments (ht : t.WellNamed) (h : ∀ a ∈ t.arguments, a.Decodes) :
    t.Decodes := by
  intro u rest rest' hu hrest hrest' htext
  rw [toList_text, toList_text, List.append_assoc, List.append_assoc] at htext
  obtain ⟨hhead, hrest⟩ := append_inj_of_head IsStop (not_isStop_head ht) (not_isStop_head hu)
    (isStop_enclosed _ hrest) (isStop_enclosed _ hrest') htext
  obtain ⟨harguments, hrest⟩ := enclosed_inj ‹_› hrest' h (fun a => hu.of_mem_arguments) hrest
  exact ⟨eq_of_parts ht hu (String.toList_inj.1 hhead) harguments, hrest⟩

/-- A well-named type is read off the front of a text. -/
theorem decodes (ht : t.WellNamed) : t.Decodes := by
  induction t with
  | vector inner ih | option inner ih | boxed inner ih =>
    exact decodes_of_arguments ht (by simpa [arguments] using ih ht)
  | table key value ihkey ihvalue =>
    exact decodes_of_arguments ht (by simpa [arguments] using ⟨ihkey ht.1, ihvalue ht.2⟩)
  | _ => exact decodes_of_arguments ht (by simp [arguments])

theorem text_inj (ht : t.WellNamed) (hu : u.WellNamed) (h : t.text = u.text) : t = u := by
  have hnil : Ends [] := by simp [Ends]
  exact (decodes ht u [] [] hu hnil hnil (by rw [h])).1

end CodeType

end Shapesmith
