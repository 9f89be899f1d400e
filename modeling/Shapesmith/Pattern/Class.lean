import Shapesmith.Unicode.AgeRuns
import Shapesmith.Unicode.BreakRuns
import Shapesmith.Unicode.Case
import Shapesmith.Unicode.Category
import Shapesmith.Pattern.Fault

/-!
# Classes of characters

* `CharClass` is a class as the ranges of its characters, which `Apart` keeps in order and from
  touching, and `CharClass.has` its membership;
* `union`, `complement`, `inter`, `minus` and `differ` put classes together, `folded` and
  `asciiFolded` add the other cases of letters;
* `CharClass.ofName` and `CharClass.ofNameValue` find a class by the name of a property, a general
  category, a script, an age or a break, in any of its spellings.
-/

namespace Shapesmith

open Unicode

/-! ### Ranges -/

/-- The numbers of a range, by the first and the last, are those of characters. -/
def IsSpan (s : Nat × Nat) : Prop :=
  s.1 ≤ s.2 ∧ (s.2 < 0xD800 ∨ 0xE000 ≤ s.1 ∧ s.2 < 0x110000)

/-- Ranges of characters in order, with a gap between any two. -/
structure Apart (spans : List (Nat × Nat)) : Prop where
  /-- Each range is one of characters. -/
  isSpan : ∀ s ∈ spans, IsSpan s
  /-- Ranges do not touch. -/
  gaps : spans.Pairwise fun s t => s.2 + 1 < t.1

namespace Spans

/-- Ranges with one more in its place, joined to those that it touches. -/
def insert (s : Nat × Nat) : List (Nat × Nat) → List (Nat × Nat)
  | [] => [s]
  | t :: rest =>
    if s.2 + 1 < t.1 then s :: t :: rest
    else if t.2 + 1 < s.1 then t :: insert s rest
    else insert (min s.1 t.1, max s.2 t.2) rest

/-- Ranges that touch are one range of characters. -/
theorem isSpan_join {s t : Nat × Nat} (hs : IsSpan s) (ht : IsSpan t) (h : ¬ s.2 + 1 < t.1)
    (h' : ¬ t.2 + 1 < s.1) : IsSpan (min s.1 t.1, max s.2 t.2) := by
  obtain ⟨hs, hsplit⟩ := hs
  obtain ⟨ht, htplit⟩ := ht
  simp only [IsSpan]
  omega

theorem lt_of_mem_insert {k : Nat} {s : Nat × Nat} {spans : List (Nat × Nat)} (hs : k < s.1)
    (h : ∀ t ∈ spans, k < t.1) : ∀ t ∈ insert s spans, k < t.1 := by
  induction spans generalizing s with
  | nil => simpa [insert] using hs
  | cons t rest ih =>
    obtain ⟨ht, hrest⟩ := List.forall_mem_cons.1 h
    simp only [insert]
    split
    · exact List.forall_mem_cons.2 ⟨hs, h⟩
    · split
      · exact List.forall_mem_cons.2 ⟨ht, ih hs hrest⟩
      · exact ih (by simp only; omega) hrest

theorem apart_insert {s : Nat × Nat} {spans : List (Nat × Nat)} (hs : IsSpan s)
    (h : Apart spans) : Apart (insert s spans) := by
  obtain ⟨hspan, hgaps⟩ := h
  induction spans generalizing s with
  | nil => exact ⟨by simpa [insert] using hs, List.pairwise_singleton _ _⟩
  | cons t rest ih =>
    obtain ⟨ht, hrest⟩ := List.forall_mem_cons.1 hspan
    obtain ⟨hfirst, hgaps⟩ := List.pairwise_cons.1 hgaps
    simp only [insert]
    split
    case isTrue hlt =>
      refine ⟨List.forall_mem_cons.2 ⟨hs, hspan⟩, List.pairwise_cons.2 ⟨?_, ‹_›⟩⟩
      have := ht.1
      exact List.forall_mem_cons.2 ⟨hlt, fun u hu => by have := hfirst u hu; omega⟩
    case isFalse hnot =>
      split
      case isTrue hlt =>
        obtain ⟨hspan, hgaps⟩ := ih hs hrest hgaps
        exact ⟨List.forall_mem_cons.2 ⟨ht, hspan⟩,
          List.pairwise_cons.2 ⟨lt_of_mem_insert hlt hfirst, hgaps⟩⟩
      case isFalse hnot' => exact ih (isSpan_join hs ht hnot hnot') hrest hgaps

theorem apart_foldr_insert {ranges spans : List (Nat × Nat)} (hr : ∀ s ∈ ranges, IsSpan s)
    (h : Apart spans) : Apart (ranges.foldr insert spans) := by
  induction ranges with
  | nil => exact h
  | cons s rest ih =>
    obtain ⟨hs, hrest⟩ := List.forall_mem_cons.1 hr
    exact apart_insert hs (ih hrest)

theorem apart_nil : Apart [] := ⟨by simp, .nil⟩

/-- What a range has below and above the surrogates, which are not characters. -/
def characters (s : Nat × Nat) : List (Nat × Nat) :=
  [(s.1, min s.2 0xD7FF), (max s.1 0xE000, min s.2 0x10FFFF)].filter fun r => decide (r.1 ≤ r.2)

theorem isSpan_characters (ranges : List (Nat × Nat)) :
    ∀ r ∈ ranges.flatMap characters, IsSpan r := by
  intro r hr
  obtain ⟨s, -, h⟩ := List.mem_flatMap.1 hr
  simp only [characters, List.mem_filter, List.mem_cons, List.not_mem_nil, or_false,
    decide_eq_true_eq] at h
  obtain ⟨rfl | rfl, hle⟩ := h <;> refine ⟨hle, ?_⟩
  · left
    simp only
    omega
  · right
    simp only
    omega

/-- What lies between ranges, from `next` on. -/
def gaps (next : Nat) : List (Nat × Nat) → List (Nat × Nat)
  | [] => if next ≤ 0x10FFFF then [(next, 0x10FFFF)] else []
  | s :: rest =>
    if next < s.1 then (next, s.1 - 1) :: gaps (s.2 + 1) rest else gaps (s.2 + 1) rest

end Spans

/-! ### Classes -/

/-- A class of characters. -/
structure CharClass where
  /-- The ranges of its characters. -/
  spans : List (Nat × Nat)
  /-- They are in order and do not touch. -/
  apart : Apart spans
deriving DecidableEq, Repr

namespace CharClass

/-- Membership in a class. -/
def has (c : CharClass) (n : Nat) : Bool := inRanges c.spans n

/-- The class holds ASCII characters only. -/
def isAscii (c : CharClass) : Bool := c.spans.all fun s => decide (s.2 < 128)

/-- The class without characters. -/
def none : CharClass := ⟨[], Spans.apart_nil⟩

/-- The characters of either class. -/
def union (a b : CharClass) : CharClass :=
  ⟨a.spans.foldr Spans.insert b.spans, Spans.apart_foldr_insert a.apart.isSpan b.apart⟩

/-- The characters of some ranges, in whatever order. -/
def ofRanges (ranges : List (Nat × Nat)) : CharClass where
  spans := (ranges.flatMap Spans.characters).foldr Spans.insert []
  apart := Spans.apart_foldr_insert (Spans.isSpan_characters ranges) Spans.apart_nil

/-- The class of one character. -/
def single (n : Nat) : CharClass := .ofRanges [(n, n)]

/-- The class of all characters. -/
def any : CharClass := .ofRanges [(0, 0x10FFFF)]

/-- All other characters. -/
def complement (c : CharClass) : CharClass := .ofRanges (Spans.gaps 0 c.spans)

/-- The characters of both classes. -/
def inter (a b : CharClass) : CharClass := (a.complement.union b.complement).complement

/-- The characters of the first class and not of the second. -/
def minus (a b : CharClass) : CharClass := a.inter b.complement

/-- The characters of one class only. -/
def differ (a b : CharClass) : CharClass := (a.minus b).union (b.minus a)

/-- The class with the characters that agree with one of it but for case. -/
def folded (c : CharClass) : CharClass :=
  let chosen := foldings.filter fun e => c.has e.1 || c.has e.2
  let standIns := ofRanges (chosen.map fun e => (e.2, e.2))
  let letters := foldings.filter fun e => standIns.has e.2
  c.union (standIns.union (.ofRanges (letters.map fun e => (e.1, e.1))))

/-- The other case of an ASCII letter. -/
def otherCase (n : Nat) : Nat :=
  if 65 ≤ n ∧ n ≤ 90 then n + 32 else if 97 ≤ n ∧ n ≤ 122 then n - 32 else n

/-- The same for ASCII letters alone. -/
def asciiFolded (c : CharClass) : CharClass :=
  c.union <| .ofRanges <| ((List.range 128).filter fun n => c.has (otherCase n)).map fun n => (n, n)

/-- The class of some general categories. -/
def ofCategories (cs : List Category) : CharClass :=
  .ofRanges (runsWhere categoryIndex cs.contains)

/-- The class of a set of code points. -/
def ofSet (s : CodeSet) : CharClass := (ofCategories s.categories).differ (.ofRanges s.exceptions)

/-- The class of a script. -/
def ofScript (code : String) : CharClass := .ofRanges (runsWhere scriptIndex (· == code))

/-- The decimal digits. -/
def digit : CharClass := .ofCategories [.nd]

/-- The white space. -/
def space : CharClass := .ofSet white

/-- The characters of words: alphabetic, marks, decimal digits, connecting punctuation and
joiners. -/
def word : CharClass :=
  (ofSet alphabetic).union
    ((ofCategories [.mn, .mc, .me, .nd, .pc]).union (.ofRanges [(0x200C, 0x200D)]))

/-! ### Names -/

/-- The ranges of a class that the name of an ASCII class stands for. -/
def asciiRanges? (name : String) : Option (List (Nat × Nat)) :=
  let table : List (String × List (Nat × Nat)) := [
    ("alnum", [(48, 57), (65, 90), (97, 122)]),
    ("alpha", [(65, 90), (97, 122)]),
    ("ascii", [(0, 127)]),
    ("blank", [(9, 9), (32, 32)]),
    ("cntrl", [(0, 31), (127, 127)]),
    ("digit", [(48, 57)]),
    ("graph", [(33, 126)]),
    ("lower", [(97, 122)]),
    ("print", [(32, 126)]),
    ("punct", [(33, 47), (58, 64), (91, 96), (123, 126)]),
    ("space", [(9, 13), (32, 32)]),
    ("upper", [(65, 90)]),
    ("word", [(48, 57), (65, 90), (95, 95), (97, 122)]),
    ("xdigit", [(48, 57), (65, 70), (97, 102)])]
  (table.find? fun e => e.1 == name).map (·.2)

/-- A name without what spellings differ in: case, blanks, hyphens, underscores, and `is` in
front of it. -/
def plainName (name : String) : String :=
  let letters := name.toList.map Char.toLower
  let (isGone, rest) := match letters with
    | 'i' :: 's' :: rest => (true, rest)
    | _ => (false, letters)
  let plain := rest.filter fun c => c ≠ ' ' ∧ c ≠ '-' ∧ c ≠ '_' ∧ c.toNat < 128
  if isGone && plain == ['c'] then "isc" else String.ofList plain

/-- The general categories by their names, the groups of them included. -/
def categoryNames : List (List String × List Category) := [
  (["lu", "uppercaseletter"], [.lu]),
  (["ll", "lowercaseletter"], [.ll]),
  (["lt", "titlecaseletter"], [.lt]),
  (["lc", "casedletter"], [.lu, .ll, .lt]),
  (["lm", "modifierletter"], [.lm]),
  (["lo", "otherletter"], [.lo]),
  (["l", "letter"], [.lu, .ll, .lt, .lm, .lo]),
  (["mn", "nonspacingmark"], [.mn]),
  (["mc", "spacingmark"], [.mc]),
  (["me", "enclosingmark"], [.me]),
  (["m", "mark", "combiningmark"], [.mn, .mc, .me]),
  (["nd", "decimalnumber", "digit"], [.nd]),
  (["nl", "letternumber"], [.nl]),
  (["no", "othernumber"], [.no]),
  (["n", "number"], [.nd, .nl, .no]),
  (["pc", "connectorpunctuation"], [.pc]),
  (["pd", "dashpunctuation"], [.pd]),
  (["ps", "openpunctuation"], [.ps]),
  (["pe", "closepunctuation"], [.pe]),
  (["pi", "initialpunctuation"], [.pi]),
  (["pf", "finalpunctuation"], [.pf]),
  (["po", "otherpunctuation"], [.po]),
  (["p", "punctuation", "punct"], [.pc, .pd, .ps, .pe, .pi, .pf, .po]),
  (["sm", "mathsymbol"], [.sm]),
  (["sc", "currencysymbol"], [.sc]),
  (["sk", "modifiersymbol"], [.sk]),
  (["so", "othersymbol"], [.so]),
  (["s", "symbol"], [.sm, .sc, .sk, .so]),
  (["zs", "spaceseparator"], [.zs]),
  (["zl", "lineseparator"], [.zl]),
  (["zp", "paragraphseparator"], [.zp]),
  (["z", "separator"], [.zs, .zl, .zp]),
  (["cc", "control", "cntrl"], [.cc]),
  (["cf", "format"], [.cf]),
  (["co", "privateuse"], [.co]),
  (["cn", "unassigned"], [.cn]),
  (["c", "other"], [.cc, .cf, .cs, .co, .cn])]

/-- The class of a general category by its plain name. -/
def category? (name : String) : Option CharClass :=
  if name == "any" then some any
  else if name == "ascii" then some (.ofRanges [(0, 127)])
  else if name == "assigned" then some (ofCategories [.cn]).complement
  else (categoryNames.find? fun e => e.1.contains name).map fun e => ofCategories e.2

/-- The four letters of a script by its plain name. -/
def scriptCode? (name : String) : Option String :=
  (scriptNames.find? fun e => plainName e.1 == name || e.2.any fun n => plainName n == name).map
    (·.1)

/-- The class of a script and of the code points that it shares with others. -/
def sharedScript (code : String) : CharClass :=
  match sharedRuns.find? fun e => e.1 == code with
  | some (_, text) => (ofScript code).differ (.ofRanges (rangesOf text))
  | _ => ofScript code

/-- Plain names of a category and of scripts that no character has. -/
def emptyNames : List String :=
  ["cs", "surrogate", "hrkt", "katakanaorhiragana", "zzzz", "unknown"]

/-- The class that is listed by a plain name. -/
def listed? (runs : List PropertyRuns) (name : String) : Option CharClass :=
  (runs.find? fun p => plainName p.name == name || p.aliases.any fun n => plainName n == name).map
    fun p => .ofSet (.ofRuns p)

/-- The class of a grapheme break by its plain name. -/
def graphemeBreak? (name : String) : Option CharClass :=
  if name == "lv" then some (.ofRanges (syllables false))
  else if name == "lvt" then some (.ofRanges (syllables true))
  else listed? graphemeBreaks name

/-- The class of the code points that are assigned in a version, by the plain name of the
version. -/
def age? (name : String) : Option CharClass :=
  let isNamed (version : String) : Bool :=
    name == version || name == "v" ++ String.ofList (version.toList.filter (·.isDigit))
  (ageRuns.findIdx? fun e => isNamed e.1).map fun i =>
    .ofRanges ((ageRuns.take (i + 1)).flatMap fun e => rangesOf e.2)

/-- The class that a name stands for: a property, a general category or a script. The names of
three categories are also short names of properties, and mean the category. -/
def ofName (name : String) : Except PatternFault CharClass :=
  let name := plainName name
  let property :=
    if ["cf", "sc", "lc"].contains name then .none else listed? propertyRuns name
  match property <|> category? name <|> (scriptCode? name).map ofScript with
  | some c => .ok c
  | .none =>
    .error (if emptyNames.contains name then .unknownPropertyValue else .unknownProperty)

/-- The class that a name and a value stand for. -/
def ofNameValue (name value : String) : Except PatternFault CharClass :=
  let found (c : Option CharClass) : Except PatternFault CharClass :=
    match c with
    | some c => .ok c
    | .none => .error .unknownPropertyValue
  let name := plainName name
  let value := plainName value
  if ["gc", "generalcategory"].contains name then found (category? value)
  else if ["sc", "script"].contains name then found ((scriptCode? value).map ofScript)
  else if ["scx", "scriptextensions"].contains name then
    found ((scriptCode? value).map sharedScript)
  else if name == "age" then found (age? value)
  else if ["gcb", "graphemeclusterbreak"].contains name then found (graphemeBreak? value)
  else if ["wb", "wordbreak"].contains name then found (listed? wordBreaks value)
  else if ["sb", "sentencebreak"].contains name then found (listed? sentenceBreaks value)
  else if (listed? propertyRuns name).isSome || (words otherProperties).contains name then
    .error .unknownPropertyValue
  else .error .unknownProperty

end CharClass

end Shapesmith
