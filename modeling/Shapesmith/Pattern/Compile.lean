import Shapesmith.Pattern.Machine
import Shapesmith.Pattern.Parse

/-!
# The meaning of a pattern

Flags hold from where they stand to the end of the innermost group, the later branches of a choice
included. They are applied while the tree of the pattern becomes a `Regex`.

* `Modes` are the flags that hold at a place;
* `ClassTree.compile` looks up a class, `PatternTree.compile` a pattern;
* `Pattern.compile` goes from the text to a `Regex`, or to the reason why there is none.
-/

namespace Shapesmith

/-- The flags that hold at a place. -/
structure Modes where
  /-- Case does not count. -/
  ignoreCase : Bool
  /-- Lines begin and end inside the text. -/
  multiLine : Bool
  /-- The point takes the end of a line too. -/
  dotAll : Bool
  /-- Repetitions are reluctant unless marked. -/
  swapGreed : Bool
  /-- Classes are about all characters and not only about ASCII. -/
  unicode : Bool
  /-- A carriage return ends a line too. -/
  crlf : Bool
deriving DecidableEq, Repr

namespace Modes

/-- The flags that hold at the beginning. -/
def initial : Modes := ⟨false, false, false, false, true, false⟩

/-- The flags after some are turned on or off. -/
def apply (m : Modes) (items : List FlagItem) : Modes :=
  let get (f : Flag) (old : Bool) : Bool := (Pattern.flagState f items).getD old
  { ignoreCase := get .ignoreCase m.ignoreCase
    multiLine := get .multiLine m.multiLine
    dotAll := get .dotAll m.dotAll
    swapGreed := get .swapGreed m.swapGreed
    unicode := get .unicode m.unicode
    crlf := get .crlf m.crlf }

/-- The class with the other cases of its letters, where case does not count. -/
def fold (m : Modes) (c : CharClass) : CharClass :=
  if m.ignoreCase then (if m.unicode then c.folded else c.asciiFolded) else c

/-- A class, or all but it. Where classes are about bytes, a class beyond ASCII is no text. -/
def close (m : Modes) (negated : Bool) (c : CharClass) : Except PatternFault CharClass :=
  if m.unicode then .ok (if negated then c.complement else c)
  else
    let c := if negated then CharClass.minus (.ofRanges [(0, 255)]) c else c
    if c.isAscii then .ok c else .error .notText

/-- The class that a letter names. -/
def letter (m : Modes) (l : Letter) (negated : Bool) : Except PatternFault CharClass :=
  if m.unicode then
    let c := match l with
      | .digit => CharClass.digit
      | .space => CharClass.space
      | .word => CharClass.word
    .ok (if negated then c.complement else c)
  else if negated then .error .notText
  else
    .ok (.ofRanges (match l with
      | .digit => [(48, 57)]
      | .space => [(9, 13), (32, 32)]
      | .word => [(48, 57), (65, 90), (95, 95), (97, 122)]))

/-- The class that the name of a property stands for. -/
def property (m : Modes) (name : PropertyName) (negated : Bool) :
    Except PatternFault CharClass := do
  if !m.unicode then .error .asciiOnly
  let c ← match name with
    | .single n => CharClass.ofName n
    | .valued n v => CharClass.ofNameValue n v
  pure (if negated then (m.fold c).complement else m.fold c)

/-- The code of a literal in a class. -/
def code (m : Modes) (l : Literal) : Except PatternFault Nat :=
  if m.unicode || decide (l.char.toNat < 128) || l.byte then .ok l.char.toNat
  else .error .asciiOnly

end Modes

mutual

/-- The class that a tree stands for. -/
def ClassTree.compile (m : Modes) : ClassTree → Except PatternFault CharClass
  | .literal l => do
    let n ← m.code l
    pure (.single n)
  | .range low high => do
    let low ← m.code low
    let high ← m.code high
    pure (.ofRanges [(low, high)])
  | .ascii name negated =>
    let c := m.fold (.ofRanges ((CharClass.asciiRanges? name).getD []))
    if m.unicode then .ok (if negated then c.complement else c) else m.close negated c
  | .letter l negated => m.letter l negated
  | .property name negated => m.property name negated
  | .bracketed inner negated => do
    let c ← inner.compile m
    m.close negated (m.fold c)
  | .items parts => ClassTree.compileAll m parts
  | .pair op a b => do
    let a ← a.compile m
    let b ← b.compile m
    let a := m.fold a
    let b := m.fold b
    pure (match op with
      | .inter => a.inter b
      | .minus => a.minus b
      | .differ => a.differ b)

/-- The class that holds the characters of all parts. -/
def ClassTree.compileAll (m : Modes) : List ClassTree → Except PatternFault CharClass
  | [] => .ok .none
  | [c] => c.compile m
  | c :: d :: rest => do
    let a ← c.compile m
    let b ← ClassTree.compileAll m (d :: rest)
    pure (a.union b)

end

/-- The pattern of a literal. -/
def Literal.compile (m : Modes) (l : Literal) : Except PatternFault Regex :=
  let n := l.char.toNat
  if m.unicode then
    if m.ignoreCase then .ok (.oneOf (.ofRanges ((Unicode.cases n).map fun k => (k, k))))
    else .ok (.text [l.char])
  else if n < 128 then .ok (.oneOf (m.fold (.single n)))
  else if l.byte then .error .notText
  else .ok (.text [l.char])

/-- The pattern of the point. -/
def Modes.dot (m : Modes) : Except PatternFault Regex :=
  if !m.unicode then .error .notText
  else if m.dotAll then .ok (.one .any)
  else if m.crlf then .ok (.one (CharClass.complement (.ofRanges [(10, 10), (13, 13)])))
  else .ok (.one (CharClass.single 10).complement)

/-- The condition that an anchor stands for. -/
def Anchor.compile (m : Modes) : Anchor → Assertion
  | .lineStart =>
    if m.multiLine then (if m.crlf then .crlfStart else .lineStart) else .textStart
  | .lineEnd => if m.multiLine then (if m.crlf then .crlfEnd else .lineEnd) else .textEnd
  | .textStart => .textStart
  | .textEnd => .textEnd
  | .boundary => .boundary !m.unicode
  | .noBoundary => .noBoundary !m.unicode
  | .wordStart => .wordStart !m.unicode
  | .wordEnd => .wordEnd !m.unicode
  | .wordStartHalf => .wordStartHalf !m.unicode
  | .wordEndHalf => .wordEndHalf !m.unicode

mutual

/-- The pattern that a tree stands for, and the flags that hold behind it. -/
def PatternTree.compile (m : Modes) : PatternTree → Except PatternFault (Regex × Modes)
  | .empty => .ok (.empty, m)
  | .flags items => .ok (.empty, m.apply items)
  | .literal l => do
    let r ← l.compile m
    pure (r, m)
  | .dot => do
    let r ← m.dot
    pure (r, m)
  | .anchor a => .ok (.assert (a.compile m), m)
  | .letter l negated => do
    let c ← m.letter l negated
    pure (.oneOf c, m)
  | .property name negated => do
    let c ← m.property name negated
    pure (.oneOf c, m)
  | .bracketed inner negated => do
    let c ← inner.compile m
    let c ← m.close negated (m.fold c)
    pure (.oneOf c, m)
  | .repetition inner least most reluctant => do
    let (r, m) ← inner.compile m
    pure (r.repetition least most (reluctant != m.swapGreed), m)
  | .group number items inner => do
    let (r, _) ← inner.compile (m.apply items)
    pure (match number with
      | some n => .group n r
      | none => r, m)
  | .choice branches => do
    let (rs, m) ← PatternTree.compileAll m branches
    pure (.choice rs, m)
  | .sequence parts => do
    let (rs, m) ← PatternTree.compileAll m parts
    pure (.sequence rs, m)

/-- The patterns that trees stand for, each with the flags behind the one before it. -/
def PatternTree.compileAll (m : Modes) :
    List PatternTree → Except PatternFault (List Regex × Modes)
  | [] => .ok ([], m)
  | t :: rest => do
    let (r, m) ← t.compile m
    let (rs, m) ← PatternTree.compileAll m rest
    pure (r :: rs, m)

end

namespace Pattern

/-- The pattern that a text spells. -/
def compile (text : String) : Except PatternFault Regex := do
  let tree ← PatternTree.ofText text
  let (r, _) ← tree.compile .initial
  if r.fits then pure r else .error (.tooLarge sizeLimit)

/-- Whether a pattern matches some part of a value; what is no pattern matches nothing. -/
def accepts (pattern value : String) : Bool :=
  match compile pattern with
  | .ok r => r.isMatch value
  | .error _ => false

end Pattern

end Shapesmith
