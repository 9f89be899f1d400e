import Shapesmith.Power
import Shapesmith.Pattern.Tree
import Shapesmith.Unicode.Category

/-!
# Reading the text of a pattern

The text is read from front to back. What is open, groups and choices outside and brackets inside
a class, is kept on a stack, so the first thing that is wrong decides the refusal.

* `Cursor` is the text that remains, with what reading it depends on;
* `readGroups` reads the outside of classes and `readClass` a class;
* `PatternTree.ofText` reads a whole pattern.
-/

namespace Shapesmith.Pattern

/-- The text that remains of a pattern. -/
structure Cursor where
  /-- The characters that remain. -/
  rest : List Char
  /-- Blanks and comments do not count. -/
  verbose : Bool
  /-- The names of groups so far. -/
  names : List String
  /-- How many groups so far capture what they match. -/
  groups : Nat

/-- Reading from a cursor. -/
abbrev Reader := StateT Cursor (Except PatternFault)

/-- Gives up. -/
def refuse {α : Type} (fault : PatternFault) : Reader α := fun _ => .error fault

/-- The characters that remain. -/
def remaining : Reader (List Char) := fun s => .ok (s.rest, s)

/-- Goes on with other characters. -/
def goTo (rest : List Char) : Reader Unit := fun s => .ok ((), { s with rest })

/-- The character in front, if there is one. -/
def peek : Reader (Option Char) := fun s => .ok (s.rest.head?, s)

/-- The character behind the one in front. -/
def peekSecond : Reader (Option Char) := fun s => .ok (s.rest[1]?, s)

/-- Nothing remains. -/
def atEnd : Reader Bool := fun s => .ok (s.rest.isEmpty, s)

/-- Moves over one character; whether anything remains then. -/
def bump : Reader Bool := fun s => .ok (!(s.rest.drop 1).isEmpty, { s with rest := s.rest.drop 1 })

/-- The text behind blanks and comments. -/
def skipComments : Nat → List Char → List Char
  | 0, text => text
  | fuel + 1, text =>
    match text.dropWhile Unicode.isWhite with
    | '#' :: rest => skipComments fuel ((rest.dropWhile (· ≠ '\n')).drop 1)
    | rest => rest

/-- Moves over blanks and comments where they do not count. -/
def bumpSpace : Reader Unit := fun s =>
  .ok ((), if s.verbose then { s with rest := skipComments (s.rest.length + 1) s.rest } else s)

/-- Moves over one character and what does not count behind it; whether anything remains then. -/
def bumpBoth : Reader Bool := do
  if ← bump then
    bumpSpace
    return !(← atEnd)
  else return false

/-- Moves over a word if it is in front. -/
def bumpIf (word : String) : Reader Bool := fun s =>
  let w := word.toList
  if w.isPrefixOf s.rest then .ok (true, { s with rest := s.rest.drop w.length })
  else .ok (false, s)

/-- The first character that counts behind the one in front. -/
def peekCounting : Reader (Option Char) := fun s =>
  .ok (if s.verbose then look false (s.rest.drop 1) else s.rest[1]?, s)
where
  /-- Goes over blanks, and into a comment up to its first character. -/
  look (comment : Bool) : List Char → Option Char
    | [] => none
    | c :: rest =>
      if Unicode.isWhite c then look (comment && c ≠ '\n') rest
      else if !comment && c == '#' then look true rest
      else some c

/-! ### Numbers and escapes -/

/-- Takes digits and what does not count between them. -/
def takeDigits : Nat → List Char → Reader (List Char)
  | 0, done => pure done.reverse
  | fuel + 1, done => do
    match ← peek with
    | some c =>
      if c.isDigit then
        let _ ← bumpBoth
        takeDigits fuel (c :: done)
      else pure done.reverse
    | none => pure done.reverse

/-- Moves over white space, of whatever kind. -/
def bumpWhite : Reader Unit := fun s =>
  .ok ((), { s with rest := s.rest.dropWhile Unicode.isWhite })

/-- Reads a decimal number; none if there is no digit. -/
def readDecimal : Reader (Option Nat) := do
  bumpWhite
  let digits ← takeDigits (← remaining).length []
  bumpWhite
  bumpSpace
  bumpWhite
  if digits.isEmpty then return none
  let n := Unicode.numberOf 10 digits
  if n < twoTo 32 then return some n else refuse .badDecimal

/-- A hexadecimal digit. -/
def isHex (c : Char) : Bool :=
  c.isDigit || (decide ('a' ≤ c) && decide (c ≤ 'f')) || (decide ('A' ≤ c) && decide (c ≤ 'F'))

/-- The character with a number, if there is one. -/
def charOf? (n : Nat) : Option Char := if n.isValidChar then some (Char.ofNat n) else none

/-- Reads `count` hexadecimal digits; the cursor is on the first. -/
def takeHex : Nat → List Char → Reader (List Char)
  | 0, done => pure done.reverse
  | count + 1, done => do
    match ← peek with
    | none => refuse .openEscape
    | some c =>
      if !isHex c then refuse .badHexDigit
      let more ← bumpBoth
      if count ≠ 0 && !more then refuse .openEscape
      takeHex count (c :: done)

/-- Reads hexadecimal digits up to a brace; the cursor is before the first. -/
def takeHexBraced : Nat → List Char → Reader (List Char)
  | 0, done => pure done.reverse
  | fuel + 1, done => do
    if ← bumpBoth then
      match ← peek with
      | some '}' => pure done.reverse
      | some c => if isHex c then takeHexBraced fuel (c :: done) else refuse .badHexDigit
      | none => refuse .openEscape
    else refuse .openEscape

/-- Reads a character given by its number; `digits` is how many there are without braces. -/
def readHex (digits : Nat) : Reader Literal := do
  if !(← bumpBoth) then refuse .openEscape
  if (← peek) == some '{' then
    let ds ← takeHexBraced (← remaining).length []
    let _ ← bumpBoth
    if ds.isEmpty then refuse .emptyHex
    match charOf? (Unicode.numberOf 16 ds) with
    | some c => return ⟨c, false⟩
    | none => refuse .badHex
  else
    let ds ← takeHex digits []
    match charOf? (Unicode.numberOf 16 ds) with
    | some c => return ⟨c, digits == 2⟩
    | none => refuse .badHex

/-- Takes characters up to a brace; the cursor is before the first. -/
def takeBraced : Nat → List Char → Reader (List Char)
  | 0, done => pure done.reverse
  | fuel + 1, done => do
    if ← bumpBoth then
      match ← peek with
      | some '}' => pure done.reverse
      | some c => takeBraced fuel (c :: done)
      | none => refuse .openEscape
    else refuse .openEscape

/-- The text before and after the first `mark`. -/
def splitAt? (mark : List Char) : List Char → Option (List Char × List Char)
  | [] => none
  | c :: rest =>
    if mark.isPrefixOf (c :: rest) then some ([], (c :: rest).drop mark.length)
    else (splitAt? mark rest).map fun p => (c :: p.1, p.2)

/-- The name of a property, with its value if a mark sets it off, and whether it is negated. -/
def propertyName (text : List Char) : PropertyName × Bool :=
  let valued (p : List Char × List Char) : PropertyName :=
    .valued (String.ofList p.1) (String.ofList p.2)
  match splitAt? ['!', '='] text, splitAt? [':'] text, splitAt? ['='] text with
  | some p, _, _ => (valued p, true)
  | _, some p, _ => (valued p, false)
  | _, _, some p => (valued p, false)
  | _, _, _ => (.single (String.ofList text), false)

/-- Reads the name of a property; the cursor is on the letter that announces it. -/
def readProperty (negated : Bool) : Reader (PropertyName × Bool) := do
  if !(← bumpBoth) then refuse .openEscape
  match ← peek with
  | some '{' =>
    let text ← takeBraced (← remaining).length []
    let _ ← bump
    let (name, opposite) := propertyName text
    return (name, negated != opposite)
  | some '\\' => refuse .badProperty
  | some c =>
    let _ ← bumpBoth
    return (.single (String.singleton c), negated)
  | none => refuse .openEscape

/-- What stands for itself or for a class outside of brackets and groups. -/
inductive Primitive
  | literal (l : Literal)
  | anchor (a : Anchor)
  | dot
  | letter (l : Letter) (negated : Bool)
  | property (name : PropertyName) (negated : Bool)

/-- The primitive as a pattern. -/
def Primitive.tree : Primitive → PatternTree
  | .literal l => .literal l
  | .anchor a => .anchor a
  | .dot => .dot
  | .letter l n => .letter l n
  | .property p n => .property p n

/-- The primitive as a part of a class. -/
def Primitive.classPart : Primitive → Reader ClassTree
  | .literal l => pure (.literal l)
  | .letter l n => pure (.letter l n)
  | .property p n => pure (.property p n)
  | .anchor _ | .dot => refuse .badClassEscape

/-- The primitive as the end of a range. -/
def Primitive.rangeEnd : Primitive → Reader Literal
  | .literal l => pure l
  | _ => refuse .rangeNotLiteral

/-- A character that means something else when it is not escaped. -/
def isMeta (c : Char) : Bool := "\\.+*?()|[]\x7b\x7d^$#&-~".toList.contains c

/-- A character that may be escaped to stand for itself. -/
def isEscapable (c : Char) : Bool :=
  isMeta c || (decide (c.toNat < 128) && !c.isAlphanum && c ≠ '<' && c ≠ '>')

/-- A character that the name of a word boundary is made of. -/
def isBoundaryChar (c : Char) : Bool := c.isAlpha || c == '-'

/-- Takes the characters of the name of a word boundary. -/
def takeBoundary : Nat → List Char → Reader (List Char)
  | 0, done => pure done.reverse
  | fuel + 1, done => do
    match ← peek with
    | some c =>
      if isBoundaryChar c then
        let _ ← bumpBoth
        takeBoundary fuel (c :: done)
      else pure done.reverse
    | none => pure done.reverse

/-- Reads the name of a word boundary in braces, if that is what the brace in front opens. -/
def readBoundary : Reader (Option Anchor) := do
  let start ← remaining
  if !(← bumpBoth) then refuse .openBoundaryOrCount
  if !((← peek).any isBoundaryChar) then
    goTo start
    return none
  let name ← takeBoundary (← remaining).length []
  if (← peek) ≠ some '}' then refuse .openBoundary
  let _ ← bump
  match String.ofList name with
  | "start" => return some .wordStart
  | "end" => return some .wordEnd
  | "start-half" => return some .wordStartHalf
  | "end-half" => return some .wordEndHalf
  | _ => refuse .unknownBoundary

/-- The class that a letter names. -/
def letterOf? : Char → Option (Letter × Bool)
  | 'd' => some (.digit, false)
  | 'D' => some (.digit, true)
  | 's' => some (.space, false)
  | 'S' => some (.space, true)
  | 'w' => some (.word, false)
  | 'W' => some (.word, true)
  | _ => none

/-- The control character that a letter stands for. -/
def controlOf? : Char → Option Char
  | 'a' => some '\x07'
  | 'f' => some '\x0c'
  | 't' => some '\t'
  | 'n' => some '\n'
  | 'r' => some '\r'
  | 'v' => some '\x0b'
  | _ => none

/-- Reads what a backslash begins; the cursor is on the backslash. -/
def readEscape : Reader Primitive := do
  if !(← bump) then refuse .openEscape
  match ← peek with
  | none => refuse .openEscape
  | some c =>
    if c.isDigit then refuse .backreference
    else if c == 'x' then return .literal (← readHex 2)
    else if c == 'u' then return .literal (← readHex 4)
    else if c == 'U' then return .literal (← readHex 8)
    else if c == 'p' || c == 'P' then
      let (name, negated) ← readProperty (c == 'P')
      return .property name negated
    else
      let _ ← bump
      match letterOf? c with
      | some (l, negated) => return .letter l negated
      | none =>
        if isEscapable c then return .literal ⟨c, false⟩
        match controlOf? c with
        | some control => return .literal ⟨control, false⟩
        | none =>
          match c with
          | 'A' => return .anchor .textStart
          | 'z' => return .anchor .textEnd
          | 'B' => return .anchor .noBoundary
          | '<' => return .anchor .wordStart
          | '>' => return .anchor .wordEnd
          | 'b' =>
            if (← peek) == some '{' then return .anchor ((← readBoundary).getD .boundary)
            return .anchor .boundary
          | _ => refuse .unknownEscape

/-- Reads a primitive; the cursor is on its first character. -/
def readPrimitive (c : Char) : Reader Primitive := do
  match c with
  | '\\' => readEscape
  | '.' => let _ ← bump; return .dot
  | '^' => let _ ← bump; return .anchor .lineStart
  | '$' => let _ ← bump; return .anchor .lineEnd
  | c => let _ ← bump; return .literal ⟨c, false⟩

/-! ### Classes -/

/-- What is open inside a class. -/
inductive OpenClass
  /-- A bracket, with the parts of the class around it backwards. -/
  | bracket (around : List ClassTree) (negated : Bool)
  /-- A class that the next one is put together with. -/
  | pair (op : ClassOp) (a : ClassTree)

/-- Puts a class together with the one that waits for it. -/
def closePair (opened : List OpenClass) (c : ClassTree) : List OpenClass × ClassTree :=
  match opened with
  | .pair op a :: rest => (rest, .pair op a c)
  | _ => (opened, c)

/-- Takes the hyphens with which a class begins. -/
def takeHyphens : Nat → List ClassTree → Reader (List ClassTree)
  | 0, done => pure done
  | fuel + 1, done => do
    if (← peek) == some '-' then
      if !(← bumpBoth) then refuse .openClass
      takeHyphens fuel (.literal ⟨'-', false⟩ :: done)
    else pure done

/-- Reads an opening bracket and what stands for itself behind it: the first parts of the class,
and whether it is negated. -/
def readBracket : Reader (List ClassTree × Bool) := do
  if !(← bumpBoth) then refuse .openClass
  let negated := (← peek) == some '^'
  if negated then
    if !(← bumpBoth) then refuse .openClass
  let parts ← takeHyphens (← remaining).length []
  if parts.isEmpty && (← peek) == some ']' then
    if !(← bumpBoth) then refuse .openClass
    return ([.literal ⟨']', false⟩], negated)
  return (parts, negated)

/-- The name of an ASCII class in brackets and colons, whether it is negated, and the text behind
it. -/
def asciiClass? (text : List Char) (known : String → Bool) :
    Option (String × Bool × List Char) :=
  match text with
  | '[' :: ':' :: rest =>
    let (negated, rest) := match rest with
      | '^' :: more => (true, more)
      | _ => (false, rest)
    match rest.span (· ≠ ':') with
    | (name, ':' :: ']' :: more) =>
      if known (String.ofList name) then some (String.ofList name, negated, more) else none
    | _ => none
  | _ => none

/-- The names of the ASCII classes. -/
def asciiNames : List String :=
  ["alnum", "alpha", "ascii", "blank", "cntrl", "digit", "graph", "lower", "print", "punct",
    "space", "upper", "word", "xdigit"]

/-- Reads a part of a class: an escape, or a character that stands for itself. -/
def readClassItem : Reader Primitive := do
  match ← peek with
  | some '\\' => readEscape
  | some c =>
    let _ ← bump
    return .literal ⟨c, false⟩
  | none => refuse .openClass

/-- Reads a part of a class or a range of characters. -/
def readClassRange : Reader ClassTree := do
  let first ← readClassItem
  bumpSpace
  if ← atEnd then refuse .openClass
  let next ← peekCounting
  if (← peek) ≠ some '-' || next == some ']' || next == some '-' then first.classPart
  else
    if !(← bumpBoth) then refuse .openClass
    let second ← readClassItem
    let low ← first.rangeEnd
    let high ← second.rangeEnd
    if high.char < low.char then refuse .badClassRange
    return .range low high

/-- Reads a class; `parts` are those of the innermost bracket backwards. -/
def readClass : Nat → List OpenClass → List ClassTree → Reader PatternTree
  | 0, _, _ => refuse .openClass
  | fuel + 1, opened, parts => do
    bumpSpace
    let second ← peekSecond
    match ← peek with
    | none => refuse .openClass
    | some '[' =>
      let text ← remaining
      let named := if opened.isEmpty then none else asciiClass? text fun n => asciiNames.contains n
      match named with
      | some (name, negated, rest) =>
        goTo rest
        readClass fuel opened (.ascii name negated :: parts)
      | none =>
        let (first, negated) ← readBracket
        readClass fuel (.bracket parts negated :: opened) first
    | some ']' =>
      match closePair opened (.ofParts parts) with
      | (.bracket around negated :: outer, inner) =>
        let _ ← bump
        if outer.isEmpty then return .bracketed inner negated
        readClass fuel outer (.bracketed inner negated :: around)
      | _ => refuse .openClass
    | some c =>
      let op := if second ≠ some c then none
        else if c == '&' then some ClassOp.inter
        else if c == '-' then some ClassOp.minus
        else if c == '~' then some ClassOp.differ
        else none
      match op with
      | some op =>
        let _ ← bump
        let _ ← bump
        let (outer, a) := closePair opened (.ofParts parts)
        readClass fuel (.pair op a :: outer) []
      | none =>
        let part ← readClassRange
        readClass fuel opened (part :: parts)

/-! ### Groups -/

/-- What is open outside of classes. -/
inductive OpenGroup
  /-- A group, with the parts before it backwards. -/
  | group (before : List PatternTree) (number : Option Nat) (flags : List FlagItem)
      (verbose : Bool)
  /-- A choice, with the branches before backwards. -/
  | choice (branches : List PatternTree)

/-- The flag that a letter names. -/
def flagOf? : Char → Option Flag
  | 'i' => some .ignoreCase
  | 'm' => some .multiLine
  | 's' => some .dotAll
  | 'U' => some .swapGreed
  | 'u' => some .unicode
  | 'R' => some .crlf
  | 'x' => some .verbose
  | _ => none

/-- Whether flags turn one on or off; none if they say nothing of it. -/
def flagState (f : Flag) (items : List FlagItem) : Option Bool :=
  go false items
where
  /-- Goes through the flags; `off` says whether the sign has been passed. -/
  go (off : Bool) : List FlagItem → Option Bool
    | [] => none
    | .negation :: rest => go true rest
    | .flag g :: rest => if g = f then some !off else go off rest

/-- Reads flags up to the colon or the parenthesis behind them. -/
def readFlags : Nat → List FlagItem → Reader (List FlagItem)
  | 0, done => pure done.reverse
  | fuel + 1, done => do
    match ← peek with
    | none => refuse .openFlags
    | some c =>
      if c == ':' || c == ')' then
        if done.head? == some .negation then refuse .loneNegation
        return done.reverse
      let item ← (if c == '-' then pure FlagItem.negation
        else match flagOf? c with
          | some f => pure (.flag f)
          | none => refuse .unknownFlag)
      if done.contains item then
        refuse (if item == .negation then .sameNegation else .sameFlag)
      if !(← bump) then refuse .openFlags
      readFlags fuel (item :: done)

/-- A character that the name of a group is made of. -/
def isNameChar (first : Bool) (c : Char) : Bool :=
  if first then c == '_' || Unicode.isAlphabetic c
  else c == '_' || c == '.' || c == '[' || c == ']' || Unicode.isAlphanumeric c

/-- Reads the name of a group up to the angle behind it. -/
def readName : Nat → List Char → Reader Unit
  | 0, _ => refuse .openName
  | fuel + 1, done => do
    match ← peek with
    | none => refuse .openName
    | some c =>
      if c == '>' then
        let _ ← bump
        if done.isEmpty then refuse .emptyName
        let name := String.ofList done.reverse
        fun s =>
          if s.names.contains name then .error .sameName
          else .ok ((), { s with names := name :: s.names })
      else if !isNameChar done.isEmpty c then refuse .badName
      else
        let _ ← bump
        readName fuel (c :: done)

/-- What a parenthesis opens: a group with flags, or flags for what follows. -/
inductive Opened
  | group (number : Option Nat) (flags : List FlagItem)
  | flags (items : List FlagItem)

/-- The number of the next group that captures what it matches. -/
def nextGroup : Reader Nat := fun s =>
  .ok (s.groups + 1, { s with groups := s.groups + 1 })

/-- Reads an opening parenthesis and what belongs to it. -/
def readOpening : Reader Opened := do
  let _ ← bump
  bumpSpace
  for word in ["?=", "?!", "?<=", "?<!"] do
    if ← bumpIf word then refuse .lookAround
  if (← bumpIf "?P<") || (← bumpIf "?<") then
    readName ((← remaining).length + 1) []
    return .group (← nextGroup) []
  else if ← bumpIf "?" then
    if ← atEnd then refuse .openGroup
    let items ← readFlags ((← remaining).length + 1) []
    let last ← peek
    let _ ← bump
    if last == some ')' then
      if items.isEmpty then refuse .nothingRepeated
      return .flags items
    return .group none items
  else return .group (← nextGroup) []

/-- Sets whether blanks and comments count. -/
def setVerbose (verbose : Bool) : Reader Unit := fun s => .ok ((), { s with verbose })

/-- Whether blanks and comments count. -/
def getVerbose : Reader Bool := fun s => .ok (s.verbose, s)

/-- The part that an operator of repetition repeats, and the parts before it. -/
def takeRepeated : List PatternTree → Reader (PatternTree × List PatternTree)
  | [] | .empty :: _ | .flags _ :: _ => refuse .nothingRepeated
  | t :: rest => pure (t, rest)

/-- Moves over the mark of a reluctant repetition; whether there is one. -/
def bumpReluctant (more : Bool) : Reader Bool := do
  let reluctant := more && (← peek) == some '?'
  if reluctant then
    let _ ← bump
  return reluctant

/-- Reads a counted repetition and whether it is reluctant; the cursor is on the brace. -/
def readCount : Reader (Nat × Option Nat × Bool) := do
  if !(← bumpBoth) then refuse .openCount
  let least ← fun s =>
    match (readDecimal s : Except PatternFault (Option Nat × Cursor)) with
    | .ok (n, s) => .ok (Except.ok n, s)
    | .error e =>
      .ok (Except.error e, { s with
        rest := (s.rest.dropWhile fun c => Unicode.isWhite c || c.isDigit) })
  if ← atEnd then refuse .openCount
  let given (n : Except PatternFault (Option Nat)) : Reader Nat :=
    match n with
    | .ok (some n) => pure n
    | .ok none => refuse .noCount
    | .error e => refuse e
  let range ←
    (if (← peek) == some ',' then do
      if !(← bumpBoth) then refuse .openCount
      if (← peek) ≠ some '}' then
        let low ← given least
        match ← readDecimal with
        | some high => pure (low, some high)
        | none => refuse .noCount
      else pure (← given least, none)
    else do
      let n ← given least
      pure (n, some n))
  if (← peek) ≠ some '}' then refuse .openCount
  let reluctant ← bumpReluctant (← bumpBoth)
  match range with
  | (low, some high) => if high < low then refuse .badCount
  | _ => pure ()
  return (range.1, range.2, reluctant)

/-- Closes the innermost group around a pattern. -/
def closeGroup (opened : List OpenGroup) (inner : List PatternTree) :
    Reader (List OpenGroup × List PatternTree) := do
  let (opened, tree) := match opened with
    | .choice branches :: rest =>
      (rest, PatternTree.choice (PatternTree.ofParts inner :: branches).reverse)
    | _ => (opened, PatternTree.ofParts inner)
  match opened with
  | .group before number flags verbose :: rest =>
    setVerbose verbose
    let _ ← bump
    return (rest, .group number flags tree :: before)
  | _ => refuse .noGroup

/-- Reads what is outside of classes; `parts` are those of the innermost sequence backwards. -/
def readGroups : Nat → List OpenGroup → List PatternTree → Reader PatternTree
  | 0, _, _ => refuse .openGroup
  | fuel + 1, opened, parts => do
    bumpSpace
    match ← peek with
    | none =>
      match opened with
      | [] => return .ofParts parts
      | [.choice branches] => return .choice (PatternTree.ofParts parts :: branches).reverse
      | _ => refuse .openGroup
    | some '(' =>
      match ← readOpening with
      | .flags items =>
        match flagState .verbose items with
        | some v => setVerbose v
        | none => pure ()
        readGroups fuel opened (.flags items :: parts)
      | .group number flags =>
        let old ← getVerbose
        setVerbose ((flagState .verbose flags).getD old)
        readGroups fuel (.group parts number flags old :: opened) []
    | some ')' =>
      let (opened, parts) ← closeGroup opened parts
      readGroups fuel opened parts
    | some '|' =>
      let _ ← bump
      match opened with
      | .choice branches :: rest =>
        readGroups fuel (.choice (PatternTree.ofParts parts :: branches) :: rest) []
      | _ => readGroups fuel (.choice [PatternTree.ofParts parts] :: opened) []
    | some '[' =>
      let c ← readClass (2 * (← remaining).length + 2) [] []
      readGroups fuel opened (c :: parts)
    | some '?' =>
      let (t, before) ← takeRepeated parts
      let reluctant ← bumpReluctant (← bump)
      readGroups fuel opened (.repetition t 0 (some 1) reluctant :: before)
    | some '*' =>
      let (t, before) ← takeRepeated parts
      let reluctant ← bumpReluctant (← bump)
      readGroups fuel opened (.repetition t 0 none reluctant :: before)
    | some '+' =>
      let (t, before) ← takeRepeated parts
      let reluctant ← bumpReluctant (← bump)
      readGroups fuel opened (.repetition t 1 none reluctant :: before)
    | some '{' =>
      let (t, before) ← takeRepeated parts
      let (least, most, reluctant) ← readCount
      readGroups fuel opened (.repetition t least most reluctant :: before)
    | some c =>
      let p ← readPrimitive c
      readGroups fuel opened (p.tree :: parts)

/-- How deep a pattern may nest. -/
def nestLimit : Nat := 250

end Shapesmith.Pattern

namespace Shapesmith

/-- The tree of a pattern's text. -/
def PatternTree.ofText (text : String) : Except PatternFault PatternTree := do
  let chars := text.toList
  let (tree, _) ← Pattern.readGroups (chars.length + 1) [] [] ⟨chars, false, [], 0⟩
  if Pattern.nestLimit < tree.depth then .error (.tooNested Pattern.nestLimit) else pure tree

end Shapesmith
