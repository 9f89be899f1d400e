import Shapesmith.Json.Fault

/-!
# Reading JSON text

Reading works on the characters that remain and stops behind the first value: what follows it in
the text is not looked at.

* `readValue` reads a value that is kept: at most 127 lists and objects deep, with the path of the
  place where it fails;
* `skipValue` reads over a value that is not kept, at any depth;
* `peekKind` names the kind of the value that begins a text, for a refusal;
* members of objects are kept in order, one given twice included: `Json.unique` makes them one.
-/

namespace Shapesmith.Json

/-- A part that was read and the text behind it. -/
abbrev Reading (α : Type) := Except Fault (α × List Char)

/-- Refuses a text. -/
def malformed {α : Type} (fault : TextFault) : Except Fault α := refuse (.malformed fault)

/-- The blanks between the parts of a text. -/
def isBlank (c : Char) : Bool := c == ' ' || c == '\n' || c == '\t' || c == '\r'

/-- The text behind the blanks. -/
def skipBlank (text : List Char) : List Char := text.dropWhile isBlank

/-- Reads the rest of a word. -/
def readWord : List Char → List Char → Reading Unit
  | [], text => .ok ((), text)
  | _ :: _, [] => malformed .valueEnds
  | w :: word, c :: text => if c = w then readWord word text else malformed .noWord

/-! ### Strings -/

/-- The value of a hexadecimal digit. -/
def hexValue? (c : Char) : Option Nat :=
  if c.isDigit then some (c.toNat - 48)
  else if 'a' ≤ c ∧ c ≤ 'f' then some (c.toNat - 87)
  else if 'A' ≤ c ∧ c ≤ 'F' then some (c.toNat - 55)
  else none

/-- The value of four hexadecimal digits. -/
def hexValue4? (a b c d : Char) : Option Nat :=
  match hexValue? a, hexValue? b, hexValue? c, hexValue? d with
  | some a, some b, some c, some d => some (((a * 16 + b) * 16 + c) * 16 + d)
  | _, _, _, _ => none

/-- The fault of an escape whose digits are not there: the text ends, counted in bytes, before
there could be four. -/
def hexFault (text : List Char) : TextFault :=
  if (String.ofList (text.take 4)).utf8ByteSize < 4 then .stringEnds else .badEscape

/-- The character that a letter behind a backslash stands for. -/
def escaped? (c : Char) : Option Char :=
  match c with
  | '"' => some '"'
  | '\\' => some '\\'
  | '/' => some '/'
  | 'b' => some '\x08'
  | 'f' => some '\x0c'
  | 'n' => some '\n'
  | 'r' => some '\r'
  | 't' => some '\t'
  | _ => none

/-- Reads a string behind its opening quote; `done` holds the characters so far backwards. -/
def readString (done : List Char) : List Char → Reading String
  | [] => malformed .stringEnds
  | '"' :: rest => .ok (String.ofList done.reverse, rest)
  | ['\\'] => malformed .stringEnds
  | '\\' :: 'u' :: a :: b :: c :: d :: rest =>
    match hexValue4? a b c d with
    | none => malformed (hexFault (a :: b :: c :: d :: rest))
    | some n =>
      if 0xDC00 ≤ n ∧ n ≤ 0xDFFF then malformed .loneSurrogate
      else if n < 0xD800 ∨ 0xDBFF < n then readString (Char.ofNat n :: done) rest
      else
        match rest with
        | [] => malformed .stringEnds
        | '\\' :: [] => malformed .stringEnds
        | '\\' :: 'u' :: a' :: b' :: c' :: d' :: rest' =>
          match hexValue4? a' b' c' d' with
          | none => malformed (hexFault (a' :: b' :: c' :: d' :: rest'))
          | some m =>
            if m < 0xDC00 ∨ 0xDFFF < m then malformed .loneSurrogate
            else
              readString
                (Char.ofNat ((n - 0xD800) * 1024 + (m - 0xDC00) + 0x10000) :: done) rest'
        | '\\' :: 'u' :: more => malformed (hexFault more)
        | _ => malformed .surrogateCut
  | '\\' :: 'u' :: rest => malformed (hexFault rest)
  | '\\' :: c :: rest =>
    match escaped? c with
    | some e => readString (e :: done) rest
    | none => malformed .badEscape
  | c :: rest =>
    if c.toNat < 32 then malformed .controlCharacter else readString (c :: done) rest

/-- Reads over a string behind its opening quote. -/
def skipString : List Char → Reading Unit
  | [] => malformed .stringEnds
  | '"' :: rest => .ok ((), rest)
  | ['\\'] => malformed .stringEnds
  | '\\' :: 'u' :: a :: b :: c :: d :: rest =>
    match hexValue4? a b c d with
    | none => malformed (hexFault (a :: b :: c :: d :: rest))
    | some _ => skipString rest
  | '\\' :: 'u' :: rest => malformed (hexFault rest)
  | '\\' :: c :: rest =>
    match escaped? c with
    | some _ => skipString rest
    | none => malformed .badEscape
  | c :: rest => if c.toNat < 32 then malformed .controlCharacter else skipString rest

/-! ### Numbers -/

/-- Takes digits into a significand while it stays below `2 ^ 64`, counting them. -/
def takeDigits (significand count : Nat) : List Char → Nat × Nat × List Char
  | [] => (significand, count, [])
  | c :: rest =>
    let next := significand * 10 + (c.toNat - 48)
    if c.isDigit && decide (next < twoTo 64) then takeDigits next (count + 1) rest
    else (significand, count, c :: rest)

/-- The digits in front of a text counted and dropped. -/
def dropDigits (text : List Char) : Nat × List Char :=
  ((text.takeWhile Char.isDigit).length, text.dropWhile Char.isDigit)

/-- Whether a text goes on with a digit. -/
def digitNext : List Char → Bool
  | [] => false
  | c :: _ => c.isDigit

/-- A significand times a power of ten. The power is applied in one rounded step, or in steps of
`10 ^ 308` while it is too small for one. -/
def scaled (negative : Bool) : Nat → Binary64 → Int → Except Fault Number
  | 0, x, _ => .ok (.float { x with negative })
  | fuel + 1, x, exponent =>
    if exponent.natAbs ≤ 308 then
      let y := if 0 ≤ exponent then x.mul (.powerOfTen exponent.toNat)
        else x.div (.powerOfTen exponent.natAbs)
      if y.isInfinite then malformed .numberTooLarge else .ok (.float { y with negative })
    else if x.steps = 0 then .ok (.float { x with negative })
    else if 0 ≤ exponent then malformed .numberTooLarge
    else scaled negative fuel (x.div (.powerOfTen 308)) (exponent + 308)

/-- The number of a significand and an exponent. -/
def fractional (negative : Bool) (significand : Nat) (exponent : Int) : Except Fault Number :=
  scaled negative 8 (.ofInt significand) exponent

/-- Reads an exponent behind its mark. -/
def readExponent (negative : Bool) (significand : Nat) (exponent : Int) (text : List Char) :
    Reading Number :=
  let (down, digits) := match text with
    | '+' :: rest => (false, rest)
    | '-' :: rest => (true, rest)
    | _ => (false, text)
  match digits with
  | [] => malformed .valueEnds
  | c :: _ =>
    if !c.isDigit then malformed .badNumber
    else
      let size := Unicode.numberOf 10 (digits.takeWhile Char.isDigit)
      let rest := digits.dropWhile Char.isDigit
      if twoTo 31 ≤ size then
        if significand ≠ 0 ∧ !down then malformed .numberTooLarge
        else .ok (.float ⟨negative, 0⟩, rest)
      else
        (fractional negative significand (if down then exponent - size else exponent + size)).map
          (·, rest)

/-- Reads what may follow the digits of a fraction. -/
def readAfterFraction (negative : Bool) (significand : Nat) (exponent : Int) :
    List Char → Reading Number
  | 'e' :: rest | 'E' :: rest => readExponent negative significand exponent rest
  | rest => (fractional negative significand exponent).map (·, rest)

/-- Reads a fraction behind its point; digits that no longer fit are dropped. -/
def readFraction (negative : Bool) (significand : Nat) (exponent : Int) (text : List Char) :
    Reading Number :=
  let (s, count, rest) := takeDigits significand 0 text
  if digitNext rest then
    readAfterFraction negative s (exponent - count) (dropDigits rest).2
  else if count = 0 then malformed (if rest.isEmpty then .valueEnds else .badNumber)
  else readAfterFraction negative s (exponent - count) rest

/-- Reads what may follow the digits of an integer. -/
def readAfterInteger (negative : Bool) (significand : Nat) : List Char → Reading Number
  | '.' :: rest => readFraction negative significand 0 rest
  | 'e' :: rest | 'E' :: rest => readExponent negative significand 0 rest
  | rest =>
    if !negative then .ok (.int significand, rest)
    else if significand = 0 ∨ twoTo 63 < significand then
      .ok (.float (Binary64.ofInt significand).neg, rest)
    else .ok (.int (-(significand : Int)), rest)

/-- Reads a number behind its sign. -/
def readNumber (negative : Bool) : List Char → Reading Number
  | [] => malformed .valueEnds
  | '0' :: rest => if digitNext rest then malformed .badNumber else readAfterInteger negative 0 rest
  | c :: rest =>
    if !c.isDigit then malformed .badNumber
    else
      let (s, _, more) := takeDigits 0 0 (c :: rest)
      if digitNext more then
        let (dropped, after) := dropDigits more
        match after with
        | '.' :: rest => readFraction negative s dropped rest
        | _ => readAfterFraction negative s dropped after
      else readAfterInteger negative s more

/-- Reads over a number behind its sign. -/
def skipNumber : List Char → Reading Unit
  | [] => malformed .badNumber
  | c :: rest =>
    if !c.isDigit ∨ (c = '0' ∧ digitNext rest) then malformed .badNumber
    else
      let exponent (text : List Char) : Reading Unit :=
        let digits := match text with
          | '+' :: rest | '-' :: rest => rest
          | _ => text
        if digitNext digits then .ok ((), digits.dropWhile Char.isDigit)
        else malformed .badNumber
      match rest.dropWhile Char.isDigit with
      | '.' :: more =>
        if digitNext more then
          match more.dropWhile Char.isDigit with
          | 'e' :: after | 'E' :: after => exponent after
          | after => .ok ((), after)
        else malformed .badNumber
      | 'e' :: after | 'E' :: after => exponent after
      | after => .ok ((), after)

/-! ### Values that are kept -/

/-- Reads the comma or the end behind an item of a list: the text of the next item, or none and
the text behind the list. -/
def nextItem (first : Bool) (text : List Char) : Except Fault (Bool × List Char) :=
  match skipBlank text with
  | [] => malformed .listEnds
  | ']' :: rest => .ok (false, rest)
  | c :: rest =>
    if first then .ok (true, c :: rest)
    else if c ≠ ',' then malformed .noListComma
    else
      match skipBlank rest with
      | [] => malformed .valueEnds
      | ']' :: _ => malformed .commaAtEnd
      | more => .ok (true, more)

/-- Reads the comma or the end behind a member of an object and the quote of the next key: the
text behind the quote, or none and the text behind the object. -/
def nextKey (first : Bool) (text : List Char) : Except Fault (Bool × List Char) :=
  match skipBlank text with
  | [] => malformed .objectEnds
  | '}' :: rest => .ok (false, rest)
  | c :: rest =>
    if first then
      if c = '"' then .ok (true, rest) else malformed .keyNotString
    else if c ≠ ',' then malformed .noObjectComma
    else
      match skipBlank rest with
      | [] => malformed .valueEnds
      | '"' :: more => .ok (true, more)
      | '}' :: _ => malformed .commaAtEnd
      | _ => malformed .keyNotString

/-- Reads the key of the next member, if there is one; a fault has no key to be named by. -/
def readKey (first : Bool) (text : List Char) : Except Fault (Option String × List Char) :=
  under .unread do
    let (more, rest) ← nextKey first text
    if more then
      let (key, rest) ← readString [] rest
      pure (some key, rest)
    else pure (none, rest)

/-- Reads the colon behind a key. -/
def readColon (text : List Char) : Except Fault (List Char) :=
  match skipBlank text with
  | [] => malformed .objectEnds
  | ':' :: rest => .ok rest
  | _ => malformed .noColon

/-- Reads a value that holds no others, from its first character. -/
def readScalar (c : Char) (rest : List Char) : Reading Json :=
  match c with
  | 'n' => (readWord ['u', 'l', 'l'] rest).map fun r => (.null, r.2)
  | 't' => (readWord ['r', 'u', 'e'] rest).map fun r => (.bool true, r.2)
  | 'f' => (readWord ['a', 'l', 's', 'e'] rest).map fun r => (.bool false, r.2)
  | '"' => (readString [] rest).map fun r => (.str r.1, r.2)
  | '-' => (readNumber true rest).map fun r => (.num r.1, r.2)
  | _ =>
    if c.isDigit then (readNumber false (c :: rest)).map fun r => (.num r.1, r.2)
    else malformed .noValue

/-- How many lists and objects a kept value may be deep, and one more. -/
def depthLimit : Nat := 128

mutual

/-- Reads a value inside at most `depth` lists and objects. -/
def readValue : Nat → Nat → List Char → Except Fault (Json × List Char)
  | 0, _, _ => malformed .valueEnds
  | fuel + 1, depth, text =>
    match skipBlank text with
    | [] => malformed .valueEnds
    | '[' :: rest =>
      if depth ≤ 1 then malformed .tooDeep
      else readItems fuel (depth - 1) 0 [] rest
    | '{' :: rest =>
      if depth ≤ 1 then malformed .tooDeep
      else readMembers fuel (depth - 1) true [] rest
    | c :: rest => readScalar c rest

/-- Reads the items from `index` on; `done` holds those before backwards. -/
def readItems :
    Nat → Nat → Nat → List Json → List Char → Except Fault (Json × List Char)
  | 0, _, _, _, _ => malformed .listEnds
  | fuel + 1, depth, index, done, text => do
    let (more, rest) ← nextItem (index == 0) text
    if more then
      let (item, rest) ← under (.index index) (readValue fuel depth rest)
      readItems fuel depth (index + 1) (item :: done) rest
    else pure (.arr done.reverse, rest)

/-- Reads the members that remain; `done` holds those before backwards. -/
def readMembers :
    Nat → Nat → Bool → List (String × Json) → List Char → Except Fault (Json × List Char)
  | 0, _, _, _, _ => malformed .objectEnds
  | fuel + 1, depth, first, done, text => do
    let (key, rest) ← readKey first text
    match key with
    | none => pure (.obj done.reverse, rest)
    | some key =>
      let rest ← readColon rest
      let (value, rest) ← under (.key key) (readValue fuel depth rest)
      readMembers fuel depth false ((key, value) :: done) rest

end

/-- Reads a value of which nothing bounds the length. -/
def readWhole (depth : Nat) (text : List Char) : Reading Json :=
  readValue (2 * text.length + 2) depth text

/-! ### Values that are not kept -/

/-- What an open list or object is. -/
inductive Frame
  | list | object
deriving DecidableEq, Repr

/-- Reads over a value that holds no others, from its first character. -/
def skipScalar (c : Char) (rest : List Char) : Reading Unit :=
  match c with
  | 'n' => readWord ['u', 'l', 'l'] rest
  | 't' => readWord ['r', 'u', 'e'] rest
  | 'f' => readWord ['a', 'l', 's', 'e'] rest
  | '"' => skipString rest
  | '-' => skipNumber rest
  | _ => if c.isDigit then skipNumber (c :: rest) else malformed .noValue

/-- Reads over a key and its colon. -/
def skipKey (text : List Char) : Except Fault (List Char) :=
  match skipBlank text with
  | [] => malformed .objectEnds
  | '"' :: rest => do
    let (_, rest) ← skipString rest
    readColon rest
  | _ => malformed .keyNotString

/-- What comes next while a value is read over. -/
inductive Place
  /-- A value. -/
  | value
  /-- The inside of the innermost list or object; a comma may come if it has begun. -/
  | inside (begun : Bool)
deriving DecidableEq, Repr

/-- Reads over a value; `frames` are the lists and objects that are open, innermost first. -/
def skipFrom : Nat → Place → List Frame → List Char → Except Fault (Unit × List Char)
  | 0, _, _, _ => malformed .valueEnds
  | fuel + 1, .value, frames, text =>
    match skipBlank text with
    | [] => malformed .valueEnds
    | '[' :: rest => skipFrom fuel (.inside false) (.list :: frames) rest
    | '{' :: rest => skipFrom fuel (.inside false) (.object :: frames) rest
    | c :: rest => do
      let (_, rest) ← skipScalar c rest
      skipFrom fuel (.inside true) frames rest
  | _ + 1, .inside _, [], text => .ok ((), text)
  | fuel + 1, .inside begun, frame :: frames, text =>
    let next (rest : List Char) : Except Fault (Unit × List Char) :=
      match frame with
      | .list => skipFrom fuel .value (frame :: frames) rest
      | .object => do
        let rest ← skipKey rest
        skipFrom fuel .value (frame :: frames) rest
    match skipBlank text, frame with
    | [], .list => malformed .listEnds
    | [], .object => malformed .objectEnds
    | ']' :: rest, .list | '}' :: rest, .object => skipFrom fuel (.inside true) frames rest
    | c :: rest, frame =>
      if !begun then next (c :: rest)
      else if c = ',' then next rest
      else malformed (match frame with | .list => .noListComma | .object => .noObjectComma)

/-- Reads over a value. -/
def skipValue (text : List Char) : Reading Unit := skipFrom (2 * text.length + 2) .value [] text

/-! ### Refusals -/

/-- Refuses the value that begins a text because another kind is asked for. A list or an object is
not looked into. -/
def refuseNext {α : Type} (expected : String) (text : List Char) : Except Fault α :=
  match skipBlank text with
  | [] => malformed .valueEnds
  | '[' :: _ => refuse (.wrongType .list expected)
  | '{' :: _ => refuse (.wrongType .map expected)
  | c :: rest => do
    let (value, _) ← readScalar c rest
    refuseType value expected

/-! ### Whole documents -/

/-- Reads the value that begins a document. -/
def ofText (source : String) : Except Fault Json :=
  (readWhole depthLimit source.toList).map fun r => r.1.unique

/-- Reads the object that begins a document. -/
def fieldsOfText (source : String) : Except Fault (List (String × Json)) :=
  let text := source.toList
  match skipBlank text with
  | '{' :: _ => do
    match (← readWhole depthLimit text).1.unique with
    | .obj fields => pure fields
    | _ => pure []
  | _ => refuseNext "a map" text

end Shapesmith.Json
