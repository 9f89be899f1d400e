import Shapesmith.Pattern.Simplify

/-!
# The size of a machine

A pattern is refused if a machine that searches for it takes too many bytes. There are two
machines, one that reads forward and one that reads backward, and the limit holds for each. States
are counted in the order in which they are added: a class looks for the states that it has in common
by a hash of the numbers of other states.

* `CharClass.byteSequences` spells the characters of a class as sequences of ranges of bytes;
* `CharClass.addStates`, `Builder.addTexts` and `Regex.addStates` add the states of classes, of
  choices between texts and of patterns;
* `Regex.fits` says whether both machines keep to the limit.
-/

namespace Shapesmith

/-! ### Bytes -/

/-- The bytes of a text. -/
def bytesOf (chars : List Char) : List Nat := (chars.flatMap String.utf8EncodeChar).map UInt8.toNat

/-- Sequences of ranges of bytes for the numbers from `low` to `high`, in `digits` digits of six
bits behind a first one, to which `mark` is added. -/
def digitSequences (mark : Nat) : Nat → Nat → Nat → List (List (Nat × Nat))
  | 0, low, high => [[(mark + low, mark + high)]]
  | digits + 1, low, high =>
    let unit := 64 ^ (digits + 1)
    let (a, b) := (low / unit, high / unit)
    let (l, h) := (low % unit, high % unit)
    let under (d l h : Nat) : List (List (Nat × Nat)) :=
      (digitSequences 0x80 digits l h).map ((mark + d, mark + d) :: ·)
    if a = b then under a l h
    else
      -- below the first and the last digit there may be less than all numbers
      let (first, a) := if l = 0 then ([], a) else (under a l (unit - 1), a + 1)
      let (last, b) := if h = unit - 1 then ([], b) else (under b 0 h, b - 1)
      let whole := (mark + a, mark + b) :: List.replicate (digits + 1) (0x80, 0xBF)
      first ++ (if a ≤ b then [whole] else []) ++ last

/-- Characters of one length in bytes. -/
structure Utf8Block where
  /-- The first character. -/
  low : Nat
  /-- The last character. -/
  high : Nat
  /-- How many bytes follow the first one. -/
  digits : Nat
  /-- What is added to the first byte. -/
  mark : Nat

/-- The blocks of characters; surrogates are in none of them. -/
def utf8Blocks : List Utf8Block :=
  [⟨0, 0x7F, 0, 0⟩, ⟨0x80, 0x7FF, 1, 0xC0⟩, ⟨0x800, 0xD7FF, 2, 0xE0⟩, ⟨0xE000, 0xFFFF, 2, 0xE0⟩,
    ⟨0x10000, 0x10FFFF, 3, 0xF0⟩]

/-- Sequences of ranges of bytes for the characters of a class. -/
def CharClass.byteSequences (c : CharClass) : List (List (Nat × Nat)) :=
  c.spans.flatMap fun s => utf8Blocks.flatMap fun block =>
    let (low, high) := (max s.1 block.low, min s.2 block.high)
    if low ≤ high then digitSequences block.mark block.digits low high else []

/-! ### States -/

/-- How many bytes a machine may take. -/
def Pattern.sizeLimit : Nat := 10485760

/-- What there is of a machine. -/
structure Machine where
  /-- How many states there are. -/
  states : Nat
  /-- How many bytes the lists take that are kept in them. -/
  lists : Nat

/-- Building a machine, up to the limit. -/
abbrev Builder := StateT Machine Option

namespace Builder

/-- Adds states and bytes for lists. -/
def spend (states lists : Nat) : Builder Unit := fun m =>
  let next : Machine := ⟨m.states + states, m.lists + lists⟩
  if 32 * next.states + next.lists ≤ Pattern.sizeLimit then some ((), next) else none

/-- Adds a state without a list. -/
def addPlain : Builder Unit := spend 1 0

/-- Adds a state that goes to so many others. -/
def addFork (count : Nat) : Builder Unit := spend 1 (4 * count)

/-- Adds a state that goes on by so many ranges of bytes. -/
def addRanges (count : Nat) : Builder Unit := spend 1 (8 * count)

/-- The number of the state that `build` adds first. -/
def numbered (build : Builder Unit) : Builder Nat := do
  let number := (← get).states
  build
  return number

/-- Builds so many times. -/
def times (build : Builder Unit) : Nat → Builder Unit
  | 0 => pure ()
  | n + 1 => do
    build
    times build n

end Builder

/-! ### Classes -/

/-- States of a class by what they do, at the places that hashes give: the last one at each. -/
abbrev Known := Array (Option (List Nat × Nat))

/-- Building the states of a class. -/
abbrev Sharing := StateT Known Builder

namespace Sharing

/-- The hash of numbers. -/
def hash (numbers : List Nat) : Nat :=
  let mix (h : UInt64) (n : Nat) : UInt64 := (h ^^^ n.toUInt64) * 1099511628211
  (numbers.foldl mix 14695981039346656037).toNat

/-- The number of the state that does something, which `build` adds if it is not known. -/
def share (does : List Nat) (build : Builder Unit) : Sharing Nat := do
  let known ← get
  let place := hash does % known.size
  match known[place]?.join with
  | some (done, number) => if done = does then return number
  | none => pure ()
  let number ← build.numbered
  set (known.setIfInBounds place (some (does, number)))
  return number

/-- The number of the state from which sequences of at most so many ranges lead to `target`. -/
def node (target : Nat) : Nat → List (List (Nat × Nat)) → Sharing Nat
  | 0, _ => pure target
  | length + 1, sequences => do
    let edges ← (sequences.splitBy fun a b => a.head? == b.head?).mapM fun group => do
      let behind := group.map (·.drop 1)
      let number ← if behind.all List.isEmpty then pure target else node target length behind
      let (low, high) := (group.head?.bind List.head?).getD (0, 0)
      return [low, high, number]
    share edges.flatten (Builder.addRanges edges.length)

/-- Adds the states of sequences that are read forward. -/
def addForward (sequences : List (List (Nat × Nat))) : Sharing Unit := do
  let target ← Builder.addPlain.numbered
  let _ ← node target 4 sequences

/-- Adds the states of sequences that are read backward. -/
def addBackward (sequences : List (List (Nat × Nat))) : Sharing Unit := do
  Builder.addFork sequences.length
  let target ← Builder.addPlain.numbered
  for sequence in sequences do
    let _ ← sequence.foldlM (fun next r => share [next, r.1, r.2] Builder.addPlain) target

end Sharing

/-- Adds the states of a class. -/
def CharClass.addStates (back : Bool) (c : CharClass) : Builder Unit :=
  if c.isAscii then do
    Builder.addPlain
    Builder.addRanges c.spans.length
  else if back then (Sharing.addBackward c.byteSequences).run' (.replicate 1000 .none)
  else (Sharing.addForward c.byteSequences).run' (.replicate 10000 .none)

/-! ### Choices between texts -/

namespace Builder

/-- Texts parted by those that are empty. -/
def chunksOf (texts : List (List Nat)) : List (List (List Nat)) :=
  let step (text : List Nat) : List (List (List Nat)) → List (List (List Nat))
    | [] => [[text]]
    | chunk :: rest => if text.isEmpty then [] :: chunk :: rest else (text :: chunk) :: rest
  texts.foldr step [[]]

/-- Adds the states that lead by texts of at most so many bytes to one target. -/
def addBytes : Nat → List (List Nat) → Builder Unit
  | 0, _ => pure ()
  | length + 1, texts => do
    -- a text that ends here is preferred to those behind it, so these have states of their own
    let chunks := chunksOf (texts.dropWhile List.isEmpty)
    let ends := chunks.length - (if texts.head? = some [] then 0 else 1)
    for chunk in chunks do
      let bytes := (chunk.filterMap List.head?).eraseDups
      for byte in bytes do
        let behind := (chunk.filter fun text => text.head? = some byte).map (·.drop 1)
        if !behind.all List.isEmpty then addBytes length behind
      if bytes.length = 1 then addPlain
      else if 1 < bytes.length then addRanges bytes.length
    addFork ((chunks.filter fun chunk => !chunk.isEmpty).length + ends)

/-- Adds the states of a choice between texts. -/
def addTexts (back : Bool) (texts : List (List Char)) : Builder Unit := do
  addPlain
  let spelt := texts.map fun t => if back then (bytesOf t).reverse else bytesOf t
  addBytes ((spelt.map List.length).foldr max 0) spelt

end Builder

/-! ### Patterns -/

namespace Regex

/-- The characters of a text. -/
def text? : Regex → Option (List Char)
  | .text chars => some chars
  | _ => none

/-- The texts of a choice between texts alone. -/
def texts? (r : Regex) : Option (List (List Char)) := r.branches.mapM text?

/-- Adds the states of `r` repeated, where `once` adds those of `r`. -/
def addRepeated (r : Regex) (once : Builder Unit) (least : Nat) (most : Option Nat) :
    Builder Unit :=
  match least, most with
  | 0, none => do
    if r.leastLength.any (0 < ·) then
      Builder.addFork 2
      once
    else
      once
      Builder.addFork 2
      Builder.addFork 2
      Builder.addPlain
  | least, none => do
    Builder.times once least
    Builder.addFork 2
  | 0, some 1 => do
    Builder.addFork 2
    once
    Builder.addPlain
  | least, some most => do
    if least = 0 then Builder.addPlain
    Builder.times once least
    if least < most then
      Builder.addPlain
      Builder.times (do Builder.addFork 2; once) (most - least)

/-- Joins a branch of a choice to so many branches before it. -/
def addJoin : Nat → Builder Unit
  | 0 => pure ()
  | 1 => do
    Builder.addFork 2
    Builder.addPlain
  | _ => Builder.spend 0 4

/-- Adds the states of a pattern with so many branches before it in the choice that it belongs
to, if it belongs to one. -/
def addStates (back : Bool) : Regex → Nat → Builder Unit
  | .empty, before | .assert _, before => do
    Builder.addPlain
    addJoin before
  | .text chars, before => do
    Builder.times Builder.addPlain (bytesOf chars).length
    addJoin before
  | .one c, before => do
    c.addStates back
    addJoin before
  | .seq a b, before => do
    if back then
      b.addStates back 0
      a.addStates back 0
    else
      a.addStates back 0
      b.addStates back 0
    addJoin before
  | .alt a b, before =>
    -- only the choice as a whole may be one between texts
    match if before = 0 then (Regex.alt a b).texts? else none with
    | some texts => Builder.addTexts back texts
    | none => do
      a.addStates back 0
      addJoin before
      b.addStates back (before + 1)
  | .repeated r least most _, before => do
    r.addRepeated (r.addStates back 0) least most
    addJoin before
  | .group _ r, before => do
    if !back then Builder.addPlain
    r.addStates back 0
    if !back then Builder.addPlain
    addJoin before

/-- The pattern matches only where the text begins. -/
def atStart : Regex → Bool
  | .assert a => a = .textStart
  | .seq a b => a.atStart || !a.mayTake && b.atStart
  | .alt a b => a.atStart && b.atStart
  | .repeated r least _ _ => decide (0 < least) && r.atStart
  | .group _ r => r.atStart
  | _ => false

/-- The pattern matches only where the text ends. -/
def atEnd : Regex → Bool
  | .assert a => a = .textEnd
  | .seq a b => b.atEnd || !b.mayTake && a.atEnd
  | .alt a b => a.atEnd && b.atEnd
  | .repeated r least _ _ => decide (0 < least) && r.atEnd
  | .group _ r => r.atEnd
  | _ => false

/-- Adds all states of a machine: those that move over the text in front of the match unless the
pattern is bound to one place, the pattern as a group, and the match. -/
def addMachine (back : Bool) (r : Regex) : Builder Unit := do
  if if back then r.atEnd else r.atStart then Builder.addPlain
  else
    Builder.addFork 2
    Builder.addPlain
    Builder.addRanges 1
  (Regex.group 0 r).addStates back 0
  Builder.addPlain

/-- How many texts are searched for at once without a machine. -/
def textsAtOnce : Nat := 3000

/-- The machines for the pattern keep to the limit, or it needs none. -/
def fits (r : Regex) : Bool :=
  r.texts?.any (textsAtOnce ≤ ·.length) ||
    [false, true].all fun back => (r.addMachine back ⟨0, 0⟩).isSome

end Regex

end Shapesmith
