import Shapesmith.Pattern.Fault

/-!
# The text of a pattern as a tree

* `PatternTree` is a pattern as it is written: its flags are not applied yet and its classes are
  not looked up;
* `ClassTree` is a class as it is written;
* `PatternTree.depth` counts how deep groups, choices, sequences, repetitions and classes nest.
-/

namespace Shapesmith

/-- What a flag changes. -/
inductive Flag
  | ignoreCase | multiLine | dotAll | swapGreed | unicode | crlf | verbose
deriving DecidableEq, Repr

/-- A part of a list of flags: a flag, or the sign before flags that are turned off. -/
inductive FlagItem
  | negation
  | flag (f : Flag)
deriving DecidableEq, Repr

/-- One character of a pattern; `byte` says that it was given by two hexadecimal digits. -/
structure Literal where
  /-- The character. -/
  char : Char
  /-- It stands for a byte where patterns are about bytes. -/
  byte : Bool
deriving DecidableEq, Repr

/-- The classes that one letter names. -/
inductive Letter
  | digit | space | word
deriving DecidableEq, Repr

/-- The name of a property, with or without a value. -/
inductive PropertyName
  | single (name : String)
  | valued (name value : String)
deriving DecidableEq, Repr

/-- How two classes are put together. -/
inductive ClassOp
  | inter | minus | differ
deriving DecidableEq, Repr

/-- A class as it is written. -/
inductive ClassTree
  | literal (l : Literal)
  | range (low high : Literal)
  | ascii (name : String) (negated : Bool)
  | letter (l : Letter) (negated : Bool)
  | property (name : PropertyName) (negated : Bool)
  | bracketed (inner : ClassTree) (negated : Bool)
  | items (parts : List ClassTree)
  | pair (op : ClassOp) (a b : ClassTree)
deriving Repr

/-- A condition as it is written. -/
inductive Anchor
  | lineStart | lineEnd | textStart | textEnd
  | boundary | noBoundary
  | wordStart | wordEnd | wordStartHalf | wordEndHalf
deriving DecidableEq, Repr

/-- A pattern as it is written. A repetition may be reluctant, and a group that captures what it
matches has a number. -/
inductive PatternTree
  | empty
  | flags (items : List FlagItem)
  | literal (l : Literal)
  | dot
  | anchor (a : Anchor)
  | letter (l : Letter) (negated : Bool)
  | property (name : PropertyName) (negated : Bool)
  | bracketed (inner : ClassTree) (negated : Bool)
  | repetition (inner : PatternTree) (least : Nat) (most : Option Nat) (reluctant : Bool)
  | group (number : Option Nat) (flags : List FlagItem) (inner : PatternTree)
  | choice (branches : List PatternTree)
  | sequence (parts : List PatternTree)
deriving Repr

mutual

/-- How deep a class nests. -/
def ClassTree.depth : ClassTree → Nat
  | .bracketed inner _ => inner.depth + 1
  | .items parts => ClassTree.depthAll parts + 1
  | .pair _ a b => max a.depth b.depth + 1
  | _ => 0

/-- How deep the deepest of some classes nests. -/
def ClassTree.depthAll : List ClassTree → Nat
  | [] => 0
  | c :: rest => max c.depth (ClassTree.depthAll rest)

end

mutual

/-- How deep a pattern nests. -/
def PatternTree.depth : PatternTree → Nat
  | .bracketed inner _ => inner.depth + 1
  | .repetition inner _ _ _ => inner.depth + 1
  | .group _ _ inner => inner.depth + 1
  | .choice branches => PatternTree.depthAll branches + 1
  | .sequence parts => PatternTree.depthAll parts + 1
  | _ => 0

/-- How deep the deepest of some patterns nests. -/
def PatternTree.depthAll : List PatternTree → Nat
  | [] => 0
  | t :: rest => max t.depth (PatternTree.depthAll rest)

end

/-- A sequence of parts, given backwards. -/
def PatternTree.ofParts : List PatternTree → PatternTree
  | [] => .empty
  | [t] => t
  | parts => .sequence parts.reverse

/-- A class of parts, given backwards. -/
def ClassTree.ofParts : List ClassTree → ClassTree
  | [c] => c
  | parts => .items parts.reverse

end Shapesmith
