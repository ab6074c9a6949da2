/-
# Patterns as they are written

The tree of a pattern's text, before its flags are worked out.  Literals, classes and
repetitions stand as they were written; what a class or a literal means depends on
the flags in force at its place, and is settled by `PatternTree.meaning?`.
-/

namespace BotHost

/-- The flags that a pattern can switch on and off. -/
inductive PatternFlag where
  | ignoreCase
  /-- The line anchors match at every line. -/
  | multiLine
  /-- The dot matches line ends as well. -/
  | dotAll
  /-- Greedy and lazy repetition change places. -/
  | swapGreed
  /-- Classes and case are those of Unicode. -/
  | unicode
  /-- A line ends at a carriage return, a line feed or both. -/
  | crlf
  /-- Blanks and comments in the pattern do not count. -/
  | verbose
deriving DecidableEq, Repr

/-- The flags that one group switches, in written order, each with its new state. -/
abbrev FlagChanges := List (PatternFlag × Bool)

/-- What is asserted about a position. -/
inductive Anchor where
  | lineStart | lineEnd | textStart | textEnd
  | wordBoundary | notWordBoundary | wordStart | wordEnd | wordStartHalf | wordEndHalf
deriving DecidableEq, Repr

/-- A literal character, and whether it was written as a byte of two hexadecimal
digits. -/
structure PatternLiteral where
  char : Char
  /-- Whether it was written as a byte. -/
  isByte : Bool
deriving DecidableEq, Repr

/-- The classes that have a one-letter name. -/
inductive LetterClass where
  | digit | blank | word
deriving DecidableEq, Repr

/-- A property by name, with a value if one was written. -/
structure PropertyQuery where
  /-- The name of the property, or a value that needs no property. -/
  name : String
  value : Option String
deriving DecidableEq, Repr

/-- The operations on classes. -/
inductive ClassOperation where
  | intersection | difference | symmetricDifference
deriving DecidableEq, Repr

/-- The inside of a bracketed class. -/
inductive ClassTree where
  | empty
  | literal (char : PatternLiteral)
  | range (first last : PatternLiteral)
  /-- A class of ASCII characters by name, as ranges. -/
  | ascii (negated : Bool) (ranges : List (Nat × Nat))
  | property (negated : Bool) (query : PropertyQuery)
  /-- A class with a one-letter name. -/
  | letter (negated : Bool) (kind : LetterClass)
  | bracket (negated : Bool) (inner : ClassTree)
  | union (items : List ClassTree)
  | combine (operation : ClassOperation) (left right : ClassTree)

/-- A pattern as it is written. -/
inductive PatternTree where
  | empty
  /-- A change of flags for the rest of the group. -/
  | flags (changes : FlagChanges)
  | literal (char : PatternLiteral)
  | dot
  | anchor (kind : Anchor)
  | property (negated : Bool) (query : PropertyQuery)
  /-- A class with a one-letter name. -/
  | letter (negated : Bool) (kind : LetterClass)
  | bracket (negated : Bool) (inner : ClassTree)
  | repetition (inner : PatternTree) (least : Nat) (most : Option Nat) (greedy : Bool)
  | capture (index : Nat) (name : Option String) (inner : PatternTree)
  /-- A group that captures nothing and may change flags for its inside. -/
  | group (changes : FlagChanges) (inner : PatternTree)
  | sequence (items : List PatternTree)
  /-- One of several, in order of preference. -/
  | alternatives (items : List PatternTree)

namespace ClassTree

mutual

/-- How deeply brackets, unions and operations are nested. -/
def depth : ClassTree → Nat
  | bracket _ inner => depth inner + 1
  | union items => depthOfItems items + 1
  | combine _ left right => max (depth left) (depth right) + 1
  | _ => 0

/-- The greatest depth among the items. -/
def depthOfItems : List ClassTree → Nat
  | [] => 0
  | item :: rest => max (depth item) (depthOfItems rest)

end

/-- Several items as one class: a single item stands for itself. -/
def ofItems : List ClassTree → ClassTree
  | [] => empty
  | [item] => item
  | items => union items

end ClassTree

namespace PatternTree

mutual

/-- How deeply groups, repetitions, classes, sequences and alternatives are nested. -/
def depth : PatternTree → Nat
  | bracket _ inner => inner.depth + 1
  | repetition inner _ _ _ => depth inner + 1
  | capture _ _ inner => depth inner + 1
  | group _ inner => depth inner + 1
  | sequence items => depthOfItems items + 1
  | alternatives items => depthOfItems items + 1
  | _ => 0

/-- The greatest depth among the items. -/
def depthOfItems : List PatternTree → Nat
  | [] => 0
  | item :: rest => max (depth item) (depthOfItems rest)

end

/-- Several items one after the other: a single item stands for itself. -/
def ofSequence : List PatternTree → PatternTree
  | [] => empty
  | [item] => item
  | items => sequence items

/-- Several alternatives: a single one stands for itself. -/
def ofAlternatives : List PatternTree → PatternTree
  | [item] => item
  | items => alternatives items

end PatternTree

end BotHost
