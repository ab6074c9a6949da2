/-
# Patterns

What a pattern matches, once its flags are worked out.  A pattern consumes sets of
characters, asserts things about positions, and combines patterns one after the
other, by preference, and by repetition.

`Pattern.Reaches` says declaratively how a pattern leads from one place in a text to
another; `BotHost.Pattern.Matcher` finds the preferred way through the automaton that
`BotHost.Pattern.Automaton` lays out.
-/

import BotHost.Pattern.CharSet

namespace BotHost

/-- What can be asserted about the position between two characters. -/
inductive Assertion where
  | textStart
  | textEnd
  /-- The beginning of a line; lines end at line feeds, or also at carriage returns. -/
  | lineStart (crlf : Bool)
  | lineEnd (crlf : Bool)
  /-- A word on exactly one side; words consist of Unicode's or of ASCII's word
  characters. -/
  | wordBoundary (unicode : Bool)
  /-- No word, or a word on both sides. -/
  | notWordBoundary (unicode : Bool)
  /-- A word on the right side only. -/
  | wordStart (unicode : Bool)
  /-- A word on the left side only. -/
  | wordEnd (unicode : Bool)
  /-- No word on the left side. -/
  | wordStartHalf (unicode : Bool)
  /-- No word on the right side. -/
  | wordEndHalf (unicode : Bool)
deriving DecidableEq, Repr

/-- What a pattern matches. -/
inductive Pattern where
  | empty
  | one (set : CharSet)
  | assertion (kind : Assertion)
  /-- What the inner pattern matches, remembered under a number and possibly a name. -/
  | capture (index : Nat) (name : Option String) (inner : Pattern)
  | sequence (first second : Pattern)
  /-- One of two patterns, the first one preferred. -/
  | alternative (first second : Pattern)
  /-- A pattern repeated between a least and a most number of times; a greedy
  repetition prefers more. -/
  | repetition (inner : Pattern) (least : Nat) (most : Option Nat) (greedy : Bool)

namespace Pattern

/-- Whether the pattern can match nothing but the empty text. -/
def onlyEmpty : Pattern → Bool
  | empty => true
  | one _ => false
  | assertion _ => true
  | capture _ _ inner => inner.onlyEmpty
  | sequence first second => first.onlyEmpty && second.onlyEmpty
  | alternative first second => first.onlyEmpty && second.onlyEmpty
  | repetition inner _ most _ => inner.onlyEmpty || most == some 0

/-- A repetition in which what adds nothing is left out: a pattern that only matches
the empty text is repeated at most once, no repetition at all is the empty pattern,
and exactly one is the inner pattern. -/
def repeated (inner : Pattern) (least : Nat) (most : Option Nat) (greedy : Bool) : Pattern :=
  let least := if inner.onlyEmpty then min least 1 else least
  let most := if inner.onlyEmpty then some (min (most.getD 1) 1) else most
  if least = 0 ∧ most = some 0 then empty
  else if least = 1 ∧ most = some 1 then inner
  else repetition inner least most greedy

/-- Patterns one after the other. -/
def ofSequence : List Pattern → Pattern
  | [] => empty
  | [pattern] => pattern
  | pattern :: rest => sequence pattern (ofSequence rest)

/-- Patterns in order of preference. -/
def ofAlternatives : List Pattern → Pattern
  | [] => one .empty
  | [pattern] => pattern
  | pattern :: rest => alternative pattern (ofAlternatives rest)

/-- The number of the last group, and zero for the whole match if there is none. -/
def lastGroup : Pattern → Nat
  | empty => 0
  | one _ => 0
  | assertion _ => 0
  | capture index _ inner => max index inner.lastGroup
  | sequence first second => max first.lastGroup second.lastGroup
  | alternative first second => max first.lastGroup second.lastGroup
  | repetition inner _ _ _ => inner.lastGroup

/-- The number of the group with a name. -/
def groupNamed? (name : String) : Pattern → Option Nat
  | empty => none
  | one _ => none
  | assertion _ => none
  | capture index own inner => if own = some name then some index else inner.groupNamed? name
  | sequence first second => (first.groupNamed? name).or (second.groupNamed? name)
  | alternative first second => (first.groupNamed? name).or (second.groupNamed? name)
  | repetition inner _ _ _ => inner.groupNamed? name

end Pattern

/-- The texts that groups remember, by number, the latest first. -/
abbrev Groups := List (Nat × List Char)

/-- A place in a text, and what groups have remembered on the way to it. -/
structure Place where
  /-- The characters before the place, the nearest first. -/
  before : List Char
  after : List Char
  /-- How many characters are before the place. -/
  offset : Nat
  groups : Groups

namespace Place

/-- The beginning of a text. -/
def start (text : List Char) : Place := ⟨[], text, 0, []⟩

/-- The place behind the next character, which is `c`. -/
def advance (place : Place) (c : Char) (rest : List Char) : Place :=
  { place with before := c :: place.before, after := rest, offset := place.offset + 1 }

/-- Remember under a number the text from an earlier place to this one. -/
def remember (place : Place) (index : Nat) (from' : Place) : Place :=
  { place with
    groups := (index, from'.after.take (place.offset - from'.offset)) :: place.groups }

/-- The text that a group remembers. -/
def group? (place : Place) (index : Nat) : Option (List Char) :=
  (place.groups.find? fun entry => entry.1 == index).map (·.2)

end Place

namespace Assertion

/-- Whether a neighbouring character belongs to a word. -/
def isWord (unicode : Bool) : Option Char → Bool
  | none => false
  | some c =>
    if unicode then Unicode.words.contains c.toNat else c.isAlphanum || c == '_'

/-- Whether the assertion holds between two stretches of text. -/
def holds (kind : Assertion) (before after : List Char) : Bool :=
  let word (unicode : Bool) : Bool × Bool :=
    (isWord unicode before.head?, isWord unicode after.head?)
  match kind with
  | textStart => before.isEmpty
  | textEnd => after.isEmpty
  | lineStart false => before.isEmpty || before.head? == some '\n'
  | lineStart true =>
    before.isEmpty || before.head? == some '\n' ||
      (before.head? == some '\r' && after.head? != some '\n')
  | lineEnd false => after.isEmpty || after.head? == some '\n'
  | lineEnd true =>
    after.isEmpty || after.head? == some '\r' ||
      (after.head? == some '\n' && before.head? != some '\r')
  | wordBoundary unicode => (word unicode).1 != (word unicode).2
  | notWordBoundary unicode => (word unicode).1 == (word unicode).2
  | wordStart unicode => !(word unicode).1 && (word unicode).2
  | wordEnd unicode => (word unicode).1 && !(word unicode).2
  | wordStartHalf unicode => !(word unicode).1
  | wordEndHalf unicode => !(word unicode).2

end Assertion

namespace Pattern

/-- A relation between places repeated a number of times. -/
inductive Iterated (relation : Place → Place → Prop) : Nat → Place → Place → Prop where
  | zero (place : Place) : Iterated relation 0 place place
  | succ {count : Nat} {first second third : Place} :
      relation first second → Iterated relation count second third →
      Iterated relation (count + 1) first third

/-- How a pattern leads from one place in a text to another, without regard to
preference. -/
def Reaches : Pattern → Place → Place → Prop
  | empty, first, second => second = first
  | one set, first, second =>
    ∃ c rest, first.after = c :: rest ∧ set.contains c = true ∧
      second = first.advance c rest
  | assertion kind, first, second =>
    kind.holds first.before first.after = true ∧ second = first
  | capture index _ inner, first, second =>
    ∃ inside, inner.Reaches first inside ∧ second = inside.remember index first
  | sequence former latter, first, second =>
    ∃ middle, former.Reaches first middle ∧ latter.Reaches middle second
  | alternative former latter, first, second =>
    former.Reaches first second ∨ latter.Reaches first second
  | repetition inner least most _, first, second =>
    ∃ count, least ≤ count ∧ (∀ bound, most = some bound → count ≤ bound) ∧
      Iterated inner.Reaches count first second

end Pattern

end BotHost
