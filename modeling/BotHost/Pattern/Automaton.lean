/-
# The automaton of a pattern

A pattern is laid out as numbered nodes.  A node says what to do at a place in a text
and where to go on; a fork names two ways, the preferred one first.  The layout of a
pattern begins at a given number and leads to a given number, so layouts are put
together by choosing the numbers.

A repetition without bound around a pattern that always takes a character is one fork
before it.  Around a pattern that may take nothing there are two: one that decides
whether to begin, and one behind the pattern that decides whether to go on.
-/

import BotHost.Pattern

namespace BotHost

/-- A node of an automaton. -/
inductive PatternNode where
  | accept
  | pass (next : Nat)
  | take (set : CharSet) (next : Nat)
  | check (kind : Assertion) (next : Nat)
  | enter (next : Nat)
  /-- The group that began last ends and is remembered under a number. -/
  | leave (index next : Nat)
  /-- Go one way or, failing that, the other. -/
  | fork (first second : Nat)

namespace PatternNode

/-- A fork between going on with a repetition and leaving it. -/
def branch (greedy : Bool) (inside outside : Nat) : PatternNode :=
  if greedy then fork inside outside else fork outside inside

end PatternNode

namespace Pattern

/-- Whether every match takes at least one character. -/
def alwaysTakes : Pattern → Bool
  | empty => false
  | one _ => true
  | assertion _ => false
  | capture _ _ inner => inner.alwaysTakes
  | sequence first second => first.alwaysTakes || second.alwaysTakes
  | alternative first second => first.alwaysTakes && second.alwaysTakes
  | repetition inner least _ _ => 0 < least && inner.alwaysTakes

/-- A layout: nodes from a first number on that lead to a next number. -/
abbrev Layout := Nat → Nat → List PatternNode

namespace Layout

/-- A pattern of the given width so many times. -/
def chain (block : Layout) (width : Nat) : Nat → Layout
  | 0, _, next => [.pass next]
  | count + 1, start, next =>
    block start (start + width) ++ chain block width count (start + width) next

/-- A pattern of the given width at most so many times. -/
def atMost (block : Layout) (width : Nat) (greedy : Bool) : Nat → Layout
  | 0, _, next => [.pass next]
  | count + 1, start, next =>
    .branch greedy (start + 1) next ::
      (block (start + 1) (start + 1 + width) ++
        atMost block width greedy count (start + 1 + width) next)

/-- A pattern of the given width once or more. -/
def onceOrMore (block : Layout) (width : Nat) (greedy : Bool) : Layout := fun start next =>
  block start (start + width) ++ [.branch greedy start next]

/-- A pattern of the given width any number of times. -/
def anyTimes (block : Layout) (width : Nat) (greedy alwaysTakes : Bool) : Layout :=
  fun start next =>
    .branch greedy (start + 1) next ::
      if alwaysTakes then block (start + 1) start
      else onceOrMore block width greedy (start + 1) next

/-- A pattern of the given width between a least and a most number of times. -/
def repeated (block : Layout) (width : Nat) (alwaysTakes : Bool) (least : Nat)
    (most : Option Nat) (greedy : Bool) : Layout := fun start next =>
  match most, least with
  | some most, least =>
    let behind := start + (least * width + 1)
    chain block width least start behind ++
      atMost block width greedy (most - least) behind next
  | none, 0 => anyTimes block width greedy alwaysTakes start next
  | none, least + 1 =>
    let behind := start + (least * width + 1)
    chain block width least start behind ++ onceOrMore block width greedy behind next

/-- How many nodes a repetition of a pattern of the given width has. -/
def repeatedWidth (width : Nat) (alwaysTakes : Bool) (least : Nat) (most : Option Nat) : Nat :=
  match most, least with
  | some most, least => least * width + 1 + ((most - least) * (width + 1) + 1)
  | none, 0 => if alwaysTakes then width + 1 else width + 2
  | none, least + 1 => least * width + 1 + (width + 1)

/-- A chain has its blocks and one node behind them. -/
theorem length_chain {block : Layout} {width : Nat}
    (h : ∀ start next, (block start next).length = width) :
    ∀ count start next, (chain block width count start next).length = count * width + 1
  | 0, _, _ => by simp [chain]
  | count + 1, start, next => by
    simp only [chain, List.length_append, h, length_chain h count, Nat.add_mul]
    omega

/-- Blocks that may be left out have a fork each and one node behind them. -/
theorem length_atMost {block : Layout} {width : Nat} {greedy : Bool}
    (h : ∀ start next, (block start next).length = width) :
    ∀ count start next,
      (atMost block width greedy count start next).length = count * (width + 1) + 1
  | 0, _, _ => by simp [atMost]
  | count + 1, start, next => by
    simp only [atMost, List.length_cons, List.length_append, h, length_atMost h count,
      Nat.add_mul]
    omega

/-- A repetition has as many nodes as its width says. -/
theorem length_repeated {block : Layout} {width : Nat} {alwaysTakes greedy : Bool}
    (h : ∀ start next, (block start next).length = width) (least : Nat) (most : Option Nat)
    (start next : Nat) :
    (repeated block width alwaysTakes least most greedy start next).length =
      repeatedWidth width alwaysTakes least most := by
  cases most with
  | some most => simp [repeated, repeatedWidth, length_chain h, length_atMost h]
  | none =>
    cases least with
    | zero => cases alwaysTakes <;> simp [repeated, repeatedWidth, anyTimes, onceOrMore, h]
    | succ least => simp [repeated, repeatedWidth, onceOrMore, length_chain h, h]

end Layout

/-- How many nodes the layout of a pattern has. -/
def width : Pattern → Nat
  | empty => 1
  | one _ => 1
  | assertion _ => 1
  | capture _ _ inner => inner.width + 2
  | sequence first second => first.width + second.width
  | alternative first second => first.width + second.width + 1
  | repetition inner least most _ =>
    Layout.repeatedWidth inner.width inner.alwaysTakes least most

/-- The nodes of a pattern. -/
def layout : Pattern → Layout
  | empty, _, next => [.pass next]
  | one set, _, next => [.take set next]
  | assertion kind, _, next => [.check kind next]
  | capture index _ inner, start, next =>
    .enter (start + 1) ::
      (layout inner (start + 1) (start + 1 + inner.width) ++ [.leave index next])
  | sequence first second, start, next =>
    layout first start (start + first.width) ++ layout second (start + first.width) next
  | alternative first second, start, next =>
    .fork (start + 1) (start + 1 + first.width) ::
      (layout first (start + 1) next ++ layout second (start + 1 + first.width) next)
  | repetition inner least most greedy, start, next =>
    Layout.repeated (layout inner) inner.width inner.alwaysTakes least most greedy start next

/-- The layout of a pattern has as many nodes as its width says. -/
theorem length_layout (pattern : Pattern) (start next : Nat) :
    (pattern.layout start next).length = pattern.width := by
  induction pattern generalizing start next with
  | empty => rfl
  | one set => rfl
  | assertion kind => rfl
  | capture index name inner ih => simp [layout, width, ih]
  | sequence first second ihFirst ihSecond => simp [layout, width, ihFirst, ihSecond]
  | alternative first second ihFirst ihSecond => simp [layout, width, ihFirst, ihSecond]
  | repetition inner least most greedy ih => exact Layout.length_repeated ih least most start next

/-- The automaton of a pattern, which begins at number zero and accepts behind the
pattern. -/
def automaton (pattern : Pattern) : Array PatternNode :=
  (pattern.layout 0 pattern.width ++ [PatternNode.accept]).toArray

end Pattern

end BotHost
