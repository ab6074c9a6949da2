/-
# Matching by preference

A search follows threads through the automaton of a pattern, the preferred one first.
What lies ahead of a thread depends on its node and its place alone, so a thread that
arrives where one has been before is dropped, and the search ends.

`Pattern.find?` is the first match in a text: the leftmost one, and of those the
preferred one.  `Pattern.findAll` goes on behind each match; an empty match right
behind a match does not count.
-/

import BotHost.Pattern.Automaton

namespace BotHost

namespace Pattern

/-- One match of a pattern. -/
structure Match where
  start : Place
  /-- Where it ends, with what its groups remember. -/
  stop : Place

namespace Match

/-- The matched text. -/
def text (found : Match) : List Char :=
  found.start.after.take (found.stop.offset - found.start.offset)

/-- Whether the matched text is empty. -/
def isEmpty (found : Match) : Bool := found.stop.offset == found.start.offset

/-- The text of a group: of the whole match for number zero. -/
def group? (found : Match) (index : Nat) : Option (List Char) :=
  if index = 0 then some found.text else found.stop.group? index

end Match

/-- A thread of a search. -/
structure Thread where
  /-- Where its match begins. -/
  start : Place
  node : Nat
  place : Place
  /-- Where the groups that have not ended began, the innermost first. -/
  opened : List Place

namespace Thread

/-- A thread whose match begins at a place. -/
def begin (place : Place) : Thread := ⟨place, 0, place, []⟩

/-- The thread at another node. -/
def goTo (thread : Thread) (node : Nat) : Thread := { thread with node }

/-- How a thread goes on from a node, the preferred way first. -/
def follow (thread : Thread) : PatternNode → List Thread
  | .accept => []
  | .pass next => [thread.goTo next]
  | .take set next =>
    match thread.place.after with
    | [] => []
    | c :: rest =>
      if set.contains c then [{ thread with node := next, place := thread.place.advance c rest }]
      else []
  | .check kind next =>
    if kind.holds thread.place.before thread.place.after then [thread.goTo next] else []
  | .enter next => [{ thread with node := next, opened := thread.place :: thread.opened }]
  | .leave index next =>
    match thread.opened with
    | [] => [thread.goTo next]
    | first :: others =>
      [{ thread with node := next, place := thread.place.remember index first, opened := others }]
  | .fork first second => [thread.goTo first, thread.goTo second]

end Thread

/-- Which nodes threads have reached at which places. -/
structure Footprints where
  /-- The offset of the first place of the search. -/
  origin : Nat
  /-- For each place from the first one on the nodes, as the bits of a number. -/
  rows : Array Nat

namespace Footprints

/-- No footprints at a number of places. -/
def none (origin places : Nat) : Footprints := ⟨origin, Array.replicate places 0⟩

/-- Whether some thread has been at the node and the place of a thread. -/
def contains (seen : Footprints) (thread : Thread) : Bool :=
  (seen.rows.getD (thread.place.offset - seen.origin) 0).testBit thread.node

/-- Remember that a thread has been where it is. -/
def add (seen : Footprints) (thread : Thread) : Footprints :=
  { seen with
    rows := seen.rows.modify (thread.place.offset - seen.origin) (· ||| 1 <<< thread.node) }

end Footprints

/-- Follow threads depth first until one of them accepts.  The first argument bounds the
number of threads that are looked at. -/
def follow (nodes : Array PatternNode) : Nat → List Thread → Footprints → Option Match
  | 0, _, _ => none
  | _ + 1, [], _ => none
  | bound + 1, thread :: others, seen =>
    if seen.contains thread then follow nodes bound others seen
    else
      match nodes[thread.node]? with
      | none => follow nodes bound others (seen.add thread)
      | some .accept => some ⟨thread.start, thread.place⟩
      | some node => follow nodes bound (thread.follow node ++ others) (seen.add thread)

/-- The places from a place on; the first argument is the text behind the place. -/
def placesFrom : List Char → Place → List Place
  | [], place => [place]
  | c :: rest, place => place :: placesFrom rest (place.advance c rest)

/-- The first match at or behind a place.  Every node is left once at every place, and
by two ways at most, which bounds the number of threads. -/
def search (nodes : Array PatternNode) (place : Place) : Option Match :=
  let places := placesFrom place.after { place with groups := [] }
  follow nodes ((2 * nodes.size + 1) * places.length + 1) (places.map .begin)
    (.none place.offset places.length)

/-- The first match in a text. -/
def find? (pattern : Pattern) (text : String) : Option Match :=
  search pattern.automaton (.start text.toList)

/-- The first match at or behind a place, where an empty match at the end of the match
before does not count. -/
def searchBehind (nodes : Array PatternNode) (place : Place) (last : Option Nat) :
    Option Match :=
  match search nodes place with
  | none => none
  | some found =>
    if found.isEmpty && last == some found.stop.offset then
      match place.after with
      | [] => none
      | c :: rest => search nodes (place.advance c rest)
    else some found

/-- All matches from a place on.  Every two matches take a character, which bounds
their number. -/
def findAllFrom (nodes : Array PatternNode) : Nat → Place → Option Nat → List Match
  | 0, _, _ => []
  | bound + 1, place, last =>
    match searchBehind nodes place last with
    | none => []
    | some found =>
      found :: findAllFrom nodes bound found.stop (some found.stop.offset)

/-- All matches in a text, from left to right. -/
def findAll (pattern : Pattern) (text : String) : List Match :=
  let chars := text.toList
  findAllFrom pattern.automaton (2 * chars.length + 2) (.start chars) none

end Pattern

end BotHost
