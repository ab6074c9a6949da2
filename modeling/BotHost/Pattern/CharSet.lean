/-
# Sets of characters

A set of characters as an expression over ranges and property tables.  Membership is
the evaluation of the expression; closing a set under case asks whether some variant
of the character belongs to it.

`CharSet.ranges` lists a set as ascending ranges.  It is found by evaluating
membership only where it can change.
-/

import BotHost.Pattern.Unicode

namespace BotHost

/-- A set of characters. -/
inductive CharSet where
  /-- The characters in inclusive ranges of code points. -/
  | range (first last : Nat)
  | table (table : RangeTable)
  | complement (set : CharSet)
  | intersection (left right : CharSet)
  | union (left right : CharSet)
  /-- The characters that differ from a member at most in case. -/
  | anyCase (set : CharSet)
  /-- The characters that differ from a member at most in the case of ASCII letters. -/
  | anyAsciiCase (set : CharSet)

namespace CharSet

/-- The set without members. -/
def empty : CharSet := table #[]

/-- The set of a single character. -/
def single (c : Char) : CharSet := range c.toNat c.toNat

/-- The set of every character. -/
def all : CharSet := range 0 Unicode.maxCode

/-- The members of the left set that are not in the right one. -/
def difference (left right : CharSet) : CharSet := intersection left (complement right)

/-- The members of exactly one of two sets. -/
def symmetricDifference (left right : CharSet) : CharSet :=
  union (difference left right) (difference right left)

/-- Whether a code point belongs to the set. -/
def containsCode : CharSet → Nat → Bool
  | range first last, code => first ≤ code && code ≤ last
  | table ranges, code => ranges.contains code
  | complement set, code => !set.containsCode code
  | intersection left right, code => left.containsCode code && right.containsCode code
  | union left right, code => left.containsCode code || right.containsCode code
  | anyCase set, code => (Unicode.caseVariants code).any set.containsCode
  | anyAsciiCase set, code => (Unicode.asciiCaseVariants code).any set.containsCode

/-- Whether a character belongs to the set. -/
def contains (set : CharSet) (c : Char) : Bool := set.containsCode c.toNat

/-- The code points at which membership can change. -/
def changes : CharSet → List Nat
  | range first last => [first, last + 1]
  | table ranges => ranges.toList.flatMap fun (first, last) => [first, last + 1]
  | complement set => set.changes
  | intersection left right => left.changes ++ right.changes
  | union left right => left.changes ++ right.changes
  | anyCase set =>
    set.changes ++ Unicode.caseMembers.toList.flatMap fun (code, _) => [code, code + 1]
  | anyAsciiCase set => set.changes ++ [65, 91, 97, 123] ++ set.changes.flatMap fun code =>
    [code - 32, code + 32]

/-- The surrogates, which are no characters, and the end of all code points. -/
def boundaries : List Nat := [0, 0xD800, 0xE000, Unicode.maxCode + 1]

/-- List a sorted list without repetitions. -/
def dropRepeated : List Nat → List Nat
  | a :: b :: rest => if a = b then dropRepeated (b :: rest) else a :: dropRepeated (b :: rest)
  | short => short

/-- The stretches between neighbouring code points that belong to the set; stretches
that touch are joined, except at the surrogates. -/
def stretches (set : CharSet) : List Nat → List (Nat × Nat)
  | a :: b :: rest =>
    let others := stretches set (b :: rest)
    if a < 0xD800 || (0xE000 ≤ a && a ≤ Unicode.maxCode) then
      if set.containsCode a then
        match others with
        | (first, last) :: more =>
          if first = b then (a, last) :: more else (a, b - 1) :: others
        | [] => [(a, b - 1)]
      else others
    else others
  | _ => []

/-- The set as ascending ranges of code points. -/
def ranges (set : CharSet) : List (Nat × Nat) :=
  let points := (set.changes ++ boundaries).mergeSort fun a b => decide (a ≤ b)
  stretches set (dropRepeated points)

end CharSet

end BotHost
