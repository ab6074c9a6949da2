/-
# How large a pattern may be

A pattern is refused when the automaton for its UTF-8 bytes would take more than ten
mebibytes.  Every repetition counts as many copies as it asks for.

The size of a set of characters is that of the tree of its byte sequences: a set is
listed as ranges, the ranges are cut into sequences of byte ranges, and sequences
with a common beginning share it.
-/

import BotHost.Pattern

namespace BotHost

namespace Utf8

/-- The number of bytes of a code point. -/
def length (code : Nat) : Nat :=
  if code < 0x80 then 1 else if code < 0x800 then 2 else if code < 0x10000 then 3 else 4

/-- The bytes of a code point. -/
def encode (code : Nat) : List Nat :=
  if code < 0x80 then [code]
  else if code < 0x800 then [0xC0 + code / 64, 0x80 + code % 64]
  else if code < 0x10000 then [0xE0 + code / 4096, 0x80 + code / 64 % 64, 0x80 + code % 64]
  else
    [0xF0 + code / 262144, 0x80 + code / 4096 % 64, 0x80 + code / 64 % 64, 0x80 + code % 64]

/-- Where a range of code points has to be cut, so that the bytes behind its first
varying byte vary freely: the last code point of the first part. -/
def cut? (first last : Nat) : Option Nat :=
  let lengthCut := [0x7F, 0x7FF, 0xFFFF].find? fun limit => first ≤ limit && limit < last
  match lengthCut with
  | some limit => some limit
  | none =>
    [64, 4096, 262144].findSome? fun block =>
      if 127 < last && first / block ≠ last / block then
        if first % block ≠ 0 then some (first / block * block + block - 1)
        else if last % block ≠ block - 1 then some (last / block * block - 1)
        else none
      else none

/-- The sequences of byte ranges for a range of code points, in ascending order.  A
range falls into few sequences, whose number the first argument bounds. -/
def sequences : Nat → Nat → Nat → List (List (Nat × Nat))
  | 0, _, _ => []
  | bound + 1, first, last =>
    match cut? first last with
    | some middle => sequences bound first middle ++ sequences bound (middle + 1) last
    | none => [(encode first).zip (encode last)]

/-- How many elements two lists have in common at their beginning. -/
def commonLength : List (Nat × Nat) → List (Nat × Nat) → Nat
  | a :: as, b :: bs => if a = b then commonLength as bs + 1 else 0
  | _, _ => 0

/-- The number of nodes of the tree of sequences in ascending order. -/
def treeSize : List (List (Nat × Nat)) → Nat
  | a :: b :: rest => treeSize (b :: rest) + (a.length - commonLength a b)
  | [a] => a.length
  | [] => 0

end Utf8

namespace CharSet

/-- The size of the automaton of a set, in bytes. -/
def automatonSize (set : CharSet) : Nat :=
  match set.ranges with
  | [] => 32
  | [(first, last)] =>
    if first = last then 32 * Utf8.length first
    else sizeOfRanges [(first, last)]
  | ranges => sizeOfRanges ranges
where
  /-- The size of the automaton of several ranges. -/
  sizeOfRanges (ranges : List (Nat × Nat)) : Nat :=
    if ranges.all fun range => range.2 < 0x80 then 64 + 8 * ranges.length
    else
      let sequences := ranges.flatMap fun (first, last) => Utf8.sequences 16 first last
      64 + 4 * sequences.length + 32 * Utf8.treeSize sequences

end CharSet

namespace Pattern

/-- How many copies of single-character patterns and assertions there are once every
repetition is written out. -/
def copies : Pattern → Nat
  | empty => 1
  | one _ => 1
  | assertion _ => 1
  | capture _ _ inner => inner.copies + 1
  | sequence first second => first.copies + second.copies
  | alternative first second => first.copies + second.copies + 1
  | repetition inner least most _ => inner.copies * max (most.getD least) 1 + 1

/-- The size of the automaton of a pattern, in bytes. -/
def automatonSize : Pattern → Nat
  | empty => 32
  | one set => set.automatonSize
  | assertion _ => 32
  | capture _ _ inner => inner.automatonSize + 64
  | sequence first second => first.automatonSize + second.automatonSize
  | alternative first second => first.automatonSize + second.automatonSize + 72
  | repetition inner least most _ =>
    let size := inner.automatonSize
    match most with
    | none => max least 1 * size + 40
    | some most => most * size + (most - least) * 40 + 32

/-- The largest size of an automaton. -/
def sizeLimit : Nat := 10 * Nat.pow 2 20

/-- Whether a pattern is small enough.  A few copies always are. -/
def isSmall (pattern : Pattern) : Bool :=
  decide (pattern.copies ≤ 64) || decide (pattern.automatonSize ≤ sizeLimit)

end Pattern

end BotHost
