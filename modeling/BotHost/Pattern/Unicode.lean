/-
# Properties of code points

Look-ups in the property tables: the code points of a general category, a script or
a binary property, the classes of word characters, digits and blanks that patterns
name by a letter, and the characters that differ from a given one only in case.

Property names are compared loosely: blanks, hyphens, underscores, the case of
letters and a leading `is` do not count.
-/

import BotHost.Text.Blank
import BotHost.Pattern.Unicode.GeneralCategory
import BotHost.Pattern.Unicode.Script
import BotHost.Pattern.Unicode.BinaryProperty
import BotHost.Pattern.Unicode.CaseFolding

namespace BotHost

/-- A set of code points as inclusive ranges in ascending order. -/
abbrev RangeTable := Array (Nat × Nat)

namespace RangeTable

/-- Search the ranges between two positions, halving the distance in each step. -/
def search (table : RangeTable) (code : Nat) : Nat → Nat → Nat → Bool
  | 0, _, _ => false
  | steps + 1, low, high =>
    if high ≤ low then false
    else
      let middle := (low + high) / 2
      match table[middle]? with
      | none => false
      | some (first, last) =>
        if code < first then search table code steps low middle
        else if last < code then search table code steps (middle + 1) high
        else true

/-- Whether a code point lies in one of the ranges. -/
def contains (table : RangeTable) (code : Nat) : Bool :=
  search table code (table.size.log2 + 2) 0 table.size

/-- Append a range, joining it to the last one when they touch. -/
def append (table : RangeTable) (first last : Nat) : RangeTable :=
  match table.back? with
  | some (first', last') =>
    if last' + 1 = first then table.pop.push (first', last) else table.push (first, last)
  | none => table.push (first, last)

end RangeTable

namespace Unicode

/-- The highest code point. -/
def maxCode : Nat := 0x10FFFF

/-- The value of a digit in base 36. -/
def digit36 (c : Char) : Nat :=
  if c.isDigit then c.toNat - '0'.toNat else c.toNat - 'a'.toNat + 10

/-- The number that digits in base 36 name. -/
def number36 (digits : List Char) : Nat :=
  digits.foldl (fun value c => value * 36 + digit36 c) 0

/-- Cut a text at every occurrence of a character. -/
def pieces (mark : Char) : List Char → List (List Char)
  | [] => [[]]
  | c :: rest =>
    if c = mark then [] :: pieces mark rest
    else
      match pieces mark rest with
      | first :: others => (c :: first) :: others
      | [] => [[c]]

/-- A stretch of code points with a common label. -/
structure Stretch where
  first : Nat
  last : Nat
  /-- What the code points have in common. -/
  label : String

/-- Read consecutive stretches whose labels have a fixed width. -/
def readStretches (width : Nat) (lines : List String) : Array Stretch :=
  let step (state : Nat × Array Stretch) (token : String) : Nat × Array Stretch :=
    let chars := token.toList
    let length := number36 (chars.drop width)
    let label := String.ofList (chars.take width)
    (state.1 + length, state.2.push ⟨state.1, state.1 + length - 1, label⟩)
  ((lines.flatMap Text.words).foldl step (0, #[])).2

/-- The stretches of equal general category. -/
def categories : Array Stretch := readStretches 2 categoryLines

/-- The stretches of equal script. -/
def scripts : Array Stretch := readStretches 4 scriptLines

/-- The stretches whose code points belong to other scripts than their own; the label
lists the codes of the scripts one after the other. -/
def scriptExtensions : Array Stretch :=
  let step (state : Nat × Array Stretch) (token : String) : Nat × Array Stretch :=
    match pieces ':' token.toList with
    | [gap, length, label] =>
      let first := state.1 + number36 gap
      let next := first + number36 length
      (next, state.2.push ⟨first, next - 1, String.ofList label⟩)
    | _ => state
  ((scriptExtensionLines.flatMap Text.words).foldl step (0, #[])).2

/-- The code points of the stretches whose label passes a test. -/
def select (stretches : Array Stretch) (wanted : String → Bool) : RangeTable :=
  stretches.foldl
    (fun table stretch =>
      if wanted stretch.label then table.append stretch.first stretch.last else table) #[]

/-- The code points of the general categories with the given short names. -/
def categoryTable (names : List String) : RangeTable := select categories names.contains

/-- Read stretches that alternately lack and have a property. -/
def readRuns (lines : List String) : RangeTable :=
  let step (state : Nat × Bool × RangeTable) (token : String) : Nat × Bool × RangeTable :=
    let length := number36 token.toList
    let next := state.1 + length
    (next, !state.2.1,
      if state.2.1 && decide (0 < length) then state.2.2.append state.1 (next - 1)
      else state.2.2)
  ((lines.flatMap Text.words).foldl step (0, false, #[])).2.2

/-- The code points with a binary property, by its full name. -/
def binaryTable (name : String) : RangeTable :=
  match binaryProperties.find? fun entry => entry.1.head? == some name with
  | some entry => readRuns entry.2
  | none => #[]

/-- The letters and what counts as one. -/
def alphabetic : RangeTable := binaryTable "Alphabetic"

/-- The decimal digits. -/
def digits : RangeTable := categoryTable ["Nd"]

/-- All numbers. -/
def numbers : RangeTable := categoryTable ["Nd", "Nl", "No"]

/-- The blanks. -/
def blanks : RangeTable := Text.blankRanges.toArray

/-- The marks, and the punctuation that connects words. -/
def wordParts : RangeTable := categoryTable ["Mn", "Mc", "Me", "Nd", "Pc"]

/-- The two characters that control whether their neighbours join. -/
def joinControls : RangeTable := binaryTable "Join_Control"

/-- Merge two tables in ascending order, within a bound on the ranges left. -/
def mergeTables : Nat → List (Nat × Nat) → List (Nat × Nat) → List (Nat × Nat)
  | 0, _, _ => []
  | _, [], second => second
  | _, first, [] => first
  | bound + 1, a :: as, b :: bs =>
    if a.1 ≤ b.1 then a :: mergeTables bound as (b :: bs)
    else b :: mergeTables bound (a :: as) bs

/-- Join the current range with the ranges that touch or overlap it; the ranges
ascend by their first code point. -/
def coalesceFrom (current : Nat × Nat) : List (Nat × Nat) → List (Nat × Nat)
  | [] => [current]
  | next :: rest =>
    if next.1 ≤ current.2 + 1 then coalesceFrom (current.1, max current.2 next.2) rest
    else current :: coalesceFrom next rest

/-- Join ranges that touch or overlap; the ranges ascend by their first code point. -/
def coalesce : List (Nat × Nat) → List (Nat × Nat)
  | [] => []
  | first :: rest => coalesceFrom first rest

/-- The union of two tables. -/
def unionTable (first second : RangeTable) : RangeTable :=
  (coalesce (mergeTables (first.size + second.size + 1) first.toList second.toList)).toArray

/-- The word characters: letters, marks, digits, connecting punctuation and joiners. -/
def words : RangeTable := unionTable (unionTable alphabetic wordParts) joinControls

/-- The classes of characters that differ only in case, each with its least member
first. -/
def caseClasses : Array (List Nat) :=
  let step (state : Nat × Array (List Nat)) (token : String) : Nat × Array (List Nat) :=
    match pieces ':' token.toList with
    | [gap, others] =>
      let least := state.1 + number36 gap
      let distances := (pieces ',' others).map number36
      (least, state.2.push (least :: distances.map (least + ·)))
    | _ => state
  ((caseClassLines.flatMap Text.words).foldl step (0, #[])).2

/-- Every code point that has other cases, with its class, in ascending order. -/
def caseMembers : Array (Nat × List Nat) :=
  let entries := caseClasses.toList.flatMap fun members => members.map (·, members)
  (entries.mergeSort fun a b => decide (a.1 ≤ b.1)).toArray

/-- Search the members between two positions. -/
def searchCase (code : Nat) : Nat → Nat → Nat → List Nat
  | 0, _, _ => [code]
  | steps + 1, low, high =>
    if high ≤ low then [code]
    else
      let middle := (low + high) / 2
      match caseMembers[middle]? with
      | none => [code]
      | some (member, members) =>
        if code < member then searchCase code steps low middle
        else if member < code then searchCase code steps (middle + 1) high
        else members

/-- The code points that differ from the given one at most in case. -/
def caseVariants (code : Nat) : List Nat :=
  searchCase code (caseMembers.size.log2 + 2) 0 caseMembers.size

/-- The ASCII letters that differ from the given code point at most in case. -/
def asciiCaseVariants (code : Nat) : List Nat :=
  if 65 ≤ code && code ≤ 90 then [code, code + 32]
  else if 97 ≤ code && code ≤ 122 then [code - 32, code]
  else [code]

/-- The ASCII form of a property name in which case, blanks, hyphens, underscores and
a leading `is` do not count. -/
def looseName (name : String) : String :=
  let chars := name.toList
  let (stripped, rest) :=
    match chars with
    | a :: b :: rest =>
      if (a == 'i' || a == 'I') && (b == 's' || b == 'S') then (true, rest) else (false, chars)
    | _ => (false, chars)
  let kept := rest.filter fun c => c.toNat < 128 && c != ' ' && c != '_' && c != '-'
  let lowered := kept.map Char.toLower
  if stripped && lowered == ['c'] then "isc" else String.ofList lowered

/-- Whether a list of names has the loosely written one. -/
def named (loose : String) (names : List String) : Bool :=
  names.any fun name => looseName name == loose

/-- The categories that a loosely written name stands for. -/
def category? (loose : String) : Option RangeTable :=
  if loose = "any" then some #[(0, maxCode)]
  else if loose = "ascii" then some #[(0, 127)]
  else if loose = "assigned" then some (select categories fun label => label != "Cn")
  else
    match categoryNames.find? (named loose) with
    | none => none
    | some names =>
      match names.head? with
      | none => none
      | some "LC" => some (categoryTable ["Lu", "Ll", "Lt"])
      | some short => some (select categories fun label => short.toList.isPrefixOf label.toList)

/-- The code of the script with a loosely written name. -/
def scriptCode? (loose : String) : Option String :=
  (scriptNames.find? (named loose)).bind List.head?

/-- The code points of a script. -/
def script? (loose : String) : Option RangeTable :=
  (scriptCode? loose).map fun code => select scripts (· == code)

/-- Whether a list of four-letter codes has the given one. -/
def hasCode (code : List Char) : Nat → List Char → Bool
  | 0, _ => false
  | steps + 1, codes =>
    codes.take 4 == code || (!codes.isEmpty && hasCode code steps (codes.drop 4))

/-- The code points that are used in a script: those whose extensions name it, and
those of the script itself that have no extensions. -/
def scriptExtension? (loose : String) : Option RangeTable :=
  (scriptCode? loose).map fun code =>
    let extended := select scriptExtensions fun label =>
      hasCode code.toList label.length label.toList
    let allExtended := select scriptExtensions fun _ => true
    let own := select scripts (· == code)
    let ownOnly := own.toList.flatMap fun range =>
      let inside := allExtended.toList.filter fun other =>
        range.1 ≤ other.2 && other.1 ≤ range.2
      let (start, parts) := inside.foldl
        (fun (state : Nat × List (Nat × Nat)) other =>
          (other.2 + 1,
            if state.1 < other.1 then state.2 ++ [(state.1, other.1 - 1)] else state.2))
        (range.1, [])
      if start ≤ range.2 then parts ++ [(start, range.2)] else parts
    unionTable extended ownOnly.toArray

/-- The code points of a binary property with a loosely written name. -/
def binary? (loose : String) : Option RangeTable :=
  (binaryProperties.find? fun entry => named loose entry.1).map fun entry =>
    readRuns entry.2

/-- The code points that a name alone stands for: a binary property, a general
category or a script, in this order.  Three names that are also names of properties
with values stand for categories. -/
def property? (name : String) : Option RangeTable :=
  let loose := looseName name
  let binary := if ["cf", "sc", "lc"].contains loose then none else binary? loose
  match binary with
  | some table => some table
  | none =>
    match category? loose with
    | some table => some table
    | none => script? loose

/-- The code points at which a property has a value. -/
def propertyValue? (name value : String) : Option RangeTable :=
  let loose := looseName name
  if loose = "gc" ∨ loose = "generalcategory" then category? (looseName value)
  else if loose = "sc" ∨ loose = "script" then script? (looseName value)
  else if loose = "scx" ∨ loose = "scriptextensions" then scriptExtension? (looseName value)
  else none

end Unicode

end BotHost
