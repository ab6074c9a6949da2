/-
# The meaning of a written pattern

Flags decide what literals, classes, the dot and the line anchors stand for.  A flag
holds from its place to the end of the group around it, across alternatives.

Patterns match text, so a class may not match half of a character: without the
Unicode flag a class, a dot or a byte must stay within ASCII.  Properties exist only
with the Unicode flag.
-/

import BotHost.Pattern
import BotHost.Pattern.Reader

namespace BotHost

/-- The flags in force at some place of a pattern. -/
structure PatternFlags where
  ignoreCase : Bool
  multiLine : Bool
  dotAll : Bool
  swapGreed : Bool
  unicode : Bool
  crlf : Bool
deriving DecidableEq, Repr

namespace PatternFlags

/-- The flags a pattern starts with. -/
def initial : PatternFlags := ⟨false, false, false, false, true, false⟩

/-- Switch one flag. -/
def switch (flags : PatternFlags) : PatternFlag × Bool → PatternFlags
  | (.ignoreCase, on) => { flags with ignoreCase := on }
  | (.multiLine, on) => { flags with multiLine := on }
  | (.dotAll, on) => { flags with dotAll := on }
  | (.swapGreed, on) => { flags with swapGreed := on }
  | (.unicode, on) => { flags with unicode := on }
  | (.crlf, on) => { flags with crlf := on }
  | (.verbose, _) => flags

/-- Switch several flags. -/
def apply (flags : PatternFlags) (changes : FlagChanges) : PatternFlags :=
  changes.foldl switch flags

end PatternFlags

namespace PatternLiteral

/-- The character that a literal stands for.  Without the Unicode flag a byte beyond
ASCII is no character. -/
def char? (literal : PatternLiteral) (flags : PatternFlags) : Option Char :=
  if !flags.unicode && literal.isByte && decide (127 < literal.char.toNat) then none
  else some literal.char

/-- The set that a literal matches. -/
def set? (literal : PatternLiteral) (flags : PatternFlags) : Option CharSet := do
  let c ← literal.char? flags
  let set := CharSet.single c
  some
    (if !flags.ignoreCase then set
      else if flags.unicode then .anyCase set
      else .anyAsciiCase set)

/-- The character that a literal stands for inside of a class, where without the
Unicode flag only ASCII exists. -/
def classChar? (literal : PatternLiteral) (flags : PatternFlags) : Option Char := do
  let c ← literal.char? flags
  if !flags.unicode && decide (127 < c.toNat) then none else some c

end PatternLiteral

namespace ClassTree

/-- Close a set under case and negate it, as the flags and the writing demand.  A
negated class without the Unicode flag would match bytes beyond ASCII. -/
def finish? (flags : PatternFlags) (negated : Bool) (set : CharSet) : Option CharSet :=
  let folded :=
    if !flags.ignoreCase then set
    else if flags.unicode then .anyCase set
    else .anyAsciiCase set
  if !negated then some folded
  else if flags.unicode then some (.complement folded)
  else none

/-- The set of ranges. -/
def ofRanges (ranges : List (Nat × Nat)) : CharSet := .table ranges.toArray

/-- The code points of a class with a one-letter name. -/
def letterSet (unicode : Bool) : LetterClass → CharSet
  | .digit => if unicode then .table Unicode.digits else .range 48 57
  | .blank => if unicode then .table Unicode.blanks else ofRanges [(9, 13), (32, 32)]
  | .word =>
    if unicode then .table Unicode.words
    else ofRanges [(48, 57), (65, 90), (95, 95), (97, 122)]

/-- The set of a class with a one-letter name, which ignores case by itself. -/
def letter? (flags : PatternFlags) (negated : Bool) (kind : LetterClass) : Option CharSet :=
  let set := letterSet flags.unicode kind
  if !negated then some set
  else if flags.unicode then some (.complement set)
  else none

/-- The set of a property. -/
def property? (flags : PatternFlags) (negated : Bool) (query : PropertyQuery) :
    Option CharSet := do
  if flags.unicode then
    let table ←
      match query.value with
      | none => Unicode.property? query.name
      | some value => Unicode.propertyValue? query.name value
    finish? flags negated (.table table)
  else none

/-- Close the operand of a class operation under case. -/
def foldOperand (flags : PatternFlags) (set : CharSet) : CharSet :=
  if !flags.ignoreCase then set
  else if flags.unicode then .anyCase set
  else .anyAsciiCase set

mutual

/-- The set of a class. -/
def set? (flags : PatternFlags) : ClassTree → Option CharSet
  | empty => some .empty
  | literal char => (char.classChar? flags).map .single
  | range first last => do
    let first ← first.classChar? flags
    let last ← last.classChar? flags
    some (.range first.toNat last.toNat)
  | ascii negated ranges => finish? flags negated (ofRanges ranges)
  | property negated query => property? flags negated query
  | letter negated kind => letter? flags negated kind
  | bracket negated inner => (set? flags inner).bind (finish? flags negated)
  | union items => setOfItems? flags items
  | combine operation left right => do
    let left ← set? flags left
    let right ← set? flags right
    let left := foldOperand flags left
    let right := foldOperand flags right
    some
      (match operation with
        | .intersection => .intersection left right
        | .difference => .difference left right
        | .symmetricDifference => .symmetricDifference left right)

/-- The union of the sets of several items. -/
def setOfItems? (flags : PatternFlags) : List ClassTree → Option CharSet
  | [] => some .empty
  | item :: rest => do
    let set ← set? flags item
    let others ← setOfItems? flags rest
    some (.union set others)

end

end ClassTree

namespace PatternTree

/-- The set of the dot. -/
def dotSet? (flags : PatternFlags) : Option CharSet :=
  if !flags.unicode then none
  else if flags.dotAll then some .all
  else if flags.crlf then some (.complement (.union (.range 10 10) (.range 13 13)))
  else some (.complement (.range 10 10))

/-- The assertion of an anchor. -/
def assertionOf (flags : PatternFlags) : Anchor → Assertion
  | .textStart => .textStart
  | .textEnd => .textEnd
  | .lineStart => if flags.multiLine then .lineStart flags.crlf else .textStart
  | .lineEnd => if flags.multiLine then .lineEnd flags.crlf else .textEnd
  | .wordBoundary => .wordBoundary flags.unicode
  | .notWordBoundary => .notWordBoundary flags.unicode
  | .wordStart => .wordStart flags.unicode
  | .wordEnd => .wordEnd flags.unicode
  | .wordStartHalf => .wordStartHalf flags.unicode
  | .wordEndHalf => .wordEndHalf flags.unicode

mutual

/-- What a tree matches under some flags, and the flags in force behind it. -/
def meaning? (flags : PatternFlags) : PatternTree → Option (Pattern × PatternFlags)
  | empty => some (.empty, flags)
  | .flags changes => some (.empty, flags.apply changes)
  | literal char => do
    let set ← char.set? flags
    some (.one set, flags)
  | dot => do
    let set ← dotSet? flags
    some (.one set, flags)
  | anchor kind => some (.assertion (assertionOf flags kind), flags)
  | property negated query => do
    let set ← ClassTree.property? flags negated query
    some (.one set, flags)
  | letter negated kind => do
    let set ← ClassTree.letter? flags negated kind
    some (.one set, flags)
  | bracket negated inner => do
    let set ← inner.set? flags
    let set ← ClassTree.finish? flags negated set
    some (.one set, flags)
  | repetition inner least most greedy => do
    let (inner, behind) ← meaning? flags inner
    some (.repeated inner least most (greedy != flags.swapGreed), behind)
  | capture index name inner => do
    let (inner, _) ← meaning? flags inner
    some (.capture index name inner, flags)
  | group changes inner => do
    let (inner, _) ← meaning? (flags.apply changes) inner
    some (inner, flags)
  | sequence items => do
    let (patterns, behind) ← meanings? flags items
    some (.ofSequence patterns, behind)
  | alternatives items => do
    let (patterns, behind) ← meanings? flags items
    some (.ofAlternatives patterns, behind)

/-- What the trees of a list match, each under the flags in force behind the one
before. -/
def meanings? (flags : PatternFlags) : List PatternTree → Option (List Pattern × PatternFlags)
  | [] => some ([], flags)
  | item :: rest => do
    let (pattern, behind) ← meaning? flags item
    let (patterns, behind) ← meanings? behind rest
    some (pattern :: patterns, behind)

end

end PatternTree

end BotHost
