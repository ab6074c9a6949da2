/-
# Reading patterns

`PatternTree.read?` reads the text of a pattern into its tree, or refuses it.  There
is no look-around and there are no back-references; a brace behind an item must be
a counted repetition, and a class, a group or an escape must be complete.

The reader is a state machine on the text that is left.  It keeps whether blanks and
comments count at this place, how many groups were numbered, and their names.
-/

import BotHost.Pattern.Tree
import BotHost.Pattern.Unicode

namespace BotHost

namespace PatternReader

/-- Where the reader stands. -/
structure State where
  rest : List Char
  /-- Whether blanks and comments are skipped. -/
  verbose : Bool
  /-- How many groups have been numbered. -/
  groups : Nat
  names : List String

/-- A step of the reader, which may refuse the text. -/
abbrev Reader (α : Type) := StateT State Option α

/-- Refuse the text. -/
def refuse {α : Type} : Reader α := fun _ => none

/-- The next character. -/
def peek : Reader (Option Char) := fun state => some (state.rest.head?, state)

/-- The text that is left. -/
def ahead : Reader (List Char) := fun state => some (state.rest, state)

/-- Drop a number of characters. -/
def drop (count : Nat) : Reader Unit := fun state =>
  some ((), { state with rest := state.rest.drop count })

/-- Skip the rest of a comment, including its line feed. -/
def skipComment : List Char → List Char
  | [] => []
  | c :: rest => if c = '\n' then rest else skipComment rest

/-- What follows blanks and comments; every one of them takes a character, so the
length of the text bounds their number. -/
def skipSpace : Nat → List Char → List Char
  | 0, text => text
  | bound + 1, text =>
    match text with
    | [] => []
    | c :: rest =>
      if Text.isBlank c then skipSpace bound rest
      else if c = '#' then skipSpace bound (skipComment rest)
      else text

/-- Skip blanks and comments where they do not count. -/
def space : Reader Unit := fun state =>
  some ((), if state.verbose then { state with rest := skipSpace state.rest.length state.rest }
    else state)

/-- Drop one character and skip the blanks behind it. -/
def dropAndSpace : Reader Unit := do
  drop 1
  space

/-- The next character, which must exist. -/
def next : Reader Char := do
  match ← peek with
  | some c => pure c
  | none => refuse

/-- Drop a text if it comes next. -/
def dropIf (text : List Char) : Reader Bool := do
  if text.isPrefixOf (← ahead) then
    drop text.length
    pure true
  else pure false

/-! ### Escapes -/

/-- The characters with a meaning of their own. -/
def metaCharacters : List Char :=
  ['\\', '.', '+', '*', '?', '(', ')', '|', '[', ']', '\x7b', '\x7d', '^', '$', '#', '&',
    '-', '~']

/-- Whether a character has a meaning of its own. -/
def isMeta (c : Char) : Bool := metaCharacters.contains c

/-- Whether a backslash before the character stands for the character itself: ASCII
other than letters, digits and angle brackets. -/
def isEscapable (c : Char) : Bool :=
  isMeta c || (c.toNat < 128 && !c.isAlphanum && c != '<' && c != '>')

/-- The value of a hexadecimal digit. -/
def hexValue? (c : Char) : Option Nat :=
  if c.isDigit then some (c.toNat - 48)
  else if 97 ≤ c.toNat && c.toNat ≤ 102 then some (c.toNat - 87)
  else if 65 ≤ c.toNat && c.toNat ≤ 70 then some (c.toNat - 55)
  else none

/-- The character with a code, unless the code is a surrogate or out of range. -/
def charOf? (code : Nat) : Option Char :=
  if code < 0xD800 || (0xE000 ≤ code && code ≤ 0x10FFFF) then some (Char.ofNat code)
  else none

/-- Read a given number of hexadecimal digits after the value of the ones before. -/
def hexDigits : Nat → Nat → Reader Nat
  | 0, value => pure value
  | count + 1, value => do
    match hexValue? (← next) with
    | none => refuse
    | some digit => do
      dropAndSpace
      hexDigits count (value * 16 + digit)

/-- Read hexadecimal digits up to a closing brace. -/
def bracedHex : Nat → List Nat → Reader (List Nat)
  | 0, _ => refuse
  | bound + 1, digits => do
    let c ← next
    if c = '\x7d' then do
      dropAndSpace
      pure digits.reverse
    else
      match hexValue? c with
      | none => refuse
      | some digit => do
        dropAndSpace
        bracedHex bound (digit :: digits)

/-- Read a character by its code, behind the letter that says how many digits there
are. -/
def hexLiteral (kind : Char) : Reader PatternLiteral := do
  dropAndSpace
  if (← next) = '\x7b' then do
    dropAndSpace
    let digits ← bracedHex ((← ahead).length + 1) []
    if digits.isEmpty then refuse
    else
      match charOf? (digits.foldl (fun value digit => value * 16 + digit) 0) with
      | some char => pure ⟨char, false⟩
      | none => refuse
  else do
    let count := if kind = 'x' then 2 else if kind = 'u' then 4 else 8
    match charOf? (← hexDigits count 0) with
    | some char => pure ⟨char, kind = 'x'⟩
    | none => refuse

/-- Read a name up to a closing brace, leaving out blanks where they do not count. -/
def bracedName : Nat → List Char → Reader (List Char)
  | 0, _ => refuse
  | bound + 1, sofar => do
    let c ← next
    if c = '\x7d' then do
      drop 1
      pure sofar.reverse
    else do
      dropAndSpace
      bracedName bound (c :: sofar)

/-- The text before and behind the first occurrence of another text. -/
def cutAt (mark : List Char) : List Char → Option (List Char × List Char)
  | [] => none
  | c :: rest =>
    if mark.isPrefixOf (c :: rest) then some ([], (c :: rest).drop mark.length)
    else (cutAt mark rest).map fun (head, tail) => (c :: head, tail)

/-- A property query from the text between braces: a name, or a name and a value. -/
def queryOf (text : List Char) : PropertyQuery :=
  let split (mark : List Char) := (cutAt mark text).map fun (name, value) =>
    (⟨String.ofList name, some (String.ofList value)⟩ : PropertyQuery)
  match split ['!', '='], split [':'], split ['='] with
  | some query, _, _ => query
  | none, some query, _ => query
  | none, none, some query => query
  | none, none, none => ⟨String.ofList text, none⟩

/-- Read the name of a property behind its letter. -/
def propertyQuery : Reader PropertyQuery := do
  dropAndSpace
  let c ← next
  if c = '\x7b' then do
    dropAndSpace
    let name ← bracedName ((← ahead).length + 1) []
    pure (queryOf name)
  else if c = '\\' then refuse
  else do
    dropAndSpace
    pure ⟨String.singleton c, none⟩

/-- Read letters and hyphens, skipping blanks where they do not count. -/
def boundaryName : Nat → List Char → Reader (List Char)
  | 0, sofar => pure sofar.reverse
  | bound + 1, sofar => do
    match ← peek with
    | some c =>
      if c.isAlpha || c = '-' then do
        dropAndSpace
        boundaryName bound (c :: sofar)
      else pure sofar.reverse
    | none => pure sofar.reverse

/-- The kinds of word boundary that have a name. -/
def namedBoundary? (name : String) : Option Anchor :=
  if name = "start" then some .wordStart
  else if name = "end" then some .wordEnd
  else if name = "start-half" then some .wordStartHalf
  else if name = "end-half" then some .wordEndHalf
  else none

/-- Read the name of a kind of word boundary up to its closing brace. -/
def boundaryKindName : Reader Anchor := do
  let name ← boundaryName (← ahead).length []
  if (← peek) = some '\x7d' then do
    drop 1
    match namedBoundary? (String.ofList name) with
    | some kind => pure kind
    | none => refuse
  else refuse

/-- Read what may follow the letter of a word boundary: the name of its kind in
braces.  Braces that do not start with a letter or a hyphen are a repetition. -/
def boundaryKind : Reader Anchor := do
  if (← peek) = some '\x7b' then do
    let start ← get
    dropAndSpace
    let c ← next
    if c.isAlpha || c = '-' then boundaryKindName
    else do
      set start
      pure .wordBoundary
  else pure .wordBoundary

/-- The control characters that have a letter. -/
def controlCharacter? : Char → Option Char
  | 'a' => some '\x07'
  | 'f' => some '\x0c'
  | 't' => some '\t'
  | 'n' => some '\n'
  | 'r' => some '\r'
  | 'v' => some '\x0b'
  | _ => none

/-- The classes that have a letter, and whether the letter negates them. -/
def letterClass? : Char → Option (Bool × LetterClass)
  | 'd' => some (false, .digit)
  | 'D' => some (true, .digit)
  | 's' => some (false, .blank)
  | 'S' => some (true, .blank)
  | 'w' => some (false, .word)
  | 'W' => some (true, .word)
  | _ => none

/-- Read an escape behind its backslash. -/
def escape : Reader PatternTree := do
  let c ← next
  if c = 'x' || c = 'u' || c = 'U' then do
    let char ← hexLiteral c
    pure (.literal char)
  else if c = 'p' || c = 'P' then do
    let query ← propertyQuery
    pure (.property (c = 'P') query)
  else do
    drop 1
    match letterClass? c with
    | some (negated, kind) => pure (.letter negated kind)
    | none =>
      if isEscapable c then pure (.literal ⟨c, false⟩)
      else
        match controlCharacter? c with
        | some char => pure (.literal ⟨char, false⟩)
        | none =>
          if c = 'A' then pure (.anchor .textStart)
          else if c = 'z' then pure (.anchor .textEnd)
          else if c = 'b' then do
            let kind ← boundaryKind
            pure (.anchor kind)
          else if c = 'B' then pure (.anchor .notWordBoundary)
          else if c = '<' then pure (.anchor .wordStart)
          else if c = '>' then pure (.anchor .wordEnd)
          else refuse

/-! ### Classes in brackets -/

/-- The classes of ASCII characters that have a name, as ranges. -/
def asciiClasses : List (String × List (Nat × Nat)) :=
  [("alnum", [(48, 57), (65, 90), (97, 122)]), ("alpha", [(65, 90), (97, 122)]),
    ("ascii", [(0, 127)]), ("blank", [(9, 9), (32, 32)]), ("cntrl", [(0, 31), (127, 127)]),
    ("digit", [(48, 57)]), ("graph", [(33, 126)]), ("lower", [(97, 122)]),
    ("print", [(32, 126)]), ("punct", [(33, 47), (58, 64), (91, 96), (123, 126)]),
    ("space", [(9, 13), (32, 32)]), ("upper", [(65, 90)]),
    ("word", [(48, 57), (65, 90), (95, 95), (97, 122)]),
    ("xdigit", [(48, 57), (65, 70), (97, 102)])]

/-- The named class of ASCII characters that a text starts with, and the text behind
it. -/
def asciiClass? (text : List Char) : Option (ClassTree × List Char) :=
  match text with
  | '[' :: ':' :: rest =>
    let (negated, rest) :=
      match rest with
      | '^' :: rest => (true, rest)
      | rest => (false, rest)
    match cutAt [':'] rest with
    | some (name, ']' :: behind) =>
      (asciiClasses.find? fun entry => entry.1 == String.ofList name).map fun entry =>
        (.ascii negated entry.2, behind)
    | _ => none
  | _ => none

/-- The next character that is no blank, where blanks do not count, behind the next
character. -/
def peekBehind : Reader (Option Char) := fun state =>
  let behind := state.rest.drop 1
  let found :=
    if state.verbose then
      let text := behind.dropWhile Text.isBlank
      match text with
      | '#' :: rest => (rest.dropWhile fun c => Text.isBlank c || c == '#').head?
      | _ => text.head?
    else behind.head?
  some (found, state)

/-- Read one item of a class: an escape or any other character. -/
def classItem : Reader PatternTree := do
  let c ← next
  drop 1
  if c = '\\' then escape else pure (.literal ⟨c, false⟩)

/-- The item of a class that a tree stands for. -/
def itemOf : PatternTree → Reader ClassTree
  | .literal char => pure (.literal char)
  | .property negated query => pure (.property negated query)
  | .letter negated kind => pure (.letter negated kind)
  | _ => refuse

/-- Read one item of a class, or the range that starts with it. -/
def classRange : Reader ClassTree := do
  let first ← classItem
  space
  let c ← next
  let behind ← peekBehind
  if c ≠ '-' || behind = some ']' || behind = some '-' then itemOf first
  else do
    dropAndSpace
    let _ ← next
    match first, ← classItem with
    | .literal first, .literal last =>
      if first.char.toNat ≤ last.char.toNat then pure (.range first last) else refuse
    | _, _ => refuse

/-- Read the hyphens that a class may start with. -/
def leadingHyphens : Nat → List ClassTree → Reader (List ClassTree)
  | 0, items => pure items
  | bound + 1, items => do
    if (← next) = '-' then do
      dropAndSpace
      leadingHyphens bound (.literal ⟨'-', false⟩ :: items)
    else pure items

/-- Read the sign that negates a class, if it is there. -/
def classNegation : Reader Bool := do
  if (← next) = '^' then do
    dropAndSpace
    pure true
  else pure false

/-- Read how a class opens: its bracket, a negation, and the characters that stand for
themselves only here.  The items are listed last first. -/
def classOpen : Reader (Bool × List ClassTree) := do
  dropAndSpace
  let negated ← classNegation
  let items ← leadingHyphens (← ahead).length []
  let c ← next
  if items.isEmpty && c = ']' then do
    dropAndSpace
    let _ ← next
    pure (negated, [.literal ⟨']', false⟩])
  else pure (negated, items)

/-- Combine the items read last with the operation that is waiting for them. -/
def finishOperand (waiting : Option (ClassOperation × ClassTree)) (items : List ClassTree) :
    ClassTree :=
  let right := ClassTree.ofItems items.reverse
  match waiting with
  | none => right
  | some (operation, left) => .combine operation left right

/-- The operation on classes that a text starts with. -/
def classOperation? : List Char → Option ClassOperation
  | '&' :: '&' :: _ => some .intersection
  | '-' :: '-' :: _ => some .difference
  | '~' :: '~' :: _ => some .symmetricDifference
  | _ => none

mutual

/-- Read a class from its opening bracket to its closing one. -/
def bracket : Nat → Reader (Bool × ClassTree)
  | 0 => refuse
  | bound + 1 => do
    let (negated, items) ← classOpen
    let inner ← classBody bound none items
    pure (negated, inner)

/-- Read the inside of a class up to its closing bracket.  The items of the current
operand are listed last first. -/
def classBody : Nat → Option (ClassOperation × ClassTree) → List ClassTree → Reader ClassTree
  | 0, _, _ => refuse
  | bound + 1, waiting, items => do
    space
    match ← peek with
    | none => refuse
    | some c => do
      let text ← ahead
      if c = '[' then
        match asciiClass? text with
        | some (item, behind) => do
          drop (text.length - behind.length)
          classBody bound waiting (item :: items)
        | none => do
          let (negated, inner) ← bracket bound
          classBody bound waiting (.bracket negated inner :: items)
      else if c = ']' then do
        drop 1
        pure (finishOperand waiting items)
      else
        match classOperation? text with
        | some operation => do
          drop 2
          classBody bound (some (operation, finishOperand waiting items)) []
        | none => do
          let item ← classRange
          classBody bound waiting (item :: items)

end

/-! ### Groups -/

/-- Whether a group starts with the mark of look-around. -/
def isLookAround (text : List Char) : Bool :=
  [['?', '='], ['?', '!'], ['?', '<', '='], ['?', '<', '!']].any (·.isPrefixOf text)

/-- Whether a character is a letter, of ASCII or of any script. -/
def isAlphabetic (c : Char) : Bool :=
  c.isAlpha || (decide (127 < c.toNat) && Unicode.alphabetic.contains c.toNat)

/-- Whether a character is a number, of ASCII or of any script. -/
def isNumeric (c : Char) : Bool :=
  c.isDigit || (decide (127 < c.toNat) && Unicode.numbers.contains c.toNat)

/-- Whether a character may stand in the name of a group. -/
def isNameCharacter (first : Bool) (c : Char) : Bool :=
  if first then c == '_' || isAlphabetic c
  else c == '_' || c == '.' || c == '[' || c == ']' || isAlphabetic c || isNumeric c

/-- Read the name of a group up to its closing bracket. -/
def groupName : Nat → List Char → Reader String
  | 0, _ => refuse
  | bound + 1, sofar => do
    let c ← next
    if c = '>' then do
      drop 1
      if sofar.isEmpty then refuse else pure (String.ofList sofar.reverse)
    else if isNameCharacter sofar.isEmpty c then do
      drop 1
      groupName bound (c :: sofar)
    else refuse

/-- Number a group, in the order of opening brackets. -/
def numberGroup : Reader Nat := fun state =>
  some (state.groups + 1, { state with groups := state.groups + 1 })

/-- Take a name that no other group has. -/
def takeName (name : String) : Reader Unit := fun state =>
  if state.names.contains name then none
  else some ((), { state with names := name :: state.names })

/-- The flag with a letter. -/
def flag? : Char → Option PatternFlag
  | 'i' => some .ignoreCase
  | 'm' => some .multiLine
  | 's' => some .dotAll
  | 'U' => some .swapGreed
  | 'u' => some .unicode
  | 'R' => some .crlf
  | 'x' => some .verbose
  | _ => none

/-- Read flags up to the colon or bracket behind them; those before a minus sign are
switched on and those behind it off.  No flag may be named twice, and a minus sign
needs a flag behind it. -/
def flagChanges : Nat → FlagChanges → Bool → Bool → Reader FlagChanges
  | 0, _, _, _ => refuse
  | bound + 1, changes, negating, dangling => do
    let c ← next
    if c = ':' || c = ')' then
      if dangling then refuse else pure changes
    else if c = '-' then
      if negating then refuse
      else do
        drop 1
        flagChanges bound changes true true
    else
      match flag? c with
      | none => refuse
      | some flag =>
        if changes.any fun change => change.1 = flag then refuse
        else do
          drop 1
          flagChanges bound (changes ++ [(flag, !negating)]) negating false

/-- How a group starts. -/
inductive GroupHead where
  /-- No group, only flags for what follows. -/
  | flags (changes : FlagChanges)
  /-- A group that may change flags for its inside. -/
  | group (changes : FlagChanges)
  | capture (index : Nat) (name : Option String)

/-- Drop the mark that opens the name of a group, in either of its two forms. -/
def dropNameMark : Reader Bool := do
  if ← dropIf ['?', 'P', '<'] then pure true else dropIf ['?', '<']

/-- Number a group without a name. -/
def numberedHead : Reader GroupHead := do
  let index ← numberGroup
  pure (.capture index none)

/-- Number a group and read its name, behind the mark. -/
def namedHead : Reader GroupHead := do
  let index ← numberGroup
  let name ← groupName ((← ahead).length + 1) []
  takeName name
  pure (.capture index (some name))

/-- Read the flags of a group, behind the question mark. -/
def flagsHead : Reader GroupHead := do
  let changes ← flagChanges ((← ahead).length + 1) [] false false
  let c ← next
  drop 1
  if c = ')' then
    if changes.isEmpty then refuse else pure (.flags changes)
  else pure (.group changes)

/-- Read how a group starts, behind its opening bracket. -/
def groupHead : Reader GroupHead := do
  space
  if isLookAround (← ahead) then refuse
  else if ← dropNameMark then namedHead
  else if ← dropIf ['?'] then flagsHead
  else numberedHead

/-- The state that changes of flags give to one flag, if they name it. -/
def stateOf (flag : PatternFlag) (changes : FlagChanges) : Option Bool :=
  (changes.find? fun change => change.1 = flag).map (·.2)

/-- Skip blanks and comments from here on, or no longer, if flags say so. -/
def switchVerbose (changes : FlagChanges) : Reader Unit := fun state =>
  some ((), { state with verbose := (stateOf .verbose changes).getD state.verbose })

/-- Whether blanks and comments are skipped here. -/
def isVerbose : Reader Bool := fun state => some (state.verbose, state)

/-- Read the bracket that closes a group, behind which blanks and comments count as
before the group. -/
def closeGroup (before : Bool) : Reader Unit := do
  if ← dropIf [')'] then fun state => some ((), { state with verbose := before }) else refuse

/-- Read what stands behind the head of a group up to the closing bracket, given how the
inside is read. -/
def behindHead (inside : Reader (List PatternTree)) : GroupHead → Reader PatternTree
  | .flags changes => do
    switchVerbose changes
    pure (.flags changes)
  | .group changes => do
    let before ← isVerbose
    switchVerbose changes
    let inner ← inside
    closeGroup before
    pure (.group changes (.ofAlternatives inner))
  | .capture index name => do
    let before ← isVerbose
    let inner ← inside
    closeGroup before
    pure (.capture index name (.ofAlternatives inner))

/-! ### Repetition -/

/-- The item that a repetition applies to, and the items before it. -/
def lastItem : List PatternTree → Reader (PatternTree × List PatternTree)
  | [] => refuse
  | .empty :: _ => refuse
  | .flags _ :: _ => refuse
  | item :: before => pure (item, before)

/-- Read the question mark that makes a repetition lazy. -/
def greediness : Reader Bool := do
  let lazy ← dropIf ['?']
  pure !lazy

/-- Read decimal digits, skipping blanks between them where they do not count. -/
def decimalDigits : Nat → List Char → Reader (List Char)
  | 0, sofar => pure sofar.reverse
  | bound + 1, sofar => do
    match ← peek with
    | some c =>
      if c.isDigit then do
        dropAndSpace
        decimalDigits bound (c :: sofar)
      else pure sofar.reverse
    | none => pure sofar.reverse

/-- Skip blanks. -/
def skipBlanks : Reader Unit := fun state =>
  some ((), { state with rest := state.rest.dropWhile Text.isBlank })

/-- Read a count, with blanks around it: nothing if there are no digits.  A count
must fit 32 bits. -/
def count : Reader (Option Nat) := do
  skipBlanks
  let digits ← decimalDigits (← ahead).length []
  skipBlanks
  if digits.isEmpty then pure none
  else
    let value := digits.foldl (fun value c => value * 10 + (c.toNat - 48)) 0
    if value < Nat.pow 2 32 then pure (some value) else refuse

/-- Read the least and most number of times of a counted repetition. -/
def countedBounds : Reader (Nat × Option Nat) := do
  match ← count with
  | none => refuse
  | some least =>
    if (← next) = ',' then do
      dropAndSpace
      if (← next) = '\x7d' then pure (least, none)
      else
        match ← count with
        | some most => pure (least, some most)
        | none => refuse
    else pure (least, some least)

/-- Read a counted repetition from its opening brace on. -/
def counted (item : PatternTree) : Reader PatternTree := do
  dropAndSpace
  let _ ← next
  let (least, most) ← countedBounds
  if (← next) = '\x7d' then do
    dropAndSpace
    let greedy ← greediness
    match most with
    | some most => if least ≤ most then pure (.repetition item least most greedy) else refuse
    | none => pure (.repetition item least none greedy)
  else refuse

/-- Read a repetition sign: the least and most number of times. -/
def repeated (item : PatternTree) (least : Nat) (most : Option Nat) : Reader PatternTree := do
  drop 1
  let greedy ← greediness
  pure (.repetition item least most greedy)

/-! ### Sequences and alternatives -/

/-- Read an item of one character or one escape, behind its first character. -/
def atom (c : Char) : Reader PatternTree :=
  if c = '\\' then escape
  else if c = '.' then pure .dot
  else if c = '^' then pure (.anchor .lineStart)
  else if c = '$' then pure (.anchor .lineEnd)
  else pure (.literal ⟨c, false⟩)

/-- Read what comes next in a sequence and is no group, given its first character: a
class, a repetition of the item before it, or another item.  The items are listed last
first. -/
def item (bound : Nat) (c : Char) (items : List PatternTree) : Reader (List PatternTree) :=
  if c = '[' then do
    let (negated, inner) ← bracket bound
    pure (.bracket negated inner :: items)
  else if c = '?' || c = '*' || c = '+' then do
    let (item, before) ← lastItem items
    let item ← repeated item (if c = '+' then 1 else 0) (if c = '?' then some 1 else none)
    pure (item :: before)
  else if c = '\x7b' then do
    let (item, before) ← lastItem items
    let item ← counted item
    pure (item :: before)
  else do
    drop 1
    let item ← atom c
    pure (item :: items)

mutual

/-- Read alternatives up to the end of the text or a closing bracket. -/
def alternatives : Nat → Reader (List PatternTree)
  | 0 => refuse
  | bound + 1 => do
    let first ← sequence bound []
    if (← peek) = some '|' then do
      drop 1
      let others ← alternatives bound
      pure (first :: others)
    else pure [first]

/-- Read a sequence up to the end of the text, a bar or a closing bracket.  The items
are listed last first. -/
def sequence : Nat → List PatternTree → Reader PatternTree
  | 0, _ => refuse
  | bound + 1, items => do
    space
    match ← peek with
    | none => pure (.ofSequence items.reverse)
    | some c =>
      if c = ')' || c = '|' then pure (.ofSequence items.reverse)
      else if c = '(' then do
        let group ← group bound
        sequence bound (group :: items)
      else do
        let items ← item bound c items
        sequence bound items

/-- Read a group from its opening bracket to its closing one. -/
def group : Nat → Reader PatternTree
  | 0 => refuse
  | bound + 1 => do
    drop 1
    let head ← groupHead
    behindHead (alternatives bound) head

end

end PatternReader

namespace PatternTree

/-- The deepest nesting that a pattern may have. -/
def maxDepth : Nat := 250

/-- The tree of a pattern's text.  Every item, alternative and group takes a
character, so a multiple of the text's length bounds their number. -/
def read? (text : String) : Option PatternTree :=
  let chars := text.toList
  match PatternReader.alternatives (3 * chars.length + 3) ⟨chars, false, 0, []⟩ with
  | some (items, state) =>
    let tree := ofAlternatives items
    if state.rest.isEmpty && decide (tree.depth ≤ maxDepth) then some tree else none
  | none => none

end PatternTree

end BotHost
