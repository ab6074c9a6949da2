/-
# Paths into JSON values

Passive commands select the field they match by a dotted path into the event
content, such as `info.mimetype`.  A key that itself contains dots is written in
brackets: `[m.relates_to].rel_type`.

`Path.split` cuts a path into its keys and `Json.resolve` walks them: members of
objects by key, items of arrays by their decimal index.  `Path.join` writes a list
of keys as a path, bracketing each key that can be bracketed.
-/

import BotHost.Json

namespace BotHost

namespace Path

/-- The text up to the first occurrence of a character and the text after it. -/
def cutAt (mark : Char) : List Char → Option (List Char × List Char)
  | [] => none
  | c :: rest =>
    if c = mark then some ([], rest)
    else (cutAt mark rest).map fun (head, tail) => (c :: head, tail)

/-- One dot right after a bracketed key belongs to the bracket. -/
def dropDot : List Char → List Char
  | '.' :: rest => rest
  | rest => rest

/-- The key in brackets that a path starts with, and the path behind it. -/
def bracketed? : List Char → Option (List Char × List Char)
  | '[' :: inner => (cutAt ']' inner).map fun (key, rest) => (key, dropDot rest)
  | _ => none

/-- The first key of a path and the path behind it: a key in brackets, else the text
up to the first dot, else everything. -/
def step (path : List Char) : List Char × List Char :=
  match bracketed? path with
  | some found => found
  | none =>
    match cutAt '.' path with
    | some found => found
    | none => (path, [])

/-- Split with an upper bound on the number of keys. -/
def splitWithin : Nat → List Char → List (List Char)
  | 0, _ => []
  | _, [] => []
  | bound + 1, path => (step path).1 :: splitWithin bound (step path).2

/-- The keys of a path.  Every key takes at least one character of the path, so the
path's length bounds their number. -/
def splitText (path : List Char) : List (List Char) := splitWithin path.length path

/-- The keys of a path. -/
def split (path : String) : List String := (splitText path.toList).map String.ofList

/-- How a key is written in a path: in brackets unless it contains a closing one. -/
def writeKey (key : List Char) : List Char :=
  if key.contains ']' then key else '[' :: key ++ [']']

/-- The path that lists the given keys. -/
def join (keys : List (List Char)) : List Char :=
  ['.'].intercalate (keys.map writeKey)

/-- The number that decimal digits name, read after `value`. -/
def readDigits (value : Nat) : List Char → Option Nat
  | [] => some value
  | c :: rest =>
    if c.isDigit then readDigits (value * 10 + (c.toNat - '0'.toNat)) rest else none

/-- The array index that a key names: decimal digits, which may be led by zeros and
by one plus sign, of a number below `2^64`. -/
def index? (key : String) : Option Nat :=
  let digits :=
    match key.toList with
    | '+' :: rest => rest
    | text => text
  if digits.isEmpty then none
  else (readDigits 0 digits).filter (· < Number.wordCount)

end Path

namespace Json

/-- The part of a value that a single key selects. -/
def at? (value : Json) (key : String) : Option Json :=
  match value with
  | object members => Entries.find? key members
  | array items => (Path.index? key).bind (items[·]?)
  | _ => none

/-- Walk a list of keys. -/
def walk (value : Json) : List String → Option Json
  | [] => some value
  | key :: keys => (value.at? key).bind (walk · keys)

/-- The part of a value at a dotted path. -/
def resolve (value : Json) (path : String) : Option Json := value.walk (Path.split path)

/-- The string at a dotted path. -/
def resolveText? (value : Json) (path : String) : Option String :=
  (value.resolve path).bind text?

end Json

end BotHost
