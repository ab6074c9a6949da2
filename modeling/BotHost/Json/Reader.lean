/-
# Reading JSON text

`Document.read?` reads strict JSON: no comments, no trailing commas, no leading
zeros, no raw control characters in strings, and nothing but blanks around the one
value.

Numbers follow a fixed plan.  An integer of the 64-bit range stays an integer, with
the exception of `-0`.  Any other number is the double of its leading digits, as
many as fit 64 bits, scaled by a power of ten in one rounded step; the remaining
digits only move the decimal point, and those behind the point are dropped.
-/

import BotHost.Json.Document

namespace BotHost

namespace Document

/-- The four characters JSON allows between tokens. -/
def isBlank (c : Char) : Bool := c == ' ' || c == '\t' || c == '\n' || c == '\r'

/-- The text behind leading blanks. -/
def skipBlanks (text : List Char) : List Char := text.dropWhile isBlank

/-- The deepest nesting of arrays and objects that still has a value. -/
def maxDepth : Nat := 127

/-! ### Numbers -/

/-- The value of a decimal digit. -/
def digitValue (c : Char) : Nat := c.toNat - '0'.toNat

/-- The digits a text starts with, and the text behind them. -/
def spanDigits (text : List Char) : List Char × List Char :=
  (text.takeWhile Char.isDigit, text.dropWhile Char.isDigit)

/-- A significand that fits 64 bits, and the digits that no longer do. -/
def takeSignificand (significand : Nat) : List Char → Nat × List Char
  | [] => (significand, [])
  | c :: rest =>
    if significand * 10 + digitValue c < Number.wordCount then
      takeSignificand (significand * 10 + digitValue c) rest
    else (significand, c :: rest)

/-- The parts of a number as they are written. -/
structure Numeral where
  negative : Bool
  whole : List Char
  fraction : Option (List Char)
  /-- The exponent's sign and digits, if there is one. -/
  exponent : Option (Bool × List Char)

/-- The whole number that digits name. -/
def digitsValue (digits : List Char) : Nat :=
  digits.foldl (fun value c => value * 10 + digitValue c) 0

namespace Numeral

/-- The significand and the power of ten of the digits that count.

Whole digits that no longer fit raise the power of ten.  The digits of the fraction
are taken as long as they fit, each lowering it. -/
def significand (numeral : Numeral) : Nat × Int :=
  let (leading, dropped) := takeSignificand 0 numeral.whole
  let fraction := numeral.fraction.getD []
  let (all, unused) := takeSignificand leading fraction
  (all, (dropped.length : Int) - ((fraction.length : Int) - (unused.length : Int)))

/-- The power of ten that the exponent part states. -/
def power (numeral : Numeral) : Int :=
  match numeral.exponent with
  | none => 0
  | some (negative, digits) =>
    if negative then -(digitsValue digits : Int) else digitsValue digits

/-- The value of a number with a fraction, an exponent or too many digits. -/
def toReal? (numeral : Numeral) : Option Binary64 := do
  let (significand, exponent) := numeral.significand
  let unscaled ← Binary64.ofInt significand
  let scaled ← unscaled.scaleByTen (exponent + numeral.power)
  some (if numeral.negative then scaled.neg else scaled)

/-- The value of a number, or nothing when it is too large. -/
def value? (numeral : Numeral) : Option Number :=
  match numeral.fraction, numeral.exponent with
  | none, none =>
    let magnitude := digitsValue numeral.whole
    if !numeral.negative && decide (magnitude < Number.wordCount) then some (.integer magnitude)
    else if numeral.negative && decide (0 < magnitude) &&
        decide (magnitude ≤ Number.signedCount) then
      some (.integer (-magnitude))
    else numeral.toReal?.map .real
  | _, _ => numeral.toReal?.map .real

end Numeral

/-- The exponent part a text starts with, if any, and the text behind it. -/
def readExponent (text : List Char) : Option (Option (Bool × List Char) × List Char) :=
  let digits (negative : Bool) (text : List Char) :=
    let (digits, rest) := spanDigits text
    if digits.isEmpty then none else some (some (negative, digits), rest)
  let signed : List Char → Option (Option (Bool × List Char) × List Char)
    | '-' :: rest => digits true rest
    | '+' :: rest => digits false rest
    | rest => digits false rest
  match text with
  | 'e' :: rest => signed rest
  | 'E' :: rest => signed rest
  | rest => some (none, rest)

/-- The fraction a text starts with, if any, and the text behind it. -/
def readFraction : List Char → Option (Option (List Char) × List Char)
  | '.' :: rest =>
    let (digits, rest) := spanDigits rest
    if digits.isEmpty then none else some (some digits, rest)
  | rest => some (none, rest)

/-- The number a text starts with, and the text behind it. -/
def readNumeral (text : List Char) : Option (Numeral × List Char) := do
  let (negative, text) :=
    match text with
    | '-' :: rest => (true, rest)
    | rest => (false, rest)
  let (whole, text) := spanDigits text
  if whole.isEmpty || (whole.head? == some '0' && decide (1 < whole.length)) then none
  else
    let (fraction, text) ← readFraction text
    let (exponent, text) ← readExponent text
    some (⟨negative, whole, fraction, exponent⟩, text)

/-! ### Strings -/

/-- The value of a hexadecimal digit. -/
def hexValue? (c : Char) : Option Nat :=
  if c.isDigit then some (c.toNat - '0'.toNat)
  else if 97 ≤ c.toNat && c.toNat ≤ 102 then some (c.toNat - 87)
  else if 65 ≤ c.toNat && c.toNat ≤ 70 then some (c.toNat - 55)
  else none

/-- The number that four hexadecimal digits name. -/
def hex4? (a b c d : Char) : Option Nat := do
  let a ← hexValue? a
  let b ← hexValue? b
  let c ← hexValue? c
  let d ← hexValue? d
  some (((a * 16 + b) * 16 + c) * 16 + d)

/-- The character of a one-letter escape. -/
def simpleEscape? : Char → Option Char
  | '"' => some '"'
  | '\\' => some '\\'
  | '/' => some '/'
  | 'b' => some '\x08'
  | 'f' => some '\x0c'
  | 'n' => some '\n'
  | 'r' => some '\r'
  | 't' => some '\t'
  | _ => none

/-- Whether a 16-bit unit is the first half of a surrogate pair. -/
def isHighSurrogate (unit : Nat) : Bool := 0xD800 ≤ unit && unit < 0xDC00

/-- Whether a 16-bit unit is the second half of a surrogate pair. -/
def isLowSurrogate (unit : Nat) : Bool := 0xDC00 ≤ unit && unit < 0xE000

/-- One character of a string as it is written. -/
inductive Piece where
  /-- A character that stands for itself, or a one-letter escape of it. -/
  | plain (c : Char)
  /-- A 16-bit unit in hexadecimal. -/
  | unit (code : Nat)

/-- The pieces of a string behind its opening quote, and the text behind its closing
one. -/
def readPieces : List Char → Option (List Piece × List Char)
  | [] => none
  | '"' :: rest => some ([], rest)
  | '\\' :: 'u' :: a :: b :: c :: d :: rest =>
    match hex4? a b c d, readPieces rest with
    | some code, some (pieces, rest) => some (.unit code :: pieces, rest)
    | _, _ => none
  | '\\' :: c :: rest =>
    match simpleEscape? c, readPieces rest with
    | some escaped, some (pieces, rest) => some (.plain escaped :: pieces, rest)
    | _, _ => none
  | c :: rest =>
    if c.toNat < 0x20 || c == '\\' then none
    else (readPieces rest).map fun (pieces, rest) => (.plain c :: pieces, rest)

/-- The characters that pieces stand for: a high surrogate and the low surrogate
right behind it are one character, and neither stands for anything alone. -/
def joinPieces : List Piece → Option (List Char)
  | [] => some []
  | .plain c :: rest => (joinPieces rest).map (c :: ·)
  | .unit high :: .unit low :: rest =>
    if isHighSurrogate high then
      if isLowSurrogate low then
        let code := 0x10000 + (high - 0xD800) * 0x400 + (low - 0xDC00)
        (joinPieces rest).map (Char.ofNat code :: ·)
      else none
    else if isLowSurrogate high then none
    else (joinPieces (.unit low :: rest)).map (Char.ofNat high :: ·)
  | .unit code :: rest =>
    if isHighSurrogate code || isLowSurrogate code then none
    else (joinPieces rest).map (Char.ofNat code :: ·)

/-- Read a string behind its opening quote.  A string with half a surrogate pair is
read past, but has no value. -/
def readString (text : List Char) : Option (Option String × List Char) :=
  (readPieces text).map fun (pieces, rest) => ((joinPieces pieces).map String.ofList, rest)

/-! ### Values -/

/-- A container found inside `depth` others, unreadable when that is too deep. -/
def nested (depth : Nat) (document : Document) : Document :=
  if depth < maxDepth then document else unreadable

/-- An object, unreadable when one of its keys is. -/
def ofKeyed (members : List (Option String × Document)) : Document :=
  match members.mapM fun (key, item) => key.map (·, item) with
  | some members => object members
  | none => unreadable

mutual

/-- Read one value that stands inside `depth` arrays and objects.  The first
argument bounds the number of values and list positions still to be read. -/
def readValue : Nat → Nat → List Char → Option (Document × List Char)
  | 0, _, _ => none
  | bound + 1, depth, text =>
    match skipBlanks text with
    | 'n' :: 'u' :: 'l' :: 'l' :: rest => some (null, rest)
    | 't' :: 'r' :: 'u' :: 'e' :: rest => some (bool true, rest)
    | 'f' :: 'a' :: 'l' :: 's' :: 'e' :: rest => some (bool false, rest)
    | '"' :: rest =>
      (readString rest).map fun (found, rest) =>
        (match found with | some text => string text | none => unreadable, rest)
    | '[' :: rest =>
      match skipBlanks rest with
      | ']' :: rest => some (nested depth (array []), rest)
      | rest =>
        (readItems bound (depth + 1) rest []).map fun (items, rest) =>
          (nested depth (array items), rest)
    | '{' :: rest =>
      match skipBlanks rest with
      | '}' :: rest => some (nested depth (object []), rest)
      | rest =>
        (readMembers bound (depth + 1) rest []).map fun (members, rest) =>
          (nested depth (ofKeyed members), rest)
    | rest =>
      (readNumeral rest).map fun (numeral, rest) =>
        (match numeral.value? with | some value => number value | none => unreadable, rest)

/-- Read the items of an array up to its closing bracket; the ones read so far are
listed last first. -/
def readItems : Nat → Nat → List Char → List Document → Option (List Document × List Char)
  | 0, _, _, _ => none
  | bound + 1, depth, text, found =>
    match readValue bound depth text with
    | none => none
    | some (item, rest) =>
      match skipBlanks rest with
      | ',' :: rest => readItems bound depth rest (item :: found)
      | ']' :: rest => some ((item :: found).reverse, rest)
      | _ => none

/-- Read the members of an object up to its closing brace; the ones read so far are
listed last first. -/
def readMembers : Nat → Nat → List Char → List (Option String × Document) →
    Option (List (Option String × Document) × List Char)
  | 0, _, _, _ => none
  | bound + 1, depth, text, found =>
    match skipBlanks text with
    | '"' :: rest =>
      match readString rest with
      | none => none
      | some (key, rest) =>
        match skipBlanks rest with
        | ':' :: rest =>
          match readValue bound depth rest with
          | none => none
          | some (item, rest) =>
            match skipBlanks rest with
            | ',' :: rest => readMembers bound depth rest ((key, item) :: found)
            | '}' :: rest => some (((key, item) :: found).reverse, rest)
            | _ => none
        | _ => none
    | _ => none

end

/-- Read a text that holds exactly one value.  Every value and every list position
takes a character, so twice the text's length bounds their number. -/
def read? (text : String) : Option Document :=
  let chars := text.toList
  match readValue (2 * chars.length + 2) 0 chars with
  | some (document, rest) => if (skipBlanks rest).isEmpty then some document else none
  | none => none

end Document

namespace Json

/-- The value of a JSON text. -/
def read? (text : String) : Option Json := (Document.read? text).bind Document.toJson?

end Json

end BotHost
