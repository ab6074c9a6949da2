/-
# The hosts of URLs

A host is a domain or an address.  A domain is kept in lower case.  A name whose last label
is a number is an address of four bytes, which may be written with fewer numbers and in
octal or hexadecimal; an address of eight pairs of bytes stands in brackets.

Outside the schemes of the web a host in brackets is an address as well, and any other is
kept as it is.
-/

import BotHost.Text.Blank
import BotHost.Web.Percent

namespace BotHost

/-- The host of a URL. -/
inductive WebHost where
  | domain (name : String)
  | address4 (value : Nat)
  /-- An address of eight pairs of bytes. -/
  | address6 (pieces : List Nat)
deriving DecidableEq

namespace WebHost

/-! ### Addresses of four bytes -/

/-- Read a number that may be octal or hexadecimal. -/
def number? (text : List Char) : Option Nat :=
  let read (radix : Nat) (digits : List Char) : Option Nat :=
    (digits.mapM fun c => (Document.hexValue? c).filter fun value => decide (value < radix)).map
      fun values => values.foldl (fun number value => number * radix + value) 0
  match text with
  | [] => none
  | '0' :: 'x' :: rest => read 16 rest
  | '0' :: 'X' :: rest => read 16 rest
  | '0' :: c :: rest => read 8 (c :: rest)
  | digits => read 10 digits

/-- The labels of a name, without an empty one at the end. -/
def labels (name : List Char) : List (List Char) :=
  let all := name.splitOn '.'
  if all.getLast? == some [] then all.dropLast else all

/-- Whether the last label of a name is a number. -/
def endsInNumber (name : List Char) : Bool :=
  match (labels name).getLast? with
  | none => false
  | some last => (!last.isEmpty && last.all Char.isDigit) || (number? last).isSome

/-- The address that numbers name: all but the last are bytes, and the last one fills what
is left. -/
def address4? (numbers : List Nat) : Option WebHost :=
  match numbers.reverse with
  | [] => none
  | last :: others =>
    let leading := others.reverse
    if 3 < leading.length ∨ !leading.all (decide <| · < 256) ∨
        Nat.pow 256 (4 - leading.length) ≤ last then none
    else
      let value := leading.foldl (fun value byte => value * 256 + byte) 0
      some (.address4 (value * Nat.pow 256 (4 - leading.length) + last))

/-! ### Addresses of eight pairs of bytes -/

/-- Read a pair of bytes of at most four digits. -/
def piece? (text : List Char) : Option Nat :=
  if text.isEmpty || 4 < text.length then none
  else (text.mapM Document.hexValue?).map fun values =>
    values.foldl (fun number value => number * 16 + value) 0

/-- Read a byte in decimal digits without a leading zero. -/
def byte? (text : List Char) : Option Nat :=
  let value := Document.digitsValue text
  if text.isEmpty || !text.all Char.isDigit || value > 255 then none
  else if text.head? == some '0' && 1 < text.length then none
  else some value

/-- Read the pieces of one side of an address; four bytes may stand in the last place. -/
def pieces? : List (List Char) → Option (List Nat)
  | [] => some []
  | [last] =>
    match last.splitOn '.' with
    | [a, b, c, d] => do
      let a ← byte? a
      let b ← byte? b
      let c ← byte? c
      let d ← byte? d
      some [a * 256 + b, c * 256 + d]
    | _ => (piece? last).map ([·])
  | text :: rest => do
    let piece ← piece? text
    let rest ← pieces? rest
    some (piece :: rest)

/-- Split a text at its first two colons in a row. -/
def splitGap : List Char → Option (List Char × List Char)
  | [] => none
  | ':' :: ':' :: rest => some ([], rest)
  | c :: rest => (splitGap rest).map fun (before, behind) => (c :: before, behind)

/-- The pieces of one side of a gap; nothing may stand there. -/
def side? (text : List Char) : Option (List Nat) :=
  if text.isEmpty then some [] else pieces? (text.splitOn ':')

/-- Read an address of eight pieces; a gap stands for at least one piece of zero. -/
def address6? (text : List Char) : Option WebHost :=
  match splitGap text with
  | none => ((side? text).filter fun pieces => pieces.length == 8).map .address6
  | some (before, behind) => do
    let leading ← side? before
    let trailing ← side? behind
    if before.contains '.' || 7 < leading.length + trailing.length then none
    else
      let zeros := List.replicate (8 - leading.length - trailing.length) 0
      some (.address6 (leading ++ zeros ++ trailing))

/-- Read an address in brackets. -/
def bracketed? (text : List Char) : Option WebHost :=
  if text.getLast? == some ']' then address6? (text.drop 1).dropLast else none

/-! ### Hosts -/

/-- Whether a character may not stand in a domain. -/
def isForbidden (c : Char) : Bool :=
  Percent.isControl c || Text.isBlank c || c == '\ufffd' ||
    (0x80 ≤ c.toNat && c.toNat < 0xA0) || Percent.isOneOf "%#/:<>?@[\\]^|" c

/-- Read a host of the schemes of the web. -/
def read? (text : List Char) : Option WebHost :=
  if text.head? == some '[' then bracketed? text
  else do
    let decoded ← Percent.decodeText? text
    let name := decoded.toList.map Char.toLower
    if name.isEmpty || name.any isForbidden then none
    else if endsInNumber name then ((labels name).mapM number?).bind address4?
    else some (.domain (String.ofList name))

/-- Whether a character may not stand in a host of another scheme. -/
def isForbiddenElsewhere (c : Char) : Bool :=
  c == '\x00' || Percent.isOneOf "\t\n\r #/:<>?@[\\]^|" c

/-- Read a host of another scheme; it may be empty. -/
def readElsewhere? (text : List Char) : Option WebHost :=
  if text.head? == some '[' then bracketed? text
  else if text.any isForbiddenElsewhere then none
  else some (.domain (String.ofList (Percent.encode Percent.isControl text)))

/-! ### Texts -/

/-- The longest stretch of zeros: how many pieces stand before it, and its length. -/
def longestGap (pieces : List Nat) : Nat × Nat :=
  (List.range pieces.length).foldl (fun best start =>
    let length := ((pieces.drop start).takeWhile (· == 0)).length
    if best.2 < length then (start, length) else best) (0, 1)

/-- The pieces of an address between colons. -/
def pieceTexts (pieces : List Nat) : List Char :=
  [':'].intercalate (pieces.map (Nat.toDigits 16))

/-- A host as it stands in a URL. -/
def text : WebHost → String
  | domain name => name
  | address4 value =>
    let byte (place : Nat) : String := toString (value / Nat.pow 256 place % 256)
    byte 3 ++ "." ++ byte 2 ++ "." ++ byte 1 ++ "." ++ byte 0
  | address6 pieces =>
    let (start, length) := longestGap pieces
    let inner :=
      if length < 2 then pieceTexts pieces
      else pieceTexts (pieces.take start) ++ [':', ':'] ++ pieceTexts (pieces.drop (start + length))
    String.ofList (['['] ++ inner ++ [']'])

end WebHost

end BotHost
