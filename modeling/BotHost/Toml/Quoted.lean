/-
# Texts and keys of TOML

A text stands between quotes, in which a backslash escapes, or between apostrophes, in which
every character stands for itself.  Three quotes or apostrophes hold a text of several lines:
a line break right behind the opening is dropped, every other one counts as a single line
feed, and up to two quotes may stand right before the closing three.  A backslash at the end
of a line drops the line break and all blanks and line breaks behind it.

A key is a path of names, each bare or between single quotes or apostrophes.
-/

import BotHost.Toml.Scalar

namespace BotHost

namespace Toml

/-- Whether a character may stand in a text as it is: a tab, or no control character. -/
def isPrintable (c : Char) : Bool := c == '\t' || (0x20 ≤ c.toNat && c != '\x7f')

/-- Whether a character is a blank within a line. -/
def isSpace (c : Char) : Bool := c == ' ' || c == '\t'

/-- The text behind leading blanks. -/
def skipSpaces (text : List Char) : List Char := text.dropWhile isSpace

/-- The character of a one-letter escape. -/
def simpleEscape? : Char → Option Char
  | '"' => some '"'
  | '\\' => some '\\'
  | 'b' => some '\x08'
  | 'f' => some '\x0c'
  | 'n' => some '\n'
  | 'r' => some '\r'
  | 't' => some '\t'
  | _ => none

/-- The character with a code point, if there is one. -/
def character? (code : Nat) : Option Char :=
  if code < 0xD800 ∨ (0xE000 ≤ code ∧ code < 0x110000) then some (Char.ofNat code) else none

/-- The character that four hexadecimal digits name. -/
def character4? (a b c d : Char) : Option Char := (Document.hex4? a b c d).bind character?

/-- The character that eight hexadecimal digits name. -/
def character8? (a b c d e f g h : Char) : Option Char := do
  let high ← Document.hex4? a b c d
  let low ← Document.hex4? e f g h
  character? (high * 0x10000 + low)

/-- Put a character before a text that was read. -/
def prepend (c : Option Char) (found : Option (List Char × List Char)) :
    Option (List Char × List Char) :=
  match c, found with
  | some c, some (text, rest) => some (c :: text, rest)
  | _, _ => none

/-- A text behind its opening quote. -/
def quoted : Scan (List Char)
  | [] => none
  | '"' :: rest => some ([], rest)
  | '\\' :: 'u' :: a :: b :: c :: d :: rest => prepend (character4? a b c d) (quoted rest)
  | '\\' :: 'U' :: a :: b :: c :: d :: e :: f :: g :: h :: rest =>
    prepend (character8? a b c d e f g h) (quoted rest)
  | '\\' :: c :: rest => prepend (simpleEscape? c) (quoted rest)
  | c :: rest => prepend (if isPrintable c && c != '\\' then some c else none) (quoted rest)

/-- A text behind its opening apostrophe. -/
def literal : Scan (List Char)
  | [] => none
  | '\'' :: rest => some ([], rest)
  | c :: rest => prepend (if isPrintable c then some c else none) (literal rest)

/-- The text behind a line break, if the text starts with one. -/
def behindBreak? : List Char → Option (List Char)
  | '\n' :: rest => some rest
  | '\r' :: '\n' :: rest => some rest
  | _ => none

/-- Whether a text starts with blanks and a line break. -/
def endsLine (text : List Char) : Bool := (behindBreak? (skipSpaces text)).isSome

/-- A text of several lines behind its opening quotes; while `skipping` is set, blanks and
line breaks are dropped. -/
def longQuoted (skipping : Bool) : Scan (List Char)
  | [] => none
  | '"' :: '"' :: '"' :: '"' :: '"' :: rest => some (['"', '"'], rest)
  | '"' :: '"' :: '"' :: '"' :: rest => some (['"'], rest)
  | '"' :: '"' :: '"' :: rest => some ([], rest)
  | '\\' :: 'u' :: a :: b :: c :: d :: rest =>
    prepend (character4? a b c d) (longQuoted false rest)
  | '\\' :: 'U' :: a :: b :: c :: d :: e :: f :: g :: h :: rest =>
    prepend (character8? a b c d e f g h) (longQuoted false rest)
  | '\r' :: '\n' :: rest =>
    if skipping then longQuoted true rest else prepend (some '\n') (longQuoted false rest)
  | '\n' :: rest =>
    if skipping then longQuoted true rest else prepend (some '\n') (longQuoted false rest)
  | '\\' :: c :: rest =>
    if endsLine (c :: rest) then longQuoted true (c :: rest)
    else prepend (simpleEscape? c) (longQuoted false rest)
  | c :: rest =>
    if skipping && isSpace c then longQuoted true rest
    else prepend (if isPrintable c && c != '\\' then some c else none) (longQuoted false rest)

/-- A text of several lines behind its opening apostrophes. -/
def longLiteral : Scan (List Char)
  | [] => none
  | '\'' :: '\'' :: '\'' :: '\'' :: '\'' :: rest => some (['\'', '\''], rest)
  | '\'' :: '\'' :: '\'' :: '\'' :: rest => some (['\''], rest)
  | '\'' :: '\'' :: '\'' :: rest => some ([], rest)
  | '\r' :: '\n' :: rest => prepend (some '\n') (longLiteral rest)
  | '\n' :: rest => prepend (some '\n') (longLiteral rest)
  | c :: rest => prepend (if isPrintable c then some c else none) (longLiteral rest)

/-- The text behind a line break right behind an opening. -/
def dropBreak (text : List Char) : List Char := (behindBreak? text).getD text

/-- A text in any of the four forms. -/
def text? (text : List Char) : Option (String × List Char) :=
  let found :=
    match text with
    | '"' :: '"' :: '"' :: rest => longQuoted false (dropBreak rest)
    | '\'' :: '\'' :: '\'' :: rest => longLiteral (dropBreak rest)
    | '"' :: rest => quoted rest
    | '\'' :: rest => literal rest
    | _ => none
  found.map fun (text, rest) => (String.ofList text, rest)

/-- Whether a character may stand in a bare name. -/
def isBare (c : Char) : Bool := c.isAlphanum || c == '_' || c == '-'

/-- One name of a key. -/
def name : Scan String
  | '"' :: rest => (quoted rest).map fun (text, rest) => (String.ofList text, rest)
  | '\'' :: rest => (literal rest).map fun (text, rest) => (String.ofList text, rest)
  | text =>
    let bare := text.takeWhile isBare
    if bare.isEmpty then none else some (String.ofList bare, text.dropWhile isBare)

/-- The deepest nesting of values, and one more than the longest key. -/
def depthLimit : Nat := 80

/-- The names of a key with points between them; the first argument bounds their number. -/
def key : Nat → Scan (List String)
  | 0, _ => none
  | bound + 1, text => do
    let (first, rest) ← name (skipSpaces text)
    match skipSpaces rest with
    | '.' :: rest =>
      let (others, rest) ← key bound rest
      some (first :: others, rest)
    | rest => some ([first], rest)

end Toml

end BotHost
