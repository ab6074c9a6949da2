/-
# Quoted text

A text between double quotes, written so that every character can be seen: quotes,
backslashes and the common control characters get a short escape, and everything
that has no shape of its own is written by its code point in braces.
-/

import BotHost.Pattern.Unicode

namespace BotHost

namespace Text

/-- The code points that have no shape of their own: separators and controls,
unassigned and private ones, and marks that extend the character before them. -/
def shapeless : RangeTable :=
  Unicode.unionTable (Unicode.categoryTable ["Cc", "Cf", "Cn", "Co", "Cs", "Zl", "Zp", "Zs"])
    (Unicode.binaryTable "Grapheme_Extend")

/-- Whether a character has a shape of its own; of the blanks only the ordinary space
counts. -/
def isVisible (c : Char) : Bool :=
  if c.toNat < 0x7F then 0x20 ≤ c.toNat else !shapeless.contains c.toNat

/-- The hexadecimal digits of a code point, in lower case and without leading
zeros. -/
def codePoint (c : Char) : List Char := Nat.toDigits 16 c.toNat

/-- How a character is written between quotes. -/
def quotedChar (c : Char) : List Char :=
  match c with
  | '"' => ['\\', '"']
  | '\\' => ['\\', '\\']
  | '\n' => ['\\', 'n']
  | '\r' => ['\\', 'r']
  | '\t' => ['\\', 't']
  | '\x00' => ['\\', '0']
  | c => if isVisible c then [c] else ['\\', 'u', '\x7b'] ++ codePoint c ++ ['\x7d']

/-- A text between double quotes. -/
def quoted (text : String) : String :=
  "\"" ++ String.ofList (text.toList.flatMap quotedChar) ++ "\""

/-- An optional quoted text: `Some(…)` or `None`. -/
def quotedOption : Option String → String
  | none => "None"
  | some text => "Some(" ++ quoted text ++ ")"

/-- A list of quoted texts in brackets. -/
def quotedList (texts : List String) : String :=
  "[" ++ String.intercalate ", " (texts.map quoted) ++ "]"

/-- A record as its name and its fields in braces, each with its value. -/
def labelled (name : String) (fields : List (String × String)) : String :=
  name ++ " \x7b " ++
    String.intercalate ", " (fields.map fun field => field.1 ++ ": " ++ field.2) ++ " \x7d"

end Text

end BotHost
