/-
# Single values of TOML

Truth values, numbers, dates and times.  An underscore may stand between two digits, but no
leading zero before the digits of a decimal number.  Whole numbers fit 64 bits with a sign;
other numbers are rounded to the nearest double, and one below the most negative double is
boundless.

Dates and times have no place among the settings: they become tables that hold their text
under a key of its own, with `T` between date and time and without needless digits.
-/

import BotHost.Json.Reader
import BotHost.Setting

namespace BotHost

namespace Toml

/-- Reads what a text starts with, and gives the text behind it. -/
abbrev Scan (α : Type) := List Char → Option (α × List Char)

/-! ### Digits -/

/-- The value of a digit of a radix up to sixteen. -/
def digitValue? (radix : Nat) (c : Char) : Option Nat :=
  (Document.hexValue? c).filter fun value => decide (value < radix)

/-- Digits behind a first one; an underscore between two digits is dropped. -/
def moreDigits (radix : Nat) : Scan (List Nat)
  | '_' :: c :: rest =>
    match digitValue? radix c, moreDigits radix rest with
    | some digit, some (digits, rest) => some (digit :: digits, rest)
    | _, _ => none
  | c :: rest =>
    match digitValue? radix c with
    | some digit => (moreDigits radix rest).map fun (digits, rest) => (digit :: digits, rest)
    | none => if c == '_' then none else some ([], c :: rest)
  | [] => some ([], [])

/-- Digits, at least one. -/
def digits (radix : Nat) : Scan (List Nat)
  | [] => none
  | c :: rest =>
    match digitValue? radix c, moreDigits radix rest with
    | some digit, some (digits, rest) => some (digit :: digits, rest)
    | _, _ => none

/-- The digits of the whole part of a decimal number: a single zero, or digits that start
with another one. -/
def wholeDigits : Scan (List Nat)
  | '0' :: rest => some ([0], rest)
  | text => digits 10 text

/-- The number that digits name. -/
def numeralValue (radix : Nat) (digits : List Nat) : Nat :=
  digits.foldl (fun value digit => value * radix + digit) 0

/-! ### Numbers -/

/-- The sign a text starts with, if any: whether it is a minus. -/
def sign : List Char → Option Bool × List Char
  | '+' :: rest => (some false, rest)
  | '-' :: rest => (some true, rest)
  | rest => (none, rest)

/-- The digits behind a point, if there is one. -/
def fraction : Scan (Option (List Nat))
  | '.' :: rest => (digits 10 rest).map fun (digits, rest) => (some digits, rest)
  | rest => some (none, rest)

/-- The power of ten behind an `e`, if there is one. -/
def exponent (text : List Char) : Option (Option Int × List Char) :=
  let behind (text : List Char) : Option (Option Int × List Char) :=
    let (minus, text) := sign text
    (digits 10 text).map fun (digits, rest) =>
      let power : Int := numeralValue 10 digits
      (some (if minus == some true then -power else power), rest)
  match text with
  | 'e' :: rest => behind rest
  | 'E' :: rest => behind rest
  | rest => some (none, rest)

/-- A whole number, if it fits. -/
def whole? (value : Int) : Option Setting :=
  if Number.fitsSigned value then some (.number (.integer value)) else none

/-- A number that is no whole number; a positive one has to be finite. -/
def real? (negative : Bool) (digits : List Nat) (exponent : Int) : Option Setting :=
  match Binary64.ofDigits negative digits exponent with
  | some value => some (.number (.real value))
  | none => if negative then some .boundless else none

/-- A whole number in another radix, behind the letter that names the radix. -/
def inRadix (radix : Nat) : Scan Setting := fun text => do
  let (digits, rest) ← digits radix text
  let value ← whole? (numeralValue radix digits)
  some (value, rest)

/-- A decimal number behind its sign. -/
def decimal (negative : Bool) : Scan Setting := fun text => do
  let (leading, rest) ← wholeDigits text
  let (behind, rest) ← fraction rest
  let (power, rest) ← exponent rest
  let value ←
    match behind, power with
    | none, none =>
      let magnitude : Int := numeralValue 10 leading
      whole? (if negative then -magnitude else magnitude)
    | _, _ =>
      let fraction := behind.getD []
      real? negative (leading ++ fraction) (power.getD 0 - fraction.length)
  some (value, rest)

/-- A number. -/
def number (text : List Char) : Option (Setting × List Char) :=
  let (minus, unsigned) := sign text
  match minus, unsigned with
  | none, '0' :: 'x' :: rest => inRadix 16 rest
  | none, '0' :: 'o' :: rest => inRadix 8 rest
  | none, '0' :: 'b' :: rest => inRadix 2 rest
  | _, 'i' :: 'n' :: 'f' :: rest => some (.boundless, rest)
  | _, 'n' :: 'a' :: 'n' :: rest => some (.boundless, rest)
  | _, _ => decimal (minus == some true) unsigned

/-! ### Dates and times -/

/-- Two digits that name a number of a range, as they are written. -/
def twoDigits (least most : Nat) : Scan (Nat × List Char)
  | a :: b :: rest =>
    if a.isDigit && b.isDigit then
      let value := Document.digitsValue [a, b]
      if least ≤ value && value ≤ most then some ((value, [a, b]), rest) else none
    else none
  | _ => none

/-- The number of days of a month. -/
def daysIn (year month : Nat) : Nat :=
  let leap := year % 4 == 0 && (year % 100 != 0 || year % 400 == 0)
  if month = 2 then (if leap then 29 else 28)
  else if [4, 6, 9, 11].contains month then 30
  else 31

/-- The text behind a character that has to be there. -/
def expect (expected : Char) : List Char → Option (List Char)
  | c :: rest => if c == expected then some rest else none
  | [] => none

/-- A date behind its year and a hyphen. -/
def date (year : List Char) : Scan (List Char) := fun text => do
  let ((month, monthText), rest) ← twoDigits 1 12 text
  let rest ← expect '-' rest
  let ((_, dayText), rest) ← twoDigits 1 (daysIn (Document.digitsValue year) month) rest
  some (year ++ ['-'] ++ monthText ++ ['-'] ++ dayText, rest)

/-- The fraction of a second, if there is one: its first nine digits without zeros at the
end, and no point if none is left. -/
def secondFraction (text : List Char) : List Char × List Char :=
  match text with
  | '.' :: rest =>
    let (digits, behind) := Document.spanDigits rest
    let kept := ((digits.take 9).reverse.dropWhile (· == '0')).reverse
    if digits.isEmpty then ([], text)
    else if kept.isEmpty then ([], behind)
    else ('.' :: kept, behind)
  | _ => ([], text)

/-- A time of day. -/
def time : Scan (List Char) := fun text => do
  let ((_, hour), rest) ← twoDigits 0 23 text
  let rest ← expect ':' rest
  let ((_, minute), rest) ← twoDigits 0 59 rest
  let rest ← expect ':' rest
  let ((_, second), rest) ← twoDigits 0 60 rest
  let (fraction, rest) := secondFraction rest
  some (hour ++ [':'] ++ minute ++ [':'] ++ second ++ fraction, rest)

/-- The offset of a time behind its sign. -/
def signedOffset (sign : Char) : Scan (List Char) := fun text => do
  let ((hours, hourText), rest) ← twoDigits 0 23 text
  let rest ← expect ':' rest
  let ((minutes, minuteText), rest) ← twoDigits 0 59 rest
  let shown := if hours = 0 ∧ minutes = 0 then '+' else sign
  some ([shown] ++ hourText ++ [':'] ++ minuteText, rest)

/-- The offset of a time, if there is one. -/
def offset : Scan (List Char)
  | 'Z' :: rest => some (['Z'], rest)
  | 'z' :: rest => some (['Z'], rest)
  | '+' :: rest => signedOffset '+' rest
  | '-' :: rest => signedOffset '-' rest
  | rest => some ([], rest)

/-- Whether a text starts with two digits and a colon. -/
def startsTime : List Char → Bool
  | a :: b :: ':' :: _ => a.isDigit && b.isDigit
  | _ => false

/-- The time behind a date, if there is one. -/
def timeBehindDate : Scan (List Char)
  | c :: rest =>
    if (c == 'T' || c == 't' || c == ' ') && startsTime rest then do
      let (time, rest) ← time rest
      let (offset, rest) ← offset rest
      some ('T' :: time ++ offset, rest)
    else some ([], c :: rest)
  | [] => some ([], [])

/-- The key under which the text of a date or time stands. -/
def dateKey : String := "$__toml_private_datetime"

/-- The setting of a date or time. -/
def ofDate (text : List Char) : Setting := .table [(dateKey, .text (String.ofList text))]

/-- A date, a time, or a number; what the text starts with decides which. -/
def dateOrNumber (text : List Char) : Option (Setting × List Char) :=
  match text with
  | a :: b :: c :: d :: '-' :: rest =>
    if [a, b, c, d].all Char.isDigit then do
      let (date, rest) ← date [a, b, c, d] rest
      let (time, rest) ← timeBehindDate rest
      some (ofDate (date ++ time), rest)
    else number text
  | _ =>
    if startsTime text then (time text).map fun (time, rest) => (ofDate time, rest)
    else number text

end Toml

end BotHost
