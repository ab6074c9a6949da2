/-
# Settings in the environment

An environment variable whose name begins with `WEFT_`, in any case, states a setting.  The
rest of the name, in lower case, is the path of the setting: two underscores or a point
stand between its keys, and the path ends at the first empty key.  `WEFT_PROFILE` states
no setting; it names the profile.

The text of a variable is read as a truth value, a number, a quoted text, a character
between apostrophes, a list in brackets or a table in braces.  Any other text stands for
itself.
-/

import BotHost.Text.Blank
import BotHost.Toml.Quoted

namespace BotHost

namespace EnvironmentValue

open Toml (Scan)

/-! ### Numbers -/

/-- A decimal fraction: digits with a point before, between or behind them, and perhaps an
exponent.  One that is too large is boundless. -/
def real? (text : List Char) : Option Setting := do
  let (minus, text) := Toml.sign text
  let (whole, text) := Document.spanDigits text
  let (fraction, text) :=
    match text with
    | '.' :: rest => Document.spanDigits rest
    | rest => ([], rest)
  let (power, text) ← Document.readExponent text
  if (whole.isEmpty && fraction.isEmpty) || !text.isEmpty then none
  else
    let exponent : Int :=
      match power with
      | none => 0
      | some (negative, digits) =>
        let value : Int := Document.digitsValue digits
        if negative then -value else value
    let digits := (whole ++ fraction).map Document.digitValue
    some
      (match Binary64.ofDigits (minus == some true) digits (exponent - fraction.length) with
      | some value => .number (.real value)
      | none => .boundless)

/-- A whole number of 64 bits; one without a minus sign may also stand for a case. -/
def whole? (text : List Char) : Option Setting :=
  let (minus, digits) := Toml.sign text
  if digits.isEmpty || !digits.all Char.isDigit then none
  else
    let value := Document.digitsValue digits
    if minus == some true then
      if value ≤ Number.signedCount then some (.number (.integer (-value))) else none
    else if value < Number.wordCount then some (.rank value)
    else none

/-- The setting of a text without brackets, braces and commas. -/
def plain (text : List Char) : Setting :=
  let trimmed := Text.trim text
  match if trimmed.contains '.' then real? trimmed else none with
  | some number => number
  | none => (whole? trimmed).getD (.text (String.ofList trimmed))

/-! ### Lists and tables -/

/-- Whether a character is a blank between values. -/
def isBlank (c : Char) : Bool := Document.isBlank c || c == '\x0c'

/-- The text behind leading blanks. -/
def skipBlanks (text : List Char) : List Char := text.dropWhile isBlank

/-- Whether a character ends a text that is not quoted. -/
def isSeparator (c : Char) : Bool :=
  c == ',' || c == '[' || c == ']' || c == '\x7b' || c == '\x7d'

/-- The key of an entry of a table, blanks around it. -/
def entryKey (text : List Char) : Option (String × List Char) :=
  let named : Option (String × List Char) :=
    match skipBlanks text with
    | '"' :: rest => (Toml.quoted rest).map fun (name, rest) => (String.ofList name, rest)
    | text =>
      let bare := text.takeWhile Toml.isBare
      if bare.isEmpty then none
      else some (String.ofList bare, text.dropWhile Toml.isBare)
  named.map fun (name, rest) => (name, skipBlanks rest)

mutual

/-- A value with blanks around it; the first argument bounds the number of values and
positions still to be read. -/
def value : Nat → Scan Setting
  | 0, _ => none
  | bound + 1, text =>
    let found : Option (Setting × List Char) :=
      match skipBlanks text with
      | 't' :: 'r' :: 'u' :: 'e' :: rest => some (.bool true, rest)
      | 'f' :: 'a' :: 'l' :: 's' :: 'e' :: rest => some (.bool false, rest)
      | '\x7b' :: rest =>
        (entries bound rest).map fun (entries, rest) =>
          (.table (SortedMap.ofList entries).toList, rest)
      | '[' :: rest => (items bound rest).map fun (items, rest) => (.list items, rest)
      | '"' :: rest =>
        (Toml.quoted rest).map fun (text, rest) => (.text (String.ofList text), rest)
      | '\'' :: c :: '\'' :: rest => some (.text (String.singleton c), rest)
      | '\'' :: _ => none
      | text =>
        let ends (c : Char) : Bool := !isSeparator c
        some (plain (text.takeWhile ends), text.dropWhile ends)
    found.map fun (setting, rest) => (setting, skipBlanks rest)

/-- The items of a list up to its closing bracket. -/
def items : Nat → Scan (List Setting)
  | 0, _ => none
  | bound + 1, text =>
    match text with
    | ']' :: rest => some ([], rest)
    | text =>
      match value bound text with
      | some (item, ',' :: rest) =>
        (items bound rest).map fun (items, rest) => (item :: items, rest)
      | some (item, ']' :: rest) => some ([item], rest)
      | _ => none

/-- The entries of a table up to its closing brace. -/
def entries : Nat → Scan (List (String × Setting))
  | 0, _ => none
  | bound + 1, text =>
    match text with
    | '\x7d' :: rest => some ([], rest)
    | text =>
      match entryKey text with
      | some (key, '=' :: rest) =>
        match value bound rest with
        | some (item, ',' :: rest) =>
          (entries bound rest).map fun (entries, rest) => ((key, item) :: entries, rest)
        | some (item, '\x7d' :: rest) => some ([(key, item)], rest)
        | _ => none
      | _ => none

end

/-- The setting that the text of a variable states. -/
def read (text : String) : Setting :=
  let chars := text.toList
  match value (2 * chars.length + 2) chars with
  | some (setting, []) => setting
  | _ => .text text

end EnvironmentValue

/-- The variables of the environment. -/
abbrev Variables := SortedMap String String

namespace Variables

/-- What the names of the variables begin with, in lower case. -/
def namespaceText : List Char := "weft_".toList

/-- The variable that names the profile. -/
def profileName : String := "WEFT_PROFILE"

/-- The rest of a variable's name in lower case, if the name begins as it should and goes
on, and the variable does not name the profile. -/
def settingName? (name : String) : Option (List Char) :=
  let lower := name.toList.map Char.toLower
  let rest := lower.drop namespaceText.length
  if lower.take namespaceText.length == namespaceText && !rest.isEmpty &&
      rest != "profile".toList then some rest
  else none

/-- The keys of a path: two underscores or a point stand between them. -/
def splitKeys : List Char → List (List Char)
  | [] => [[]]
  | '_' :: '_' :: rest => [] :: splitKeys rest
  | c :: rest =>
    if c == '.' then [] :: splitKeys rest
    else
      match splitKeys rest with
      | [] => [[c]]
      | key :: keys => (c :: key) :: keys

/-- The path of a setting, up to the first empty key. -/
def path (name : List Char) : List String :=
  ((splitKeys name).takeWhile fun key => !key.isEmpty).map String.ofList

/-- The table that one variable states. -/
def setting? (name text : String) : Option Setting :=
  (settingName? name).bind fun rest =>
    match Setting.nested (path rest) (EnvironmentValue.read text) with
    | .table entries => some (.table entries)
    | _ => none

/-- What the variables state together, later names over earlier ones. -/
def settings (environment : Variables) : Setting :=
  Setting.layered (environment.toList.filterMap fun (name, text) => setting? name text)

end Variables

end BotHost
