/-
# Reading TOML

A text is a sequence of lines: blank ones, assignments, and headers of tables and of lists
of tables.  `Toml.read?` assembles them to a table of settings, or refuses the text as a
whole.
-/

import BotHost.Toml.Quoted
import BotHost.Toml.Table

namespace BotHost

namespace Toml

/-! ### Lines -/

/-- The text behind a comment, if the text starts with one. -/
def skipComment : List Char → List Char
  | '#' :: rest => rest.dropWhile isPrintable
  | rest => rest

/-- The text behind the rest of a line that holds nothing more. -/
def endLine (text : List Char) : Option (List Char) :=
  match skipComment (skipSpaces text) with
  | [] => some []
  | rest => behindBreak? rest

/-- The text behind blanks, line breaks and comments; the argument bounds the number of
lines. -/
def skipLines : Nat → List Char → List Char
  | 0, text => text
  | bound + 1, text =>
    match behindBreak? (skipComment (skipSpaces text)) with
    | some rest => skipLines bound rest
    | none => skipSpaces text

/-! ### Values -/

mutual

/-- A value inside `depth` others.  The first argument bounds the number of values and list
positions still to be read. -/
def value : Nat → Nat → Scan Setting
  | 0, _, _ => none
  | bound + 1, depth, text =>
    match text with
    | 't' :: 'r' :: 'u' :: 'e' :: rest => some (.bool true, rest)
    | 'f' :: 'a' :: 'l' :: 's' :: 'e' :: rest => some (.bool false, rest)
    | '[' :: rest =>
      if depth + 1 < depthLimit then
        (items bound (depth + 1) rest).map fun (items, rest) => (.list items, rest)
      else none
    | '\x7b' :: rest =>
      if depth + 1 < depthLimit then
        match skipSpaces rest with
        | '\x7d' :: rest => some (.empty, rest)
        | rest =>
          (members bound (depth + 1) .empty rest).map fun (table, rest) =>
            (table.toSetting, rest)
      else none
    | '"' :: _ => (text? text).map fun (found, rest) => (.text found, rest)
    | '\'' :: _ => (text? text).map fun (found, rest) => (.text found, rest)
    | _ => dateOrNumber text

/-- The items of a list up to its closing bracket. -/
def items : Nat → Nat → Scan (List Setting)
  | 0, _, _ => none
  | bound + 1, depth, text =>
    match skipLines text.length text with
    | ']' :: rest => some ([], rest)
    | rest =>
      match value bound depth rest with
      | none => none
      | some (item, rest) =>
        match skipLines rest.length rest with
        | ',' :: rest =>
          (items bound depth rest).map fun (items, rest) => (item :: items, rest)
        | ']' :: rest => some ([item], rest)
        | _ => none

/-- The assignments of a table in braces up to its closing brace, added to those before. -/
def members : Nat → Nat → Table → Scan Table
  | 0, _, _, _ => none
  | bound + 1, depth, table, text =>
    match key (depthLimit - 1) text with
    | none => none
    | some (key, rest) =>
      match rest with
      | '=' :: rest =>
        match value bound depth (skipSpaces rest) with
        | none => none
        | some (item, rest) =>
          match table.assign key item with
          | none => none
          | some table =>
            match skipSpaces rest with
            | ',' :: rest => members bound depth table rest
            | '\x7d' :: rest => some (table, rest)
            | _ => none
      | _ => none

end

/-! ### Texts -/

/-- The tables read so far, and the key of the table that assignments go to. -/
structure Reading where
  root : Table
  /-- The key of the table that assignments go to. -/
  current : List String

/-- Read one line: a header, an assignment, or nothing. -/
def line (reading : Reading) (text : List Char) : Option (Reading × List Char) :=
  match skipSpaces text with
  | '[' :: '[' :: rest => do
    let (key, rest) ← key (depthLimit - 1) rest
    let rest ← expect ']' rest
    let rest ← expect ']' rest
    let root ← reading.root.header Table.extend key
    let rest ← endLine rest
    some (⟨root, key⟩, rest)
  | '[' :: rest => do
    let (key, rest) ← key (depthLimit - 1) rest
    let rest ← expect ']' rest
    let root ← reading.root.header Table.state key
    let rest ← endLine rest
    some (⟨root, key⟩, rest)
  | rest =>
    match endLine rest with
    | some rest => some (reading, rest)
    | none => do
      let (key, rest) ← key (depthLimit - 1) rest
      let rest ← expect '=' rest
      let text := skipSpaces rest
      let (item, rest) ← value (2 * text.length + 2) 0 text
      let root ← reading.root.change false (Table.assign key item) reading.current
      let rest ← endLine rest
      some ({ reading with root }, rest)

/-- Read all lines; the first argument bounds their number. -/
def lines : Nat → Reading → List Char → Option Reading
  | 0, _, _ => none
  | bound + 1, reading, text =>
    match text with
    | [] => some reading
    | text =>
      match line reading text with
      | none => none
      | some (reading, rest) => lines bound reading rest

/-- The settings of a text; a byte order mark before it is ignored. -/
def read? (text : String) : Option Setting :=
  let chars :=
    match text.toList with
    | '\ufeff' :: rest => rest
    | chars => chars
  (lines (chars.length + 1) ⟨.empty, []⟩ chars).map fun reading => reading.root.toSetting

end Toml

end BotHost
