/-
# Settings

What one source of a configuration states: tables of settings by key, lists, and single
values.  Sources are laid over one another.  Tables combine key by key; any other value
replaces what lies below it as a whole, lists included.

Unlike a JSON value, a setting can be a number that is not finite, and a natural number can
be stated in such a way that it also stands for a case by its rank.
-/

import BotHost.Json.Document

namespace BotHost

/-- What a source of a configuration states. -/
inductive Setting where
  | null
  | bool (value : Bool)
  | number (value : Number)
  /-- A natural number, or the case of that rank. -/
  | rank (value : Nat)
  /-- A number that is not finite. -/
  | boundless
  | text (value : String)
  | list (items : List Setting)
  /-- A table, its settings by ascending key. -/
  | table (entries : List (String × Setting))
deriving Inhabited

namespace Setting

/-- The table that states nothing. -/
def empty : Setting := table []

mutual

/-- Lay a setting over another one. -/
def cover (lower : Setting) : Setting → Setting
  | table entries =>
    match lower with
    | table below => table (coverEntries below entries)
    | _ => table entries
  | other => other

/-- Lay the settings of a table over those of another one. -/
def coverEntries (lower : List (String × Setting)) :
    List (String × Setting) → List (String × Setting)
  | [] => lower
  | (key, setting) :: rest =>
    let combined :=
      match Entries.find? key lower with
      | some below => cover below setting
      | none => setting
    coverEntries (Entries.insert key combined lower) rest

end

/-- The sources of a configuration laid over one another, the lowest first. -/
def layered (sources : List Setting) : Setting := sources.foldl cover empty

/-- The setting at a path of keys. -/
def at? : List String → Setting → Option Setting
  | [], setting => some setting
  | key :: path, table entries => (Entries.find? key entries).bind (at? path)
  | _ :: _, _ => none

/-- The setting that stands at the end of a path of keys and nothing beside it. -/
def nested (path : List String) (setting : Setting) : Setting :=
  path.foldr (fun key inner => table [(key, inner)]) setting

mutual

/-- The setting that states a JSON value. -/
def ofJson : Json → Setting
  | .null => null
  | .bool value => bool value
  | .number value => number value
  | .string value => text value
  | .array items => list (ofItems items)
  | .object members => table (ofMembers members)

/-- The settings that state JSON values. -/
def ofItems : List Json → List Setting
  | [] => []
  | item :: rest => ofJson item :: ofItems rest

/-- The settings that state the members of an object. -/
def ofMembers : List (String × Json) → List (String × Setting)
  | [] => []
  | (key, item) :: rest => (key, ofJson item) :: ofMembers rest

end

mutual

/-- A setting as a document, from which typed records are decoded. -/
def toDocument : Setting → Document
  | null => .null
  | bool value => .bool value
  | number value => .number value
  | rank value => .rank value
  | boundless => .boundless
  | text value => .string value
  | list items => .row (toItems items)
  | table entries => .object (toMembers entries)

/-- Settings as documents. -/
def toItems : List Setting → List Document
  | [] => []
  | item :: rest => toDocument item :: toItems rest

/-- The settings of a table as members. -/
def toMembers : List (String × Setting) → List (String × Document)
  | [] => []
  | (key, item) :: rest => (key, toDocument item) :: toMembers rest

end

end Setting

end BotHost
