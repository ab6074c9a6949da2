/-
# Assembling the tables of TOML

A table can be stated by a header, arise from a dotted key, or be implied by the header of
a table below it.  A header states a table only once and never one that arose from a dotted
key; a dotted key adds to tables that arose from dotted keys, and to no others; a key is
assigned only once; and a value in braces or brackets is closed.  A header with two brackets
adds a table to a list of tables, and headers below it go on with the last of them.
-/

import BotHost.Setting

namespace BotHost

namespace Toml

/-- How a table came about. -/
inductive Origin where
  /-- By the header of a table below it. -/
  | implied
  /-- By a dotted key. -/
  | dotted
  /-- By its own header. -/
  | stated
deriving DecidableEq

/-- What stands under a key. -/
inductive Node where
  | value (setting : Setting)
  | table (origin : Origin) (entries : List (String × Node))
  | tables (items : List (List (String × Node)))

/-- A table under assembly. -/
structure Table where
  origin : Origin
  entries : List (String × Node)

namespace Table

/-- A stated table without keys. -/
def empty : Table := ⟨.stated, []⟩

/-- The table as what stands under a key. -/
def toNode (table : Table) : Node := .table table.origin table.entries

/-- Put a node under a key. -/
def put (table : Table) (key : String) (node : Node) : Table :=
  { table with entries := Entries.insert key node table.entries }

/-- Change the table at the end of a path.  Tables that are not there yet come about on the
way; a dotted path never enters a table that was stated. -/
def change (dotted : Bool) (act : Table → Option Table) : List String → Table → Option Table
  | [], table => act table
  | key :: path, table =>
    let node : Option Node :=
      match Entries.find? key table.entries with
      | none =>
        (change dotted act path ⟨if dotted then .dotted else .implied, []⟩).map toNode
      | some (.value _) => none
      | some (.table origin entries) =>
        if dotted && origin == Origin.stated then none
        else (change dotted act path ⟨origin, entries⟩).map toNode
      | some (.tables items) =>
        match items.getLast? with
        | none => none
        | some last =>
          (change dotted act path ⟨.stated, last⟩).map fun (changed : Table) =>
            .tables (items.dropLast ++ [changed.entries])
    node.map (table.put key)

/-- Put a value under a key that is still free.  The table must have come about by dotted
keys if the key is dotted, and must not if it is not. -/
def place (dotted : Bool) (key : String) (value : Setting) (table : Table) : Option Table :=
  if (table.origin == .dotted) != dotted then none
  else
    match Entries.find? key table.entries with
    | some _ => none
    | none => some (table.put key (.value value))

/-- Assign a value to a key. -/
def assign (key : List String) (value : Setting) (table : Table) : Option Table :=
  match key.getLast? with
  | none => none
  | some last =>
    let path := key.dropLast
    change true (place (!path.isEmpty) last value) path table

/-- State the table under a key. -/
def state (key : String) (table : Table) : Option Table :=
  match Entries.find? key table.entries with
  | none => some (table.put key (.table .stated []))
  | some (.table .implied entries) => some (table.put key (.table .stated entries))
  | some _ => none

/-- Add a table to the list of tables under a key. -/
def extend (key : String) (table : Table) : Option Table :=
  match Entries.find? key table.entries with
  | none => some (table.put key (.tables [[]]))
  | some (.tables items) => some (table.put key (.tables (items ++ [[]])))
  | some _ => none

/-- Carry out a header: `act` on the table that holds the last name of its key. -/
def header (act : String → Table → Option Table) (key : List String) (table : Table) :
    Option Table :=
  match key.getLast? with
  | none => none
  | some last => change false (act last) key.dropLast table

end Table

mutual

/-- The setting of a node. -/
def Node.toSetting : Node → Setting
  | .value setting => setting
  | .table _ entries => .table (entrySettings entries)
  | .tables items => .list (tableSettings items)

/-- The settings of the nodes under keys. -/
def entrySettings : List (String × Node) → List (String × Setting)
  | [] => []
  | (key, node) :: rest => (key, node.toSetting) :: entrySettings rest

/-- The settings of the tables of a list. -/
def tableSettings : List (List (String × Node)) → List Setting
  | [] => []
  | entries :: rest => .table (entrySettings entries) :: tableSettings rest

end

/-- The setting of a table. -/
def Table.toSetting (table : Table) : Setting := .table (entrySettings table.entries)

end Toml

end BotHost
