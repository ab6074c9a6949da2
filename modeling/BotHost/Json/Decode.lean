/-
# Decoding typed records

A decoder reads a document as a value of some type, or refuses it.  Strings,
numbers and truth values are never converted into one another.

A record is written as an object, whose known fields may each occur once and whose
other members are ignored, or as an array of its fields in declaration order, from
which fields at the end may be missing.  `Document.fields?` brings both forms to
one list of named fields; `required`, `orElse` and `optional` then say what a field
that is missing stands for.
-/

import BotHost.Json.Reader

namespace BotHost

/-- Reads a document as a value of type `α`. -/
abbrev Decoder (α : Type) := Document → Option α

namespace Decoder

/-- Any value. -/
def json : Decoder Json := Document.toJson?

/-- A string. -/
def text : Decoder String
  | .string value => some value
  | _ => none

/-- A truth value. -/
def bool : Decoder Bool
  | .bool value => some value
  | _ => none

/-- A whole number of the given range, its upper end excluded. -/
def integer (low high : Int) : Decoder Int
  | .number (.integer value) => if low ≤ value ∧ value < high then some value else none
  | .rank value => if low ≤ value ∧ value < high then some value else none
  | _ => none

/-- A signed 64-bit number. -/
def int64 : Decoder Int := integer (-(Number.signedCount : Int)) Number.signedCount

/-- An unsigned number of the given number of bits. -/
def unsigned (bits : Nat) : Decoder Nat := fun document =>
  (integer 0 (Nat.pow 2 bits) document).map Int.toNat

/-- A value that may be null, which means it is absent. -/
def nullable {α : Type} (item : Decoder α) : Decoder (Option α)
  | .null => some none
  | document => (item document).map some

/-- An array of values. -/
def list {α : Type} (item : Decoder α) : Decoder (List α)
  | .array items => items.mapM item
  | .row items => items.mapM item
  | _ => none

/-- The members of an object in written order. -/
def members {α : Type} (item : Decoder α) : Decoder (List (String × α))
  | .object members => members.mapM fun (key, value) => (item value).map (key, ·)
  | _ => none

/-- An object as a map; of a repeated key the last value counts. -/
def map {α : Type} (item : Decoder α) : Decoder (SortedMap String α) := fun document =>
  (members item document).map SortedMap.ofList

/-- The name of a case without payload: a string, or an object whose only member has
the value null. -/
def caseName : Decoder String
  | .string name => some name
  | .object [(name, .null)] => some name
  | _ => none

/-- One of the listed cases, by its name or by its rank. -/
def choice {α : Type} (name : α → String) (cases : List α) : Decoder α
  | .rank value => cases[value]?
  | document => (caseName document).bind fun text => cases.find? fun item => name item == text

end Decoder

/-- The fields of a record that are present, by name. -/
abbrev Fields := List (String × Document)

namespace Document

/-- Whether no key of the list occurs twice. -/
def distinct : List String → Bool
  | [] => true
  | key :: rest => !rest.contains key && distinct rest

/-- The fields of a record with the given field names. -/
def fields? (names : List String) : Document → Option Fields
  | object members =>
    let known := members.filter fun member => names.contains member.1
    if distinct (known.map (·.1)) then some known else none
  | array items => if items.length ≤ names.length then some (names.zip items) else none
  | row items => some (names.zip items)
  | _ => none

end Document

namespace Fields

variable {α : Type}

/-- The document of a field. -/
def get? (fields : Fields) (name : String) : Option Document :=
  (fields.find? fun field => field.1 == name).map (·.2)

/-- A field that has to be there. -/
def required (fields : Fields) (name : String) (item : Decoder α) : Option α :=
  (fields.get? name).bind item

/-- A field with a default for its absence. -/
def orElse (fields : Fields) (name : String) (item : Decoder α) (default : α) : Option α :=
  match fields.get? name with
  | none => some default
  | some document => item document

/-- A field that may be absent or null. -/
def optional (fields : Fields) (name : String) (item : Decoder α) : Option (Option α) :=
  fields.orElse name (Decoder.nullable item) none

end Fields

namespace Decoder

variable {α : Type}

/-- Decode a JSON text. -/
def ofText (decoder : Decoder α) (text : String) : Option α :=
  (Document.read? text).bind decoder

/-- Decode a value. -/
def ofJson (decoder : Decoder α) (value : Json) : Option α := decoder (Document.ofJson value)

end Decoder

end BotHost
