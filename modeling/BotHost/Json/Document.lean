/-
# Documents: values as they were written

A `Document` is the tree of a JSON text.  It keeps what a `Json` value forgets: the
order of an object's members and every occurrence of a repeated key.  Typed records
are decoded from documents, so that a decoder can refuse a field that is given
twice while ignoring members it does not know.

The settings of a configuration are decoded from documents too.  They are less strict
than JSON in three ways: a natural number may stand for a case by its rank, an array may
be longer than the record it stands for, and a number need not be finite.

A part of the text that is well formed but stands for no value is `unreadable`: a
number beyond the largest double, a string with half a surrogate pair, and anything
nested deeper than 127 arrays and objects.  No decoder accepts it, but a member
that nobody asks for may hold it.
-/

import BotHost.Json

namespace BotHost

/-- The tree of a written value. -/
inductive Document where
  | null
  | bool (value : Bool)
  | number (value : Number)
  | string (value : String)
  | array (items : List Document)
  /-- An object with its members in written order. -/
  | object (members : List (String × Document))
  /-- A natural number, or the case of that rank. -/
  | rank (value : Nat)
  /-- An array that may be longer than the record it stands for. -/
  | row (items : List Document)
  /-- A number that is not finite. -/
  | boundless
  /-- Well-formed text that stands for no value. -/
  | unreadable
deriving Inhabited

namespace Document

mutual

/-- The value of a document; the last member of a repeated key counts, and a number that
is not finite is null. -/
def toJson? : Document → Option Json
  | null => some .null
  | bool value => some (.bool value)
  | number value => some (.number value)
  | string value => some (.string value)
  | array items => (toItems? items).map .array
  | object members => (toMembers? members).map Json.ofMembers
  | rank value => some (.ofNat value)
  | row items => (toItems? items).map .array
  | boundless => some .null
  | unreadable => none

/-- The values of a list of documents. -/
def toItems? : List Document → Option (List Json)
  | [] => some []
  | item :: rest =>
    match toJson? item, toItems? rest with
    | some value, some values => some (value :: values)
    | _, _ => none

/-- The values of a list of members. -/
def toMembers? : List (String × Document) → Option (List (String × Json))
  | [] => some []
  | (key, item) :: rest =>
    match toJson? item, toMembers? rest with
    | some value, some values => some ((key, value) :: values)
    | _, _ => none

end

mutual

/-- The document that writes out a value. -/
def ofJson : Json → Document
  | .null => null
  | .bool value => bool value
  | .number value => number value
  | .string value => string value
  | .array items => array (ofItems items)
  | .object members => object (ofMembers members)

/-- The documents of a list of values. -/
def ofItems : List Json → List Document
  | [] => []
  | item :: rest => ofJson item :: ofItems rest

/-- The documents of a list of members. -/
def ofMembers : List (String × Json) → List (String × Document)
  | [] => []
  | (key, item) :: rest => (key, ofJson item) :: ofMembers rest

end

end Document

end BotHost
