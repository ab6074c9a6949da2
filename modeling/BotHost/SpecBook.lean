/-
# Spec books

The spec book of an account holds the command spec of each owner.  Its composite lists
the commands of all owners in ascending order of owner, and it is compiled only when
it is asked for after a change.

The generation counts the changes.
-/

import BotHost.Command.Composite
import BotHost.Store.Records

namespace BotHost

/-- The specs of one account, with the composite if it has been compiled. -/
structure SpecBook where
  /-- The spec of each owner. -/
  specs : SortedMap String CommandSpec
  /-- The compiled composite, unless the specs have changed since. -/
  compiled : Option Composite
  /-- How often the specs have changed. -/
  generation : Nat

/-- What setting a spec did. -/
inductive SpecUpdate where
  | changed
  | unchanged
deriving DecidableEq

namespace SpecBook

/-- A book without specs. -/
def empty : SpecBook := ⟨.empty, none, 0⟩

/-- The spec of an owner. -/
def spec? (book : SpecBook) (owner : String) : Option CommandSpec := book.specs.find? owner

/-- Whether an owner's spec is already the given one. -/
def holds (book : SpecBook) (owner : String) (spec : CommandSpec) : Bool :=
  book.spec? owner == some spec

/-- The book with other specs, as one change. -/
def change (book : SpecBook) (specs : SortedMap String CommandSpec) : SpecBook :=
  ⟨specs, none, book.generation + 1⟩

/-- Install the spec of an owner. -/
def install (book : SpecBook) (owner : String) (spec : CommandSpec) : SpecBook :=
  book.change (book.specs.insert owner spec)

/-- Install the records of an account, as one change if there are any. -/
def load (book : SpecBook) (account : String) (records : List SpecRecord) : SpecBook :=
  let own := records.filter fun record => record.account == account
  if own.isEmpty then book
  else book.change (own.foldl (fun specs record => specs.insert record.owner record.spec)
    book.specs)

/-- Drop the spec of an owner. -/
def remove (book : SpecBook) (owner : String) : SpecBook :=
  if (book.spec? owner).isSome then book.change (book.specs.erase owner) else book

/-- The commands of all owners, compiled. -/
def compile (specs : SortedMap String CommandSpec) : Composite :=
  specs.values.flatMap CommandSpec.compile

/-- The composite, and the book that remembers it. -/
def composite (book : SpecBook) : Composite × SpecBook :=
  match book.compiled with
  | some compiled => (compiled, book)
  | none =>
    let compiled := compile book.specs
    (compiled, { book with compiled := some compiled })

/-- The specs of all owners as one. -/
def merged (book : SpecBook) : CommandSpec := book.specs.values.foldl CommandSpec.merge .empty

end SpecBook

end BotHost
