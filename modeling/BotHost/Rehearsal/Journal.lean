/-
# The journal of a rehearsal

The occurrences of a trace as JSON entries: requests by kind and arguments, polls of the feed
with the second at which they were made, writes to the store, and remarks as they are.
Readings of the store and dispatches are left out.
-/

import BotHost.Rehearsal.Script

namespace BotHost

namespace Journal

/-- A time in milliseconds, rounded to seconds. -/
def seconds (milliseconds : Nat) : Nat := (milliseconds + 500) / 1000

/-- The entry of a request that was made at a time. -/
def ofRequest (time : Nat) : Request → Json
  | .whoAmI => .ofTexts ["whoami"]
  | .createFilter userId filter =>
    .array [.string "create_filter", .string userId, filter]
  | .sync since filter timeout =>
    .array [.string "sync", .ofText? since, .ofText? filter, .ofNat timeout,
      .ofNat (seconds time)]
  | .send roomId eventType content =>
    .array [.string "send", .string roomId, .string eventType, content]
  | .join room => .ofTexts ["join", room]
  | .markRead roomId eventId => .ofTexts ["mark_read", roomId, eventId]
  | .getEvent roomId eventId => .ofTexts ["get_event", roomId, eventId]

/-- The entry of an operation of the store, if it writes. -/
def ofStoreCall? (call : StoreCall) : Option Json :=
  match call with
  | .updateAccount record =>
    some (.array [.string call.name, .string record.userId, .string record.nextBatch,
      .string record.filterId, .bool record.sync])
  | .putCommandSpec owner account _ => some (.ofTexts [call.name, owner, account])
  | .updatePlugin record =>
    some (.array [.string call.name, .string record.id, .bool record.enabled])
  | _ => none

/-- Which occurrences a journal tells. -/
structure Scope where
  connections : Bool
  requests : Bool
  writes : Bool

/-- The entry of an occurrence, if the journal tells it. -/
def told? (scope : Scope) : Occurrence → Option Json
  | .connect userId => if scope.connections then some (.ofTexts ["connect", userId]) else none
  | .request _ time request => if scope.requests then some (ofRequest time request) else none
  | .store call => if scope.writes then ofStoreCall? call else none
  | .dispatch .. => none
  | .remark value => some value

/-- The entries of what was added to a trace after it had a length, in order. -/
def since (scope : Scope) (length : Nat) (trace : List Occurrence) : Json :=
  .array ((trace.take (trace.length - length)).reverse.filterMap (told? scope))

end Journal

end BotHost
