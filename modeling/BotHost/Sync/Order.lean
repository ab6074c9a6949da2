/-
# The order in which a batch is applied

A joined room whose timeline contains the account's own join is skipped: the history
in that batch is older than the account's presence and must not be replayed at it.
An invitation to a skipped room is skipped with it.

All other events are applied in four passes, each in order of arrival: the state of
joined rooms, their timelines, the state shown with invitations, and the state
events in the timelines of left rooms.
-/

import BotHost.Sync.Batch

namespace BotHost

/-- The events of a batch in the order they are applied. -/
structure OrderedBatch where
  events : List Event
  /-- The joined rooms that are skipped, in order of arrival. -/
  skippedRooms : List String

namespace Batch

/-- Whether the user's own join is in the timeline of the room. -/
def hasOwnJoin (userId : String) (room : RoomHistory) : Bool :=
  room.timeline.events.any fun event => event.isMembershipOf userId .join

/-- The joined rooms that are skipped for a user. -/
def skippedRooms (userId : String) (batch : Batch) : List String :=
  (batch.join.filter fun room => hasOwnJoin userId room.2).map (·.1)

/-- Bring a batch into the order in which its events are applied for a user. -/
def order (userId : String) (batch : Batch) : OrderedBatch :=
  let skipped := batch.skippedRooms userId
  let joined := (batch.join.filter fun room => !skipped.contains room.1).map (·.2)
  let invited := (batch.invite.filter fun room => !skipped.contains room.1).map (·.2)
  { events :=
      joined.flatMap (·.state) ++
      joined.flatMap (·.timeline.events) ++
      invited.flatten ++
      batch.leave.flatMap fun room => room.2.timeline.events.filter Event.isState
    skippedRooms := skipped }

end Batch

/-- The feed filter of an account that has none: short timelines, members on demand
and no presence. -/
def syncFilter (timelineLimit : Nat) : Json :=
  Json.ofMembers
    [("room", Json.ofMembers
        [("timeline", Json.ofMembers [("limit", .ofNat timelineLimit)]),
          ("state", Json.ofMembers [("lazy_load_members", .bool true)])]),
      ("presence", Json.ofMembers [("not_types", .array [.string "*"])])]

end BotHost
