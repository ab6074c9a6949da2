/-
# Sync batches

One answer of the homeserver's incremental feed.  Rooms are grouped by what the
account is to them, and within a group they keep the order in which the homeserver
sent them; a room that is named twice keeps its first place and its last content.

Events come without a room id.  `Batch.fillRoomIds` stamps each event that lacks one
with the room it was delivered under.
-/

import BotHost.Event

namespace BotHost

/-! ### Lists in the order of arrival -/

namespace Arrival

variable {α : Type}

/-- Put a value under a key: in the place of the key if it is there, else last. -/
def put (key : String) (value : α) : List (String × α) → List (String × α)
  | [] => [(key, value)]
  | (k, v) :: rest => if k = key then (k, value) :: rest else (k, v) :: put key value rest

/-- Each key in the place of its first occurrence with the value of its last. -/
def ofList (entries : List (String × α)) : List (String × α) :=
  entries.foldl (fun listed entry => put entry.1 entry.2 listed) []

end Arrival

/-- The recent events of a room. -/
structure Timeline where
  /-- The events, oldest first. -/
  events : List Event
  /-- Whether older events were left out. -/
  limited : Bool
  /-- Where the older events can be asked for. -/
  prevBatch : Option String
deriving BEq

/-- A room with its state and its recent events: one the account has joined or left. -/
structure RoomHistory where
  /-- The state before the timeline. -/
  state : List Event
  timeline : Timeline
deriving BEq

/-- One answer of the incremental feed. -/
structure Batch where
  /-- The cursor to poll from next. -/
  nextBatch : String
  /-- The rooms the account has joined, in order of arrival. -/
  join : List (String × RoomHistory)
  /-- The state shown with each invitation, by room in order of arrival. -/
  invite : List (String × List Event)
  leave : List (String × RoomHistory)
deriving BEq

namespace Timeline

/-- A timeline without events. -/
def empty : Timeline := ⟨[], false, none⟩

/-- Decode a timeline. -/
def decode : Decoder Timeline := fun document => do
  let fields ← document.fields? ["events", "limited", "prev_batch"]
  let events ← fields.orElse "events" (Decoder.list Event.decode) []
  let limited ← fields.orElse "limited" Decoder.bool false
  let prevBatch ← fields.optional "prev_batch" Decoder.text
  some { events, limited, prevBatch }

/-- Encode a timeline. -/
def toJson (timeline : Timeline) : Json :=
  Json.ofMembers
    ([("events", .array (timeline.events.map Event.toJson)),
        ("limited", .bool timeline.limited)] ++
      (timeline.prevBatch.map fun text => ("prev_batch", .string text)).toList)

end Timeline

namespace Batch

/-- Decode a list of events in its wrapper. -/
def decodeEvents : Decoder (List Event) := fun document => do
  let fields ← document.fields? ["events"]
  fields.orElse "events" (Decoder.list Event.decode) []

/-- Encode a list of events in its wrapper. -/
def eventsToJson (events : List Event) : Json :=
  Json.ofMembers [("events", .array (events.map Event.toJson))]

/-- Decode a joined or left room. -/
def decodeHistory : Decoder RoomHistory := fun document => do
  let fields ← document.fields? ["state", "timeline"]
  let state ← fields.orElse "state" decodeEvents []
  let timeline ← fields.orElse "timeline" Timeline.decode .empty
  some { state, timeline }

/-- Encode a joined or left room. -/
def historyToJson (room : RoomHistory) : Json :=
  Json.ofMembers [("state", eventsToJson room.state), ("timeline", room.timeline.toJson)]

/-- Decode an invitation. -/
def decodeInvitation : Decoder (List Event) := fun document => do
  let fields ← document.fields? ["invite_state"]
  fields.orElse "invite_state" decodeEvents []

/-- Encode an invitation. -/
def invitationToJson (events : List Event) : Json :=
  Json.ofMembers [("invite_state", eventsToJson events)]

/-- Decode the rooms of one group in order of arrival. -/
def decodeRooms {α : Type} (room : Decoder α) : Decoder (List (String × α)) :=
  fun document => (Decoder.members room document).map Arrival.ofList

/-- Decode a batch. -/
def decode : Decoder Batch := fun document => do
  let fields ← document.fields? ["next_batch", "rooms"]
  let nextBatch ← fields.required "next_batch" Decoder.text
  let empty : Batch := ⟨nextBatch, [], [], []⟩
  fields.orElse "rooms" (fun rooms => do
    let fields ← rooms.fields? ["join", "invite", "leave"]
    let join ← fields.orElse "join" (decodeRooms decodeHistory) []
    let invite ← fields.orElse "invite" (decodeRooms decodeInvitation) []
    let leave ← fields.orElse "leave" (decodeRooms decodeHistory) []
    some { nextBatch, join, invite, leave }) empty

/-- Encode the rooms of one group. -/
def roomsToJson {α : Type} (room : α → Json) (rooms : List (String × α)) : Json :=
  Json.ofMembers (rooms.map fun (roomId, content) => (roomId, room content))

/-- Encode a batch. -/
def toJson (batch : Batch) : Json :=
  Json.ofMembers
    [("next_batch", .string batch.nextBatch),
      ("rooms", Json.ofMembers
        [("join", roomsToJson historyToJson batch.join),
          ("invite", roomsToJson invitationToJson batch.invite),
          ("leave", roomsToJson historyToJson batch.leave)])]

/-- Whether the batch carries no room at all. -/
def isEmpty (batch : Batch) : Bool :=
  batch.join.isEmpty && batch.invite.isEmpty && batch.leave.isEmpty

/-- A room's history with every event in that room unless it names another. -/
def fillHistory (roomId : String) (room : RoomHistory) : RoomHistory :=
  { state := room.state.map (·.inRoom roomId)
    timeline :=
      { room.timeline with events := room.timeline.events.map (·.inRoom roomId) } }

/-- Stamp every event that lacks a room id with the room it was delivered under. -/
def fillRoomIds (batch : Batch) : Batch :=
  { batch with
    join := batch.join.map fun (roomId, room) => (roomId, fillHistory roomId room)
    invite := batch.invite.map fun (roomId, events) =>
      (roomId, events.map (·.inRoom roomId))
    leave := batch.leave.map fun (roomId, room) => (roomId, fillHistory roomId room) }

end Batch

end BotHost
