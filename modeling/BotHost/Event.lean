/-
# Room events

An event as the homeserver delivers it.  Its wire form is a JSON object; the fields
that are absent by default are left out again when they are encoded.

State events are those with a state key.  `Event.isMembershipOf` recognises the
event that moves a given user into a given membership.
-/

import BotHost.Event.Content

namespace BotHost

/-- What the homeserver attaches outside of the signed event. -/
structure Unsigned where
  prevContent : Option Json
  prevSender : Option String
  replacesState : Option String
  /-- The age in milliseconds. -/
  age : Option Int
  transactionId : Option String
deriving BEq

namespace Unsigned

/-- Nothing attached. -/
def empty : Unsigned := ⟨none, none, none, none, none⟩

/-- Decode what is attached to an event. -/
def decode : Decoder Unsigned := fun document => do
  let fields ← document.fields?
    ["prev_content", "prev_sender", "replaces_state", "age", "transaction_id"]
  let prevContent ← fields.optional "prev_content" Decoder.json
  let prevSender ← fields.optional "prev_sender" Decoder.text
  let replacesState ← fields.optional "replaces_state" Decoder.text
  let age ← fields.optional "age" Decoder.int64
  let transactionId ← fields.optional "transaction_id" Decoder.text
  some ⟨prevContent, prevSender, replacesState, age, transactionId⟩

/-- Encode what is attached to an event. -/
def toJson (unsigned : Unsigned) : Json :=
  Json.ofMembers
    ((unsigned.prevContent.map fun value => ("prev_content", value)).toList ++
      (unsigned.prevSender.map fun text => ("prev_sender", .string text)).toList ++
      (unsigned.replacesState.map fun text => ("replaces_state", .string text)).toList ++
      (unsigned.age.map fun age => ("age", .ofInt age)).toList ++
      (unsigned.transactionId.map fun text => ("transaction_id", .string text)).toList)

end Unsigned

/-- A single room event. -/
structure Event where
  eventId : String
  eventType : String
  sender : String
  /-- The room; sync answers leave it out and the batch fills it in. -/
  roomId : String
  /-- Present exactly on state events. -/
  stateKey : Option String
  /-- The homeserver's time stamp in milliseconds. -/
  originServerTs : Int
  content : Content
  redacts : Option String
  unsigned : Unsigned
deriving BEq

namespace Event

/-- The names of an event's fields on the wire, in their order as an array. -/
def fieldNames : List String :=
  ["event_id", "type", "sender", "room_id", "state_key", "origin_server_ts", "content",
    "redacts", "unsigned"]

/-- Decode an event. -/
def decode : Decoder Event := fun document => do
  let fields ← document.fields? fieldNames
  let eventId ← fields.orElse "event_id" Decoder.text ""
  let eventType ← fields.required "type" Decoder.text
  let sender ← fields.orElse "sender" Decoder.text ""
  let roomId ← fields.orElse "room_id" Decoder.text ""
  let stateKey ← fields.optional "state_key" Decoder.text
  let originServerTs ← fields.orElse "origin_server_ts" Decoder.int64 0
  let content ← fields.orElse "content" Decoder.json .null
  let redacts ← fields.optional "redacts" Decoder.text
  let unsigned ← fields.orElse "unsigned" Unsigned.decode .empty
  some
    { eventId, eventType, sender, roomId, stateKey, originServerTs
      content := Content.ofJson eventType content
      redacts, unsigned }

/-- Encode an event in its wire form. -/
def toJson (event : Event) : Json :=
  Json.ofMembers
    ([("event_id", .string event.eventId), ("type", .string event.eventType),
        ("sender", .string event.sender)] ++
      (if event.roomId = "" then [] else [("room_id", .string event.roomId)]) ++
      (event.stateKey.map fun key => ("state_key", .string key)).toList ++
      [("origin_server_ts", .ofInt event.originServerTs),
        ("content", event.content.toJson)] ++
      (event.redacts.map fun id => ("redacts", .string id)).toList ++
      [("unsigned", event.unsigned.toJson)])

/-- Whether the event is part of the room's state. -/
def isState (event : Event) : Bool := event.stateKey.isSome

/-- The text of a room message. -/
def body? (event : Event) : Option String :=
  match event.content with
  | .message content => some content.body
  | _ => none

/-- The membership that a membership event announces. -/
def membership? (event : Event) : Option Membership :=
  match event.content with
  | .member content => some content.membership
  | _ => none

/-- Whether the event moves a user into a membership. -/
def isMembershipOf (event : Event) (userId : String) (membership : Membership) : Bool :=
  event.eventType == roomMember && event.stateKey == some userId &&
    event.membership? == some membership

/-- The event with the given room unless it names one. -/
def inRoom (event : Event) (roomId : String) : Event :=
  if event.roomId = "" then { event with roomId } else event

end Event

end BotHost
