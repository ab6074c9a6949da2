/-
# Room state

The projection of a room: for each event type and state key the last state event
that was applied.  The sync loop applies every state event before it is dispatched,
so handlers see a state that already includes the event they were called for.

`Rooms` holds the projections of all rooms an account, or a host, has seen.
-/

import BotHost.Event

namespace BotHost

/-- The current state of one room. -/
structure RoomState where
  roomId : String
  /-- The last state event by event type and state key. -/
  events : SortedMap (String × String) Event

namespace RoomState

/-- A room of which nothing is known yet. -/
def new (roomId : String) : RoomState := ⟨roomId, .empty⟩

/-- Record a state event; other events change nothing. -/
def apply (state : RoomState) (event : Event) : RoomState :=
  match event.stateKey with
  | none => state
  | some key => { state with events := state.events.insert (event.eventType, key) event }

/-- The current state event of a type and state key. -/
def get? (state : RoomState) (eventType stateKey : String) : Option Event :=
  state.events.find? (eventType, stateKey)

/-- The current membership of a user. -/
def membership? (state : RoomState) (userId : String) : Option Membership :=
  (state.get? roomMember userId).bind Event.membership?

/-- The users whose current membership is `join`, in ascending order. -/
def joinedMembers (state : RoomState) : List String :=
  (state.events.toList.filter fun entry =>
    entry.1.1 == roomMember && entry.2.membership? == some .join).map (·.1.2)

end RoomState

/-- The projections of all rooms. -/
abbrev Rooms := SortedMap String RoomState

namespace Rooms

/-- The projection of a room, empty when nothing is known yet. -/
def load (rooms : Rooms) (roomId : String) : RoomState :=
  (rooms.find? roomId).getD (.new roomId)

/-- Keep a projection under its room. -/
def save (rooms : Rooms) (state : RoomState) : Rooms := rooms.insert state.roomId state

/-- Load the event's room, apply the event if it is a state event, and save. -/
def apply (rooms : Rooms) (event : Event) : Rooms :=
  if event.isState then rooms.save ((rooms.load event.roomId).apply event) else rooms

end Rooms

end BotHost
