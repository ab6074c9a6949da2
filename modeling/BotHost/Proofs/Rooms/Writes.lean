/-
# What is written into the projections of rooms

A state event is written under its room, its type and its state key, and it replaces what was
written there before.  `Rooms.lastWrite` says this of a list of events without projections: it looks
for the last event of the list that is meant for the place.

Projections are kept under the id that they carry themselves, `Rooms.Filed`.  Saving is the only way
to bring a projection in, so this holds of all rooms that have come about by saving.
-/

import BotHost.RoomState
import Mathlib.Data.List.Nodup

namespace BotHost

/-! ### One projection -/

namespace RoomState

variable {state : RoomState} {event : Event} {eventType stateKey userId : String}

/-- A state event replaces what was there under its type and its state key. -/
theorem get?_apply (state : RoomState) (event : Event) (eventType stateKey : String) :
    (state.apply event).get? eventType stateKey =
      if event.eventType = eventType ∧ event.stateKey = some stateKey then some event
      else state.get? eventType stateKey := by
  unfold apply get?
  cases hkey : event.stateKey with
  | none => simp
  | some key => simp [Prod.ext_iff]

@[simp] theorem roomId_apply (state : RoomState) (event : Event) :
    (state.apply event).roomId = state.roomId := by
  unfold apply
  cases event.stateKey <;> rfl

/-- The users that are listed are those whose membership is `join`. -/
theorem mem_joinedMembers_iff :
    userId ∈ state.joinedMembers ↔ state.membership? userId = some .join := by
  simp only [joinedMembers, membership?, get?, List.mem_map, List.mem_filter, Bool.and_eq_true,
    beq_iff_eq, Option.bind_eq_some_iff, ← SortedMap.mem_toList_iff]
  constructor
  · rintro ⟨⟨⟨eventType, key⟩, event⟩, ⟨hmem, rfl, hjoin⟩, rfl⟩
    exact ⟨event, hmem, hjoin⟩
  · rintro ⟨event, hmem, hjoin⟩
    exact ⟨((roomMember, userId), event), ⟨hmem, rfl, hjoin⟩, rfl⟩

/-- Nobody is listed twice. -/
theorem nodup_joinedMembers (state : RoomState) : state.joinedMembers.Nodup := by
  refine ((Entries.nodup state.events.ascending).filter _).map_on ?_
  rintro ⟨⟨eventType, key⟩, event⟩ hfirst ⟨⟨otherType, otherKey⟩, other⟩ hsecond hkeys
  simp only [List.mem_filter, Bool.and_eq_true, beq_iff_eq] at hfirst hsecond
  obtain ⟨hevent, rfl, -⟩ := hfirst
  obtain ⟨hother, rfl, -⟩ := hsecond
  obtain rfl : key = otherKey := hkeys
  -- Both entries stand under one key.
  have hsame := (SortedMap.mem_toList_iff.mp hevent).symm.trans (SortedMap.mem_toList_iff.mp hother)
  rw [Option.some.inj hsame]

/-- A user is listed once if the membership is `join`, and not at all otherwise. -/
theorem count_joinedMembers (state : RoomState) (userId : String) :
    state.joinedMembers.count userId =
      if state.membership? userId = some .join then 1 else 0 := by
  by_cases hjoin : state.membership? userId = some .join
  · rw [if_pos hjoin]
    exact List.count_eq_one_of_mem state.nodup_joinedMembers (mem_joinedMembers_iff.mpr hjoin)
  · rw [if_neg hjoin]
    exact List.count_eq_zero_of_not_mem fun hmem => hjoin (mem_joinedMembers_iff.mp hmem)

end RoomState

/-! ### The projections of all rooms -/

/-- Whether an event is written under a room, a type and a state key. -/
def Event.isWrittenTo (roomId eventType stateKey : String) (event : Event) : Bool :=
  event.roomId == roomId && event.eventType == eventType && event.stateKey == some stateKey

namespace Rooms

/-- The last of some events that is written under a room, a type and a state key. -/
def lastWrite (roomId eventType stateKey : String) (events : List Event) : Option Event :=
  (events.filter fun event => event.isWrittenTo roomId eventType stateKey).getLast?

/-- Every projection is kept under the id of its room. -/
def Filed (rooms : Rooms) : Prop :=
  ∀ roomId state, rooms.find? roomId = some state → state.roomId = roomId

variable {rooms : Rooms} {roomId eventType stateKey : String} {event : Event}

theorem filed_empty : Filed .empty := by
  intro roomId state hfound
  cases hfound

/-- Saving files a projection under its room. -/
theorem Filed.save (h : Filed rooms) (state : RoomState) : Filed (rooms.save state) := by
  intro roomId found hfound
  rw [Rooms.save, SortedMap.find?_insert] at hfound
  split at hfound
  · rename_i hroom
    cases hfound
    exact hroom
  · exact h roomId found hfound

theorem Filed.roomId_load (h : Filed rooms) (roomId : String) :
    (rooms.load roomId).roomId = roomId := by
  rw [load]
  cases hfound : rooms.find? roomId with
  | none => rfl
  | some state => exact h roomId state hfound

theorem Filed.apply (h : Filed rooms) (event : Event) : Filed (rooms.apply event) := by
  unfold Rooms.apply
  split
  · exact h.save _
  · exact h

/-- What is loaded after a projection was saved. -/
theorem load_save (rooms : Rooms) (state : RoomState) (roomId : String) :
    (rooms.save state).load roomId =
      if state.roomId = roomId then state else rooms.load roomId := by
  rw [load, save, SortedMap.find?_insert]
  split
  · rfl
  · rfl

/-- The room of an event takes it in, and every other room is left alone. -/
theorem Filed.load_apply (h : Filed rooms) (event : Event) (roomId : String) :
    (rooms.apply event).load roomId =
      if event.roomId = roomId then (rooms.load roomId).apply event else rooms.load roomId := by
  unfold Rooms.apply Event.isState
  cases hkey : event.stateKey with
  | none => simp [RoomState.apply, hkey]
  | some key =>
      rw [Option.isSome_some, if_pos rfl, load_save, RoomState.roomId_apply, h.roomId_load]
      by_cases hroom : event.roomId = roomId
      · rw [hroom]
      · rw [if_neg hroom, if_neg hroom]

/-- An event replaces what was written in its place and leaves every other place alone. -/
theorem Filed.get?_load_apply (h : Filed rooms) (event : Event)
    (roomId eventType stateKey : String) :
    ((rooms.apply event).load roomId).get? eventType stateKey =
      if event.isWrittenTo roomId eventType stateKey then some event
      else (rooms.load roomId).get? eventType stateKey := by
  rw [h.load_apply]
  by_cases hroom : event.roomId = roomId
  · rw [if_pos hroom, RoomState.get?_apply]
    simp [Event.isWrittenTo, hroom]
  · rw [if_neg hroom]
    simp [Event.isWrittenTo, hroom]

/-- Of several events the last one that is written in a place stays there. -/
theorem Filed.get?_load_foldl (h : Filed rooms) (events : List Event)
    (roomId eventType stateKey : String) :
    ((events.foldl Rooms.apply rooms).load roomId).get? eventType stateKey =
      (lastWrite roomId eventType stateKey events).or
        ((rooms.load roomId).get? eventType stateKey) := by
  induction events generalizing rooms with
  | nil => rfl
  | cons event rest ih =>
      rw [List.foldl_cons, ih (h.apply event), h.get?_load_apply]
      by_cases hwritten : event.isWrittenTo roomId eventType stateKey = true
      · rw [if_pos hwritten, lastWrite, lastWrite, List.filter_cons_of_pos hwritten,
          List.getLast?_cons]
        cases (rest.filter fun event => event.isWrittenTo roomId eventType stateKey).getLast? <;>
          rfl
      · rw [if_neg hwritten, lastWrite, lastWrite, List.filter_cons_of_neg hwritten]

theorem Filed.foldl_apply (h : Filed rooms) (events : List Event) :
    Filed (events.foldl Rooms.apply rooms) := by
  induction events generalizing rooms with
  | nil => exact h
  | cons event rest ih => exact ih (h.apply event)

/-- An event is found in a place if it is one of those written there. -/
theorem mem_of_lastWrite_eq_some {events : List Event}
    (h : lastWrite roomId eventType stateKey events = some event) :
    event ∈ events ∧ event.isWrittenTo roomId eventType stateKey = true :=
  List.mem_filter.mp (List.mem_of_getLast? h)

theorem lastWrite_eq_none_iff {events : List Event} :
    lastWrite roomId eventType stateKey events = none ↔
      ∀ event ∈ events, ¬ event.isWrittenTo roomId eventType stateKey = true := by
  rw [lastWrite, List.getLast?_eq_none_iff, List.filter_eq_nil_iff]

/-- The projections of all rooms are the prior ones with events written over them, the last one in
each place, and the members that are listed are those whose membership is `join`, each once. -/
structure Shows (rooms prior : Rooms) (events : List Event) : Prop where
  roomId : ∀ roomId, (rooms.load roomId).roomId = roomId
  /-- In each place stands the last event written there, or what stood there before. -/
  current : ∀ roomId eventType stateKey,
    (rooms.load roomId).get? eventType stateKey =
      (lastWrite roomId eventType stateKey events).or
        ((prior.load roomId).get? eventType stateKey)
  /-- A user is listed once if the membership is `join`, and not at all otherwise. -/
  members : ∀ roomId userId,
    (rooms.load roomId).joinedMembers.count userId =
      if (rooms.load roomId).membership? userId = some .join then 1 else 0

/-- Applying events one after the other writes them over the prior projections. -/
theorem Filed.shows (h : Filed rooms) (events : List Event) :
    Shows (events.foldl Rooms.apply rooms) rooms events where
  roomId := (h.foldl_apply events).roomId_load
  current := h.get?_load_foldl events
  members _ _ := RoomState.count_joinedMembers _ _

end Rooms

end BotHost
