/-
# What a handler sees of the rooms

While a batch is applied, the room of every state event takes the event in before the event is
dispatched.  So the handlers that are called for an event see the projections that there were before
the batch, with the state events up to and including this one written over them.

An event that arrives without a room is written under the room in whose part of the batch it stood.
An event that names a room is written there, whichever room it arrived under.
-/

import BotHost.Proofs.Account.Events
import BotHost.Proofs.Rooms.Writes
import BotHost.Proofs.Sync.Delivery
import BotHost.Proofs.Sync.Places
import BotHost.Proofs.Sync.Replay

namespace BotHost

/-! ### Deliveries -/

namespace Batch

variable {batch : Batch} {userId : String}

/-- What a batch delivers to a user, in order: each event with the room under which it arrived. -/
def deliveries (userId : String) (batch : Batch) : List (String × Event) :=
  (batch.places.filter fun entry => batch.isDue userId entry.1.part entry.2.1 entry.2.2).map (·.2)

/-- The rooms of a part with every event in a room. -/
def stampRooms (rooms : List (String × List Event)) : List (String × List Event) :=
  rooms.map fun room => (room.1, room.2.map (·.inRoom room.1))

theorem roomsIn_fillRoomIds (batch : Batch) (part : Part) :
    batch.fillRoomIds.roomsIn part = stampRooms (batch.roomsIn part) := by
  cases part <;>
    simp [roomsIn, fillRoomIds, stampRooms, fillHistory, List.map_map, Function.comp_def]

/-- Putting events into rooms leaves them in their places. -/
theorem placesIn_stampRooms (part : Part) (rooms : List (String × List Event)) :
    placesIn part (stampRooms rooms) =
      (placesIn part rooms).map fun entry =>
        (entry.1, entry.2.1, entry.2.2.inRoom entry.2.1) := by
  simp [placesIn, stampRooms, List.zipIdx_map, List.flatMap_map, List.map_flatMap,
    Function.comp_def]

theorem places_fillRoomIds (batch : Batch) :
    batch.fillRoomIds.places =
      batch.places.map fun entry => (entry.1, entry.2.1, entry.2.2.inRoom entry.2.1) := by
  simp only [places, roomsIn_fillRoomIds, placesIn_stampRooms, List.map_flatMap]

theorem isState_inRoom (event : Event) (roomId : String) :
    (event.inRoom roomId).isState = event.isState := by
  unfold Event.inRoom
  split <;> rfl

/-- Whether an event is due does not depend on the room it is put into. -/
theorem isDue_fillRoomIds (batch : Batch) (userId : String) (part : Part) (roomId : String)
    (event : Event) :
    batch.fillRoomIds.isDue userId part roomId (event.inRoom roomId) =
      batch.isDue userId part roomId event := by
  cases part <;> simp [isDue, skippedRooms_fillRoomIds, isState_inRoom]

/-- The events that are applied are those delivered, each in the room that it names, or else in the
one under which it arrived. -/
theorem orderedFor_eq (userId : String) (batch : Batch) :
    batch.orderedFor userId =
      (batch.deliveries userId).map fun delivery => delivery.2.inRoom delivery.1 := by
  rw [orderedFor, order_events_eq, places_fillRoomIds, List.filter_map, List.map_map, deliveries,
    List.map_map]
  simp only [Function.comp_def, isDue_fillRoomIds]

end Batch

/-! ### Rooms in memory -/

/-- Surroundings in which the projections of rooms can always be read and written. -/
structure Environment.HoldsRooms (environment : Environment) : Prop where
  load : ∀ trace roomId, environment.refuse trace (.loadRoom roomId) = none
  save : ∀ trace roomId, environment.refuse trace (.saveRoom roomId) = none

namespace World

variable {Handler : Type} {world : World Handler}

/-- The projections, and what there is to say about the store. -/
def roomKeeping (world : World Handler) : Rooms × Environment := (world.rooms, world.environment)

/-- Applying a state event to its room, when the projections can be read and written. -/
theorem applyToRoom_apply (h : world.environment.HoldsRooms) {event : Event}
    (hstate : event.isState = true) :
    ∃ after, applyToRoom event world = .ok (.ok ()) after ∧
      after.roomKeeping = (world.rooms.apply event, world.environment) := by
  let state := world.rooms.load event.roomId
  let loaded : World Handler :=
    { world with trace := .store (.loadRoom event.roomId) :: world.trace }
  let saved : World Handler :=
    { loaded with
      rooms := world.rooms.apply event
      trace := .store (.saveRoom (state.apply event).roomId) :: loaded.trace }
  have hload : loadRoom event.roomId world = .ok (.ok state) loaded := by
    rw [loadRoom_apply, h.load]
  have hsave : saveRoom (state.apply event) loaded = .ok (.ok ()) saved := by
    rw [saveRoom_apply, h.save]
    simp only [saved, Rooms.apply, hstate, if_true]
    rfl
  refine ⟨saved, ?_, rfl⟩
  rw [applyToRoom, Act.bind_apply, hload]
  dsimp only
  rw [if_pos hstate, hsave]

/-- Dispatching an event leaves the rooms to the handlers. -/
theorem dispatchEvent_keeps_rooms {behaviour : Behaviour Handler}
    (hkeeps : behaviour.Keeps roomKeeping) (userId : String) (event : Event) :
    (dispatchEvent behaviour userId event).Keeps roomKeeping :=
  view_dispatchEvent hkeeps (fun _ _ _ => Act.keeps_modify fun _ => rfl) userId event

end World

/-! ### Events in their turn -/

namespace SyncProcessor

variable {Handler : Type} {behaviour : Behaviour Handler} {userId : String} {world : World Handler}

/-- Events that follow others are applied where these left off, unless one of these was not
applied. -/
theorem applyEvents_append (count : Nat) (first second : List Event) (world : World Handler) :
    applyEvents behaviour userId count (first ++ second) world =
      match applyEvents behaviour userId count first world with
      | .ok (.ok total) between => applyEvents behaviour userId total second between
      | .ok (.error error) between => .ok (.error error) between
      | .error panic between => .error panic between := by
  induction first generalizing count world with
  | nil => rfl
  | cons event rest ih =>
      rw [List.cons_append, applyEvents, applyEvents, Act.bind_apply, Act.bind_apply]
      cases project event world with
      | error panic between => rfl
      | ok projection projected =>
          cases projection with
          | error error => rfl
          | ok value =>
              dsimp only
              rw [Act.bind_apply, Act.bind_apply]
              cases World.dispatchEvent behaviour userId event projected with
              | error panic between => rfl
              | ok outcome dispatched => exact ih (count + 1) dispatched

/-- The room of an event takes it in if it is a state event, and nothing else changes in the
projections. -/
theorem project_apply (h : world.environment.HoldsRooms) (event : Event) :
    ∃ after, project event world = .ok (.ok ()) after ∧
      after.roomKeeping = (world.rooms.apply event, world.environment) := by
  by_cases hstate : event.isState = true
  · rw [project, if_pos hstate]
    exact World.applyToRoom_apply h hstate
  · rw [project, if_neg hstate, Rooms.apply, if_neg hstate]
    exact ⟨world, rfl, rfl⟩

/-- Events that are all applied are written over the projections. -/
theorem applyEvents_roomKeeping (hstore : world.environment.HoldsRooms)
    (hhandlers : behaviour.Keeps World.roomKeeping) {count : Nat} {events : List Event}
    {result : Except StoreError Nat} {after : World Handler}
    (h : applyEvents behaviour userId count events world = .ok result after) :
    result = .ok (count + events.length) ∧
      after.roomKeeping = (events.foldl Rooms.apply world.rooms, world.environment) := by
  induction events generalizing count world with
  | nil =>
      cases h
      exact ⟨rfl, rfl⟩
  | cons event rest ih =>
      obtain ⟨projected, hproject, hrooms⟩ := project_apply hstore event
      rw [applyEvents, Act.bind_apply, hproject] at h
      dsimp only at h
      obtain ⟨outcome, dispatched, hdispatch, hrest⟩ := Act.bind_eq_ok.mp h
      have hkept : dispatched.roomKeeping = (world.rooms.apply event, world.environment) :=
        ((World.dispatchEvent_keeps_rooms hhandlers userId event).eq_of_ok hdispatch).trans hrooms
      obtain ⟨hdispatchedRooms, henvironment⟩ := Prod.mk.inj hkept
      obtain ⟨hresult, hafter⟩ := ih (henvironment ▸ hstore) hrest
      refine ⟨?_, ?_⟩
      · rw [hresult, List.length_cons, Nat.add_right_comm, Nat.add_assoc]
      · rw [hafter, hdispatchedRooms, henvironment, List.foldl_cons]

/-- A panic while events are applied ends the batch. -/
theorem processBatch_of_panic (processor : SyncProcessor) (batch : Batch) {panic : Panic}
    {after : World Handler} (hcursor : processor.record.cursor? ≠ none)
    (h : applyEvents behaviour processor.record.userId 0
      (batch.orderedFor processor.record.userId) world = .error panic after) :
    processor.processBatch behaviour batch world =
      .ok (.error (.batchPanicked panic), processor) after := by
  rw [processBatch, Act.bind_apply, processor.applyBatch_of_cursor batch world hcursor, h]
  rfl

/-- The events of a batch are dispatched in order, unless a handler panics before.  When an event is
dispatched, the projections of all rooms are those there were before the batch, with the state
events of the batch up to and including this one written over them.  They are written under the room
that they name, or else under the one under which they arrived. -/
theorem rooms_at_dispatch (processor : SyncProcessor) (batch : Batch) (world : World Handler)
    (hcursor : processor.record.cursor? ≠ none) (hfiled : world.rooms.Filed)
    (hstore : world.environment.HoldsRooms) (hhandlers : behaviour.Keeps World.roomKeeping) :
    let userId := processor.record.userId
    let ordered := batch.orderedFor userId
    ordered = (batch.deliveries userId).map (fun delivery => delivery.2.inRoom delivery.1) ∧
    ∀ index event, ordered[index]? = some event →
      (∃ panic after,
        applyEvents behaviour userId 0 (ordered.take index) world = .error panic after ∧
        processor.processBatch behaviour batch world =
          .ok (.error (.batchPanicked panic), processor) after) ∨
      ∃ before reached,
        applyEvents behaviour userId 0 (ordered.take index) world = .ok (.ok index) before ∧
        project event before = .ok (.ok ()) reached ∧
        applyEvents behaviour userId 0 ordered world =
          (do
            let _ ← World.dispatchEvent behaviour userId event
            applyEvents behaviour userId (index + 1) (ordered.drop (index + 1))) reached ∧
        reached.rooms.Shows world.rooms (ordered.take (index + 1)) := by
  intro userId ordered
  refine ⟨batch.orderedFor_eq userId, fun index event hevent => ?_⟩
  obtain ⟨hindex, hat⟩ := List.getElem?_eq_some_iff.mp hevent
  have hsplit : ordered = ordered.take index ++ event :: ordered.drop (index + 1) := by
    rw [← hat, List.getElem_cons_drop, List.take_append_drop]
  have hwhole := @applyEvents_append _ behaviour userId 0 (ordered.take index)
    (event :: ordered.drop (index + 1)) world
  rw [← hsplit] at hwhole
  cases htaken : applyEvents behaviour userId 0 (ordered.take index) world with
  | error panic after =>
      rw [htaken] at hwhole
      exact .inl ⟨panic, after, rfl, processor.processBatch_of_panic batch hcursor hwhole⟩
  | ok result before =>
      obtain ⟨hresult, hbefore⟩ := applyEvents_roomKeeping hstore hhandlers htaken
      obtain ⟨hrooms, henvironment⟩ := Prod.mk.inj hbefore
      obtain rfl : result = .ok index := by
        rw [hresult, List.length_take, Nat.zero_add, Nat.min_eq_left (Nat.le_of_lt hindex)]
      obtain ⟨reached, hproject, hreached⟩ := project_apply (henvironment ▸ hstore) event
      refine .inr ⟨before, reached, rfl, hproject, ?_, ?_⟩
      · rw [hwhole, htaken]
        dsimp only
        rw [applyEvents, Act.bind_apply, hproject]
      · have htake : ordered.take (index + 1) = ordered.take index ++ [event] := by
          rw [List.take_add_one, hevent]
          rfl
        rw [(Prod.mk.inj hreached).1, hrooms, htake]
        have hshows := hfiled.shows (ordered.take index ++ [event])
        rwa [List.foldl_append] at hshows

end SyncProcessor

/-! ### An event that names another room

The bot's room gets a new topic, and a join that names the hall arrives under it. -/

namespace NewTopic

open SecondBatch

/-- A state event that somebody else has sent. -/
def stateEvent (eventId eventType roomId stateKey : String) (content : Content) : Event :=
  { message eventId with eventType, roomId, stateKey := some stateKey, content }

/-- The topic of the room, as it was before or as it is set in the batch. -/
def topic (eventId roomId : String) : Event :=
  stateEvent eventId "m.room.topic" roomId "" (.generic (.string eventId))

/-- A join that names the hall. -/
def join : Event :=
  stateEvent "$join" roomMember "!hall:hs" "@carol:hs" (.member ⟨.join, none, none, .empty⟩)

/-- The topic is set, somebody joins the hall, and a message is sent. -/
def newest : Batch := batch "s2" [topic "$new" "", join, message "$hello"]

/-- The world in which the room has its former topic. -/
def start : World Unit :=
  { world (surroundings true) with
    rooms := Rooms.save .empty ((RoomState.new "!room:hs").apply (topic "$old" "!room:hs")) }

end NewTopic

namespace SyncProcessor

open SecondBatch NewTopic

/-- When the join is dispatched, the hall knows the new member and the room has its new topic. -/
theorem rooms_at_dispatch_of_join :
    processor.record.cursor? ≠ none ∧ start.rooms.Filed ∧ start.environment.HoldsRooms ∧
      quiet.Keeps World.roomKeeping ∧
      ∃ before reached,
        applyEvents quiet "@bot:hs" 0 [topic "$new" "!room:hs"] start = .ok (.ok 1) before ∧
        project NewTopic.join before = .ok (.ok ()) reached ∧
        (start.rooms.load "!room:hs").get? "m.room.topic" "" = some (topic "$old" "!room:hs") ∧
        (reached.rooms.load "!room:hs").get? "m.room.topic" "" = some (topic "$new" "!room:hs") ∧
        (reached.rooms.load "!hall:hs").membership? "@carol:hs" = some .join ∧
        (reached.rooms.load "!hall:hs").joinedMembers.count "@carol:hs" = 1 := by
  have hcursor : processor.record.cursor? ≠ none := by decide
  have hfiled : start.rooms.Filed := Rooms.filed_empty.save _
  have hstore : start.environment.HoldsRooms := ⟨fun _ _ => rfl, fun _ _ => rfl⟩
  have hquiet : quiet.Keeps World.roomKeeping :=
    ⟨fun _ _ => Act.keeps_pure _, fun _ _ => Act.keeps_pure _⟩
  refine ⟨hcursor, hfiled, hstore, hquiet, ?_⟩
  obtain ⟨-, hturns⟩ := rooms_at_dispatch processor newest start hcursor hfiled hstore hquiet
  rcases hturns 1 NewTopic.join rfl with
    ⟨panic, after, hpanic, -⟩ | ⟨before, reached, hbefore, hproject, -, hshows⟩
  · cases hpanic
  · have hjoined : (reached.rooms.load "!hall:hs").membership? "@carol:hs" = some .join := by
      rw [RoomState.membership?, hshows.current]
      rfl
    refine ⟨before, reached, hbefore, hproject, rfl, ?_, hjoined, ?_⟩
    · rw [hshows.current]
      rfl
    · rw [hshows.members, if_pos hjoined]

end SyncProcessor

end BotHost
