/-
# The places of a batch

Every event of a batch stands at a place: in a part of the batch, in a room that arrived there as
the first, the second and so on, and in the list of that room at some position.  The parts follow
one another as the passes in which a batch is applied, and with the order of arrival and the order
of the lists this puts all places into one strict order.

`Batch.order_places` says that bringing a batch into order reads off the events at some of its
places, each place once and in the order of the places, and which places those are.
-/

import BotHost.Sync.Order

namespace BotHost

/-- Whether an event announces that a user has joined. -/
def Event.JoinOf (userId : String) (event : Event) : Prop :=
  event.eventType = roomMember ∧ event.stateKey = some userId ∧ event.membership? = some .join

theorem Event.isMembershipOf_join_iff_joinOf {event : Event} {userId : String} :
    event.isMembershipOf userId .join = true ↔ event.JoinOf userId := by
  simp [Event.isMembershipOf, Event.JoinOf, and_assoc]

namespace Batch

/-- The parts of a batch.  The state of left rooms is the one part that no pass goes through. -/
inductive Part where
  | joinedState
  | joinedTimeline
  | inviteState
  | leftState
  | leftTimeline
deriving DecidableEq

namespace Part

/-- The number of a part in the order of the passes. -/
def rank : Part → Nat
  | joinedState => 0
  | joinedTimeline => 1
  | inviteState => 2
  | leftState => 3
  | leftTimeline => 4

/-- All parts in the order of the passes. -/
def all : List Part := [joinedState, joinedTimeline, inviteState, leftState, leftTimeline]

theorem mem_all (part : Part) : part ∈ all := by cases part <;> decide

theorem pairwise_all : all.Pairwise fun first second => first.rank < second.rank := by decide

end Part

/-- Where an event stands in a batch. -/
structure Place where
  part : Part
  /-- The number of the room in the order of arrival. -/
  room : Nat
  /-- The position of the event in the list of the room. -/
  index : Nat

/-- Whether a place comes before another: in an earlier part, or in the same part in a room that
arrived earlier, or in the same room at an earlier position. -/
def Place.Before (first second : Place) : Prop :=
  first.part.rank < second.part.rank ∨ first.part = second.part ∧
    (first.room < second.room ∨ first.room = second.room ∧ first.index < second.index)

/-- The rooms of a part with their events, in the order of arrival. -/
def roomsIn (batch : Batch) : Part → List (String × List Event)
  | .joinedState => batch.join.map fun room => (room.1, room.2.state)
  | .joinedTimeline => batch.join.map fun room => (room.1, room.2.timeline.events)
  | .inviteState => batch.invite
  | .leftState => batch.leave.map fun room => (room.1, room.2.state)
  | .leftTimeline => batch.leave.map fun room => (room.1, room.2.timeline.events)

/-- The event at a place, with the room under which it arrived. -/
def at? (batch : Batch) (place : Place) : Option (String × Event) :=
  (batch.roomsIn place.part)[place.room]?.bind fun room =>
    room.2[place.index]?.map fun event => (room.1, event)

/-- Whether the user's own join stands somewhere in the timeline of a joined room. -/
def JustJoined (userId : String) (batch : Batch) (roomId : String) : Prop :=
  ∃ history, (roomId, history) ∈ batch.join ∧
    ∃ event ∈ history.timeline.events, event.JoinOf userId

/-- Whether an event is to be applied for a user, by the part in which it stands. -/
def Due (userId : String) (batch : Batch) (part : Part) (roomId : String) (event : Event) : Prop :=
  match part with
  | .joinedState | .joinedTimeline | .inviteState => ¬ batch.JustJoined userId roomId
  | .leftState => False
  | .leftTimeline => ∃ key, event.stateKey = some key

variable {batch : Batch} {userId roomId : String} {part : Part} {place : Place} {event : Event}

/-! ### Listing the places -/

/-- The places of some rooms, each with its room and its event. -/
def placesIn (part : Part) (rooms : List (String × List Event)) : List (Place × String × Event) :=
  rooms.zipIdx.flatMap fun room =>
    room.1.2.zipIdx.map fun event => (⟨part, room.2, event.2⟩, room.1.1, event.1)

/-- The places of a batch, each with its room and its event. -/
def places (batch : Batch) : List (Place × String × Event) :=
  Part.all.flatMap fun part => placesIn part (batch.roomsIn part)

theorem part_of_mem_placesIn {rooms : List (String × List Event)} {entry : Place × String × Event}
    (h : entry ∈ placesIn part rooms) : entry.1.part = part := by
  obtain ⟨room, -, hentry⟩ := List.mem_flatMap.mp h
  obtain ⟨event, -, rfl⟩ := List.mem_map.mp hentry
  rfl

theorem mem_placesIn_iff {rooms : List (String × List Event)} :
    (place, roomId, event) ∈ placesIn place.part rooms ↔
      ∃ events, rooms[place.room]? = some (roomId, events) ∧ events[place.index]? = some event := by
  unfold placesIn
  rw [List.mem_flatMap]
  constructor
  · rintro ⟨⟨⟨id, events⟩, number⟩, hroom, hentry⟩
    obtain ⟨⟨found, index⟩, hevent, hplace⟩ := List.mem_map.mp hentry
    obtain ⟨part, room, position⟩ := place
    simp only [Prod.mk.injEq, Place.mk.injEq] at hplace
    obtain ⟨⟨-, rfl, rfl⟩, rfl, rfl⟩ := hplace
    exact ⟨events, List.mem_zipIdx_iff_getElem?.mp hroom, List.mem_zipIdx_iff_getElem?.mp hevent⟩
  · rintro ⟨events, hroom, hevent⟩
    exact ⟨((roomId, events), place.room), List.mem_zipIdx_iff_getElem?.mpr hroom,
      List.mem_map.mpr ⟨(event, place.index), List.mem_zipIdx_iff_getElem?.mpr hevent, rfl⟩⟩

theorem mem_places_iff :
    (place, roomId, event) ∈ batch.places ↔ batch.at? place = some (roomId, event) := by
  have hat : batch.at? place = some (roomId, event) ↔
      ∃ events, (batch.roomsIn place.part)[place.room]? = some (roomId, events) ∧
        events[place.index]? = some event := by
    simp only [at?, Option.bind_eq_some_iff, Option.map_eq_some_iff]
    constructor
    · rintro ⟨⟨id, events⟩, hroom, found, hevent, hentry⟩
      cases hentry
      exact ⟨events, hroom, hevent⟩
    · rintro ⟨events, hroom, hevent⟩
      exact ⟨(roomId, events), hroom, event, hevent, rfl⟩
  rw [hat, ← mem_placesIn_iff, places, List.mem_flatMap]
  constructor
  · rintro ⟨part, -, hentry⟩
    obtain rfl : place.part = part := part_of_mem_placesIn hentry
    exact hentry
  · intro hentry
    exact ⟨place.part, Part.mem_all _, hentry⟩

/-- Counting through a list leaves its items as they are. -/
theorem map_zipIdx {α β : Type} (items : List α) (f : α → β) :
    (items.zipIdx.map fun item => f item.1) = items.map f := by
  rw [← congrArg (List.map f) (List.zipIdx_map_fst 0 items), List.map_map]
  rfl

/-- The numbers with which a list is counted through ascend. -/
theorem pairwise_zipIdx {α : Type} (items : List α) :
    items.zipIdx.Pairwise fun first second => first.2 < second.2 := by
  rw [← List.pairwise_map (f := Prod.snd) (R := (· < ·)), List.zipIdx_map_snd]
  exact List.pairwise_lt_range'

theorem pairwise_placesIn (part : Part) (rooms : List (String × List Event)) :
    (placesIn part rooms).Pairwise fun first second => first.1.Before second.1 := by
  refine List.pairwise_flatMap.mpr ⟨fun room _ => ?_, ?_⟩
  · refine List.pairwise_map.mpr ((pairwise_zipIdx room.1.2).imp fun hindex => ?_)
    exact .inr ⟨rfl, .inr ⟨rfl, hindex⟩⟩
  · refine (pairwise_zipIdx rooms).imp fun hroom entry hentry other hother => ?_
    obtain ⟨event, -, rfl⟩ := List.mem_map.mp hentry
    obtain ⟨event, -, rfl⟩ := List.mem_map.mp hother
    exact .inr ⟨rfl, .inl hroom⟩

/-- The places are listed in their order. -/
theorem pairwise_places (batch : Batch) :
    batch.places.Pairwise fun first second => first.1.Before second.1 := by
  refine List.pairwise_flatMap.mpr ⟨fun part _ => pairwise_placesIn part _, ?_⟩
  refine Part.pairwise_all.imp fun hrank entry hentry other hother => .inl ?_
  rw [part_of_mem_placesIn hentry, part_of_mem_placesIn hother]
  exact hrank

/-- The places of some rooms hold the events of these rooms. -/
theorem map_placesIn (part : Part) (rooms : List (String × List Event)) :
    (placesIn part rooms).map (·.2) =
      rooms.flatMap fun room => room.2.map fun event => (room.1, event) := by
  rw [placesIn, List.map_flatMap, List.flatMap_def, List.flatMap_def, ← map_zipIdx rooms]
  refine congrArg List.flatten (List.map_congr_left fun room _ => ?_)
  rw [List.map_map, ← map_zipIdx room.1.2]
  rfl

/-! ### The events that are due -/

/-- Whether an event is to be applied for a user, as it is tested. -/
def isDue (userId : String) (batch : Batch) (part : Part) (roomId : String) (event : Event) :
    Bool :=
  match part with
  | .joinedState | .joinedTimeline | .inviteState => !(batch.skippedRooms userId).contains roomId
  | .leftState => false
  | .leftTimeline => event.isState

theorem hasOwnJoin_iff_joinOf {history : RoomHistory} :
    hasOwnJoin userId history = true ↔ ∃ event ∈ history.timeline.events, event.JoinOf userId := by
  simp only [hasOwnJoin, List.any_eq_true, Event.isMembershipOf_join_iff_joinOf]

theorem mem_skippedRooms_iff_justJoined :
    roomId ∈ batch.skippedRooms userId ↔ batch.JustJoined userId roomId := by
  simp [skippedRooms, JustJoined, hasOwnJoin_iff_joinOf]

theorem isDue_iff : batch.isDue userId part roomId event = true ↔
    batch.Due userId part roomId event := by
  cases part <;>
    simp [isDue, Due, mem_skippedRooms_iff_justJoined, Event.isState, Option.isSome_iff_exists]

/-- The events that are due in a part, room by room. -/
theorem map_filter_placesIn (due : String → Event → Bool) (part : Part)
    (rooms : List (String × List Event)) :
    ((placesIn part rooms).filter fun entry => due entry.2.1 entry.2.2).map (·.2.2) =
      rooms.flatMap fun room => room.2.filter (due room.1) := by
  have hfilter := congrArg (List.filter fun entry => due entry.1 entry.2) (map_placesIn part rooms)
  rw [List.filter_map, List.filter_flatMap] at hfilter
  calc ((placesIn part rooms).filter fun entry => due entry.2.1 entry.2.2).map (·.2.2)
      = (((placesIn part rooms).filter fun entry => due entry.2.1 entry.2.2).map (·.2)).map
          (·.2) := by rw [List.map_map]; rfl
    _ = (rooms.flatMap fun room =>
          (room.2.map fun event => (room.1, event)).filter fun entry => due entry.1 entry.2).map
            (·.2) := congrArg (List.map (·.2)) hfilter
    _ = rooms.flatMap fun room => room.2.filter (due room.1) := by
          simp [List.map_flatMap, List.filter_map, Function.comp_def]

/-- Leaving out the events of some rooms is leaving out the rooms. -/
theorem flatMap_filter_room (keep : String → Bool) (rooms : List (String × List Event)) :
    (rooms.flatMap fun room => room.2.filter fun _ => keep room.1) =
      (rooms.filter fun room => keep room.1).flatMap (·.2) := by
  induction rooms with
  | nil => rfl
  | cons room rest ih => by_cases hkeep : keep room.1 = true <;> simp [hkeep, ih]

/-- Bringing a batch into order lists the events that are due by their places. -/
theorem order_events_eq (userId : String) (batch : Batch) :
    (batch.order userId).events =
      (batch.places.filter fun entry => batch.isDue userId entry.1.part entry.2.1 entry.2.2).map
        (·.2.2) := by
  let keep roomId := !(batch.skippedRooms userId).contains roomId
  have hpart (part : Part) :
      ((placesIn part (batch.roomsIn part)).filter fun entry =>
          batch.isDue userId entry.1.part entry.2.1 entry.2.2).map (·.2.2) =
        (batch.roomsIn part).flatMap fun room =>
          room.2.filter (batch.isDue userId part room.1) := by
    rw [← map_filter_placesIn (batch.isDue userId part) part]
    refine congrArg (List.map fun entry : Place × String × Event => entry.2.2)
      (List.filter_congr fun entry hentry => ?_)
    rw [part_of_mem_placesIn hentry]
  -- In three parts a room is taken or left out as a whole.
  have hkept (part : Part) (h : batch.isDue userId part = fun roomId _ => keep roomId) :
      ((batch.roomsIn part).flatMap fun room => room.2.filter (batch.isDue userId part room.1)) =
        ((batch.roomsIn part).filter fun room => keep room.1).flatMap (·.2) := by
    rw [← flatMap_filter_room, h]
  have hleft : ((batch.roomsIn .leftState).flatMap fun room =>
      room.2.filter (batch.isDue userId .leftState room.1)) = [] :=
    List.flatMap_eq_nil_iff.mpr fun _ _ => List.filter_eq_nil_iff.mpr fun _ _ => Bool.false_ne_true
  simp only [places, List.filter_flatMap, List.map_flatMap, hpart]
  simp only [Part.all, List.flatMap_cons, List.flatMap_nil, hleft]
  rw [hkept .joinedState rfl, hkept .joinedTimeline rfl, hkept .inviteState rfl]
  simp only [order, roomsIn, List.filter_map, List.flatMap_map, List.flatten_eq_flatMap,
    List.append_nil, List.nil_append, List.append_assoc]
  rfl

/-- The joined rooms that are skipped are those with an own join, in the order of arrival. -/
theorem skippedRooms_eq (userId : String) (batch : Batch) :
    batch.skippedRooms userId =
      (batch.join.zipIdx.filter fun room => hasOwnJoin userId room.1.2).map (·.1.1) := by
  have hjoin := congrArg
    (fun rooms => (rooms.filter fun room => hasOwnJoin userId room.2).map (·.1))
    (List.zipIdx_map_fst 0 batch.join)
  rw [skippedRooms, ← hjoin, List.filter_map, List.map_map]
  rfl

/-- The events of a batch in order are those at some of its places, each place once and in the
order of the places.  They are the places in joined rooms that the user has not just joined, those
with invitations to rooms other than these, and those in the timelines of left rooms at which a
state event stands.  The rooms that are skipped are the joined rooms with an own join, each once and
in the order of arrival. -/
theorem order_places (userId : String) (batch : Batch) :
    ∃ (due : List Place) (skipped : List Nat),
      due.Pairwise Place.Before ∧
      (batch.order userId).events.map some = due.map (fun place => (batch.at? place).map (·.2)) ∧
      (∀ place, place ∈ due ↔ ∃ roomId event,
        batch.at? place = some (roomId, event) ∧ batch.Due userId place.part roomId event) ∧
      skipped.Pairwise (· < ·) ∧
      (batch.order userId).skippedRooms.map some =
        skipped.map (fun number => batch.join[number]?.map (·.1)) ∧
      ∀ number, number ∈ skipped ↔ ∃ roomId history, batch.join[number]? = some (roomId, history) ∧
        ∃ event ∈ history.timeline.events, event.JoinOf userId := by
  let entries := batch.places.filter fun entry =>
    batch.isDue userId entry.1.part entry.2.1 entry.2.2
  let rooms := batch.join.zipIdx.filter fun room => hasOwnJoin userId room.1.2
  refine ⟨entries.map (·.1), rooms.map (·.2), ?_, ?_, ?_, ?_, ?_, ?_⟩
  · exact List.pairwise_map.mpr ((pairwise_places batch).filter _)
  · rw [order_events_eq, List.map_map, List.map_map]
    refine List.map_congr_left fun entry hentry => ?_
    have hat := mem_places_iff.mp (List.mem_filter.mp hentry).1
    simp [hat]
  · intro place
    simp only [entries, List.mem_map, List.mem_filter, isDue_iff]
    constructor
    · rintro ⟨⟨found, roomId, event⟩, ⟨hentry, hdue⟩, rfl⟩
      exact ⟨roomId, event, mem_places_iff.mp hentry, hdue⟩
    · rintro ⟨roomId, event, hat, hdue⟩
      exact ⟨(place, roomId, event), ⟨mem_places_iff.mpr hat, hdue⟩, rfl⟩
  · exact List.pairwise_map.mpr ((pairwise_zipIdx batch.join).filter _)
  · change (batch.skippedRooms userId).map some = _
    rw [skippedRooms_eq, List.map_map, List.map_map]
    refine List.map_congr_left fun room hroom => ?_
    have hat := List.mem_zipIdx_iff_getElem?.mp (List.mem_filter.mp hroom).1
    simp [hat]
  · intro number
    simp only [rooms, List.mem_map, List.mem_filter, hasOwnJoin_iff_joinOf]
    constructor
    · rintro ⟨⟨⟨roomId, history⟩, index⟩, ⟨hroom, hjoin⟩, rfl⟩
      exact ⟨roomId, history, List.mem_zipIdx_iff_getElem?.mp hroom, hjoin⟩
    · rintro ⟨roomId, history, hat, hjoin⟩
      exact ⟨((roomId, history), number), ⟨List.mem_zipIdx_iff_getElem?.mpr hat, hjoin⟩, rfl⟩

end Batch

end BotHost
