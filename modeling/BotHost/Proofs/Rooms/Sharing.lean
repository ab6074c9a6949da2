/-
# Projections that several accounts write

The accounts of a host keep the projections of all rooms in one place.  A call that applies a state
event loads the projection of its room, writes the event into what it has loaded, and saves the
result.  Each of the two steps is undivided, but calls for different accounts may overlap, so
between the steps of one call others can be saved.  `RoomSharing` follows the steps one by one.

A call saves the whole projection, so what was saved since it had loaded is gone.
`RoomCall.held` says which events stay, by the order of the loads and saves alone.  The main result,
`RoomSharing.holds_after`, is that every projection consists of the held events over what there was
before, and that all events are held if and only if no call was overtaken by another.
-/

import BotHost.Proofs.Keeping
import BotHost.Proofs.Rooms.Writes

namespace BotHost

/-! ### The order of calls -/

/-- A call for an account that has loaded the room of its event.  The room had been saved `seen`
times before. -/
structure RoomCall where
  userId : String
  event : Event
  loaded : RoomState
  seen : Nat

namespace RoomCall

/-- The events of calls that are listed latest first, in the order in which they were saved. -/
def events (calls : List RoomCall) : List Event := (calls.map (·.event)).reverse

/-- Every call has loaded what the call before it saved.  The calls are listed latest first. -/
def OneByOne : List RoomCall → Prop
  | [] => True
  | call :: earlier => earlier.length ≤ call.seen ∧ OneByOne earlier

/-- The events that stay when calls, listed latest first, have been saved in a room: those that
were there when the last call loaded the room, and the event of this call. -/
def held : List RoomCall → List Event
  | [] => []
  | call :: earlier => held (earlier.drop (earlier.length - call.seen)) ++ [call.event]
termination_by calls => calls.length

@[simp] theorem events_nil : events [] = [] := rfl

@[simp] theorem events_cons (call : RoomCall) (earlier : List RoomCall) :
    events (call :: earlier) = events earlier ++ [call.event] := by
  simp [events]

theorem length_events (calls : List RoomCall) : (events calls).length = calls.length := by
  simp [events]

theorem events_sublist {later calls : List RoomCall} (h : later.Sublist calls) :
    (events later).Sublist (events calls) :=
  (h.map _).reverse

/-- The calls that were saved after the last one had loaded leave nothing. -/
theorem held_cons_append {call : RoomCall} (since : List RoomCall) {before : List RoomCall}
    (h : call.seen = before.length) :
    held (call :: (since ++ before)) = held before ++ [call.event] := by
  rw [held, List.length_append, h, Nat.add_sub_cancel, List.drop_left]

/-- No event is made up, and none changes its place. -/
theorem held_sublist (calls : List RoomCall) : (held calls).Sublist (events calls) := by
  fun_induction held calls with
  | case1 => exact .refl _
  | case2 call earlier ih =>
      rw [events_cons]
      exact (ih.trans (events_sublist (List.drop_sublist _ _))).append_right _

/-- Everything stays if and only if no call was overtaken. -/
theorem held_eq_events_iff (calls : List RoomCall) :
    held calls = events calls ↔ OneByOne calls := by
  induction calls with
  | nil => simp [held, OneByOne]
  | cons call earlier ih =>
      rw [held, events_cons, List.append_left_inj, OneByOne, ← ih]
      constructor
      · intro hall
        -- As many events cannot stay of fewer calls.
        have hfewer := (held_sublist (earlier.drop (earlier.length - call.seen))).length_le
        rw [hall, length_events, length_events, List.length_drop] at hfewer
        have hseen : earlier.length ≤ call.seen := by omega
        rw [Nat.sub_eq_zero_of_le hseen, List.drop_zero] at hall
        exact ⟨hseen, hall⟩
      · rintro ⟨hseen, hall⟩
        rwa [Nat.sub_eq_zero_of_le hseen, List.drop_zero]

/-- The call has loaded what some of the calls in its room had left.  Those that were saved since
then are for other accounts. -/
def Follows (prior : Rooms) (calls : List RoomCall) (call : RoomCall) : Prop :=
  ∃ since before, calls = since ++ before ∧ call.seen = before.length ∧
    call.loaded = ((held before).foldl Rooms.apply prior).load call.event.roomId ∧
    ∀ other ∈ since, other.userId ≠ call.userId

variable {prior : Rooms} {calls : List RoomCall} {call : RoomCall}

/-- A call leaves what it has loaded, with its event. -/
theorem Follows.apply (h : call.Follows prior calls) (hprior : prior.Filed) :
    call.loaded.apply call.event =
      ((held (call :: calls)).foldl Rooms.apply prior).load call.event.roomId := by
  obtain ⟨since, before, rfl, hseen, hloaded, -⟩ := h
  rw [held_cons_append since hseen, List.foldl_concat, hloaded,
    (hprior.foldl_apply (held before)).load_apply call.event, if_pos rfl]

theorem Follows.roomId_loaded (h : call.Follows prior calls) (hprior : prior.Filed) :
    call.loaded.roomId = call.event.roomId := by
  obtain ⟨-, before, -, -, hloaded, -⟩ := h
  rw [hloaded, (hprior.foldl_apply (held before)).roomId_load]

/-- A call that is saved for another account comes after what has been loaded. -/
theorem Follows.cons (h : call.Follows prior calls) {later : RoomCall}
    (huser : later.userId ≠ call.userId) : call.Follows prior (later :: calls) := by
  obtain ⟨since, before, rfl, hseen, hloaded, hsince⟩ := h
  exact ⟨later :: since, before, rfl, hseen, hloaded, List.forall_mem_cons.mpr ⟨huser, hsince⟩⟩

/-- If all calls are for one account, each has seen every earlier one. -/
theorem oneByOne_of_follows {userId : String}
    (hfollows : ∀ call earlier, call :: earlier <:+ calls → call.Follows prior earlier)
    (hown : ∀ call ∈ calls, call.userId = userId) : OneByOne calls := by
  induction calls with
  | nil => trivial
  | cons call earlier ih =>
      rw [List.forall_mem_cons] at hown
      obtain ⟨hcall, hearlier⟩ := hown
      refine ⟨?_, ih (fun later before hsuffix => ?_) hearlier⟩
      · obtain ⟨since, before, rfl, hseen, -, hsince⟩ := hfollows call earlier List.suffix_rfl
        cases since with
        | nil => exact Nat.le_of_eq hseen.symm
        | cons other rest =>
            have hother : other.userId = userId := hearlier other List.mem_cons_self
            exact absurd (hother.trans hcall.symm) (hsince other List.mem_cons_self)
      · exact hfollows later before (hsuffix.trans (List.suffix_cons call earlier))

end RoomCall

/-! ### Overlapping calls -/

/-- A step of one of several calls that overlap: the call of an account loads the room of its
event, or it applies the event to what it has loaded and saves that. -/
inductive RoomMove where
  | load (userId : String) (event : Event)
  | save (userId : String)

/-- A world in which calls for different accounts overlap. -/
structure RoomSharing (Handler : Type) where
  world : World Handler
  /-- The call of an account that has loaded and not saved yet. -/
  underway : SortedMap String RoomCall
  /-- The calls that have been saved, latest first. -/
  saved : List RoomCall

namespace RoomSharing

open RoomCall

variable {Handler : Type}

/-- The calls that have been saved in a room, latest first. -/
def calls (sharing : RoomSharing Handler) (roomId : String) : List RoomCall :=
  sharing.saved.filter (·.event.roomId == roomId)

/-- Carry out a step.  An account has one call at a time, and an event that is no state event is
not saved. -/
def perform (sharing : RoomSharing Handler) : RoomMove → RoomSharing Handler
  | .load userId event =>
    if (sharing.underway.find? userId).isSome then sharing
    else
      match World.loadRoom event.roomId sharing.world with
      | .ok (.ok loaded) world =>
        if event.isState then
          let call := ⟨userId, event, loaded, (sharing.calls event.roomId).length⟩
          { sharing with world, underway := sharing.underway.insert userId call }
        else { sharing with world }
      | .ok (.error _) world => { sharing with world }
      | .error _ world => { sharing with world }
  | .save userId =>
    match sharing.underway.find? userId with
    | none => sharing
    | some call =>
      match World.saveRoom (call.loaded.apply call.event) sharing.world with
      | .ok (.ok _) world => ⟨world, sharing.underway.erase userId, call :: sharing.saved⟩
      | .ok (.error _) world => { sharing with world, underway := sharing.underway.erase userId }
      | .error _ world => { sharing with world, underway := sharing.underway.erase userId }

/-- Where a sequence of steps leads from a world in which no call is under way. -/
def after (world : World Handler) (moves : List RoomMove) : RoomSharing Handler :=
  moves.foldl perform ⟨world, .empty, []⟩

variable {sharing : RoomSharing Handler} {prior : Rooms} {userId : String} {call : RoomCall}

/-- What the first step of a call comes to if the account has no other one under way. -/
theorem perform_load (hidle : sharing.underway.find? userId = none) (event : Event) :
    sharing.perform (.load userId event) =
      let consulted :=
        { sharing.world with trace := .store (.loadRoom event.roomId) :: sharing.world.trace }
      match sharing.world.environment.refuse sharing.world.trace (.loadRoom event.roomId) with
      | some _ => { sharing with world := consulted }
      | none =>
        if event.isState then
          { sharing with
            world := consulted
            underway := sharing.underway.insert userId
              ⟨userId, event, sharing.world.rooms.load event.roomId,
                (sharing.calls event.roomId).length⟩ }
        else { sharing with world := consulted } := by
  simp only [perform, hidle, Option.isSome_none, Bool.false_eq_true, if_false,
    World.loadRoom_apply]
  cases sharing.world.environment.refuse sharing.world.trace (.loadRoom event.roomId) <;> rfl

/-- What the second step of a call comes to. -/
theorem perform_save (hcall : sharing.underway.find? userId = some call) :
    sharing.perform (.save userId) =
      let state := call.loaded.apply call.event
      let consulted :=
        { sharing.world with trace := .store (.saveRoom state.roomId) :: sharing.world.trace }
      match sharing.world.environment.refuse sharing.world.trace (.saveRoom state.roomId) with
      | some _ => { sharing with world := consulted, underway := sharing.underway.erase userId }
      | none =>
        ⟨{ consulted with rooms := sharing.world.rooms.save state },
          sharing.underway.erase userId, call :: sharing.saved⟩ := by
  simp only [perform, hcall, World.saveRoom_apply]
  cases sharing.world.environment.refuse sharing.world.trace
    (.saveRoom (call.loaded.apply call.event).roomId) <;> rfl

/-- Every room is what the held events alone would have made of it, one after the other, and every
call, saved or under way, has loaded what there was at its time. -/
structure Consistent (sharing : RoomSharing Handler) (prior : Rooms) : Prop where
  rooms : ∀ roomId, sharing.world.rooms.load roomId =
    ((held (sharing.calls roomId)).foldl Rooms.apply prior).load roomId
  underway : ∀ userId call, sharing.underway.find? userId = some call →
    call.userId = userId ∧ call.Follows prior (sharing.calls call.event.roomId)
  saved : ∀ roomId call earlier, call :: earlier <:+ sharing.calls roomId →
    call.Follows prior earlier

/-- A call that ends without being saved changes nothing. -/
theorem Consistent.congr {other : RoomSharing Handler} (h : sharing.Consistent prior)
    (hrooms : other.world.rooms = sharing.world.rooms) (hsaved : other.saved = sharing.saved)
    (hunderway : ∀ userId call, other.underway.find? userId = some call →
      sharing.underway.find? userId = some call) : other.Consistent prior where
  rooms roomId := by
    rw [hrooms, calls, hsaved]
    exact h.rooms roomId
  underway userId call hcall := by
    rw [calls, hsaved]
    exact h.underway userId call (hunderway userId call hcall)
  saved := by
    unfold calls
    rw [hsaved]
    exact h.saved

theorem Consistent.load (h : sharing.Consistent prior) (userId : String) (event : Event) :
    (sharing.perform (.load userId event)).Consistent prior := by
  cases hidle : sharing.underway.find? userId with
  | some call => simpa only [perform, hidle, Option.isSome_some, if_true] using h
  | none =>
      rw [perform_load hidle]
      cases sharing.world.environment.refuse sharing.world.trace (.loadRoom event.roomId) with
      | some error => exact h.congr rfl rfl fun _ _ => id
      | none =>
          by_cases hstate : event.isState = true
          · simp only [hstate, if_true]
            refine ⟨h.rooms, fun other call hcall => ?_, h.saved⟩
            rw [SortedMap.find?_insert] at hcall
            split at hcall
            · rename_i hsame
              cases hcall
              -- Nothing has been saved since the new call has loaded.
              exact ⟨hsame, [], sharing.calls event.roomId, rfl, rfl, h.rooms event.roomId,
                fun _ hnone => absurd hnone List.not_mem_nil⟩
            · exact h.underway other call hcall
          · simp only [if_neg hstate]
            exact h.congr rfl rfl fun _ _ => id

theorem Consistent.save (h : sharing.Consistent prior) (hprior : prior.Filed) (userId : String) :
    (sharing.perform (.save userId)).Consistent prior := by
  cases hcall : sharing.underway.find? userId with
  | none => simpa only [perform, hcall] using h
  | some call =>
      obtain ⟨huser, hfollows⟩ := h.underway userId call hcall
      have herased (other : String) (found : RoomCall)
          (hfound : (sharing.underway.erase userId).find? other = some found) :
          userId ≠ other ∧ sharing.underway.find? other = some found := by
        rw [SortedMap.find?_erase] at hfound
        split at hfound
        · cases hfound
        · exact ⟨‹_›, hfound⟩
      rw [perform_save hcall]
      simp only
      cases sharing.world.environment.refuse sharing.world.trace
        (.saveRoom (call.loaded.apply call.event).roomId) with
      | some error => exact h.congr rfl rfl fun other found hfound => (herased other found hfound).2
      | none =>
          have hroom : (call.loaded.apply call.event).roomId = call.event.roomId := by
            rw [RoomState.roomId_apply, hfollows.roomId_loaded hprior]
          constructor
          case rooms =>
            intro roomId
            simp only [calls, List.filter_cons, Rooms.load_save, hroom, beq_iff_eq]
            by_cases hsame : call.event.roomId = roomId
            · subst hsame
              rw [if_pos rfl, if_pos rfl]
              exact hfollows.apply hprior
            · rw [if_neg hsame, if_neg hsame]
              exact h.rooms roomId
          case underway =>
            intro other found hfound
            obtain ⟨hother, hfound⟩ := herased other found hfound
            obtain ⟨hfoundUser, hfoundFollows⟩ := h.underway other found hfound
            refine ⟨hfoundUser, ?_⟩
            rw [calls, List.filter_cons]
            split
            · refine hfoundFollows.cons ?_
              rwa [huser, hfoundUser]
            · exact hfoundFollows
          case saved =>
            intro roomId found earlier hsuffix
            rw [calls, List.filter_cons] at hsuffix
            split at hsuffix
            · rename_i hsame
              rcases List.suffix_cons_iff.mp hsuffix with hnew | hold
              · cases hnew
                rwa [← beq_iff_eq.mp hsame]
              · exact h.saved roomId found earlier hold
            · exact h.saved roomId found earlier hsuffix

theorem Consistent.perform (h : sharing.Consistent prior) (hprior : prior.Filed)
    (move : RoomMove) : (sharing.perform move).Consistent prior := by
  cases move with
  | load userId event => exact h.load userId event
  | save userId => exact h.save hprior userId

theorem consistent_after {world : World Handler} (hprior : world.rooms.Filed)
    (moves : List RoomMove) : (after world moves).Consistent world.rooms := by
  have hrun (start : RoomSharing Handler) (hstart : start.Consistent world.rooms) :
      (moves.foldl RoomSharing.perform start).Consistent world.rooms := by
    induction moves generalizing start with
    | nil => exact hstart
    | cons move rest ih => exact ih (start.perform move) (hstart.perform hprior move)
  apply hrun
  constructor
  case rooms =>
    intro roomId
    rw [calls, List.filter_nil, held, List.foldl_nil]
  case underway =>
    intro userId call hcall
    cases hcall
  case saved =>
    intro roomId call earlier hsuffix
    cases List.suffix_nil.mp hsuffix

/-! ### What is lost, and what stays -/

/-- A place of a room holds one of the events that calls have saved there. -/
def KeepsOne (sharing : RoomSharing Handler) (roomId eventType stateKey : String) : Prop :=
  ∃ event ∈ events (sharing.calls roomId), event.isWrittenTo roomId eventType stateKey = true ∧
    (sharing.world.rooms.load roomId).get? eventType stateKey = some event

/-- What calls that may have overlapped have made of a room. -/
structure Holds (sharing : RoomSharing Handler) (prior : Rooms) (roomId : String) : Prop where
  /-- The projection is what the held events alone would have made of it, one after the other. -/
  projection : sharing.world.rooms.load roomId =
    ((held (sharing.calls roomId)).foldl Rooms.apply prior).load roomId
  /-- In each place stands the last held event that is written there, or what stood there before. -/
  current : ∀ eventType stateKey,
    (sharing.world.rooms.load roomId).get? eventType stateKey =
      (Rooms.lastWrite roomId eventType stateKey (held (sharing.calls roomId))).or
        ((prior.load roomId).get? eventType stateKey)
  sublist : (held (sharing.calls roomId)).Sublist (events (sharing.calls roomId))
  /-- All events are held if and only if no call was overtaken. -/
  held_eq_iff : held (sharing.calls roomId) = events (sharing.calls roomId) ↔
    OneByOne (sharing.calls roomId)
  /-- The calls of one account alone do not overtake each other. -/
  oneByOne_of_own : ∀ userId, (∀ call ∈ sharing.calls roomId, call.userId = userId) →
    OneByOne (sharing.calls roomId)
  /-- A place holds one of the events saved there if and only if one of them is held, or stood there
  before. -/
  keepsOne_iff : ∀ eventType stateKey,
    sharing.KeepsOne roomId eventType stateKey ↔
      (∃ event ∈ held (sharing.calls roomId),
        event.isWrittenTo roomId eventType stateKey = true) ∨
      ∃ event ∈ events (sharing.calls roomId),
        event.isWrittenTo roomId eventType stateKey = true ∧
          (prior.load roomId).get? eventType stateKey = some event
  /-- If no call was overtaken, every place in which events were saved holds one of them. -/
  keepsOne_of_oneByOne : OneByOne (sharing.calls roomId) →
    ∀ event ∈ events (sharing.calls roomId), ∀ eventType stateKey,
      event.isWrittenTo roomId eventType stateKey = true →
        sharing.KeepsOne roomId eventType stateKey

/-- A place in which no held event is written has kept what stood there before. -/
theorem keepsOne_iff {roomId eventType stateKey : String}
    (hcurrent : (sharing.world.rooms.load roomId).get? eventType stateKey =
      (Rooms.lastWrite roomId eventType stateKey (held (sharing.calls roomId))).or
        ((prior.load roomId).get? eventType stateKey)) :
    sharing.KeepsOne roomId eventType stateKey ↔
      (∃ event ∈ held (sharing.calls roomId),
        event.isWrittenTo roomId eventType stateKey = true) ∨
      ∃ event ∈ events (sharing.calls roomId),
        event.isWrittenTo roomId eventType stateKey = true ∧
          (prior.load roomId).get? eventType stateKey = some event := by
  rw [KeepsOne, hcurrent]
  cases hlast : Rooms.lastWrite roomId eventType stateKey (held (sharing.calls roomId)) with
  | none =>
      have hnone := Rooms.lastWrite_eq_none_iff.mp hlast
      rw [Option.none_or]
      constructor
      · exact .inr
      · rintro (⟨event, hheld, hwritten⟩ | hbefore)
        · exact absurd hwritten (hnone event hheld)
        · exact hbefore
  | some event =>
      obtain ⟨hheld, hwritten⟩ := Rooms.mem_of_lastWrite_eq_some hlast
      rw [Option.some_or]
      exact ⟨fun _ => .inl ⟨event, hheld, hwritten⟩,
        fun _ => ⟨event, (held_sublist _).subset hheld, hwritten, rfl⟩⟩

theorem Consistent.holds (h : sharing.Consistent prior) (hprior : prior.Filed) (roomId : String) :
    sharing.Holds prior roomId := by
  have hcurrent (eventType stateKey : String) :
      (sharing.world.rooms.load roomId).get? eventType stateKey =
        (Rooms.lastWrite roomId eventType stateKey (held (sharing.calls roomId))).or
          ((prior.load roomId).get? eventType stateKey) := by
    rw [h.rooms roomId]
    exact hprior.get?_load_foldl (held (sharing.calls roomId)) roomId eventType stateKey
  constructor
  case projection => exact h.rooms roomId
  case current => exact hcurrent
  case sublist => exact held_sublist _
  case held_eq_iff => exact held_eq_events_iff _
  case oneByOne_of_own => exact fun userId hown => oneByOne_of_follows (h.saved roomId) hown
  case keepsOne_iff => exact fun eventType stateKey => keepsOne_iff (hcurrent eventType stateKey)
  case keepsOne_of_oneByOne =>
    intro horder event hevent eventType stateKey hwritten
    rw [← (held_eq_events_iff _).mpr horder] at hevent
    exact (keepsOne_iff (hcurrent eventType stateKey)).mpr (.inl ⟨event, hevent, hwritten⟩)

/-- A call whose two steps follow each other at once applies its event as the sync loop does. -/
theorem perform_load_save (hidle : sharing.underway.find? userId = none) (event : Event) :
    ((sharing.perform (.load userId event)).perform (.save userId)).world =
      (World.applyToRoom event).stateAfter sharing.world := by
  rw [Act.stateAfter, World.applyToRoom, Act.bind_apply, World.loadRoom_apply, perform_load hidle]
  dsimp only
  cases sharing.world.environment.refuse sharing.world.trace (.loadRoom event.roomId) with
  | some error =>
      simp only [perform, hidle]
      rfl
  | none =>
      by_cases hstate : event.isState = true
      · simp only [hstate, if_true]
        have hcall := SortedMap.find?_insert sharing.underway userId
          ⟨userId, event, sharing.world.rooms.load event.roomId,
            (sharing.calls event.roomId).length⟩ userId
        rw [if_pos rfl] at hcall
        rw [perform_save hcall, World.saveRoom_apply]
        dsimp only
        cases sharing.world.environment.refuse
          (.store (.loadRoom event.roomId) :: sharing.world.trace)
          (.saveRoom ((sharing.world.rooms.load event.roomId).apply event).roomId) <;> rfl
      · simp only [if_neg hstate, perform, hidle]
        rfl

/-- However calls on the rooms overlap, and whichever reads and writes the store refuses: every room
is what the held events have made of it.  Nothing is lost if no call was overtaken, as when one
account alone writes in the room, or when each call is carried out at once. -/
theorem holds_after {world : World Handler} (hprior : world.rooms.Filed) (moves : List RoomMove) :
    let sharing := after world moves
    (∀ roomId, sharing.Holds world.rooms roomId) ∧
      ∀ userId event, sharing.underway.find? userId = none →
        ((sharing.perform (.load userId event)).perform (.save userId)).world =
          (World.applyToRoom event).stateAfter sharing.world := by
  intro sharing
  have hconsistent : sharing.Consistent world.rooms := consistent_after hprior moves
  exact ⟨hconsistent.holds hprior, fun userId event hidle => perform_load_save hidle event⟩

end RoomSharing

/-! ### Two accounts in one room -/

namespace TwoAccounts

/-- A state event of the room that both accounts are in. -/
def stateEvent (eventType text : String) : Event :=
  { eventId := "$event", eventType, sender := "@alice:hs", roomId := "!room:hs"
    stateKey := some "", originServerTs := 0, content := .generic (.string text), redacts := none
    unsigned := .empty }

def name : Event := stateEvent "m.room.name" "Lobby"

def topic : Event := stateEvent "m.room.topic" "Welcome"

/-- Nothing is known of any room, and the store refuses nothing. -/
def start : World Unit :=
  .initial ⟨fun _ _ => none, fun _ _ _ => .failure (.connectionFailed "https://hs" "reset"),
    fun _ _ => none⟩ .empty

/-- Both calls load the room before either is saved. -/
def overlapping : List RoomMove :=
  [.load "@bot:hs" name, .load "@ops:hs" topic, .save "@bot:hs", .save "@ops:hs"]

end TwoAccounts

namespace RoomSharing

open RoomCall TwoAccounts

/-- Both calls have returned, and the room has no name. -/
theorem not_keepsOne_of_overtaken :
    let sharing := after start overlapping
    sharing.underway.toList = [] ∧ events (sharing.calls "!room:hs") = [name, topic] ∧
      name.isWrittenTo "!room:hs" "m.room.name" "" = true ∧
      ¬ sharing.KeepsOne "!room:hs" "m.room.name" "" := by
  intro sharing
  have hnothing : (sharing.world.rooms.load "!room:hs").get? "m.room.name" "" = none := rfl
  refine ⟨rfl, rfl, rfl, ?_⟩
  rintro ⟨event, -, -, hfound⟩
  rw [hnothing] at hfound
  cases hfound

/-- When the first account has applied the name once more, the room has both. -/
theorem holds_after_repeated :
    let sharing := after start (overlapping ++ [.load "@bot:hs" name, .save "@bot:hs"])
    start.rooms.Filed ∧ held (sharing.calls "!room:hs") = [topic, name] ∧
      ¬ OneByOne (sharing.calls "!room:hs") ∧
      (sharing.world.rooms.load "!room:hs").get? "m.room.name" "" = some name ∧
      (sharing.world.rooms.load "!room:hs").get? "m.room.topic" "" = some topic := by
  intro sharing
  have hfiled : start.rooms.Filed := Rooms.filed_empty
  have hholds := (holds_after hfiled (overlapping ++ [.load "@bot:hs" name, .save "@bot:hs"])).1
    "!room:hs"
  have hheld : held (sharing.calls "!room:hs") = [topic, name] := by
    have hcalls : sharing.calls "!room:hs" =
        [⟨"@bot:hs", name, _, 2⟩, ⟨"@ops:hs", topic, _, 0⟩, ⟨"@bot:hs", name, _, 0⟩] := rfl
    simp [hcalls, held]
  refine ⟨hfiled, hheld, fun horder => ?_, ?_, ?_⟩
  · have hall := congrArg List.length (hholds.held_eq_iff.mpr horder)
    rw [hheld, length_events] at hall
    cases hall
  · rw [hholds.current, hheld]
    rfl
  · rw [hholds.current, hheld]
    rfl

end RoomSharing

end BotHost
