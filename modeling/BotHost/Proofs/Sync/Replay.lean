/-
# History that is not replayed

The timeline of a room that the account has just joined reaches back before the join, and nothing
of the room is delivered then: not its state, not its timeline, and not what was shown with an
invitation to it.  `Batch.withoutRoom` is the batch without all that.

The join is looked for among the decoded events, and a join with a display name or an avatar that
is no text is decoded as a membership event without a membership.  Such a join goes unnoticed:
`Batch.order_of_written` says for every batch, as it is written, whether a joined room is left out
or delivered.
-/

import BotHost.Proofs.Sync.Delivery
import BotHost.Proofs.Sync.Wire

namespace BotHost

namespace Batch

variable {batch : Batch} {userId roomId : String} {history : RoomHistory}

/-! ### Rooms that are left out -/

theorem mem_skippedRooms_iff :
    roomId ∈ batch.skippedRooms userId ↔
      ∃ history, (roomId, history) ∈ batch.join ∧ hasOwnJoin userId history = true := by
  simp [skippedRooms]

/-- The batch without what it says about a room that is joined or to which there is an
invitation. -/
def withoutRoom (roomId : String) (batch : Batch) : Batch :=
  { batch with
    join := batch.join.filter fun room => room.1 != roomId
    invite := batch.invite.filter fun room => room.1 != roomId }

theorem skippedRooms_withoutRoom :
    (batch.withoutRoom roomId).skippedRooms userId =
      (batch.skippedRooms userId).filter (· != roomId) := by
  simp [skippedRooms, withoutRoom, List.filter_map, List.filter_filter, Bool.and_comm,
    Function.comp_def]

/-- Leaving out a room that is skipped leaves the same rooms to deliver. -/
theorem filter_withoutRoom {α : Type} (h : roomId ∈ batch.skippedRooms userId)
    (rooms : List (String × α)) :
    (rooms.filter fun room => room.1 != roomId).filter
        (fun room => !((batch.withoutRoom roomId).skippedRooms userId).contains room.1) =
      rooms.filter fun room => !(batch.skippedRooms userId).contains room.1 := by
  -- The room itself passes neither test, and any other room is skipped in both batches or in none.
  rw [List.filter_filter, skippedRooms_withoutRoom]
  refine List.filter_congr fun room _ => ?_
  by_cases hroom : room.1 = roomId
  · simp [hroom, h]
  · simp [hroom]

/-- Of a room that is skipped nothing is delivered. -/
theorem order_withoutRoom (h : roomId ∈ batch.skippedRooms userId) :
    ((batch.withoutRoom roomId).order userId).events = (batch.order userId).events := by
  have hjoin := filter_withoutRoom h batch.join
  have hinvite := filter_withoutRoom h batch.invite
  simp only [order]
  rw [← hjoin, ← hinvite]
  rfl

/-- A room that is not skipped is among those that are delivered. -/
theorem mem_filter_skipped {α : Type} {content : α} {rooms : List (String × α)}
    (h : roomId ∉ batch.skippedRooms userId) (hroom : (roomId, content) ∈ rooms) :
    content ∈
      (rooms.filter fun room => !(batch.skippedRooms userId).contains room.1).map (·.2) :=
  List.mem_map.mpr ⟨_, List.mem_filter.mpr ⟨hroom, by simpa using h⟩, rfl⟩

/-- Of a joined room that is not skipped everything is delivered. -/
theorem history_sublist_order (h : roomId ∉ batch.skippedRooms userId)
    (hroom : (roomId, history) ∈ batch.join) :
    (history.state ++ history.timeline.events).Sublist (batch.order userId).events := by
  have hmem := mem_filter_skipped h hroom
  have hstate := List.sublist_flatten_of_mem (List.mem_map_of_mem hmem (f := (·.state)))
  have htimeline :=
    List.sublist_flatten_of_mem (List.mem_map_of_mem hmem (f := (·.timeline.events)))
  rw [← List.flatMap_def] at hstate htimeline
  simp only [order, List.append_assoc]
  rw [← List.append_assoc]
  exact (hstate.append htimeline).trans (List.sublist_append_left _ _)

/-- An invitation to a room that is not skipped is delivered. -/
theorem invited_sublist_order {invited : List Event} (h : roomId ∉ batch.skippedRooms userId)
    (hroom : (roomId, invited) ∈ batch.invite) :
    invited.Sublist (batch.order userId).events := by
  have hinvited := List.sublist_flatten_of_mem (mem_filter_skipped h hroom)
  exact (hinvited.trans (List.sublist_append_right _ _)).trans (List.sublist_append_left _ _)

/-! ### Rooms of the events -/

theorem isMembershipOf_inRoom (event : Event) (roomId : String) (membership : Membership) :
    (event.inRoom roomId).isMembershipOf userId membership =
      event.isMembershipOf userId membership := by
  unfold Event.inRoom
  by_cases hroom : event.roomId = "" <;> simp [hroom]
  rfl

theorem skippedRooms_fillRoomIds (batch : Batch) (userId : String) :
    batch.fillRoomIds.skippedRooms userId = batch.skippedRooms userId := by
  simp [skippedRooms, fillRoomIds, List.filter_map, Function.comp_def, hasOwnJoin, fillHistory,
    isMembershipOf_inRoom]

theorem withoutRoom_fillRoomIds (batch : Batch) (roomId : String) :
    batch.fillRoomIds.withoutRoom roomId = (batch.withoutRoom roomId).fillRoomIds := by
  simp [fillRoomIds, withoutRoom, List.filter_map, Function.comp_def]

/-! ### Joins as they are written -/

/-- Whether a joined room is noticed as one that the user has just joined: somewhere in its timeline
stands a join of the user, and it is written with names that fit. -/
def JoinNoticed (userId roomId : String) (document : Document) : Prop :=
  ∃ item ∈ writtenTimeline roomId document, ∃ content,
    Event.WrittenJoin userId item content ∧ MemberContent.NamesFit content

variable {document : Document}

theorem hasOwnJoin_iff (h : Batch.decode document = some batch)
    (hroom : (roomId, history) ∈ batch.join) :
    hasOwnJoin userId history = true ↔ JoinNoticed userId roomId document := by
  rw [hasOwnJoin, List.any_eq_true]
  exact Decoder.exists_mem_iff_of_forall₂ (timeline_of_decode h hroom)
    fun item event hdecode => Event.isMembershipOf_join_iff hdecode

/-- A joined room is skipped exactly if the join in its timeline is noticed. -/
theorem mem_skippedRooms_iff_noticed (h : Batch.decode document = some batch)
    (hroom : (roomId, history) ∈ batch.join) :
    roomId ∈ batch.skippedRooms userId ↔ JoinNoticed userId roomId document := by
  rw [mem_skippedRooms_iff]
  constructor
  · rintro ⟨other, hother, hjoin⟩
    exact (hasOwnJoin_iff h hother).mp hjoin
  · exact fun hnoticed => ⟨history, hroom, (hasOwnJoin_iff h hroom).mpr hnoticed⟩

/-- Whatever a batch holds, as it is written: of a joined room with a noticed join nothing is
delivered, as if the batch had said nothing about the room, and of every other joined room all is
delivered, and so is what was shown with an invitation to it. -/
theorem order_of_written (h : Batch.decode document = some batch)
    (hroom : (roomId, history) ∈ batch.join) (userId : String) :
    (JoinNoticed userId roomId document →
      (batch.order userId).events = ((batch.withoutRoom roomId).order userId).events ∧
        batch.orderedFor userId = (batch.withoutRoom roomId).orderedFor userId) ∧
      (¬ JoinNoticed userId roomId document →
        (history.state ++ history.timeline.events).Sublist (batch.order userId).events ∧
          ∀ invited, (roomId, invited) ∈ batch.invite →
            invited.Sublist (batch.order userId).events) := by
  rw [← mem_skippedRooms_iff_noticed h hroom]
  refine ⟨fun hskipped => ⟨(order_withoutRoom hskipped).symm, ?_⟩,
    fun hkept => ⟨history_sublist_order hkept hroom, fun invited => invited_sublist_order hkept⟩⟩
  rw [← skippedRooms_fillRoomIds] at hskipped
  rw [orderedFor, ← order_withoutRoom hskipped, withoutRoom_fillRoomIds, orderedFor]

end Batch

/-! ### A room that was just joined

A batch in which the bot has joined a room after a message and has an invitation to it.  The join
carries a display name, which is a text or something else. -/

namespace FreshJoin

/-- An event as it is written. -/
def event (eventType eventId : String) (rest : List (String × Document)) : Document :=
  .object ([("type", .string eventType), ("event_id", .string eventId)] ++ rest)

/-- The join of the bot with a display name. -/
def join (displayname : Document) : Document :=
  event roomMember "$join"
    [("state_key", .string "@bot:hs"),
      ("content", .object [("membership", .string "join"), ("displayname", displayname)])]

/-- A message from before the join. -/
def message : Document :=
  event roomMessage "$old"
    [("content", .object [("msgtype", .string "m.text"), ("body", .string "ping")])]

/-- What was shown with the invitation. -/
def invitation : Document :=
  event roomMember "$invite"
    [("state_key", .string "@bot:hs"), ("content", .object [("membership", .string "invite")])]

/-- A list of events in its wrapper. -/
def wrapped (events : List Document) : Document := .object [("events", .array events)]

/-- The batch with the room. -/
def document (displayname : Document) : Document :=
  .object
    [("next_batch", .string "s2"),
      ("rooms", .object
        [("join", .object
            [("!room:hs", .object [("timeline", wrapped [message, join displayname])])]),
          ("invite", .object [("!room:hs", .object [("invite_state", wrapped [invitation])])])])]

/-- The content of the join. -/
def content (displayname : Json) : List (String × Json) :=
  [("displayname", displayname), ("membership", .string "join")]

/-- The timeline of the room has the message and the join. -/
theorem writtenTimeline_document (displayname : Document) :
    Batch.writtenTimeline "!room:hs" (document displayname) = [message, join displayname] := rfl

/-- The join is written as that of the bot, whatever the display name is. -/
theorem writtenJoin_join {displayname : Document} {name : Json}
    (h : displayname.toJson? = some name) :
    Event.WrittenJoin "@bot:hs" (join displayname) (content name) where
  type_eq := rfl
  stateKey_eq := rfl
  content_eq := by
    have hbefore : KeyOrder.precedes "displayname" "membership" = true := by decide
    change (Document.object _).toJson? = _
    simp [Document.toJson?, Document.toMembers?, h, Json.ofMembers, SortedMap.ofList,
      SortedMap.insert, SortedMap.empty, Entries.insert, hbefore, content]
  membership_eq := .inl rfl

/-- A display name that is a text fits. -/
theorem namesFit_content (name : String) : MemberContent.NamesFit (content (.string name)) := by
  constructor
  · intro value hvalue
    cases hvalue
    exact .inr ⟨name, rfl⟩
  · intro value hvalue
    cases hvalue

/-- Nobody but the bot has joined. -/
theorem not_noticed_other (displayname : Document) :
    ¬ Batch.JoinNoticed "@user:hs" "!room:hs" (document displayname) := by
  have hmessage : message.field? Event.fieldNames "type" = some (.string roomMessage) := rfl
  have hjoin : (join displayname).field? Event.fieldNames "state_key" = some (.string "@bot:hs") :=
    rfl
  rintro ⟨item, hitem, content, hwritten, -⟩
  rw [writtenTimeline_document] at hitem
  rcases List.mem_pair.mp hitem with rfl | rfl
  · exact absurd hwritten.type_eq (by simp [hmessage, roomMessage, roomMember])
  · exact absurd hwritten.stateKey_eq (by simp [hjoin])

end FreshJoin

namespace Batch

/-- If the display name is a text, nothing of the room is delivered to the bot, but all of it would
be delivered to another user. -/
theorem order_of_named_join :
    ∃ batch history, Batch.decode (FreshJoin.document (.string "Bot")) = some batch ∧
      ("!room:hs", history) ∈ batch.join ∧
      history.timeline.events.map (·.eventId) = ["$old", "$join"] ∧
      (batch.order "@bot:hs").events = [] ∧
      history.timeline.events.Sublist (batch.order "@user:hs").events := by
  obtain ⟨batch, history, hdecode, hroom, hids, hstate, hwithout⟩ :
      ∃ batch history, Batch.decode (FreshJoin.document (.string "Bot")) = some batch ∧
        ("!room:hs", history) ∈ batch.join ∧
        history.timeline.events.map (·.eventId) = ["$old", "$join"] ∧ history.state = [] ∧
        ((batch.withoutRoom "!room:hs").order "@bot:hs").events = [] :=
    ⟨_, _, rfl, List.mem_singleton.mpr rfl, rfl, rfl, rfl⟩
  have hnoticed : JoinNoticed "@bot:hs" "!room:hs" (FreshJoin.document (.string "Bot")) :=
    ⟨FreshJoin.join (.string "Bot"), by simp [FreshJoin.writtenTimeline_document], _,
      FreshJoin.writtenJoin_join rfl, FreshJoin.namesFit_content "Bot"⟩
  have hother := (order_of_written hdecode hroom "@user:hs").2 (FreshJoin.not_noticed_other _)
  refine ⟨batch, history, hdecode, hroom, hids, ?_, ?_⟩
  · rw [((order_of_written hdecode hroom "@bot:hs").1 hnoticed).1, hwithout]
  · simpa [hstate] using hother.1

/-- If the display name is a number, the room is delivered although the bot has just joined it. -/
theorem order_replays_misnamed_join :
    ∃ batch history, Batch.decode (FreshJoin.document (.number (.integer 7))) = some batch ∧
      ("!room:hs", history) ∈ batch.join ∧
      FreshJoin.join (.number (.integer 7)) ∈
        writtenTimeline "!room:hs" (FreshJoin.document (.number (.integer 7))) ∧
      Event.WrittenJoin "@bot:hs" (FreshJoin.join (.number (.integer 7)))
        (FreshJoin.content (.number (.integer 7))) ∧
      (batch.order "@bot:hs").events.map (·.eventId) = ["$old", "$join", "$invite"] :=
  ⟨_, _, rfl, List.mem_singleton.mpr rfl, by simp [FreshJoin.writtenTimeline_document],
    FreshJoin.writtenJoin_join rfl, rfl⟩

end Batch

end BotHost
