/-
# How a batch is written

What an event says can be read off in two ways: from the decoded event, and from the document
that it is written as.  Decoding forgets where content does not fit the record of its type, and a
membership event with such content has no membership any more.

This module goes back from what is decoded to what is written.  `Batch.writtenTimeline` finds the
documents of the timeline of a joined room, `Batch.timeline_of_decode` pairs them with the events
that they are decoded to, and `Event.isMembershipOf_join_iff` says how the join of a user has to be
written to be recognised.
-/

import Mathlib.Data.List.Forall2
import Mathlib.Data.List.Induction
import BotHost.Proofs.Json.Documents
import BotHost.Sync.Batch

namespace BotHost

/-! ### Fields and members -/

namespace Document

/-- The field of a record under one of its names, as it is written. -/
def field? (names : List String) (name : String) (document : Document) : Option Document :=
  (document.fields? names).bind (·.get? name)

/-- The member of an object under a key; of a repeated key the last one counts. -/
def member? (key : String) : Document → Option Document
  | object members => Entries.find? key members.reverse
  | _ => none

/-- The items of an array. -/
def items : Document → List Document
  | array items => items
  | row items => items
  | _ => []

variable {names : List String} {document : Document} {fields : Fields}

theorem field?_eq (h : document.fields? names = some fields) (name : String) :
    document.field? names name = fields.get? name := by
  rw [field?, h, Option.bind_some]

end Document

namespace Fields

variable {fields : Fields} {name : String}

/-- A text that may be absent or null is there if it is written. -/
theorem optional_text_iff {text : Option String} (h : fields.optional name Decoder.text = some text)
    (key : String) : text = some key ↔ fields.get? name = some (.string key) := by
  rcases orElse_eq_some_iff.mp h with ⟨habsent, rfl⟩ | ⟨document, hwritten, hdecode⟩
  · simp [habsent]
  · rw [hwritten]
    cases document with
    | null =>
        cases hdecode
        simp
    | string value =>
        cases hdecode
        simp
    | _ => cases hdecode

end Fields

namespace Decoder

variable {α : Type} {item : Decoder α} {document : Document}

theorem text_eq_some_iff {text : String} :
    Decoder.text document = some text ↔ document = .string text := by
  cases document <;> simp [Decoder.text]

/-- A list is decoded item by item. -/
theorem forall₂_of_mapM {β γ : Type} {decode : β → Option γ} {written : List β} {decoded : List γ}
    (h : written.mapM decode = some decoded) :
    List.Forall₂ (fun item value => decode item = some value) written decoded := by
  induction written generalizing decoded with
  | nil =>
      cases h
      exact .nil
  | cons item rest ih =>
      rw [List.mapM_cons] at h
      obtain ⟨value, hvalue, h⟩ := Option.bind_eq_some_iff.mp h
      obtain ⟨values, hvalues, h⟩ := Option.bind_eq_some_iff.mp h
      cases h
      exact .cons hvalue (ih hvalues)

/-- If each item says what its value says, some item says it exactly if some value does. -/
theorem exists_mem_iff_of_forall₂ {β γ : Type} {decoding : β → γ → Prop} {said : γ → Prop}
    {saidBy : β → Prop} {written : List β} {decoded : List γ}
    (h : List.Forall₂ decoding written decoded)
    (hsame : ∀ item value, decoding item value → (said value ↔ saidBy item)) :
    (∃ value ∈ decoded, said value) ↔ ∃ item ∈ written, saidBy item := by
  induction h with
  | nil => simp
  | cons hitem _ ih => simp [hsame _ _ hitem, ih]

theorem forall₂_of_list {values : List α} (h : Decoder.list item document = some values) :
    List.Forall₂ (fun written value => item written = some value) document.items values := by
  cases document with
  | array items => exact forall₂_of_mapM h
  | row items => exact forall₂_of_mapM h
  | _ => cases h

/-- What is found under a key is decoded from what is written under it. -/
theorem find?_of_forall₂ {key : String} {written : List (String × Document)}
    {decoded : List (String × α)} {value : α}
    (h : List.Forall₂ (fun member entry => (item member.2).map (member.1, ·) = some entry) written
      decoded) (hfound : Entries.find? key decoded = some value) :
    ∃ document, Entries.find? key written = some document ∧ item document = some value := by
  induction h with
  | nil => cases hfound
  | @cons member entry _ _ hentry _ ih =>
      obtain ⟨stored, hstored, rfl⟩ := Option.map_eq_some_iff.mp hentry
      by_cases hkey : member.1 = key
      · obtain rfl : stored = value := by simpa [Entries.find?, hkey] using hfound
        exact ⟨member.2, by simp [Entries.find?, hkey], hstored⟩
      · obtain ⟨document, hwritten, hdocument⟩ := ih (by simpa [Entries.find?, hkey] using hfound)
        exact ⟨document, by simpa [Entries.find?, hkey] using hwritten, hdocument⟩

/-- The last value under a key is decoded from the member of the object under that key. -/
theorem member?_of_members {key : String} {decoded : List (String × α)} {value : α}
    (h : Decoder.members item document = some decoded)
    (hfound : Entries.find? key decoded.reverse = some value) :
    ∃ written, document.member? key = some written ∧ item written = some value := by
  cases document with
  | object members =>
      exact find?_of_forall₂ (List.forall₂_reverse_iff.mpr (forall₂_of_mapM h)) hfound
  | _ => cases h

end Decoder

/-! ### Rooms in the order of arrival -/

namespace Arrival

variable {α : Type} {key sought : String} {value found : α} {listed : List (String × α)}

theorem mem_keys_put : sought ∈ (put key value listed).map (·.1) ↔
    sought = key ∨ sought ∈ listed.map (·.1) := by
  induction listed with
  | nil => simp [put]
  | cons entry rest ih =>
      by_cases hkey : entry.1 = key
      · simp [put, hkey]
      · simp [put, hkey, ih, or_left_comm]

theorem nodup_keys_put (h : (listed.map (·.1)).Nodup) :
    ((put key value listed).map (·.1)).Nodup := by
  induction listed with
  | nil => simp [put]
  | cons entry rest ih =>
      obtain ⟨hnew, hrest⟩ := List.nodup_cons.mp h
      by_cases hkey : entry.1 = key
      · simpa [put, hkey] using h
      · rw [put, if_neg hkey, List.map_cons, List.nodup_cons]
        refine ⟨fun hmem => ?_, ih hrest⟩
        rcases mem_keys_put.mp hmem with hsame | hmem
        · exact hkey hsame
        · exact hnew hmem

/-- A value that is put under a key is the only one there, and nothing else changes. -/
theorem mem_put (h : (listed.map (·.1)).Nodup) :
    (sought, found) ∈ put key value listed ↔
      if key = sought then found = value else (sought, found) ∈ listed := by
  induction listed with
  | nil => by_cases hsought : key = sought <;> simp [put, hsought, eq_comm]
  | cons entry rest ih =>
      obtain ⟨first, stored⟩ := entry
      obtain ⟨hnew, hrest⟩ := List.nodup_cons.mp h
      by_cases hkey : first = key
      · subst hkey
        by_cases hsought : first = sought
        · subst hsought
          have hgone : (first, found) ∉ rest := fun hmem => hnew (List.mem_map.mpr ⟨_, hmem, rfl⟩)
          simp [put, hgone]
        · simp [put, hsought, Ne.symm hsought]
      · by_cases hsought : key = sought
        · subst hsought
          simp [put, hkey, Ne.symm hkey, ih hrest]
        · simp [put, hkey, hsought, ih hrest]

theorem nodup_keys_ofList (entries : List (String × α)) :
    ((ofList entries).map (·.1)).Nodup := by
  induction entries using List.reverseRecOn with
  | nil => simp [ofList]
  | append_singleton entries entry ih =>
      rw [ofList, List.foldl_append]
      exact nodup_keys_put ih

/-- Under each key stands the last value that arrived. -/
theorem mem_ofList_iff (entries : List (String × α)) :
    (sought, found) ∈ ofList entries ↔ Entries.find? sought entries.reverse = some found := by
  induction entries using List.reverseRecOn with
  | nil => simp [ofList, Entries.find?]
  | append_singleton entries entry ih =>
      -- The last entry is put last, and from the end it is found first.
      rw [ofList, List.foldl_append, List.reverse_append]
      change _ ∈ put entry.1 entry.2 (ofList entries) ↔ _
      rw [mem_put (nodup_keys_ofList entries), ih]
      by_cases hsought : entry.1 = sought <;> simp [Entries.find?, hsought, eq_comm]

end Arrival

/-! ### Timelines -/

namespace Batch

/-- The list of events in the timeline of a joined room, as it is written. -/
def writtenEvents? (roomId : String) (document : Document) : Option Document := do
  let rooms ← document.field? ["next_batch", "rooms"] "rooms"
  let joined ← rooms.field? ["join", "invite", "leave"] "join"
  let room ← joined.member? roomId
  let timeline ← room.field? ["state", "timeline"] "timeline"
  timeline.field? ["events", "limited", "prev_batch"] "events"

/-- The events in the timeline of a joined room, as they are written. -/
def writtenTimeline (roomId : String) (document : Document) : List Document :=
  (writtenEvents? roomId document).elim [] Document.items

variable {document : Document} {batch : Batch} {roomId : String} {history : RoomHistory}

/-- A joined room is decoded from the member under its id. -/
theorem joined_of_decode (h : Batch.decode document = some batch)
    (hroom : (roomId, history) ∈ batch.join) :
    ∃ rooms joined room, document.field? ["next_batch", "rooms"] "rooms" = some rooms ∧
      rooms.field? ["join", "invite", "leave"] "join" = some joined ∧
      joined.member? roomId = some room ∧ decodeHistory room = some history := by
  simp only [decode, Option.bind_eq_bind, Option.bind_eq_some_iff] at h
  obtain ⟨fields, hfields, nextBatch, -, h⟩ := h
  -- A batch without rooms, or without joined ones, does not have this one.
  rcases Fields.orElse_eq_some_iff.mp h with ⟨-, rfl⟩ | ⟨rooms, hrooms, h⟩
  · cases hroom
  simp only [Option.bind_eq_some_iff] at h
  obtain ⟨groups, hgroups, join, hjoin, invite, -, leave, -, h⟩ := h
  cases h
  rcases Fields.orElse_eq_some_iff.mp hjoin with ⟨-, rfl⟩ | ⟨joined, hjoined, hdecode⟩
  · cases hroom
  obtain ⟨decoded, hdecoded, rfl⟩ := Option.map_eq_some_iff.mp hdecode
  obtain ⟨room, hmember, hhistory⟩ :=
    Decoder.member?_of_members hdecoded ((Arrival.mem_ofList_iff decoded).mp hroom)
  rw [← Document.field?_eq hfields] at hrooms
  rw [← Document.field?_eq hgroups] at hjoined
  exact ⟨rooms, joined, room, hrooms, hjoined, hmember, hhistory⟩

/-- The timeline of a room is decoded item by item, and it is empty if it is not written. -/
theorem forall₂_of_decodeHistory {room : Document} (h : decodeHistory room = some history) :
    List.Forall₂ (fun item event => Event.decode item = some event)
      (((room.field? ["state", "timeline"] "timeline").bind
        (·.field? ["events", "limited", "prev_batch"] "events")).elim [] Document.items)
      history.timeline.events := by
  simp only [decodeHistory, Option.bind_eq_bind, Option.bind_eq_some_iff] at h
  obtain ⟨fields, hfields, state, -, timeline, htimeline, h⟩ := h
  cases h
  rw [Document.field?_eq hfields]
  rcases Fields.orElse_eq_some_iff.mp htimeline with ⟨habsent, rfl⟩ | ⟨written, hwritten, h⟩
  · simp [habsent, Timeline.empty]
  rw [hwritten, Option.bind_some]
  simp only [Timeline.decode, Option.bind_eq_bind, Option.bind_eq_some_iff] at h
  obtain ⟨fields, hfields, events, hevents, limited, -, prevBatch, -, h⟩ := h
  cases h
  rw [Document.field?_eq hfields]
  rcases Fields.orElse_eq_some_iff.mp hevents with ⟨habsent, rfl⟩ | ⟨items, hitems, h⟩
  · simp [habsent]
  · rw [hitems]
    exact Decoder.forall₂_of_list h

/-- The timeline of a joined room is decoded from the timeline as it is written. -/
theorem timeline_of_decode (h : Batch.decode document = some batch)
    (hroom : (roomId, history) ∈ batch.join) :
    List.Forall₂ (fun item event => Event.decode item = some event)
      (writtenTimeline roomId document) history.timeline.events := by
  obtain ⟨rooms, joined, room, hrooms, hjoined, hmember, hhistory⟩ := joined_of_decode h hroom
  have hwritten : writtenEvents? roomId document =
      (room.field? ["state", "timeline"] "timeline").bind
        (·.field? ["events", "limited", "prev_batch"] "events") := by
    simp [writtenEvents?, hrooms, hjoined, hmember]
  rw [writtenTimeline, hwritten]
  exact forall₂_of_decodeHistory hhistory

end Batch

/-! ### Joins -/

namespace Membership

theorem ofName_eq_join_iff {text : String} : ofName text = join ↔ text = "join" := by
  unfold ofName
  by_cases hjoin : text = "join"
  · simp [hjoin]
  · simp only [hjoin, if_false, iff_false]
    split_ifs <;> simp

theorem ofJson?_eq_join_iff {value : Json} :
    ofJson? value = some join ↔
      value = .string "join" ∨ value = .object [("join", .null)] := by
  unfold ofJson?
  split
  · simp [ofName_eq_join_iff]
  · simp [ofName_eq_join_iff]
  · rename_i hstring hobject
    simp only [reduceCtorEq, false_iff, not_or]
    exact ⟨hstring "join", hobject "join"⟩

end Membership

namespace MemberContent

variable {key : String} {content : List (String × Json)}

/-- Whether a member of a content is absent, null or a text. -/
def TextFits (key : String) (content : List (String × Json)) : Prop :=
  ∀ value, Entries.find? key content = some value → value = .null ∨ ∃ text, value = .string text

/-- Whether the names in a content fit the record of a membership. -/
def NamesFit (content : List (String × Json)) : Prop :=
  TextFits "displayname" content ∧ TextFits "avatar_url" content

theorem isSome_optionalText?_iff : (optionalText? key content).isSome ↔ TextFits key content := by
  unfold optionalText? TextFits
  split <;> simp_all

/-- Content is decoded with a membership if it names it and its names fit. -/
theorem ofJson?_membership_iff {membership : Membership} :
    (∃ member, ofJson? (.object content) = some member ∧ member.membership = membership) ↔
      (Entries.find? "membership" content).bind Membership.ofJson? = some membership ∧
      NamesFit content := by
  rw [NamesFit, ← isSome_optionalText?_iff, ← isSome_optionalText?_iff]
  constructor
  · rintro ⟨member, hmember, hsame⟩
    obtain ⟨named, hfound, hmember⟩ := Option.bind_eq_some_iff.mp hmember
    obtain ⟨displayname, hdisplayname, hmember⟩ := Option.bind_eq_some_iff.mp hmember
    obtain ⟨avatarUrl, havatarUrl, hmember⟩ := Option.bind_eq_some_iff.mp hmember
    cases hmember
    exact ⟨by rw [hfound]; exact congrArg some hsame, by simp [hdisplayname], by simp [havatarUrl]⟩
  · rintro ⟨hfound, hdisplayname, havatarUrl⟩
    obtain ⟨displayname, hdisplayname⟩ := Option.isSome_iff_exists.mp hdisplayname
    obtain ⟨avatarUrl, havatarUrl⟩ := Option.isSome_iff_exists.mp havatarUrl
    simp [ofJson?, hfound, hdisplayname, havatarUrl]

/-- Content is decoded as that of a join if its membership says so and its names fit. -/
theorem ofJson?_join_iff :
    (∃ member, ofJson? (.object content) = some member ∧ member.membership = .join) ↔
      (Entries.find? "membership" content = some (.string "join") ∨
        Entries.find? "membership" content = some (.object [("join", .null)])) ∧
      NamesFit content := by
  rw [ofJson?_membership_iff]
  simp [Option.bind_eq_some_iff, Membership.ofJson?_eq_join_iff, and_or_left, exists_or]

end MemberContent

namespace Event

variable {item : Document} {event : Event} {userId : String}

/-- The join of a user as it is written: a membership event with the user as its state key, and an
object as its content in which the membership is `join`.  The membership may also be written as
an object, like the name of any case. -/
structure WrittenJoin (userId : String) (item : Document) (content : List (String × Json)) :
    Prop where
  type_eq : item.field? fieldNames "type" = some (.string roomMember)
  stateKey_eq : item.field? fieldNames "state_key" = some (.string userId)
  content_eq :
    (item.field? fieldNames "content").bind Document.toJson? = some (.object content)
  membership_eq : Entries.find? "membership" content = some (.string "join") ∨
    Entries.find? "membership" content = some (.object [("join", .null)])

/-- What is written of the fields that tell the join of a user. -/
theorem written_of_decode (h : Event.decode item = some event) :
    item.field? fieldNames "type" = some (.string event.eventType) ∧
      (∀ key, event.stateKey = some key ↔
        item.field? fieldNames "state_key" = some (.string key)) ∧
      ∃ raw, event.content = .ofJson event.eventType raw ∧
        ∀ content, raw = .object content ↔
          (item.field? fieldNames "content").bind Document.toJson? = some (.object content) := by
  simp only [decode, Option.bind_eq_bind, Option.bind_eq_some_iff] at h
  obtain ⟨fields, hfields, eventId, -, eventType, htype, sender, -, roomId, -, stateKey, hkey,
    originServerTs, -, raw, hraw, redacts, -, unsigned, -, h⟩ := h
  cases h
  simp only [Document.field?_eq hfields]
  refine ⟨?_, ?_, raw, rfl, ?_⟩
  · obtain ⟨written, hwritten, htext⟩ := Option.bind_eq_some_iff.mp htype
    rw [hwritten, Decoder.text_eq_some_iff.mp htext]
  · exact Fields.optional_text_iff hkey
  · intro content
    rcases Fields.orElse_eq_some_iff.mp hraw with ⟨habsent, rfl⟩ | ⟨written, hwritten, hvalue⟩
    · simp [habsent]
    · rw [hwritten, Option.bind_some, ← Decoder.json, hvalue, Option.some_inj]

/-- A membership event has a membership exactly if its content fits the record. -/
theorem membership?_eq_some_iff {raw : Json} {membership : Membership}
    (htype : event.eventType = roomMember)
    (hcontent : event.content = .ofJson event.eventType raw) :
    event.membership? = some membership ↔
      ∃ content, raw = .object content ∧
        ∃ member, MemberContent.ofJson? (.object content) = some member ∧
          member.membership = membership := by
  -- The content is not tried as that of a message first.
  have hother : roomMember ≠ roomMessage := by decide
  rw [membership?, hcontent, htype, Content.ofJson, if_neg hother, if_pos rfl]
  cases raw with
  | object content => cases hdecode : MemberContent.ofJson? (.object content) <;> simp [hdecode]
  | _ => simp [MemberContent.ofJson?]

/-- A decoded event is the join of a user exactly if it is written as one and the names in its
content fit. -/
theorem isMembershipOf_join_iff (h : Event.decode item = some event) :
    event.isMembershipOf userId .join = true ↔
      ∃ content, WrittenJoin userId item content ∧ MemberContent.NamesFit content := by
  obtain ⟨htype, hkey, raw, hcontent, hobject⟩ := written_of_decode h
  simp only [isMembershipOf, Bool.and_eq_true, beq_iff_eq]
  constructor
  · rintro ⟨⟨hmember, hstate⟩, hjoin⟩
    obtain ⟨content, rfl, hdecode⟩ := (membership?_eq_some_iff hmember hcontent).mp hjoin
    obtain ⟨hmembership, hnames⟩ := MemberContent.ofJson?_join_iff.mp hdecode
    exact ⟨content, ⟨by rw [htype, hmember], (hkey userId).mp hstate, (hobject content).mp rfl,
      hmembership⟩, hnames⟩
  · rintro ⟨content, hwritten, hnames⟩
    have hmember : event.eventType = roomMember := by
      simpa using htype.symm.trans hwritten.type_eq
    refine ⟨⟨hmember, (hkey userId).mpr hwritten.stateKey_eq⟩, ?_⟩
    exact (membership?_eq_some_iff hmember hcontent).mpr
      ⟨content, (hobject content).mpr hwritten.content_eq,
        MemberContent.ofJson?_join_iff.mpr ⟨hwritten.membership_eq, hnames⟩⟩

end Event

end BotHost
