/-
# Events survive their wire form

Decoding an event picks a shape for its content by the type of the event and by whether the content
fits, keeps the fields that the shape does not name, and fills in what is missing.  Encoding leaves
out again what is absent.  So the wire form of a decoded event need not be the document that it was
decoded from: unknown memberships, explicit nulls and the array form are gone.

Still the wire form is decoded to the same event.  Content makes the same choice again, because what
is encoded from a shape fits the shape; and of the other fields only those are left out for which
the decoder fills in the same value.
-/

import BotHost.Event
import BotHost.Proofs.Json.Documents

namespace BotHost

/-! ### Named members and the others -/

section Named

variable {α : Type} {names : List String} {named members : List (String × α)}

/-- Named members and those that are not named have no key in common. -/
theorem Entries.nodup_named (hnamed : (named.map Prod.fst).Nodup)
    (hnames : ∀ member ∈ named, member.1 ∈ names) (h : Ascending members) :
    ((named ++ members.filter fun member => !names.contains member.1).map Prod.fst).Nodup := by
  rw [List.map_append]
  refine List.nodup_append.mpr ⟨hnamed, h.nodup_keys.sublist (List.filter_sublist.map _), ?_⟩
  intro key hkey other hother hsame
  obtain ⟨member, hmember, rfl⟩ := List.mem_map.mp hkey
  obtain ⟨rest, hrest, rfl⟩ := List.mem_map.mp hother
  have hnot := (List.mem_filter.mp hrest).2
  rw [← hsame] at hnot
  simp [hnames member hmember] at hnot

/-- Under a name stands the named member, and under any other key what stood there before. -/
theorem SortedMap.find?_named (hnamed : (named.map Prod.fst).Nodup)
    (hnames : ∀ member ∈ named, member.1 ∈ names) (h : Entries.Ascending members) (key : String) :
    Entries.find? key
        (SortedMap.ofList (named ++ members.filter fun member => !names.contains member.1)).toList =
      if key ∈ names then Entries.find? key named else Entries.find? key members := by
  have hfind := find?_ofList_eq (Entries.nodup_named hnamed hnames h) key
  rw [SortedMap.find?] at hfind
  rw [hfind, Entries.find?_append, Entries.find?_filter (fun key => !names.contains key)]
  by_cases hkey : key ∈ names
  · simp [hkey]
  · have hnone : Entries.find? key named = none := by
      refine Entries.find?_eq_none fun hmem => hkey ?_
      obtain ⟨member, hmember, rfl⟩ := List.mem_map.mp hmem
      exact hnames member hmember
    simp [hkey, hnone]

end Named

/-! ### Content -/

namespace MessageContent

/-- Message content is encoded as what it was decoded from. -/
theorem toJson_of_ofJson? {raw : Json} {content : MessageContent} (hraw : raw.Ordered)
    (h : ofJson? raw = some content) : content.toJson = raw := by
  cases hraw with
  | @object members hascending _ =>
      simp only [ofJson?, Option.bind_eq_bind, Option.bind_eq_some_iff] at h
      obtain ⟨msgtype, ⟨kind, hkind, hmsgtype⟩, body, ⟨text, htext, hbody⟩, h⟩ := h
      obtain rfl := Json.text?_eq_some_iff.mp hmsgtype
      obtain rfl := Json.text?_eq_some_iff.mp hbody
      cases h
      have hextra : (fun member : String × Json => member.1 != "msgtype" && member.1 != "body") =
          fun member => !(["msgtype", "body"].contains member.1) := by
        funext member
        rw [Bool.eq_iff_iff]
        simp
      rw [toJson, SortedMap.toList_ofList (Entries.ascending_filter hascending), hextra,
        Json.ofMembers]
      have hsame : SortedMap.ofList ([("msgtype", Json.string msgtype), ("body", .string body)] ++
          members.filter fun member => !(["msgtype", "body"].contains member.1)) =
            ⟨members, hascending⟩ := by
        refine SortedMap.ext_find? fun key => ?_
        rw [SortedMap.find?, SortedMap.find?_named (by simp) (by simp) hascending]
        by_cases hfirst : key = "msgtype"
        · subst hfirst
          simp [SortedMap.find?, Entries.find?, hkind]
        · by_cases hsecond : key = "body"
          · subst hsecond
            simp [SortedMap.find?, Entries.find?, htext]
          · simp [SortedMap.find?, hfirst, hsecond]
      rw [hsame]
  | _ => cases h

end MessageContent

namespace Membership

/-- A membership is told by its name. -/
theorem ofJson?_name (membership : Membership) :
    ofJson? (.string membership.name) = some membership := by
  cases membership <;> rfl

end Membership

namespace MemberContent

variable {content : MemberContent} {members : List (String × Json)}

/-- The members for what the record names. -/
def namedMembers (content : MemberContent) : List (String × Json) :=
  [("membership", .string content.membership.name)] ++
    textMember "displayname" content.displayname ++ textMember "avatar_url" content.avatarUrl

theorem nodup_namedMembers (content : MemberContent) :
    (content.namedMembers.map Prod.fst).Nodup := by
  cases hname : content.displayname <;> cases havatar : content.avatarUrl <;>
    simp [namedMembers, textMember, hname, havatar]

theorem mem_named_of_namedMembers (content : MemberContent) :
    ∀ member ∈ content.namedMembers, member.1 ∈ named := by
  cases hname : content.displayname <;> cases havatar : content.avatarUrl <;>
    simp [namedMembers, textMember, named, hname, havatar]

theorem ordered_of_namedMembers (content : MemberContent) :
    ∀ member ∈ content.namedMembers, member.2.Ordered := by
  cases hname : content.displayname <;> cases havatar : content.avatarUrl <;>
    simp [namedMembers, textMember, hname, havatar, Json.Ordered.string]

/-- What is found among the named members: the membership, and the texts that are there. -/
theorem find?_namedMembers (content : MemberContent) :
    Entries.find? "membership" content.namedMembers = some (.string content.membership.name) ∧
      Entries.find? "displayname" content.namedMembers = content.displayname.map .string ∧
      Entries.find? "avatar_url" content.namedMembers = content.avatarUrl.map .string := by
  cases hname : content.displayname <;> cases havatar : content.avatarUrl <;>
    simp [namedMembers, textMember, Entries.find?, hname, havatar]

/-- What is encoded, if the other members are those that the record does not name. -/
theorem toJson_of_extra (hascending : Entries.Ascending members)
    (hextra : content.extra = .ofList (members.filter fun member => !named.contains member.1)) :
    content.toJson = .ofMembers (content.namedMembers ++
      members.filter fun member => !named.contains member.1) := by
  rw [toJson, hextra, SortedMap.toList_ofList (Entries.ascending_filter hascending)]
  rfl

theorem optionalText?_of_find? {key : String} {text : Option String}
    (h : Entries.find? key members = text.map .string) : optionalText? key members = some text := by
  rw [optionalText?, h]
  cases text <;> rfl

/-- Content is decoded from members in which its named ones stand under their names and its others
under theirs. -/
theorem ofJson?_of_find? (hascending : Entries.Ascending members)
    (hnamed : ∀ key ∈ named, Entries.find? key members = Entries.find? key content.namedMembers)
    (hextra : ∀ key, content.extra.find? key =
      if key ∈ named then none else Entries.find? key members) :
    ofJson? (.object members) = some content := by
  obtain ⟨hfirst, hsecond, hthird⟩ := content.find?_namedMembers
  have hmembership : (Entries.find? "membership" members).bind Membership.ofJson? =
      some content.membership := by
    rw [hnamed "membership" (by decide), hfirst]
    exact content.membership.ofJson?_name
  have hname : optionalText? "displayname" members = some content.displayname :=
    optionalText?_of_find? ((hnamed "displayname" (by decide)).trans hsecond)
  have havatar : optionalText? "avatar_url" members = some content.avatarUrl :=
    optionalText?_of_find? ((hnamed "avatar_url" (by decide)).trans hthird)
  have hrest : SortedMap.ofList (members.filter fun member => !named.contains member.1) =
      content.extra := by
    refine SortedMap.ext_find? fun key => ?_
    rw [SortedMap.find?_ofList_eq (Entries.ascending_filter hascending).nodup_keys,
      Entries.find?_filter (fun key => !named.contains key), hextra]
    by_cases hkey : key ∈ named <;> simp [hkey]
  simp only [ofJson?, hmembership, hname, havatar, hrest]
  rfl

/-- Membership content is decoded again from what it is encoded as, though that need not be what it
was decoded from. -/
theorem ofJson?_toJson {raw : Json} (hraw : raw.Ordered) (h : ofJson? raw = some content) :
    ofJson? content.toJson = some content ∧ content.toJson.Ordered := by
  cases hraw with
  | @object members hascending hmembers =>
      simp only [ofJson?, Option.bind_eq_bind, Option.bind_eq_some_iff] at h
      obtain ⟨membership, -, displayname, -, avatarUrl, -, h⟩ := h
      have hextra : content.extra =
          .ofList (members.filter fun member => !named.contains member.1) := by
        cases h
        rfl
      have hothers : Entries.Ascending
          (members.filter fun member => !named.contains member.1) :=
        Entries.ascending_filter hascending
      have hwritten := toJson_of_extra hascending hextra
      have hfind := SortedMap.find?_named content.nodup_namedMembers
        content.mem_named_of_namedMembers hascending
      constructor
      · rw [hwritten]
        refine ofJson?_of_find? (SortedMap.ascending _) ?_ ?_
        · intro key hkey
          rw [hfind, if_pos hkey]
        · intro key
          rw [hfind, hextra, SortedMap.find?_ofList_eq hothers.nodup_keys,
            Entries.find?_filter (fun key => !named.contains key)]
          by_cases hkey : key ∈ named <;> simp [hkey]
      · rw [hwritten]
        refine Json.ordered_ofMembers fun member hmem => ?_
        rcases List.mem_append.mp hmem with hmem | hmem
        · exact content.ordered_of_namedMembers member hmem
        · exact hmembers member (List.mem_filter.mp hmem).1
  | _ => cases h

end MemberContent

namespace Content

/-- Content is decoded to the same when it has been encoded, and what it is encoded as is
ordered. -/
theorem ofJson_toJson (eventType : String) {raw : Json} (hraw : raw.Ordered) :
    ofJson eventType (ofJson eventType raw).toJson = ofJson eventType raw ∧
      (ofJson eventType raw).toJson.Ordered := by
  have hother : roomMember ≠ roomMessage := by decide
  by_cases hmessage : eventType = roomMessage
  · subst hmessage
    cases hshape : MessageContent.ofJson? raw with
    | none => simp [ofJson, toJson, hshape, hraw]
    | some content =>
        simp [ofJson, toJson, hshape, MessageContent.toJson_of_ofJson? hraw hshape, hraw]
  · by_cases hmember : eventType = roomMember
    · subst hmember
      cases hshape : MemberContent.ofJson? raw with
      | none => simp [ofJson, toJson, hother, hshape, hraw]
      | some content =>
          obtain ⟨hagain, hordered⟩ := MemberContent.ofJson?_toJson hraw hshape
          simp [ofJson, toJson, hother, hshape, hagain, hordered]
    · simp [ofJson, toJson, hmember, hmessage, hraw]

end Content

/-! ### Records -/

namespace Json

theorem present_nil : present [] = [] := rfl

theorem present_cons (name : String) (value : Option Json) (rest : List (String × Option Json)) :
    present ((name, value) :: rest) =
      (value.map fun json => (name, json)).toList ++ present rest := by
  cases value <;> rfl

end Json

/-- A whole number of 64 bits is read back. -/
theorem Decoder.int64_ofInt {value : Int} (h : Number.fitsSigned value = true) :
    Decoder.ofJson int64 (.ofInt value) = some value := by
  simp only [Number.fitsSigned, Bool.and_eq_true, decide_eq_true_eq] at h
  exact if_pos h

/-- Only numbers of 64 bits are decoded. -/
theorem Decoder.fitsSigned_of_int64 {document : Document} {value : Int}
    (h : int64 document = some value) : Number.fitsSigned value = true := by
  simp only [Number.fitsSigned, Bool.and_eq_true, decide_eq_true_eq]
  unfold int64 integer at h
  split at h
  · obtain ⟨hfits, hsame⟩ := Option.ite_none_right_eq_some.mp h
    cases hsame
    exact hfits
  · obtain ⟨hfits, hsame⟩ := Option.ite_none_right_eq_some.mp h
    cases hsame
    exact hfits
  · cases h

namespace Unsigned

/-- What decoding sees to: the replaced content is ordered and not null, and the age fits. -/
structure WellFormed (unsigned : Unsigned) : Prop where
  prevContent : ∀ value, unsigned.prevContent = some value → value.Ordered ∧ value ≠ .null
  age : ∀ age, unsigned.age = some age → Number.fitsSigned age = true

/-- The fields as they are written. -/
def written (unsigned : Unsigned) : List (String × Option Json) :=
  [("prev_content", unsigned.prevContent), ("prev_sender", unsigned.prevSender.map .string),
    ("replaces_state", unsigned.replacesState.map .string), ("age", unsigned.age.map .ofInt),
    ("transaction_id", unsigned.transactionId.map .string)]

theorem toJson_eq (unsigned : Unsigned) :
    unsigned.toJson = Json.ofMembers (Json.present unsigned.written) := by
  simp [toJson, written, Json.present_cons, Json.present_nil, Function.comp_def]

/-- What is attached to an event is read back. -/
theorem decode_toJson {unsigned : Unsigned} (h : unsigned.WellFormed) :
    Decoder.ofJson decode unsigned.toJson = some unsigned := by
  obtain ⟨fields, hfields, hget⟩ := Document.fields?_ofRecord
    ["prev_content", "prev_sender", "replaces_state", "age", "transaction_id"] unsigned.written rfl
    (by decide)
  have hprevContent : fields.optional "prev_content" Decoder.json = some unsigned.prevContent :=
    Fields.optional_of_get? id (hget _ _ (by simp [written])) fun value hvalue =>
      ⟨Document.toJson?_ofJson (h.prevContent value hvalue).1, (h.prevContent value hvalue).2⟩
  have hprevSender : fields.optional "prev_sender" Decoder.text = some unsigned.prevSender :=
    Fields.optional_text_of_get? (hget _ _ (by simp [written]))
  have hreplacesState : fields.optional "replaces_state" Decoder.text =
      some unsigned.replacesState :=
    Fields.optional_text_of_get? (hget _ _ (by simp [written]))
  have hage : fields.optional "age" Decoder.int64 = some unsigned.age :=
    Fields.optional_of_get? .ofInt (hget _ _ (by simp [written])) fun age hfound =>
      ⟨Decoder.int64_ofInt (h.age age hfound), Json.noConfusion⟩
  have htransaction : fields.optional "transaction_id" Decoder.text =
      some unsigned.transactionId :=
    Fields.optional_text_of_get? (hget _ _ (by simp [written]))
  rw [Decoder.ofJson, decode, toJson_eq, hfields]
  simp only [Option.bind_eq_bind, Option.bind_some, hprevContent, hprevSender, hreplacesState, hage,
    htransaction]

/-- What is decoded from a plain document is well formed. -/
theorem wellFormed_of_decode {document : Document} {unsigned : Unsigned} (hplain : document.Plain)
    (h : decode document = some unsigned) : unsigned.WellFormed := by
  simp only [decode, Option.bind_eq_bind, Option.bind_eq_some_iff] at h
  obtain ⟨fields, hfields, prevContent, hprevContent, prevSender, -, replacesState, -, age, hage,
    transactionId, -, h⟩ := h
  cases h
  constructor
  case prevContent =>
    rintro value rfl
    obtain ⟨written, hget, hnull, hread⟩ := Fields.optional_eq_some_some hprevContent
    have hwritten := hplain.of_get? hfields hget
    exact ⟨Document.ordered_of_toJson? hread, hwritten.ne_null hnull hread⟩
  case age =>
    rintro value rfl
    obtain ⟨written, -, -, hread⟩ := Fields.optional_eq_some_some hage
    exact Decoder.fitsSigned_of_int64 hread

/-- Nothing attached is well formed. -/
theorem wellFormed_empty : Unsigned.empty.WellFormed := ⟨nofun, nofun⟩

end Unsigned

namespace Event

/-- What decoding sees to: the time stamp fits, the content is decoded, and what is attached is well
formed. -/
structure WellFormed (event : Event) : Prop where
  originServerTs : Number.fitsSigned event.originServerTs = true
  content : ∃ raw : Json, raw.Ordered ∧ event.content = .ofJson event.eventType raw
  unsigned : event.unsigned.WellFormed

/-- The fields as they are written. -/
def written (event : Event) : List (String × Option Json) :=
  [("event_id", some (.string event.eventId)), ("type", some (.string event.eventType)),
    ("sender", some (.string event.sender)),
    ("room_id", if event.roomId = "" then none else some (.string event.roomId)),
    ("state_key", event.stateKey.map .string),
    ("origin_server_ts", some (.ofInt event.originServerTs)),
    ("content", some event.content.toJson), ("redacts", event.redacts.map .string),
    ("unsigned", some event.unsigned.toJson)]

theorem toJson_eq (event : Event) : event.toJson = Json.ofMembers (Json.present event.written) := by
  by_cases hroom : event.roomId = "" <;>
    simp [toJson, written, Json.present_cons, Json.present_nil, Function.comp_def, hroom]

/-- A well-formed event is decoded from its wire form. -/
theorem decode_toJson_of_wellFormed {event : Event} (h : event.WellFormed) :
    Decoder.ofJson decode event.toJson = some event := by
  obtain ⟨raw, hraw, hcontent⟩ := h.content
  obtain ⟨hagain, hordered⟩ := Content.ofJson_toJson event.eventType hraw
  rw [← hcontent] at hagain hordered
  obtain ⟨fields, hfields, hget⟩ :=
    Document.fields?_ofRecord fieldNames event.written rfl (by decide)
  have heventId : fields.orElse "event_id" Decoder.text "" = some event.eventId :=
    Fields.orElse_of_written (hget _ (some (.string event.eventId)) (by simp [written])) rfl
  have heventType : fields.required "type" Decoder.text = some event.eventType := by
    rw [Fields.required, hget _ (some (.string event.eventType)) (by simp [written])]
    rfl
  have hsender : fields.orElse "sender" Decoder.text "" = some event.sender :=
    Fields.orElse_of_written (hget _ (some (.string event.sender)) (by simp [written])) rfl
  have hroomId : fields.orElse "room_id" Decoder.text "" = some event.roomId :=
    Fields.orElse_text_of_get? (hget _ _ (by simp [written]))
  have hstateKey : fields.optional "state_key" Decoder.text = some event.stateKey :=
    Fields.optional_text_of_get? (hget _ _ (by simp [written]))
  have htime : fields.orElse "origin_server_ts" Decoder.int64 0 = some event.originServerTs :=
    Fields.orElse_of_written (hget _ (some (.ofInt event.originServerTs)) (by simp [written]))
      (Decoder.int64_ofInt h.originServerTs)
  have hwritten : fields.orElse "content" Decoder.json .null = some event.content.toJson :=
    Fields.orElse_of_written (hget _ (some event.content.toJson) (by simp [written]))
      (Document.toJson?_ofJson hordered)
  have hredacts : fields.optional "redacts" Decoder.text = some event.redacts :=
    Fields.optional_text_of_get? (hget _ _ (by simp [written]))
  have hunsigned : fields.orElse "unsigned" Unsigned.decode .empty = some event.unsigned :=
    Fields.orElse_of_written (hget _ (some event.unsigned.toJson) (by simp [written]))
      (Unsigned.decode_toJson h.unsigned)
  rw [Decoder.ofJson, decode, toJson_eq, hfields]
  simp only [Option.bind_eq_bind, Option.bind_some, heventId, heventType, hsender, hroomId,
    hstateKey, htime, hwritten, hredacts, hunsigned, hagain]

/-- What is decoded from a plain document is well formed. -/
theorem wellFormed_of_decode {document : Document} {event : Event} (hplain : document.Plain)
    (h : decode document = some event) : event.WellFormed := by
  simp only [decode, Option.bind_eq_bind, Option.bind_eq_some_iff] at h
  obtain ⟨fields, hfields, eventId, -, eventType, -, sender, -, roomId, -, stateKey, -, time, htime,
    raw, hraw, redacts, -, unsigned, hunsigned, h⟩ := h
  cases h
  constructor
  case originServerTs =>
    rcases Fields.orElse_eq_some_iff.mp htime with ⟨-, rfl⟩ | ⟨written, -, hread⟩
    · rfl
    · exact Decoder.fitsSigned_of_int64 hread
  case content =>
    rcases Fields.orElse_eq_some_iff.mp hraw with ⟨-, rfl⟩ | ⟨written, -, hread⟩
    · exact ⟨.null, .null, rfl⟩
    · exact ⟨raw, Document.ordered_of_toJson? hread, rfl⟩
  case unsigned =>
    rcases Fields.orElse_eq_some_iff.mp hunsigned with ⟨-, rfl⟩ | ⟨written, hget, hread⟩
    · exact Unsigned.wellFormed_empty
    · exact Unsigned.wellFormed_of_decode (hplain.of_get? hfields hget) hread

/-- An event that is decoded, from a text or from a value, is decoded again from its wire form.  So
from the first encoding on, encoding what is decoded changes nothing. -/
theorem decode_toJson_of_decode {event : Event}
    (h : (∃ text, Decoder.ofText decode text = some event) ∨
      ∃ value, Decoder.ofJson decode value = some event) :
    Decoder.ofJson decode event.toJson = some event ∧
      (Decoder.ofJson decode event.toJson).map toJson = some event.toJson := by
  have hevent : event.WellFormed := by
    rcases h with ⟨text, h⟩ | ⟨value, h⟩
    · obtain ⟨document, hread, hdecode⟩ := Option.bind_eq_some_iff.mp h
      exact wellFormed_of_decode (Document.plain_of_read? hread) hdecode
    · exact wellFormed_of_decode (Document.plain_ofJson value) h
  have hsame := decode_toJson_of_wellFormed hevent
  exact ⟨hsame, by rw [hsame, Option.map_some]⟩

/-- A membership event as an array of its fields, with a membership nobody knows, explicit nulls,
and what is attached as an array as well. -/
def listed : Json :=
  .array [.string "$1", .string "m.room.member", .string "@user:hs", .string "",
    .string "@bot:hs", .ofInt 1000,
    .object [("avatar_url", .null), ("membership", .string "lurk"), ("reason", .null)], .null,
    .array [.null, .string "@admin:hs"]]

/-- The event is decoded again from its wire form, which is not what it was decoded from. -/
theorem decode_toJson_listed :
    ∃ event, Decoder.ofJson decode listed = some event ∧
      event.toJson = .object
        [("content", .object [("membership", .string "unknown"), ("reason", .null)]),
          ("event_id", .string "$1"), ("origin_server_ts", .ofInt 1000),
          ("sender", .string "@user:hs"), ("state_key", .string "@bot:hs"),
          ("type", .string "m.room.member"),
          ("unsigned", .object [("prev_sender", .string "@admin:hs")])] ∧
      Decoder.ofJson decode event.toJson = some event := by
  have hdecoded : ∃ event, Decoder.ofJson decode listed = some event ∧
      event.toJson = .object
        [("content", .object [("membership", .string "unknown"), ("reason", .null)]),
          ("event_id", .string "$1"), ("origin_server_ts", .ofInt 1000),
          ("sender", .string "@user:hs"), ("state_key", .string "@bot:hs"),
          ("type", .string "m.room.member"),
          ("unsigned", .object [("prev_sender", .string "@admin:hs")])] := ⟨_, rfl, rfl⟩
  obtain ⟨event, hevent, hwire⟩ := hdecoded
  exact ⟨event, hevent, hwire, (decode_toJson_of_decode (.inr ⟨listed, hevent⟩)).1⟩

end Event

end BotHost
