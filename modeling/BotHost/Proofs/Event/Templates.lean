/-
# Templates and received events

A template restricts a passive command to the events of which it is a part.  It is compared with the
wire form of the decoded event and not with what was received, and decoding forgets some of what it
reads: members under names that the records of an event and of what is attached to it do not have,
absent fields that are written as null, an empty room, and the array form of what is attached.

`Event.keeps` tells which members of a template are spared.  If a message was received as an object,
and a template is a structural subset of that object, the template lets the decoded event through
exactly if all its members are spared: `PassiveCommand.accepts_iff_keeps`.
-/

import BotHost.Proofs.Event.RoundTrip
import BotHost.Proofs.Json.Subsets
import BotHost.Proofs.Sync.Wire

namespace BotHost

/-! ### Members of a written object -/

/-- Of the values that are listed under a key, a map has the last one. -/
theorem SortedMap.find?_ofList_reverse {κ α : Type} [KeyOrder κ] [DecidableEq κ]
    (entries : List (κ × α)) (key : κ) :
    (ofList entries).find? key = Entries.find? key entries.reverse := by
  induction entries using List.reverseRecOn with
  | nil => rfl
  | append_singleton entries entry ih =>
      have hlast : ofList (entries ++ [entry]) = (ofList entries).insert entry.1 entry.2 := by
        simp [ofList]
      rw [hlast, find?_insert, ih, List.reverse_append]
      rfl

theorem Fields.get?_eq_find? (fields : Fields) (name : String) :
    fields.get? name = Entries.find? name fields := by
  induction fields with
  | nil => rfl
  | cons field rest ih =>
      rw [Entries.find?, ← ih]
      by_cases hname : field.1 = name <;> simp [get?, hname]

namespace Document

variable {document : Document} {received : List (String × Json)} {names : List String}
  {fields : Fields} {name : String} {value : Json}

theorem toMembers?_eq_mapM (members : List (String × Document)) :
    toMembers? members = members.mapM fun (key, item) => (toJson? item).map (key, ·) := by
  induction members with
  | nil => rfl
  | cons member rest ih =>
      obtain ⟨key, item⟩ := member
      rw [toMembers?, List.mapM_cons, ← ih]
      cases hitem : toJson? item <;> cases toMembers? rest <;> simp [hitem]

/-- What an object has under a key is the value of the member that is written under it last. -/
theorem member?_of_toJson? (hvalue : document.toJson? = some (.object received))
    (hfound : Entries.find? name received = some value) :
    ∃ written, document.member? name = some written ∧ written.toJson? = some value := by
  cases document with
  | object members =>
      obtain ⟨values, hvalues, hobject⟩ := Option.map_eq_some_iff.mp hvalue
      obtain rfl : (SortedMap.ofList values).toList = received := Json.object.inj hobject
      have hdecoded : Decoder.members Decoder.json (.object members) = some values :=
        (toMembers?_eq_mapM members).symm.trans hvalues
      refine Decoder.member?_of_members hdecoded ?_
      rw [← SortedMap.find?_ofList_reverse]
      exact hfound
  | array items => obtain ⟨_, -, hobject⟩ := Option.map_eq_some_iff.mp hvalue; cases hobject
  | row items => obtain ⟨_, -, hobject⟩ := Option.map_eq_some_iff.mp hvalue; cases hobject
  | _ => cases hvalue

/-- A record finds what an object has under a name of the record. -/
theorem get?_of_toJson? (hvalue : document.toJson? = some (.object received))
    (hfields : document.fields? names = some fields) (hname : name ∈ names)
    (hfound : Entries.find? name received = some value) :
    ∃ written, fields.get? name = some written ∧ written.toJson? = some value := by
  obtain ⟨written, hmember, hwritten⟩ := member?_of_toJson? hvalue hfound
  refine ⟨written, ?_, hwritten⟩
  cases document with
  | object members =>
      rw [fields?] at hfields
      obtain ⟨hdistinct, hfields⟩ := Option.ite_none_right_eq_some.mp hfields
      cases hfields
      rw [Fields.get?_eq_find?,
        ← Entries.mem_iff_find?_of_nodup (distinct_eq_true_iff.mp hdistinct)]
      exact List.mem_filter.mpr
        ⟨List.mem_reverse.mp (Entries.mem_of_find? hmember), by simpa using hname⟩
  | _ => cases hmember

end Document

/-! ### Fields that decoding keeps -/

namespace Decoder

variable {α : Type} {item : Decoder α} {encode : α → Json} {fields : Fields} {name : String}
  {written : Document} {received : Json}

/-- What is decoded says all that was written. -/
def Lossless (item : Decoder α) (encode : α → Json) : Prop :=
  ∀ ⦃document value⦄, item document = some value → document.toJson? = some (encode value)

theorem lossless_text : Lossless text .string := fun document value h => by
  rw [text_eq_some_iff.mp h]
  rfl

theorem lossless_int64 : Lossless int64 .ofInt := fun document value h => by
  unfold int64 integer at h
  split at h
  · obtain ⟨-, hsame⟩ := Option.ite_none_right_eq_some.mp h
    cases hsame
    rfl
  · obtain ⟨-, hsame⟩ := Option.ite_none_right_eq_some.mp h
    cases hsame
    rfl
  · cases h

theorem lossless_json : Lossless json id := fun _ _ h => h

/-- A field that has to be there is encoded as what was received. -/
theorem Lossless.required (hitem : Lossless item encode) {value : α}
    (h : fields.required name item = some value) (hget : fields.get? name = some written)
    (hreceived : written.toJson? = some received) : encode value = received := by
  rw [Fields.required, hget] at h
  exact Option.some.inj ((hitem h).symm.trans hreceived)

/-- A field with a default that is written is encoded as what was received. -/
theorem Lossless.orElse (hitem : Lossless item encode) {value default : α}
    (h : fields.orElse name item default = some value) (hget : fields.get? name = some written)
    (hreceived : written.toJson? = some received) : encode value = received := by
  rcases Fields.orElse_eq_some_iff.mp h with ⟨habsent, -⟩ | ⟨document, hfound, hread⟩
  · rw [hget] at habsent
    cases habsent
  · obtain rfl := Option.some.inj (hget.symm.trans hfound)
    exact Option.some.inj ((hitem hread).symm.trans hreceived)

/-- A field that may be absent is encoded as what was received, unless it was received as null. -/
theorem Lossless.optional (hitem : Lossless item encode) {value : Option α}
    (hnull : ∀ found, value = some found → encode found ≠ .null)
    (h : fields.optional name item = some value) (hget : fields.get? name = some written)
    (hreceived : written.toJson? = some received) :
    value.map encode = if received.isNull then none else some received := by
  rcases Fields.orElse_eq_some_iff.mp h with ⟨habsent, -⟩ | ⟨document, hfound, hread⟩
  · rw [hget] at habsent
    cases habsent
  obtain rfl := Option.some.inj (hget.symm.trans hfound)
  cases value with
  | none =>
      have hwritten : written = .null := by cases written <;> simp [nullable] at hread ⊢
      subst hwritten
      cases hreceived
      rfl
  | some found =>
      obtain ⟨-, hread⟩ := nullable_eq_some_some_iff.mp hread
      obtain rfl := Option.some.inj ((hitem hread).symm.trans hreceived)
      have hthere : (encode found).isNull = false := by
        cases hencoded : encode found with
        | null => exact absurd hencoded (hnull found rfl)
        | _ => rfl
      rw [hthere]
      rfl

end Decoder

/-! ### Structural subsets of a record -/

namespace Json

variable {stated : List (String × Json)} {value : Json} {record : List (String × Option Json)}

/-- The value of a field that is there, if it has the given structural subset. -/
def meets (value : Json) (record : List (String × Option Json)) (key : String) : Bool :=
  (Entries.find? key record).join.any value.leftEquals

theorem meets_of_mem {key : String} {field : Option Json} (hrecord : (record.map Prod.fst).Nodup)
    (hmem : (key, field) ∈ record) : value.meets record key = field.any value.leftEquals := by
  rw [meets, (Entries.mem_iff_find?_of_nodup hrecord key field).mp hmem, Option.join_some]

theorem meets_of_notMem {key : String} (hkey : key ∉ record.map Prod.fst) :
    value.meets record key = false := by
  rw [meets, Entries.find?_eq_none hkey]
  rfl

/-- A template is a structural subset of a written record exactly if the record has counterparts of
all its members. -/
theorem leftEquals_present_iff (hrecord : (record.map Prod.fst).Nodup) :
    (object stated).leftEquals (ofMembers (present record)) = true ↔
      ∀ member ∈ stated, member.2.meets record member.1 = true := by
  rw [ofMembers, leftEquals, leftEqualsMembers_iff]
  refine forall₂_congr fun member _ => ?_
  have hfind := SortedMap.find?_ofList_eq (nodup_present hrecord) member.1
  rw [SortedMap.find?] at hfind
  rw [hfind]
  by_cases hkey : member.1 ∈ record.map Prod.fst
  · obtain ⟨⟨key, field⟩, hfield, hsame⟩ := List.mem_map.mp hkey
    obtain rfl : key = member.1 := hsame
    rw [find?_present hrecord hfield, meets_of_mem hrecord hfield]
    cases field <;> simp
  · rw [meets_of_notMem hkey, Entries.find?_eq_none fun hpresent => hkey ?_]
    · simp
    · obtain ⟨⟨key, value⟩, hmem, hsame⟩ := List.mem_map.mp hpresent
      exact List.mem_map.mpr ⟨_, mem_present.mp hmem, hsame⟩

end Json

/-! ### What is attached -/

namespace Unsigned

variable {document : Document} {unsigned : Unsigned} {received stated : List (String × Json)}

/-- The names of the fields of what is attached. -/
def fieldNames : List String :=
  ["prev_content", "prev_sender", "replaces_state", "age", "transaction_id"]

/-- Whether a member that a template states of what is attached is spared: a field of the record,
and not null. -/
def keeps (key : String) (value : Json) : Bool := fieldNames.contains key && !value.isNull

theorem map_fst_written (unsigned : Unsigned) : unsigned.written.map Prod.fst = fieldNames := rfl

theorem nodup_written (unsigned : Unsigned) : (unsigned.written.map Prod.fst).Nodup := by
  simp [written]

/-- Each field is written as it was received, or not at all if it was received as null. -/
theorem written_of_decode (hplain : document.Plain)
    (hvalue : document.toJson? = some (.object received))
    (h : decode document = some unsigned) :
    ∀ field ∈ unsigned.written, ∀ value, Entries.find? field.1 received = some value →
      field.2 = if value.isNull then none else some value := by
  have hcontent := (wellFormed_of_decode hplain h).prevContent
  simp only [decode, Option.bind_eq_bind, Option.bind_eq_some_iff] at h
  obtain ⟨fields, hfields, prevContent, hprevContent, prevSender, hprevSender, replacesState,
    hreplacesState, age, hage, transactionId, htransactionId, h⟩ := h
  cases h
  have hget {name : String} (hname : name ∈ fieldNames) {value : Json}
      (hfound : Entries.find? name received = some value) :=
    Document.get?_of_toJson? hvalue hfields hname hfound
  simp only [written, List.forall_mem_cons]
  refine ⟨fun value hfound => ?_, fun value hfound => ?_, fun value hfound => ?_,
    fun value hfound => ?_, fun value hfound => ?_, List.forall_mem_nil _⟩
  all_goals
    obtain ⟨written, hwritten, hreceived⟩ := hget (by decide) hfound
  · rw [← Decoder.lossless_json.optional (fun found hsame => (hcontent found hsame).2) hprevContent
      hwritten hreceived, Option.map_id_fun, id]
  · exact Decoder.lossless_text.optional (fun _ _ => Json.noConfusion) hprevSender hwritten
      hreceived
  · exact Decoder.lossless_text.optional (fun _ _ => Json.noConfusion) hreplacesState hwritten
      hreceived
  · exact Decoder.lossless_int64.optional (fun _ _ => Json.noConfusion) hage hwritten hreceived
  · exact Decoder.lossless_text.optional (fun _ _ => Json.noConfusion) htransactionId hwritten
      hreceived

/-- A structural subset of what was attached is one of what is written exactly if all its members
are spared. -/
theorem leftEquals_toJson_iff (hplain : document.Plain)
    (hvalue : document.toJson? = some (.object received))
    (h : decode document = some unsigned)
    (hsubset : Json.leftEqualsMembers stated received = true) :
    (Json.object stated).leftEquals unsigned.toJson = true ↔
      ∀ member ∈ stated, keeps member.1 member.2 = true := by
  rw [toJson_eq, Json.leftEquals_present_iff unsigned.nodup_written]
  refine forall₂_congr fun member hmember => ?_
  obtain ⟨value, hfound, hequals⟩ := Json.leftEqualsMembers_iff.mp hsubset member hmember
  by_cases hkey : member.1 ∈ unsigned.written.map Prod.fst
  · obtain ⟨⟨key, field⟩, hfield, hsame⟩ := List.mem_map.mp hkey
    obtain rfl : key = member.1 := hsame
    obtain rfl : field = _ := written_of_decode hplain hvalue h _ hfield value hfound
    have hname : fieldNames.contains member.1 = true := List.contains_iff_mem.mpr hkey
    rw [Json.meets_of_mem unsigned.nodup_written hfield, keeps, hname,
      Json.isNull_of_leftEquals hequals]
    cases value.isNull <;> simp [hequals]
  · have hname : fieldNames.contains member.1 = false := by
      rw [map_fst_written] at hkey
      simpa using hkey
    rw [Json.meets_of_notMem hkey, keeps, hname, Bool.false_and]

/-- Whether a template of what is attached is spared: an object, and all its members are. -/
def keepsAll : Json → Bool
  | .object stated => stated.all fun member => keeps member.1 member.2
  | _ => false

/-- A structural subset of what was attached, as an object or as an array, is one of what is written
exactly if it is spared. -/
theorem leftEquals_toJson_iff_keepsAll {value attached : Json} (hplain : document.Plain)
    (hvalue : document.toJson? = some attached) (h : decode document = some unsigned)
    (hsubset : value.leftEquals attached = true) :
    value.leftEquals unsigned.toJson = keepsAll value := by
  cases value with
  | object stated =>
      cases attached with
      | object received =>
          rw [Bool.eq_iff_iff, leftEquals_toJson_iff hplain hvalue h hsubset, keepsAll,
            List.all_eq_true]
      | _ => cases hsubset
  | _ => rfl

end Unsigned

/-! ### Events -/

namespace Event

variable {document : Document} {event : Event} {received stated : List (String × Json)}

/-- Whether a member that a template states of an event is spared: a field of the record, and not an
empty room, not null for one of the fields that may be absent, and not beyond what is spared of what
is attached. -/
def keeps (key : String) (value : Json) : Bool :=
  if key = "room_id" then value.text? != some ""
  else if key = "state_key" ∨ key = "redacts" then !value.isNull
  else if key = "unsigned" then Unsigned.keepsAll value
  else fieldNames.contains key

theorem nodup_written (event : Event) : (event.written.map Prod.fst).Nodup := by
  simp [written]

/-- The content of a message is encoded as it was received. -/
theorem toJson_content_of_message {raw : Json} (hraw : raw.Ordered) :
    (Content.ofJson roomMessage raw).toJson = raw := by
  cases hshape : MessageContent.ofJson? raw with
  | none => simp [Content.ofJson, Content.toJson, hshape]
  | some content =>
      simp [Content.ofJson, Content.toJson, hshape, MessageContent.toJson_of_ofJson? hraw hshape]

/-- Each field of a message is written as it was received, or not at all if it was received as an
empty room or as null. -/
theorem written_of_decode_message (hvalue : document.toJson? = some (.object received))
    (h : decode document = some event) (htype : event.eventType = roomMessage) :
    ∀ field ∈ event.written, field.1 ≠ "unsigned" →
      ∀ value, Entries.find? field.1 received = some value →
        field.2 = if keeps field.1 value then some value else none := by
  simp only [decode, Option.bind_eq_bind, Option.bind_eq_some_iff] at h
  obtain ⟨fields, hfields, eventId, hid, eventType, heventType, sender, hsender, roomId, hroom,
    stateKey, hkey, time, htime, raw, hraw, redacts, hredacts, unsigned, -, h⟩ := h
  cases h
  obtain rfl : eventType = roomMessage := htype
  have hget {name : String} (hname : name ∈ fieldNames) {value : Json}
      (hfound : Entries.find? name received = some value) :=
    Document.get?_of_toJson? hvalue hfields hname hfound
  simp only [written, List.forall_mem_cons]
  refine ⟨fun _ value hfound => ?eventId, fun _ value hfound => ?eventType,
    fun _ value hfound => ?sender, fun _ value hfound => ?roomId, fun _ value hfound => ?stateKey,
    fun _ value hfound => ?time, fun _ value hfound => ?content, fun _ value hfound => ?redacts,
    fun hname => absurd rfl hname, List.forall_mem_nil _⟩
  all_goals
    obtain ⟨written, hwritten, hreceived⟩ := hget (by decide) hfound
  case eventId =>
    rw [Decoder.lossless_text.orElse hid hwritten hreceived]
    rfl
  case eventType =>
    rw [Decoder.lossless_text.required heventType hwritten hreceived]
    rfl
  case sender =>
    rw [Decoder.lossless_text.orElse hsender hwritten hreceived]
    rfl
  case roomId =>
    obtain rfl := Decoder.lossless_text.orElse hroom hwritten hreceived
    by_cases hempty : roomId = "" <;> simp [keeps, Json.text?, hempty]
  case stateKey =>
    rw [Decoder.lossless_text.optional (fun _ _ => Json.noConfusion) hkey hwritten hreceived]
    cases value <;> rfl
  case time =>
    rw [Decoder.lossless_int64.orElse htime hwritten hreceived]
    rfl
  case content =>
    obtain rfl : raw = value := Decoder.lossless_json.orElse hraw hwritten hreceived
    rw [toJson_content_of_message (Document.ordered_of_toJson? hreceived)]
    rfl
  case redacts =>
    rw [Decoder.lossless_text.optional (fun _ _ => Json.noConfusion) hredacts hwritten hreceived]
    cases value <;> rfl

/-- What is attached is decoded from what was received as attached. -/
theorem unsigned_of_decode {attached : Json} (hplain : document.Plain)
    (hvalue : document.toJson? = some (.object received)) (h : decode document = some event)
    (hfound : Entries.find? "unsigned" received = some attached) :
    ∃ written, written.Plain ∧ written.toJson? = some attached ∧
      Unsigned.decode written = some event.unsigned := by
  simp only [decode, Option.bind_eq_bind, Option.bind_eq_some_iff] at h
  obtain ⟨fields, hfields, _, -, _, -, _, -, _, -, _, -, _, -, _, -, _, -, unsigned, hunsigned,
    h⟩ := h
  cases h
  obtain ⟨written, hwritten, hreceived⟩ :=
    Document.get?_of_toJson? hvalue hfields (by decide) hfound
  rcases Fields.orElse_eq_some_iff.mp hunsigned with ⟨habsent, -⟩ | ⟨document, hget, hread⟩
  · rw [hwritten] at habsent
    cases habsent
  · obtain rfl := Option.some.inj (hwritten.symm.trans hget)
    exact ⟨written, hplain.of_get? hfields hwritten, hreceived, hread⟩

/-- Of a member that a template shares with a received message, the written message has a
counterpart exactly if the member is spared. -/
theorem meets_written_eq_keeps {key : String} {value found : Json} (hplain : document.Plain)
    (hvalue : document.toJson? = some (.object received)) (h : decode document = some event)
    (htype : event.eventType = roomMessage) (hfound : Entries.find? key received = some found)
    (hequals : value.leftEquals found = true) :
    value.meets event.written key = keeps key value := by
  by_cases hname : key ∈ event.written.map Prod.fst
  · obtain ⟨⟨name, field⟩, hfield, hsame⟩ := List.mem_map.mp hname
    obtain rfl : name = key := hsame
    rw [Json.meets_of_mem event.nodup_written hfield]
    by_cases hunsigned : name = "unsigned"
    · subst hunsigned
      obtain ⟨source, hsource, hreceived, hread⟩ := unsigned_of_decode hplain hvalue h hfound
      obtain rfl : field = some event.unsigned.toJson := by simpa [written] using hfield
      exact Unsigned.leftEquals_toJson_iff_keepsAll hsource hreceived hread hequals
    · have hkept : field = if keeps name found then some found else none :=
        written_of_decode_message hvalue h htype _ hfield hunsigned found hfound
      have hsame : keeps name value = keeps name found := by
        simp only [keeps, if_neg hunsigned, Json.text?_of_leftEquals hequals,
          Json.isNull_of_leftEquals hequals]
      rw [hkept, hsame]
      cases keeps name found <;> simp [hequals]
  · have hother : keeps key value = false := by
      have hne : ∀ name ∈ fieldNames, key ≠ name := fun name hmem hsame => hname (hsame ▸ hmem)
      rw [keeps, if_neg (hne _ (by decide)),
        if_neg (not_or.mpr ⟨hne _ (by decide), hne _ (by decide)⟩), if_neg (hne _ (by decide))]
      exact Bool.eq_false_iff.mpr fun hmem => hname (List.contains_iff_mem.mp hmem)
    rw [Json.meets_of_notMem hname, hother]

end Event

namespace PassiveCommand

variable {document : Document} {event : Event} {received stated : List (String × Json)}
  {command : PassiveCommand} {matcher : PassiveMatcher} {template : Json}

/-- A compiled command keeps its template. -/
theorem template_of_compile (h : command.compile = .ok matcher) :
    matcher.template = command.template := by
  unfold compile at h
  split at h
  · cases h
  · cases h
    rfl

/-- A message is received as an object, and the template of a passive command is a structural subset
of that object.  Then the template lets the decoded event through exactly if decoding spares all its
members. -/
theorem accepts_iff_keeps (hplain : document.Plain)
    (hvalue : document.toJson? = some (.object received))
    (hdecode : Event.decode document = some event) (htype : event.eventType = roomMessage)
    (hcompile : command.compile = .ok matcher) (htemplate : command.template = some template)
    (hsubset : template.leftEquals (.object received) = true) :
    matcher.accepts event = true ↔
      ∃ stated, template = .object stated ∧
        ∀ member ∈ stated, Event.keeps member.1 member.2 = true := by
  obtain ⟨stated, rfl, hmembers⟩ := Json.exists_of_leftEquals_object hsubset
  rw [PassiveMatcher.accepts, template_of_compile hcompile, htemplate]
  simp only [Event.toJson_eq, Json.leftEquals_present_iff event.nodup_written, Json.object.injEq,
    exists_eq_left']
  refine forall₂_congr fun member hmember => ?_
  obtain ⟨found, hfound, hequals⟩ := Json.leftEqualsMembers_iff.mp hmembers member hmember
  rw [Event.meets_written_eq_keeps hplain hvalue hdecode htype hfound hequals]

/-- A message that was received with its age and the membership of its reader attached. -/
def aged : List (String × Json) :=
  [("content", .object [("body", .string "ping"), ("msgtype", .string "m.text")]),
    ("event_id", .string "$1"), ("room_id", .string "!room:hs"), ("sender", .string "@user:hs"),
    ("type", .string roomMessage),
    ("unsigned", .object [("age", .ofInt 5), ("membership", .string "join")])]

/-- A command that looks for `ping` in the messages of which a template is a part. -/
def ping (template : List (String × Json)) : PassiveCommand :=
  { name := "ping", pattern := "ping", field := "body", template := some (.object template) }

theorem compile_ping (template : List (String × Json)) :
    ∃ matcher, (ping template).compile = .ok matcher := by
  obtain ⟨pattern, hpattern⟩ : ∃ pattern, Pattern.ofText? "ping" = some pattern :=
    Option.isSome_iff_exists.mp (by decide +kernel)
  refine ⟨⟨"ping", pattern, "body", some (.object template)⟩, ?_⟩
  rw [compile, ping, hpattern]

/-- What decoding makes of the message. -/
def agedEvent : Event :=
  { eventId := "$1", eventType := roomMessage, sender := "@user:hs", roomId := "!room:hs"
    stateKey := none, originServerTs := 0, content := .message (.text "ping"), redacts := none
    unsigned := { Unsigned.empty with age := some 5 } }

theorem decode_aged : Decoder.ofJson Event.decode (.object aged) = some agedEvent := rfl

/-- A part of the message that is spared: its text, its room and its age. -/
def sparedPart : List (String × Json) :=
  [("content", .object [("body", .string "ping")]), ("room_id", .string "!room:hs"),
    ("unsigned", .object [("age", .ofInt 5)])]

/-- The spared part lets the decoded message through. -/
theorem accepts_sparedPart :
    ∃ matcher, (ping sparedPart).compile = .ok matcher ∧ matcher.accepts agedEvent = true := by
  obtain ⟨matcher, hcompile⟩ := compile_ping sparedPart
  have hvalue : (Document.ofJson (.object aged)).toJson? = some (.object aged) := rfl
  refine ⟨matcher, hcompile, (accepts_iff_keeps (Document.plain_ofJson _) hvalue decode_aged rfl
    hcompile rfl ?_).mpr ⟨sparedPart, rfl, ?_⟩⟩
  · decide +kernel
  · decide +kernel

/-- A part of the message that is lost: the membership of its reader. -/
def lostPart : List (String × Json) := [("unsigned", .object [("membership", .string "join")])]

/-- The lost part is a structural subset of the received message and keeps the decoded one out. -/
theorem refuses_lostPart :
    (Json.object lostPart).leftEquals (.object aged) = true ∧
      Decoder.ofJson Event.decode (.object aged) = some agedEvent ∧
      agedEvent.eventType = roomMessage ∧
      ∃ matcher, (ping lostPart).compile = .ok matcher ∧ matcher.accepts agedEvent = false ∧
        matcher.matchEvent? agedEvent = none := by
  obtain ⟨matcher, hcompile⟩ := compile_ping lostPart
  have hrefused : matcher.accepts agedEvent = false := by
    rw [PassiveMatcher.accepts, template_of_compile hcompile]
    decide +kernel
  refine ⟨by decide +kernel, decode_aged, rfl, matcher, hcompile, hrefused, ?_⟩
  rw [PassiveMatcher.matchEvent?, if_neg (by simp [hrefused])]

end PassiveCommand

end BotHost
