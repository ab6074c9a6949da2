/-
# Content keeps what was received

Content that is not decoded stays raw, and the records of messages and memberships keep the members
that they do not name.  So what content is encoded as is what was received, and a field at a path
is the field that was received.

Only the record of a membership forgets something.  All memberships that nobody knows have one
name, a membership that was written as an object is encoded as a text, and a name or an avatar that
was null is absent.  `MemberContent.kept` says member by member what is left.
-/

import BotHost.Proofs.Event.RoundTrip
import BotHost.Proofs.Sync.Wire

namespace BotHost

/-! ### Messages -/

namespace MessageContent

/-- The fields that messages are asked for most can be had from the record as well. -/
theorem member?_of_ofJson? {raw : Json} {content : MessageContent}
    (h : ofJson? raw = some content) :
    raw.member? "msgtype" = some (.string content.msgtype) ∧
      raw.member? "body" = some (.string content.body) := by
  cases raw with
  | object members =>
      simp only [ofJson?, Option.bind_eq_bind, Option.bind_eq_some_iff] at h
      obtain ⟨msgtype, ⟨kind, hkind, hmsgtype⟩, body, ⟨text, htext, hbody⟩, h⟩ := h
      obtain rfl := Json.text?_eq_some_iff.mp hmsgtype
      obtain rfl := Json.text?_eq_some_iff.mp hbody
      cases h
      exact ⟨hkind, htext⟩
  | _ => cases h

end MessageContent

/-! ### Memberships -/

namespace Membership

/-- The memberships that have a name of their own. -/
def names : List String := ["join", "invite", "leave", "ban", "knock"]

/-- The name under which a membership is encoded: its own, if it is a known one. -/
def canonical (text : String) : String := if names.contains text then text else "unknown"

theorem name_ofName (text : String) : (ofName text).name = canonical text := by
  unfold ofName canonical names
  split_ifs <;> simp_all [name]

/-- A membership is named by a text, or by an object whose only member is null. -/
theorem ofJson?_eq_some_iff {value : Json} {membership : Membership} :
    ofJson? value = some membership ↔
      ∃ text, (value = .string text ∨ value = .object [(text, .null)]) ∧
        ofName text = membership := by
  unfold ofJson?
  split
  · simp
  · simp
  · rename_i hstring hobject
    simp only [reduceCtorEq, false_iff, not_exists, not_and]
    rintro text (rfl | rfl)
    · exact absurd rfl (hstring text)
    · exact absurd rfl (hobject text)

end Membership

namespace MemberContent

variable {content : MemberContent} {members : List (String × Json)} {raw : Json} {text : String}

/-- Content as it has to be received to be decoded as that of a membership: it names a membership,
and the name and the avatar of the user are texts if they are there and not null. -/
structure Received (text : String) (raw : Json) : Prop where
  /-- The membership is named by a text, or by an object whose only member is null. -/
  membership : raw.member? "membership" = some (.string text) ∨
    raw.member? "membership" = some (.object [(text, .null)])
  names : ∀ key ∈ ["displayname", "avatar_url"], ∀ value, raw.member? key = some value →
    value = .null ∨ ∃ text, value = .string text

/-- What is kept of a member of such content: of the membership its name, of the name and the avatar
what is not null, and any other member as it is. -/
def keptMember (text key : String) (value : Json) : Option Json :=
  if key = "membership" then some (.string (Membership.canonical text))
  else if key = "displayname" ∨ key = "avatar_url" then
    if value.isNull then none else some value
  else some value

/-- What is kept of such content. -/
def kept (text : String) : Json → Json
  | .object members => .object (Entries.filterMap (keptMember text) members)
  | value => value

theorem received_iff :
    Received text (.object members) ↔
      (Entries.find? "membership" members = some (.string text) ∨
        Entries.find? "membership" members = some (.object [(text, .null)])) ∧
        NamesFit members := by
  constructor
  · rintro ⟨hmembership, hnames⟩
    exact ⟨hmembership, hnames _ (by simp), hnames _ (by simp)⟩
  · rintro ⟨hmembership, hname, havatar⟩
    refine ⟨hmembership, fun key hkey => ?_⟩
    obtain rfl | rfl : key = "displayname" ∨ key = "avatar_url" := by simpa using hkey
    · exact hname
    · exact havatar

/-- What is decoded as the content of a membership was received as such. -/
theorem received_of_ofJson? (h : ofJson? raw = some content) :
    ∃ text, Received text raw ∧ .ofName text = content.membership := by
  cases raw with
  | object members =>
      obtain ⟨hmembership, hnames⟩ := ofJson?_membership_iff.mp ⟨content, h, rfl⟩
      obtain ⟨value, hvalue, hnamed⟩ := Option.bind_eq_some_iff.mp hmembership
      obtain ⟨text, rfl | rfl, hsame⟩ := Membership.ofJson?_eq_some_iff.mp hnamed
      · exact ⟨text, received_iff.mpr ⟨.inl hvalue, hnames⟩, hsame⟩
      · exact ⟨text, received_iff.mpr ⟨.inr hvalue, hnames⟩, hsame⟩
  | _ => cases h

/-- What was received as the content of a membership is decoded as such. -/
theorem Received.exists_ofJson? (h : Received text raw) :
    ∃ content, ofJson? raw = some content ∧ content.membership = .ofName text := by
  cases raw with
  | object members =>
      obtain ⟨hvalue, hnames⟩ := received_iff.mp h
      refine ofJson?_membership_iff.mpr ⟨Option.bind_eq_some_iff.mpr ?_, hnames⟩
      rcases hvalue with hvalue | hvalue
      · exact ⟨_, hvalue, Membership.ofJson?_eq_some_iff.mpr ⟨text, .inl rfl, rfl⟩⟩
      · exact ⟨_, hvalue, Membership.ofJson?_eq_some_iff.mpr ⟨text, .inr rfl, rfl⟩⟩
  | _ => rcases h.membership with h | h <;> cases h

/-- A text that was read is what was there, unless that was null. -/
theorem filter_find?_of_optionalText? {key : String} {read : Option String}
    (h : optionalText? key members = some read) :
    (Entries.find? key members).bind (fun value => if value.isNull then none else some value) =
      read.map .string := by
  unfold optionalText? at h
  split at h <;> cases h <;> simp_all [Json.isNull]

/-- Under each key, the members that the record writes are what is kept of those received. -/
theorem find?_namedMembers_eq (hreceived : Received text (.object members))
    (h : ofJson? (.object members) = some content) {key : String} (hkey : key ∈ named) :
    Entries.find? key content.namedMembers =
      (Entries.find? key members).bind (keptMember text key) := by
  have hmembership : content.membership = .ofName text := by
    obtain ⟨other, hother, hsame⟩ := hreceived.exists_ofJson?
    rw [h] at hother
    cases hother
    exact hsame
  obtain ⟨hfirst, hsecond, hthird⟩ := content.find?_namedMembers
  simp only [ofJson?, Option.bind_eq_bind, Option.bind_eq_some_iff] at h
  obtain ⟨membership, -, displayname, hdisplayname, avatarUrl, havatarUrl, h⟩ := h
  cases h
  obtain rfl | rfl | rfl : key = "membership" ∨ key = "displayname" ∨ key = "avatar_url" := by
    simpa [named] using hkey
  · rw [hfirst, hmembership, Membership.name_ofName]
    rcases (received_iff.mp hreceived).1 with hvalue | hvalue <;> rw [hvalue] <;> rfl
  · rw [hsecond, ← filter_find?_of_optionalText? hdisplayname]
    rfl
  · rw [hthird, ← filter_find?_of_optionalText? havatarUrl]
    rfl

/-- The content of a membership is encoded as what is kept of it. -/
theorem toJson_of_ofJson? (hraw : raw.Ordered) (hreceived : Received text raw)
    (h : ofJson? raw = some content) : content.toJson = kept text raw := by
  cases hraw with
  | @object members hascending _ =>
      have hextra : content.extra =
          .ofList (members.filter fun member => !named.contains member.1) := by
        simp only [ofJson?, Option.bind_eq_bind, Option.bind_eq_some_iff] at h
        obtain ⟨membership, -, displayname, -, avatarUrl, -, h⟩ := h
        cases h
        rfl
      have hsame : SortedMap.ofList (content.namedMembers ++
          members.filter fun member => !named.contains member.1) =
            (⟨members, hascending⟩ : SortedMap String Json).filterMap (keptMember text) := by
        refine SortedMap.ext_find? fun key => ?_
        rw [SortedMap.find?_filterMap, SortedMap.find?, SortedMap.find?_named
          content.nodup_namedMembers content.mem_named_of_namedMembers hascending]
        by_cases hkey : key ∈ named
        · rw [if_pos hkey, find?_namedMembers_eq hreceived h hkey]
          rfl
        · -- A member that the record does not name is kept as it is.
          have hother : keptMember text key = some := by
            funext value
            have hkeys : key ≠ "membership" ∧ key ≠ "displayname" ∧ key ≠ "avatar_url" := by
              simpa [named] using hkey
            simp [keptMember, hkeys]
          rw [if_neg hkey, hother]
          exact (Option.bind_fun_some _).symm
      rw [toJson_of_extra hascending hextra, Json.ofMembers, hsame]
      rfl
  | _ => cases h

/-- A field of what is kept is what is kept of the member at its key. -/
theorem at?_kept (hraw : raw.Ordered) (hreceived : Received text raw) (key : String) :
    (kept text raw).at? key = (raw.member? key).bind (keptMember text key) := by
  cases hraw with
  | object hascending _ => exact Entries.find?_filterMap (keptMember text) hascending key
  | _ => rcases hreceived.membership with h | h <;> cases h

end MemberContent

/-! ### Paths -/

namespace Json

theorem resolve_of_split {path key : String} {keys : List String}
    (h : Path.split path = key :: keys) (value : Json) :
    value.resolve path = (value.at? key).bind (·.walk keys) := by
  rw [resolve, h]
  rfl

/-- A member of an object is the field at its key. -/
theorem at?_of_member? {value found : Json} {key : String} (h : value.member? key = some found) :
    value.at? key = some found := by
  cases value with
  | object members => exact h
  | _ => cases h

end Json

namespace Content

theorem ofJson_eq_message_iff {eventType : String} {raw : Json} {content : MessageContent} :
    ofJson eventType raw = .message content ↔
      eventType = roomMessage ∧ MessageContent.ofJson? raw = some content := by
  unfold ofJson
  split_ifs with hmessage hmember
  · cases MessageContent.ofJson? raw <;> simp [hmessage]
  · cases MemberContent.ofJson? raw <;> simp [hmessage]
  · simp [hmessage]

theorem ofJson_eq_member_iff {eventType : String} {raw : Json} {content : MemberContent} :
    ofJson eventType raw = .member content ↔
      eventType = roomMember ∧ MemberContent.ofJson? raw = some content := by
  have hother : roomMessage ≠ roomMember := by decide
  unfold ofJson
  split_ifs with hmessage hmember
  · cases MessageContent.ofJson? raw <;> simp [hmessage, hother]
  · cases MemberContent.ofJson? raw <;> simp [hmember]
  · simp [hmember]

theorem raw_of_ofJson_eq_generic {eventType : String} {raw value : Json}
    (h : ofJson eventType raw = .generic value) : value = raw := by
  unfold ofJson at h
  split_ifs at h
  · cases hshape : MessageContent.ofJson? raw <;> simp_all
  · cases hshape : MemberContent.ofJson? raw <;> simp_all
  · exact (generic.inj h).symm

/-- A field of decoded content is the field of what the content is encoded as, also where it is
taken from the record. -/
theorem get_eq_resolve {eventType : String} {raw : Json} (hraw : raw.Ordered) (path : String) :
    (ofJson eventType raw).get path = (ofJson eventType raw).toJson.resolve path := by
  cases hcontent : ofJson eventType raw with
  | message content =>
      obtain ⟨-, hdecoded⟩ := ofJson_eq_message_iff.mp hcontent
      obtain ⟨hmsgtype, hbody⟩ := MessageContent.member?_of_ofJson? hdecoded
      have hsame := MessageContent.toJson_of_ofJson? hraw hdecoded
      rw [get, toJson]
      split_ifs with hfirst hsecond
      · subst hfirst
        rw [hsame, Json.resolve_of_split (by decide +kernel : Path.split "body" = ["body"]),
          Json.at?_of_member? hbody]
        rfl
      · subst hsecond
        rw [hsame, Json.resolve_of_split (by decide +kernel : Path.split "msgtype" = ["msgtype"]),
          Json.at?_of_member? hmsgtype]
        rfl
      · rfl
  | member content => rfl
  | generic value => rfl

/-- Whatever the type and the content of an event, the content is encoded as what was received, and
the field at a path is the field that was received.  The only exception is the content of a
membership that is decoded as such: its membership is encoded by the name under which it is known,
and a name or an avatar that is null is left out. -/
theorem keeps_received (eventType : String) {raw : Json} (hraw : raw.Ordered) :
    ((∃ content, ofJson eventType raw = .member content) ↔
      eventType = roomMember ∧ ∃ text, MemberContent.Received text raw) ∧
    (∀ text, eventType = roomMember → MemberContent.Received text raw →
      (ofJson eventType raw).toJson = MemberContent.kept text raw ∧
      (∀ path, (ofJson eventType raw).get path = (MemberContent.kept text raw).resolve path) ∧
      ∀ path key keys, Path.split path = key :: keys →
        (ofJson eventType raw).get path =
          ((raw.member? key).bind (MemberContent.keptMember text key)).bind (·.walk keys)) ∧
    ((∀ content, ofJson eventType raw ≠ .member content) →
      (ofJson eventType raw).toJson = raw ∧
        ∀ path, (ofJson eventType raw).get path = raw.resolve path) := by
  refine ⟨?_, fun text htype hreceived => ?_, fun hother => ?_⟩
  · constructor
    · rintro ⟨content, hcontent⟩
      obtain ⟨htype, hdecoded⟩ := ofJson_eq_member_iff.mp hcontent
      obtain ⟨text, hreceived, -⟩ := MemberContent.received_of_ofJson? hdecoded
      exact ⟨htype, text, hreceived⟩
    · rintro ⟨htype, text, hreceived⟩
      obtain ⟨content, hdecoded, -⟩ := hreceived.exists_ofJson?
      exact ⟨content, ofJson_eq_member_iff.mpr ⟨htype, hdecoded⟩⟩
  · obtain ⟨content, hdecoded, -⟩ := hreceived.exists_ofJson?
    have hwire : (ofJson eventType raw).toJson = MemberContent.kept text raw := by
      rw [ofJson_eq_member_iff.mpr ⟨htype, hdecoded⟩]
      exact MemberContent.toJson_of_ofJson? hraw hreceived hdecoded
    have hget (path : String) :
        (ofJson eventType raw).get path = (MemberContent.kept text raw).resolve path := by
      rw [get_eq_resolve hraw, hwire]
    refine ⟨hwire, hget, fun path key keys hpath => ?_⟩
    rw [hget, Json.resolve_of_split hpath, MemberContent.at?_kept hraw hreceived]
  · have hwire : (ofJson eventType raw).toJson = raw := by
      cases hcontent : ofJson eventType raw with
      | message content =>
          obtain ⟨-, hdecoded⟩ := ofJson_eq_message_iff.mp hcontent
          exact MessageContent.toJson_of_ofJson? hraw hdecoded
      | member content => exact absurd hcontent (hother content)
      | generic value => exact raw_of_ofJson_eq_generic hcontent
    exact ⟨hwire, fun path => by rw [get_eq_resolve hraw, hwire]⟩

/-- The content of a membership that nobody knows, written as an object, without an avatar. -/
def lurking : Json :=
  .object [("avatar_url", .null), ("displayname", .string "Bot"),
    ("membership", .object [("lurk", .null)]), ("reason", .null)]

/-- The membership has its common name, the avatar is left out, and the reason stays null. -/
theorem keeps_received_lurking :
    lurking.Ordered ∧ MemberContent.Received "lurk" lurking ∧
      (ofJson roomMember lurking).toJson = .object
        [("displayname", .string "Bot"), ("membership", .string "unknown"), ("reason", .null)] ∧
      (ofJson roomMember lurking).get "membership.lurk" = none ∧
      (ofJson roomMember lurking).get "avatar_url" = none ∧
      (ofJson roomMember lurking).get "reason" = some .null := by
  have hordered : lurking.Ordered :=
    @Document.ordered_of_toJson? (Document.ofJson lurking) _ rfl
  have hreceived : MemberContent.Received "lurk" lurking := by
    refine ⟨.inr rfl, fun key hkey value hvalue => ?_⟩
    obtain rfl | rfl : key = "displayname" ∨ key = "avatar_url" := by simpa using hkey
    · cases hvalue
      exact .inr ⟨_, rfl⟩
    · cases hvalue
      exact .inl rfl
  obtain ⟨hwire, -, hget⟩ := (keeps_received roomMember hordered).2.1 "lurk" rfl hreceived
  refine ⟨hordered, hreceived, hwire.trans rfl, ?_, ?_, ?_⟩
  · exact (hget _ "membership" ["lurk"] (by decide +kernel)).trans rfl
  · exact (hget _ "avatar_url" [] (by decide +kernel)).trans rfl
  · exact (hget _ "reason" [] (by decide +kernel)).trans rfl

end Content

end BotHost
