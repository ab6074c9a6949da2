/-
# Event content

The host itself inspects two content shapes, messages and memberships, and decodes
them into records; every other content is carried as raw JSON, so that no field is
lost.  Content of a message or member event that does not fit its record stays raw
as well.

Both records keep the fields they do not name in `extra`.  `Content.ofJson` decodes
by event type, `Content.toJson` encodes again, and `Content.get` looks a field up by
dotted path.
-/

import BotHost.Json.Path
import BotHost.Json.Decode

namespace BotHost

/-- The event type of room messages. -/
def roomMessage : String := "m.room.message"

/-- The event type of membership changes. -/
def roomMember : String := "m.room.member"

/-- What a membership event says about its user. -/
inductive Membership where
  | join | invite | leave | ban | knock
  /-- Any membership the host has no name for. -/
  | unknown
deriving DecidableEq, Repr, Inhabited

namespace Membership

/-- The name of a membership. -/
def name : Membership → String
  | join => "join"
  | invite => "invite"
  | leave => "leave"
  | ban => "ban"
  | knock => "knock"
  | unknown => "unknown"

/-- The membership of a name; a name nobody knows means `unknown`. -/
def ofName (text : String) : Membership :=
  if text = "join" then join
  else if text = "invite" then invite
  else if text = "leave" then leave
  else if text = "ban" then ban
  else if text = "knock" then knock
  else unknown

/-- The membership that a value names: a string, or an object whose only member has
the value null. -/
def ofJson? : Json → Option Membership
  | .string text => some (ofName text)
  | .object [(text, .null)] => some (ofName text)
  | _ => none

end Membership

/-- The content of a room message. -/
structure MessageContent where
  /-- The kind of message, such as `m.text` or `m.notice`. -/
  msgtype : String
  body : String
  /-- Every other field. -/
  extra : SortedMap String Json
deriving BEq

namespace MessageContent

/-- A plain message of a kind. -/
def plain (msgtype body : String) : MessageContent := ⟨msgtype, body, .empty⟩

/-- A plain text message. -/
def text (body : String) : MessageContent := plain "m.text" body

/-- A notice, the kind of message that bots send. -/
def notice (body : String) : MessageContent := plain "m.notice" body

/-- The same message marked as a reply to an event. -/
def inReplyTo (content : MessageContent) (eventId : String) : MessageContent :=
  { content with
    extra := content.extra.insert "m.relates_to"
      (.object [("m.in_reply_to", .object [("event_id", .string eventId)])]) }

/-- Decode message content: an object with a text for its kind and its body. -/
def ofJson? : Json → Option MessageContent
  | .object members => do
    let msgtype ← (Entries.find? "msgtype" members).bind Json.text?
    let body ← (Entries.find? "body" members).bind Json.text?
    let extra := members.filter fun member => member.1 != "msgtype" && member.1 != "body"
    some ⟨msgtype, body, .ofList extra⟩
  | _ => none

/-- Encode message content. -/
def toJson (content : MessageContent) : Json :=
  Json.ofMembers
    ([("msgtype", .string content.msgtype), ("body", .string content.body)] ++
      content.extra.toList)

end MessageContent

/-- The content of a membership event. -/
structure MemberContent where
  membership : Membership
  displayname : Option String
  avatarUrl : Option String
  /-- Every other field. -/
  extra : SortedMap String Json
deriving BEq

namespace MemberContent

/-- A text that may be missing or null. -/
def optionalText? (key : String) (members : List (String × Json)) : Option (Option String) :=
  match Entries.find? key members with
  | none => some none
  | some .null => some none
  | some (.string text) => some (some text)
  | some _ => none

/-- The fields that the record names. -/
def named : List String := ["membership", "displayname", "avatar_url"]

/-- Decode membership content. -/
def ofJson? : Json → Option MemberContent
  | .object members => do
    let membership ← (Entries.find? "membership" members).bind Membership.ofJson?
    let displayname ← optionalText? "displayname" members
    let avatarUrl ← optionalText? "avatar_url" members
    let extra := members.filter fun member => !named.contains member.1
    some ⟨membership, displayname, avatarUrl, .ofList extra⟩
  | _ => none

/-- A member for a text that is present. -/
def textMember (key : String) (text : Option String) : List (String × Json) :=
  match text with
  | none => []
  | some text => [(key, .string text)]

/-- Encode membership content; absent texts are left out. -/
def toJson (content : MemberContent) : Json :=
  Json.ofMembers
    ([("membership", .string content.membership.name)] ++
      textMember "displayname" content.displayname ++
      textMember "avatar_url" content.avatarUrl ++ content.extra.toList)

end MemberContent

/-- Decoded event content. -/
inductive Content where
  | message (content : MessageContent)
  | member (content : MemberContent)
  /-- Content that the host does not decode. -/
  | generic (raw : Json)
deriving BEq

namespace Content

/-- Decode raw content by the type of its event.  Content that does not fit the
record of its type stays raw. -/
def ofJson (eventType : String) (raw : Json) : Content :=
  if eventType = roomMessage then
    match MessageContent.ofJson? raw with
    | some content => message content
    | none => generic raw
  else if eventType = roomMember then
    match MemberContent.ofJson? raw with
    | some content => member content
    | none => generic raw
  else generic raw

/-- Encode content. -/
def toJson : Content → Json
  | message content => content.toJson
  | member content => content.toJson
  | generic raw => raw

/-- The field at a dotted path. -/
def get (content : Content) (path : String) : Option Json :=
  match content with
  | message fields =>
    if path = "body" then some (.string fields.body)
    else if path = "msgtype" then some (.string fields.msgtype)
    else fields.toJson.resolve path
  | member fields => fields.toJson.resolve path
  | generic raw => raw.resolve path

/-- Content without any field. -/
def empty : Content := generic Json.emptyObject

end Content

end BotHost
