/-
# Connections to homeservers

An account's connection is the URL of its homeserver and its token.  Every request becomes
an exchange with an endpoint below that URL, and every answer is decoded from the body of a
successful status.  An error status is told by the error the body names, or by the body
itself if it names none.
-/

import BotHost.Request
import BotHost.Store.Records
import BotHost.Text.Utf8
import BotHost.Web.Exchange
import BotHost.Web.Reader

namespace BotHost

/-- An account's connection to its homeserver. -/
structure Connection where
  base : Url
  token : String

namespace Connection

/-- A connection to a homeserver, if its URL can be a base. -/
def open? (homeserver token : String) : Except TransportError Connection :=
  match Url.read? homeserver with
  | none => .error (.invalidConfig ("invalid homeserver URL '" ++ homeserver ++ "'"))
  | some base =>
    if base.cannotBeBase then
      .error (.invalidConfig ("homeserver URL '" ++ homeserver ++ "' cannot be a base"))
    else .ok ⟨base, token⟩

/-- The connection of an account, which needs a token. -/
def ofRecord? (record : AccountRecord) : Except TransportError Connection :=
  if record.accessToken = "" then
    .error (.invalidConfig ("account " ++ record.userId ++ " has no access token"))
  else open? record.homeserver record.accessToken

/-! ### Endpoints -/

/-- The segments below which all endpoints lie. -/
def root : List String := ["_matrix", "client", "v3"]

/-- The URL of an endpoint. -/
def endpoint (connection : Connection) (segments : List String) : Url :=
  connection.base.extend (root ++ segments)

/-- The milliseconds a held poll is given beyond its own time. -/
def grace : Nat := 30000

/-- The URL of a poll. -/
def pollUrl (connection : Connection) (since filter : Option String) (timeout : Nat) : Url :=
  let url := (connection.endpoint ["sync"]).addField "timeout" (toString timeout)
  let url := (since.map (url.addField "since")).getD url
  (filter.map (url.addField "filter")).getD url

/-- The exchange for a request; a send is told apart from every other one by its
transaction. -/
def exchange (connection : Connection) (transaction : String) : Request → WebRequest
  | .whoAmI => ⟨.get, connection.endpoint ["account", "whoami"], connection.token, none, none⟩
  | .createFilter userId filter =>
    ⟨.post, connection.endpoint ["user", userId, "filter"], connection.token, some filter, none⟩
  | .sync since filter timeout =>
    ⟨.get, connection.pollUrl since filter timeout, connection.token, none,
      some (timeout + grace)⟩
  | .send roomId eventType content =>
    ⟨.put, connection.endpoint ["rooms", roomId, "send", eventType, transaction],
      connection.token, some content, none⟩
  | .join room =>
    ⟨.post, connection.endpoint ["join", room], connection.token, some .emptyObject, none⟩
  | .markRead roomId eventId =>
    ⟨.post, connection.endpoint ["rooms", roomId, "receipt", "m.read", eventId],
      connection.token, some .emptyObject, none⟩
  | .getEvent roomId eventId =>
    ⟨.get, connection.endpoint ["rooms", roomId, "event", eventId], connection.token, none,
      none⟩

/-! ### Answers -/

/-- A record whose only field is a text. -/
def decodeField (name : String) : Decoder String := fun document => do
  let fields ← document.fields? [name]
  fields.required name Decoder.text

/-- How the answer to a request is decoded. -/
def decodeAnswer : (request : Request) → Decoder request.Answer
  | .whoAmI => decodeField "user_id"
  | .createFilter .. => decodeField "filter_id"
  | .sync .. => fun document => (Batch.decode document).map fun batch => some batch.fillRoomIds
  | .send .. => decodeField "event_id"
  | .join _ => decodeField "room_id"
  | .markRead .. => fun document => (Decoder.json document).map fun _ => ()
  | .getEvent roomId _ => fun document => (Event.decode document).map (·.inRoom roomId)

/-- The error that the body of an error status names. -/
def errorOf (status : Nat) (body : List UInt8) : TransportError :=
  let named : Option (String × String) := do
    let document ← (Text.ofBytes? body).bind Document.read?
    let fields ← document.fields? ["errcode", "error"]
    let code ← fields.orElse "errcode" Decoder.text ""
    let message ← fields.orElse "error" Decoder.text ""
    some (code, message)
  match named with
  | some (code, message) => .http status code message
  | none => .http status "" (Text.ofBytes body)

/-- Whether a status tells success. -/
def isSuccess (status : Nat) : Bool := 200 ≤ status && status < 300

/-- What the answer to a request amounts to. -/
def understand (request : Request) (status : Nat) (body : List UInt8) :
    Except TransportError request.Answer :=
  if !isSuccess status then .error (errorOf status body)
  else
    match (Text.ofBytes? body).bind (decodeAnswer request).ofText with
    | some answer => .ok answer
    | none => .error (.invalidResponse "the answer cannot be decoded")

/-- Whether a token can be stated in a request. -/
def isSendable (token : String) : Bool :=
  token.toList.all fun c => c == '\t' || !Percent.isControl c

/-- Make a request over a network.  A poll that is held open for ever has no batch; any
other exchange that is held open is given up. -/
def ask (connection : Connection) (network : Network) (transaction : String)
    (request : Request) : Except TransportError request.Answer :=
  let exchanged := connection.exchange transaction request
  let lost (reason : String) : TransportError := .connectionFailed exchanged.url.text reason
  if !isSendable connection.token then .error (lost "the token cannot be sent")
  else
    match network exchanged with
    | .undelivered reason => .error (lost reason)
    | .broken reason => .error (.invalidResponse reason)
    | .answered status body => understand request status body
    | .pending =>
      match request with
      | .sync .. => .ok none
      | _ => .error (lost "no answer arrived in time")

end Connection

end BotHost
