/-
# Homeservers with a script

A rehearsal runs a host against answers that are written down in advance.  The script of an
account holds a queue of replies for each kind of request.  When a queue is used up the
homeserver is obliging: the token is the account's own, filters and sent events are numbered
from one, joining works and marking as read works; an event that nobody wrote down is not
found, and the feed falls silent.
-/

import BotHost.World

namespace BotHost

/-- The replies to the requests of an account, by kind of request. -/
structure Script where
  whoAmI : List (Reply String)
  createFilter : List (Reply String)
  sync : List (Reply Batch)
  send : List (Reply String)
  join : List (Reply String)
  markRead : List (Reply Unit)
  getEvent : List (Reply Event)

/-- The kind of a request. -/
inductive RequestKind where
  | whoAmI | createFilter | sync | send | join | markRead | getEvent
deriving DecidableEq

/-- The kind of a request. -/
def Request.kind : Request → RequestKind
  | .whoAmI => .whoAmI
  | .createFilter .. => .createFilter
  | .sync .. => .sync
  | .send .. => .send
  | .join _ => .join
  | .markRead .. => .markRead
  | .getEvent .. => .getEvent

namespace Reply

/-- The reply with another answer. -/
def map {α β : Type} (change : α → β) : Reply α → Reply β
  | answer value => answer (change value)
  | failure error => failure error
  | panic reason => panic reason

end Reply

namespace Script

/-- The script of a homeserver that is obliging from the beginning. -/
def empty : Script := ⟨[], [], [], [], [], [], []⟩

/-- How many requests of a kind an account has made. -/
def made (trace : List Occurrence) (userId : String) (kind : RequestKind) : Nat :=
  trace.countP fun occurrence =>
    match occurrence with
    | .request user _ request => user == userId && request.kind == kind
    | _ => false

/-- The reply to a request after the trace. -/
def respond (script : Script) (trace : List Occurrence) (userId : String) :
    (request : Request) → Reply request.Answer
  | .whoAmI => (script.whoAmI[made trace userId .whoAmI]?).getD (.answer userId)
  | .createFilter .. =>
    let count := made trace userId .createFilter
    (script.createFilter[count]?).getD (.answer ("filter" ++ toString (count + 1)))
  | .sync .. =>
    ((script.sync[made trace userId .sync]?).map (Reply.map some)).getD (.answer none)
  | .send .. =>
    let count := made trace userId .send
    (script.send[count]?).getD (.answer ("$sent" ++ toString (count + 1)))
  | .join room => (script.join[made trace userId .join]?).getD (.answer room)
  | .markRead .. => (script.markRead[made trace userId .markRead]?).getD (.answer ())
  | .getEvent _ id =>
    (script.getEvent[made trace userId .getEvent]?).getD
      (.failure (.http 404 "M_NOT_FOUND" (id ++ " not found")))

end Script

namespace StoreCall

/-- The name of an operation of the store. -/
def name : StoreCall → String
  | accounts => "accounts"
  | account _ => "account"
  | updateAccount _ => "update_account"
  | commandSpecs _ => "command_specs"
  | putCommandSpec .. => "put_command_spec"
  | plugins => "plugins"
  | updatePlugin _ => "update_plugin"
  | loadRoom _ => "room_load"
  | saveRoom _ => "room_save"

/-- An operation fails if its name is among the failing ones. -/
def refusedAmong (failing : List String) (call : StoreCall) : Option StoreError :=
  if failing.contains call.name then some (.backend (call.name ++ " failed")) else none

end StoreCall

end BotHost
