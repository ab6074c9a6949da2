/-
# Requests to a homeserver

What the host asks of a homeserver in the name of an account, and what an answer to each
request holds.  A poll of the feed may stay without an answer for ever.
-/

import BotHost.Failure
import BotHost.Act
import BotHost.Sync.Batch

namespace BotHost

/-- A request to a homeserver. -/
inductive Request where
  | whoAmI
  | createFilter (userId : String) (filter : Json)
  /-- Poll the feed from a cursor, through a filter, for at most so many
  milliseconds. -/
  | sync (since filter : Option String) (timeout : Nat)
  | send (roomId eventType : String) (content : Json)
  | join (roomIdOrAlias : String)
  | markRead (roomId eventId : String)
  | getEvent (roomId eventId : String)

/-- What an answer to a request holds. -/
def Request.Answer : Request → Type
  | .whoAmI => String
  | .createFilter _ _ => String
  | .sync _ _ _ => Option Batch
  | .send _ _ _ => String
  | .join _ => String
  | .markRead _ _ => Unit
  | .getEvent _ _ => Event

/-- How a request can end. -/
inductive Reply (α : Type) where
  | answer (value : α)
  | failure (error : TransportError)
  /-- With a panic of the transport. -/
  | panic (panic : Panic)

end BotHost
