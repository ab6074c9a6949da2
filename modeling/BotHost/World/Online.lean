/-
# Environments on a network

The environment of a host that reaches its homeservers over a network.  Connecting only
reads the account's record; whether anybody can be reached shows with the first request.
The sends of an account are numbered from zero, and the number ends their transactions.
-/

import BotHost.Web.Connection
import BotHost.World

namespace BotHost

/-- The accounts whose homeservers are on a network. -/
structure Online where
  /-- What the transactions of sends begin with. -/
  stamp : String
  accounts : List AccountRecord

namespace Online

/-- The connection of a user. -/
def connection? (online : Online) (userId : String) : Except TransportError Connection :=
  match online.accounts.find? fun record => record.userId == userId with
  | none => .error (.invalidConfig ("there is no account " ++ userId))
  | some record => Connection.ofRecord? record

/-- How many events a user has sent. -/
def sent (trace : List Occurrence) (userId : String) : Nat :=
  trace.countP fun occurrence =>
    match occurrence with
    | .request user _ (.send ..) => user == userId
    | _ => false

/-- The transaction of the next event a user sends. -/
def transaction (online : Online) (trace : List Occurrence) (userId : String) : String :=
  "weft" ++ online.stamp ++ "." ++ toString (sent trace userId)

/-- The exchanges that the requests of a trace came to, in order. -/
def exchanges (online : Online) : List Occurrence → List WebRequest
  | [] => []
  | .request userId _ request :: earlier =>
    let exchanged :=
      match online.connection? userId with
      | .error _ => []
      | .ok connection =>
        [connection.exchange (online.transaction earlier userId) request]
    exchanges online earlier ++ exchanged
  | _ :: earlier => exchanges online earlier

/-- The environment over a network that may act upon all that happened before, and a store
that never fails. -/
def environment (online : Online) (network : List Occurrence → Network) : Environment :=
  { decline := fun _ record =>
      match Connection.ofRecord? record with
      | .error error => some error
      | .ok _ => none
    respond := fun trace userId request =>
      match online.connection? userId with
      | .error error => .failure error
      | .ok connection =>
        let transaction := online.transaction trace userId
        match connection.ask (network trace) transaction request with
        | .error error => .failure error
        | .ok answer => .answer answer
    refuse := fun _ _ => none }

end Online

end BotHost
