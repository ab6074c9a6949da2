/-
# Causes of failure

One type for each layer that can fail, with one function that words its causes.
-/

import BotHost.Json

namespace BotHost

/-- Why a request to the homeserver failed. -/
inductive TransportError where
  | http (status : Nat) (errcode message : String)
  | connectionFailed (url reason : String)
  | invalidResponse (reason : String)
  /-- The transport could not be set up. -/
  | invalidConfig (reason : String)
deriving DecidableEq

namespace TransportError

/-- The wording of a transport error. -/
def message : TransportError → String
  | http status errcode message =>
    "homeserver returned " ++ toString status ++ " (" ++ errcode ++ "): " ++ message
  | connectionFailed url reason => "connection to " ++ url ++ " failed: " ++ reason
  | invalidResponse reason => "invalid response: " ++ reason
  | invalidConfig reason => "invalid transport configuration: " ++ reason

/-- Whether the homeserver no longer knows the access token. -/
def isUnknownToken : TransportError → Bool
  | http _ errcode _ => errcode == "M_UNKNOWN_TOKEN"
  | _ => false

end TransportError

/-- Why the store refused an operation. -/
inductive StoreError where
  | notFound (kind id : String)
  /-- A record could not be encoded or decoded. -/
  | serialization (reason : String)
  | backend (reason : String)
deriving DecidableEq

namespace StoreError

/-- The wording of a store error. -/
def message : StoreError → String
  | notFound kind id => kind ++ " '" ++ id ++ "' not found"
  | serialization reason => "serialization error: " ++ reason
  | backend reason => "store backend error: " ++ reason

end StoreError

end BotHost
