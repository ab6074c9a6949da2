/-
# Exchanges over the web

What a request over HTTP consists of and what can come of it, and the network as a function:
it may answer in any way, also not at all.
-/

import BotHost.Json
import BotHost.Web.Url

namespace BotHost

/-- The method of a request. -/
inductive WebMethod where
  | get | post | put
deriving DecidableEq

namespace WebMethod

/-- The name of a method. -/
def name : WebMethod → String
  | get => "GET"
  | post => "POST"
  | put => "PUT"

end WebMethod

/-- A request over HTTP. -/
structure WebRequest where
  method : WebMethod
  url : Url
  token : String
  body : Option Json
  /-- The milliseconds after which no answer is expected any more, if the usual ones do not
  do. -/
  patience : Option Nat

/-- What can come of a request over HTTP. -/
inductive Delivery where
  | answered (status : Nat) (body : List UInt8)
  /-- An answer that broke off in its body. -/
  | broken (reason : String)
  | undelivered (reason : String)
  /-- An exchange that is held open for ever. -/
  | pending

/-- How requests over HTTP end. -/
abbrev Network := WebRequest → Delivery

namespace Network

/-- A network on which nobody can be reached. -/
def unreachable : Network := fun _ => .undelivered "the network cannot be reached"

end Network

end BotHost
