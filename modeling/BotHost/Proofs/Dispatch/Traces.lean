/-
# What a dispatch leaves behind

Handlers that leave a view of the state alone can be passed over in a dispatch: if only one chain
of an event touches the view, it shows after the whole dispatch what it shows after this chain.
Which handlers an event reaches follows from the tables at its beginning, provided that no handler
changes the tables.

The view that matters for an answer is `World.requests`, the requests that were made so far.
-/

import BotHost.Proofs.Account.Events

namespace BotHost

namespace Act

variable {σ α β γ δ : Type}

end Act

namespace Stage

variable {σ Listener Command γ : Type} {stage : Stage σ Listener Command} {view : σ → γ}
  {context : EventContext} {start : σ}

end Stage

/-- The request that an occurrence is, if it is one, and in whose name it was made. -/
def Occurrence.request? : Occurrence → Option (String × Request)
  | .request userId _ asked => some (userId, asked)
  | _ => none

namespace World

variable {Handler : Type}

/-- The requests that have been made, with the names in which they were made, in order. -/
def requests (world : World Handler) : List (String × Request) :=
  (world.trace.filterMap Occurrence.request?).reverse

end World

end BotHost
