/-
# Acts of an account

Setting specs, withdrawing owners and dispatching events on a connected account.

A spec is stored before it is installed.  If storing it fails, the account keeps the spec
it had; a spec that is set already is neither stored nor installed again.
-/

import BotHost.Dispatch
import BotHost.World.Storing
import BotHost.World.Client

namespace BotHost

/-- How the handlers act. -/
structure Behaviour (Handler : Type) where
  listen : Handler → EventContext → Act (World Handler) ListenerSignal
  obey : Handler → EventContext → Act (World Handler) CommandSignal

namespace World

variable {Handler : Type}

/-- Install the spec of an owner on an account. -/
def installSpec (userId owner : String) (spec : CommandSpec) : Act (World Handler) Unit :=
  changeAccount userId fun account => { account with specs := account.specs.install owner spec }

/-- Set the spec of an owner on an account. -/
def setSpec (userId owner : String) (spec : CommandSpec) :
    Act (World Handler) (Except StoreError SpecUpdate) := do
  let held := ((← get).account? userId).any fun account => account.specs.holds owner spec
  if held then pure (.ok .unchanged)
  else
    match ← putSpec owner userId spec with
    | .error error => pure (.error error)
    | .ok _ =>
      installSpec userId owner spec
      pure (.ok .changed)

/-- Withdraw an owner's handlers from an account and drop its spec. -/
def removeOwner (userId owner : String) : Act (World Handler) Unit :=
  changeAccount userId fun account => account.removeOwner owner

/-- The composite of an account. -/
def composite (userId : String) : Act (World Handler) Composite := do
  match (← get).account? userId with
  | none => pure []
  | some account =>
    let (composite, specs) := account.specs.composite
    setAccount userId { account with specs }
    pure composite

/-- Accept an invitation of the account itself and keep other listeners from it; let any
other event pass. -/
def autojoin (context : EventContext) : Act (World Handler) ListenerSignal :=
  if context.event.isMembershipOf context.userId .invite then do
    let _ ← joinRoom context.userId context.event.roomId
    pure .stop
  else pure .continue

/-- Call a listener. -/
def listen (behaviour : Behaviour Handler) :
    Listener Handler → EventContext → Act (World Handler) ListenerSignal
  | .autojoin => autojoin
  | .custom handler => behaviour.listen handler

/-- The stage on which an account's handlers act. -/
def stage (behaviour : Behaviour Handler) (userId : String) :
    Stage (World Handler) (Listener Handler) Handler where
  hooks world := ((world.account? userId).map (·.hooks)).getD .empty
  listen := listen behaviour
  obey := behaviour.obey

/-- Dispatch an event with given matches on an account. -/
def dispatchFound (behaviour : Behaviour Handler) (userId : String) (event : Event)
    (found : Matches) : Act (World Handler) DispatchOutcome := do
  note (.dispatch userId event)
  (stage behaviour userId).dispatch ⟨userId, event, found⟩

/-- Match an event against the composite of an account and dispatch it. -/
def dispatchEvent (behaviour : Behaviour Handler) (userId : String) (event : Event) :
    Act (World Handler) DispatchOutcome := do
  let composite ← composite userId
  dispatchFound behaviour userId event (composite.matchEvent event)

/-- Connect an account with the specs that are stored for it. -/
def connectAccount (record : AccountRecord) : Act (World Handler) (Except StoreError Unit) := do
  match ← listSpecs record.userId with
  | .error error => pure (.error error)
  | .ok stored =>
    setAccount record.userId (.connect record stored)
    pure (.ok ())

end World

end BotHost
