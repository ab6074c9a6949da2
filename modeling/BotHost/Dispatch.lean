/-
# Dispatching an event

An event that comes with its command matches is handed to the handlers of its account in
three phases: the chain of the matched active command, the chains of the matched passive
commands in the order of the matches, and the listeners.

Every chain is taken from the tables when its turn comes (the listeners all at once), so
handlers may register and withdraw handlers while they run.  A command handler can end
its own chain or everything that follows; a listener can end the listener phase.
-/

import BotHost.Act
import BotHost.Command.Composite
import BotHost.Dispatch.Hooks

namespace BotHost

/-- What a listener wants to happen to the listeners after it. -/
inductive ListenerSignal where
  | continue
  | stop
deriving DecidableEq

/-- What a command handler wants to happen next. -/
inductive CommandSignal where
  | continue
  /-- Skip the handlers after it in its chain. -/
  | stopCommand
  /-- Skip everything else that the event would have set off. -/
  | stopAll
deriving DecidableEq

/-- What a handler is told. -/
structure EventContext where
  /-- The account on which the event arrived. -/
  userId : String
  event : Event
  found : Matches

namespace EventContext

/-- Whether the account sent the event itself. -/
def isOwn (context : EventContext) : Bool := context.event.sender == context.userId

/-- An argument of the matched active command. -/
def argument? (context : EventContext) (key : String) : Option String :=
  context.found.command.bind fun command => command.arguments.find? key

end EventContext

/-- What came of an event. -/
structure DispatchOutcome where
  invoked : Nat
  stopped : Bool
deriving DecidableEq

/-- How the handlers of an account act on a state of type `σ`. -/
structure Stage (σ Listener Command : Type) where
  hooks : σ → Hooks Listener Command
  listen : Listener → EventContext → Act σ ListenerSignal
  obey : Command → EventContext → Act σ CommandSignal

namespace Stage

variable {σ Listener Command : Type} (stage : Stage σ Listener Command)

/-- Call a listener entry; one that does not hear own events lets them pass. -/
def callListener (context : EventContext) (entry : Entry Listener) : Act σ ListenerSignal :=
  if !entry.hearsOwn && context.isOwn then pure .continue
  else stage.listen entry.handler context

/-- Call a command handler entry; one that does not hear own events lets them pass. -/
def callCommand (context : EventContext) (entry : Entry Command) : Act σ CommandSignal :=
  if !entry.hearsOwn && context.isOwn then pure .continue
  else stage.obey entry.handler context

/-- Call the handlers of a command chain in order, after a number of calls. -/
def runChain (context : EventContext) (invoked : Nat) :
    List (Entry Command) → Act σ DispatchOutcome
  | [] => pure ⟨invoked, false⟩
  | entry :: rest => do
    match ← stage.callCommand context entry with
    | .continue => runChain context (invoked + 1) rest
    | .stopCommand => pure ⟨invoked + 1, false⟩
    | .stopAll => pure ⟨invoked + 1, true⟩

/-- Run the chains of the listed commands one after the other. -/
def runCommands (context : EventContext) (invoked : Nat) :
    List String → Act σ DispatchOutcome
  | [] => pure ⟨invoked, false⟩
  | command :: rest => do
    let state ← get
    let outcome ← stage.runChain context invoked ((stage.hooks state).commands.chain command)
    if outcome.stopped then pure outcome
    else runCommands context outcome.invoked rest

/-- Call listeners in order, after a number of calls. -/
def runListeners (context : EventContext) (invoked : Nat) :
    List (Entry Listener) → Act σ Nat
  | [] => pure invoked
  | entry :: rest => do
    match ← stage.callListener context entry with
    | .continue => runListeners context (invoked + 1) rest
    | .stop => pure (invoked + 1)

/-- The ids of the matched commands in the order in which their chains run. -/
def matchedIds (found : Matches) : List String :=
  (found.command.map (·.command)).toList ++ found.passive.map (·.name)

/-- Dispatch an event that comes with its matches. -/
def dispatch (context : EventContext) : Act σ DispatchOutcome := do
  let outcome ← stage.runCommands context 0 (matchedIds context.found)
  if outcome.stopped then pure outcome
  else
    let state ← get
    let listeners := (stage.hooks state).listenersFor context.event.eventType
    let invoked ← stage.runListeners context outcome.invoked listeners
    pure ⟨invoked, false⟩

end Stage

end BotHost
