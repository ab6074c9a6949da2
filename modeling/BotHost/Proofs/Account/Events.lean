/-
# Events on an account

An event that arrives on an account is matched against the composite, put on the trace, and
dispatched: `World.dispatchEvent_eq`.  `World.Dispatched` says which calls this comes to, so that
laws about events can speak of single calls.

The calls are owed by a stage, not by the account itself, which lets a law compare the stage of an
account with another one.
-/

import BotHost.Proofs.Account.History
import BotHost.Proofs.Dispatch.Calls

namespace BotHost

namespace World

variable {Handler : Type} {userId : String} {event : Event} {world : World Handler}
  {account : Account Handler} {record : DispatchRecord (World Handler) (Listener Handler) Handler}

/-- What the composite of an account finds in an event. -/
def found (userId : String) (event : Event) (world : World Handler) : Matches :=
  Composite.matchEvent
    (((world.account? userId).map fun account => account.specs.composite.1).getD []) event

/-- The world in which the first handler of an account is called for an event: the composite of the
account has been read, and the event is on the trace. -/
def announced (userId : String) (event : Event) (world : World Handler) : World Handler :=
  { world with
    accounts := ((world.account? userId).map fun account =>
      world.accounts.insert userId
        { account with specs := account.specs.composite.2 }).getD world.accounts
    trace := .dispatch userId event :: world.trace }

theorem found_of_account (hfound : world.account? userId = some account) (event : Event) :
    world.found userId event = account.specs.composite.1.matchEvent event := by
  rw [found, hfound]
  rfl

theorem announced_of_account (hfound : world.account? userId = some account) (event : Event) :
    world.announced userId event =
      { world with
        accounts := world.accounts.insert userId
          { account with specs := account.specs.composite.2 }
        trace := .dispatch userId event :: world.trace } := by
  rw [announced, hfound]
  rfl

/-- Reading the composite and announcing an event changes neither the hooks nor the specs. -/
theorem account?_announced (hfound : world.account? userId = some account) (event : Event) :
    (world.announced userId event).account? userId =
      some { account with specs := account.specs.composite.2 } := by
  rw [announced_of_account hfound]
  exact account?_insert userId _ world

/-- Dispatching an event hands it to the stage of the account, with what the composite finds in
it. -/
theorem dispatchEvent_eq (behaviour : Behaviour Handler) (userId : String) (event : Event)
    (world : World Handler) :
    dispatchEvent behaviour userId event world =
      (stage behaviour userId).dispatch ⟨userId, event, world.found userId event⟩
        (world.announced userId event) := by
  rw [dispatchEvent, Act.bind_apply]
  cases hfound : world.account? userId with
  | none =>
      have hread : composite userId world = .ok [] world := by
        simp only [composite, Act.bind_apply, Act.get_apply, hfound]
        rfl
      rw [hread, found, announced, hfound]
      rfl
  | some account =>
      rw [composite_of_account hfound, found_of_account hfound, announced_of_account hfound]
      rfl

/-- If handlers do not show in a view, a dispatch shows no more than that its event has been
announced. -/
theorem view_dispatchEvent {γ : Type} {view : World Handler → γ} {behaviour : Behaviour Handler}
    (hkeeps : behaviour.Keeps view)
    (hnote : ∀ userId time roomId,
      (note (.request userId time (.join roomId)) : Act (World Handler) Unit).Keeps view)
    (userId : String) (event : Event) (world : World Handler) :
    view ((dispatchEvent behaviour userId event).stateAfter world) =
      view (world.announced userId event) := by
  rw [Act.stateAfter, dispatchEvent_eq]
  exact Stage.dispatch_keeps (listen_keeps hkeeps hnote) hkeeps.obey _ _

/-- The hooks of a connected account are those on its stage. -/
theorem hooks_stage (hfound : world.account? userId = some account)
    (behaviour : Behaviour Handler) : (stage behaviour userId).hooks world = account.hooks := by
  simp [stage, hfound]

/-- The calls are those that a stage owes to an event on an account. -/
def Dispatched (stage : Stage (World Handler) (Listener Handler) Handler) (userId : String)
    (event : Event) (world : World Handler)
    (record : DispatchRecord (World Handler) (Listener Handler) Handler) : Prop :=
  record.Follows stage ⟨userId, event, world.found userId event⟩ (world.announced userId event)

/-- Dispatching an event comes to what its calls come to. -/
theorem dispatchEvent_of_dispatched {behaviour : Behaviour Handler}
    (h : Dispatched (stage behaviour userId) userId event world record) :
    dispatchEvent behaviour userId event world = record.result := by
  rw [dispatchEvent_eq, Stage.dispatch_of_follows h]

theorem exists_dispatched (stage : Stage (World Handler) (Listener Handler) Handler)
    (userId : String) (event : Event) (world : World Handler) :
    ∃ record, Dispatched stage userId event world record :=
  stage.exists_follows _ _

end World

end BotHost
