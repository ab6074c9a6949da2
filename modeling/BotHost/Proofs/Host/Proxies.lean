/-
# Acting through proxies

Plugins and handlers are somebody else's code, but they work on an account through a proxy, and a
proxy is a restricted view of it: an owner sets its spec, and it registers listeners and command
handlers that do not hear the account's own events.  It cannot withdraw anything, and it cannot
register the host's own listener.  `World.ByProxies` says what can be done to a world in this way.

A registration goes to the end of its chain.  So what stands in front of the others stays there, and
so does whatever else about the hooks no registration changes, `Hooks.Settled`.
-/

import BotHost.Proofs.Host.Instances

namespace BotHost

/-- What a registration through a proxy does not change about hooks. -/
structure Hooks.Settled {Handler γ : Type} (test : Hooks (Listener Handler) Handler → γ) :
    Prop where
  listener : ∀ hooks owner eventType handler,
    test (hooks.addListener eventType ⟨owner, false, .custom handler⟩) = test hooks
  command : ∀ hooks owner command handler,
    test (hooks.addCommand command ⟨owner, false, handler⟩) = test hooks

namespace World

variable {Handler γ : Type} {userId : String} {world after : World Handler}
  {account changed : Account Handler} {test : Hooks (Listener Handler) Handler → γ}

/-- The hooks of the account of a user; there are none if it is not connected. -/
def hooksOf (userId : String) (world : World Handler) : Hooks (Listener Handler) Handler :=
  ((world.account? userId).map (·.hooks)).getD .empty

theorem hooksOf_of_account (hfound : world.account? userId = some account) :
    world.hooksOf userId = account.hooks := by
  rw [hooksOf, hfound]
  rfl

/-- What a change of an account does to something about the hooks, it does to the account's own. -/
theorem hooksOf_insert {changedUser : String}
    (hfound : world.account? changedUser = some account)
    (hsame : test changed.hooks = test account.hooks) :
    test (hooksOf userId
        { world with accounts := world.accounts.insert changedUser changed }) =
      test (world.hooksOf userId) := by
  rw [hooksOf, hooksOf, account?, account?, SortedMap.find?_insert]
  by_cases huser : changedUser = userId
  · subst huser
    rw [if_pos rfl, ← account?, hfound]
    exact hsame
  · rw [if_neg huser]

/-- Registrations and withdrawals apart, nothing that the host does shows in the hooks. -/
theorem detached_hooksOf (test : Hooks (Listener Handler) Handler → γ) (userId : String) :
    Detached fun world : World Handler => test (world.hooksOf userId) where
  trace _ _ _ := rfl
  rooms _ _ := rfl
  compiled _ _ _ _ hfound := hooksOf_insert hfound rfl
  store _ _ := rfl
  clock _ _ := rfl

/-- What can be done to a world through proxies, and without them. -/
inductive ByProxies : World Handler → World Handler → Prop where
  | elsewhere {world after : World Handler} :
      after.accounts = world.accounts → ByProxies world after
  | setSpec {world after : World Handler} {userId owner : String} {spec : CommandSpec}
      {result : Except StoreError SpecUpdate} :
      World.setSpec userId owner spec world = .ok result after → ByProxies world after
  | addListener {world after : World Handler} {userId owner eventType : String}
      {handler : Handler} :
      changeAccount userId (fun account => account.addListener owner eventType false handler)
        world = .ok () after →
      ByProxies world after
  | addCommand {world after : World Handler} {userId owner command : String} {handler : Handler} :
      changeAccount userId (fun account => account.addCommand owner command false handler)
        world = .ok () after →
      ByProxies world after
  | trans {world between after : World Handler} :
      ByProxies world between → ByProxies between after → ByProxies world after

namespace ByProxies

/-- What is done through proxies does not show in a view of the accounts if none of the changes does
that a proxy can make. -/
theorem view_eq {view : World Handler → γ} (hview : Detached view)
    (haccounts : ∀ world after : World Handler,
      after.accounts = world.accounts → view after = view world)
    (hspec : ∀ (world : World Handler) userId account specs,
      world.account? userId = some account →
      view { world with accounts := world.accounts.insert userId { account with specs } } =
        view world)
    (hlistener : ∀ (world : World Handler) userId account owner eventType handler,
      world.account? userId = some account →
      view { world with
        accounts := world.accounts.insert userId
          (account.addListener owner eventType false handler) } = view world)
    (hcommand : ∀ (world : World Handler) userId account owner command handler,
      world.account? userId = some account →
      view { world with
        accounts := world.accounts.insert userId
          (account.addCommand owner command false handler) } = view world)
    (h : ByProxies world after) : view after = view world := by
  induction h with
  | elsewhere hsame => exact haccounts _ _ hsame
  | @setSpec _ _ userId owner spec _ hset =>
      have hkeeps : (World.setSpec userId owner spec : Act (World Handler) _).Keeps view :=
        setSpec_keeps
          (consult_keeps hview.toUndisturbed _ (Act.keeps_modify fun world => hview.store world _))
          (changeAccount_keeps _ fun world account hfound => hspec world _ account _ hfound)
      exact hkeeps.eq_of_ok hset
  | @addListener _ _ userId owner eventType handler hadd =>
      have hkeeps : (changeAccount userId fun account =>
          account.addListener owner eventType false handler).Keeps view :=
        changeAccount_keeps _ fun world account hfound => hlistener world _ account _ _ _ hfound
      exact hkeeps.eq_of_ok hadd
  | @addCommand _ _ userId owner command handler hadd =>
      have hkeeps : (changeAccount userId fun account =>
          account.addCommand owner command false handler).Keeps view :=
        changeAccount_keeps _ fun world account hfound => hcommand world _ account _ _ _ hfound
      exact hkeeps.eq_of_ok hadd
  | trans _ _ hfirst hsecond => exact hsecond.trans hfirst

/-- Something about the hooks that no registration changes is the same whatever is done through
proxies. -/
theorem hooks_eq (h : ByProxies world after) (htest : Hooks.Settled test) (userId : String) :
    test (after.hooksOf userId) = test (world.hooksOf userId) := by
  refine h.view_eq (detached_hooksOf test userId) ?_ ?_ ?_ ?_
  · intro world after hsame
    rw [hooksOf, account?, hsame]
    rfl
  · exact fun _ _ _ _ hfound => hooksOf_insert hfound rfl
  · exact fun _ _ _ _ _ _ hfound => hooksOf_insert hfound (htest.listener _ _ _ _)
  · exact fun _ _ _ _ _ _ hfound => hooksOf_insert hfound (htest.command _ _ _ _)

/-- An account stays connected with the same record whatever is done through proxies. -/
theorem recordOf_eq (h : ByProxies world after) : after.recordOf = world.recordOf := by
  refine h.view_eq ofRecords_recordOf.toDetached ?_ ?_ ?_ ?_
  · intro world after hsame
    funext userId
    rw [recordOf, account?, hsame]
    rfl
  · exact fun _ _ _ _ hfound => recordOf_insert hfound rfl
  · exact fun _ _ _ _ _ _ hfound => recordOf_insert hfound rfl
  · exact fun _ _ _ _ _ _ hfound => recordOf_insert hfound rfl

end ByProxies

end World

namespace Act

variable {Handler α β : Type}

/-- An act that does nothing but what can be done through proxies, be it that it ends well or that
it panics. -/
def UsesProxies (act : Act (World Handler) α) : Prop :=
  ∀ world, World.ByProxies world (act.stateAfter world)

theorem UsesProxies.bind {act : Act (World Handler) α} {next : α → Act (World Handler) β}
    (h : act.UsesProxies) (hnext : ∀ value, (next value).UsesProxies) :
    (act >>= next).UsesProxies := by
  intro world
  have hact := h world
  rw [stateAfter] at hact ⊢
  rw [bind_apply]
  cases hended : act world with
  | ok value between =>
      rw [hended] at hact
      exact hact.trans (hnext value between)
  | error panic after =>
      rw [hended] at hact
      exact hact

/-- An act that leaves the accounts alone needs no proxy. -/
theorem usesProxies_of_keeps {act : Act (World Handler) α} (h : act.Keeps World.accounts) :
    act.UsesProxies := fun world => .elsewhere (h world)

theorem usesProxies_setSpec (userId owner : String) (spec : CommandSpec) :
    (World.setSpec userId owner spec : Act (World Handler) _).UsesProxies := by
  intro world
  obtain ⟨result, after, hset⟩ := Host.setSpec_returns userId owner spec world
  rw [stateAfter, hset]
  exact .setSpec hset

theorem usesProxies_addListener (userId owner eventType : String) (handler : Handler) :
    (World.changeAccount userId fun account =>
      account.addListener owner eventType false handler).UsesProxies := by
  intro world
  obtain ⟨after, hadd⟩ := Host.changeAccount_returns userId
    (fun account => account.addListener owner eventType false handler) world
  rw [stateAfter, hadd]
  exact .addListener hadd

end Act

/-- Handlers and plugins that work on accounts through proxies. -/
structure Performers.UseProxies {Handler Factory Plugin : Type}
    (performers : Performers Handler Factory Plugin) : Prop where
  listen : ∀ handler context, (performers.handlers.listen handler context).UsesProxies
  obey : ∀ handler context, (performers.handlers.obey handler context).UsesProxies
  create : ∀ plugin record settings,
    (performers.plugins.create plugin record settings).UsesProxies
  start : ∀ plugin, (performers.plugins.start plugin).UsesProxies
  stop : ∀ plugin, (performers.plugins.stop plugin).UsesProxies

namespace Performers.UseProxies

variable {Handler Factory Plugin γ : Type} {performers : Performers Handler Factory Plugin}

/-- What is the same whatever is done through proxies is kept by all performers. -/
theorem keeps {view : World Handler → γ} (h : performers.UseProxies)
    (hview : ∀ world after, World.ByProxies world after → view after = view world) :
    performers.Keeps view where
  handlers :=
    { listen := fun handler context world => hview _ _ (h.listen handler context world)
      obey := fun handler context world => hview _ _ (h.obey handler context world) }
  create plugin record settings world := hview _ _ (h.create plugin record settings world)
  start plugin world := hview _ _ (h.start plugin world)
  stop plugin world := hview _ _ (h.stop plugin world)

theorem keeps_recordOf (h : performers.UseProxies) : performers.Keeps World.recordOf :=
  h.keeps fun _ _ hdone => hdone.recordOf_eq

theorem keeps_hooks {test : Hooks (Listener Handler) Handler → γ} (h : performers.UseProxies)
    (htest : Hooks.Settled test) (userId : String) :
    performers.Keeps fun world => test (world.hooksOf userId) :=
  h.keeps fun _ _ hdone => hdone.hooks_eq htest userId

end Performers.UseProxies

end BotHost
