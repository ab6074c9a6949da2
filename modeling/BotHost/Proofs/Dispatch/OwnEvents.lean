/-
# Events of the account itself

Whatever owners register through their own view of an account is wrapped: it lets the events pass
that the account has sent itself.  The wrapping belongs to the single registration, not to the
dispatch, so it has to hold for every chain and every mix of owners.

For the events of others a wrapped handler is as good as the handler itself: the stage calls the
same handlers in the same order with the same answers as the stage without wrappings,
`DispatchRecord.Follows.unwrapped`.  For own events a wrapped entry passes and leaves no trace, so
the calls of the others are those that would be made if it did not exist, `InTurn.filter`.
-/

import BotHost.Proofs.Account.Events
import BotHost.Proofs.Specs.Merging

namespace BotHost

/-! ### Rows that correspond -/

section Rows

variable {σ τ ι κ β γ : Type} {deal : ι → σ → β → σ → Prop} {deal' : κ → τ → γ → τ → Prop}
  {ends : β → Bool} {ends' : γ → Bool} {start after : σ} {start' : τ} {items : List ι}
  {done : List (ι × β)}

/-- If dealing with corresponding items in related states gives corresponding answers and leads to
related states, then so does dealing with rows of corresponding items. -/
theorem InTurn.simulate (related : σ → τ → Prop) (item' : ι → κ) (answer' : β → γ)
    (hends : ∀ answer, ends' (answer' answer) = ends answer)
    (hdeal : ∀ item ∈ items, ∀ state answer next state', related state state' →
      deal item state answer next →
      ∃ next', deal' (item' item) state' (answer' answer) next' ∧ related next next')
    (h : InTurn deal ends start items done after) (hstart : related start start') :
    ∃ after', InTurn deal' ends' start' (items.map item') (done.map (Prod.map item' answer'))
      after' ∧ related after after' := by
  induction items generalizing start start' done with
  | nil =>
      obtain ⟨rfl, rfl⟩ := inTurn_nil_iff.mp h
      exact ⟨start', inTurn_nil_iff.mpr ⟨rfl, rfl⟩, hstart⟩
  | cons item rest ih =>
      obtain ⟨answer, between, others, rfl, hfirst, hrest⟩ := inTurn_cons_iff.mp h
      obtain ⟨between', hfirst', hbetween⟩ := hdeal item List.mem_cons_self _ _ _ _ hstart hfirst
      by_cases hlast : ends answer = true
      · obtain ⟨rfl, rfl⟩ : others = [] ∧ after = between := by simpa [hlast] using hrest
        exact ⟨between', inTurn_cons_iff.mpr ⟨_, _, [], rfl, hfirst', by simp [hends, hlast]⟩,
          hbetween⟩
      · obtain ⟨after', hothers, hafter⟩ := ih
          (fun item hitem => hdeal item (List.mem_cons_of_mem _ hitem))
          (by simpa [hlast] using hrest) hbetween
        exact ⟨after', inTurn_cons_iff.mpr ⟨_, _, _, rfl, hfirst', by simpa [hends, hlast]⟩, hafter⟩

/-- If dealing with corresponding items gives corresponding answers, then so does dealing with rows
of corresponding items. -/
theorem InTurn.map {deal' : κ → σ → γ → σ → Prop} (item' : ι → κ) (answer' : β → γ)
    (hends : ∀ answer, ends' (answer' answer) = ends answer)
    (hdeal : ∀ item ∈ items, ∀ state answer next, deal item state answer next →
      deal' (item' item) state (answer' answer) next)
    (h : InTurn deal ends start items done after) :
    InTurn deal' ends' start (items.map item') (done.map (Prod.map item' answer')) after := by
  obtain ⟨after', hrow, rfl⟩ := h.simulate Eq item' answer' hends
    (fun item hitem state answer next state' hstate h =>
      ⟨next, hstate ▸ hdeal item hitem state answer next h, rfl⟩) rfl
  exact hrow

/-- Items that never end a row and never change the state can be left out. -/
theorem InTurn.filter {test : ι → Bool}
    (hpass : ∀ item state answer next, test item = false → deal item state answer next →
      ends answer = false ∧ next = state)
    (h : InTurn deal ends start items done after) :
    InTurn deal ends start (items.filter test) (done.filter fun entry => test entry.1) after := by
  induction items generalizing start done with
  | nil =>
      obtain ⟨rfl, rfl⟩ := inTurn_nil_iff.mp h
      exact inTurn_nil_iff.mpr ⟨rfl, rfl⟩
  | cons item rest ih =>
      obtain ⟨answer, between, others, rfl, hfirst, hrest⟩ := inTurn_cons_iff.mp h
      by_cases htest : test item = true
      · rw [List.filter_cons_of_pos htest, List.filter_cons, if_pos htest]
        refine inTurn_cons_iff.mpr ⟨answer, between, _, rfl, hfirst, ?_⟩
        by_cases hlast : ends answer = true
        · obtain ⟨rfl, rfl⟩ : others = [] ∧ after = between := by simpa [hlast] using hrest
          simp [hlast]
        · simpa [hlast] using ih (by simpa [hlast] using hrest)
      · rw [List.filter_cons_of_neg htest, List.filter_cons, if_neg htest]
        obtain ⟨hlast, rfl⟩ := hpass item _ _ _ (by simpa using htest) hfirst
        exact ih (by simpa [hlast] using hrest)

/-- Whatever has been dealt with was dealt with in some state. -/
theorem Linked.dealt (h : Linked deal start done after) :
    ∀ entry ∈ done, ∃ state next, deal entry.1 state entry.2 next := by
  induction h with
  | nil => simp
  | cons hfirst hrest ih =>
      intro entry hmem
      rcases List.mem_cons.mp hmem with rfl | hlater
      · exact ⟨_, _, hfirst⟩
      · exact ih entry hlater

end Rows

/-- Calls that end well can be left out of a search for a panic. -/
theorem Calls.panic?_filter {Handler Signal : Type} {calls : Calls Handler Signal}
    {test : Entry Handler → Bool}
    (h : ∀ call ∈ calls, test call.1 = false → ∃ signal, call.2 = .ok signal) :
    Calls.panic? (calls.filter fun call => test call.1) = calls.panic? := by
  induction calls with
  | nil => rfl
  | cons call rest ih =>
      have hrest := ih fun call hmem => h call (List.mem_cons_of_mem _ hmem)
      obtain ⟨entry, answer⟩ := call
      rw [List.filter_cons]
      by_cases htest : test entry = true
      · rw [if_pos htest]
        cases answer with
        | error panic => rfl
        | ok signal => simpa using hrest
      · obtain ⟨signal, rfl⟩ := h (entry, answer) List.mem_cons_self (by simpa using htest)
        rw [if_neg htest, Calls.panic?_cons_ok, hrest]

/-! ### Events of others -/

/-- An entry without its wrapping. -/
def Entry.unwrapped {α : Type} (entry : Entry α) : Entry α := { entry with hearsOwn := true }

/-- Chains without the wrappings of their entries. -/
def Chains.unwrapped {α : Type} (chains : Chains α) : Chains α :=
  SortedMap.filterMap chains fun _ chain => some (chain.map Entry.unwrapped)

theorem Chains.chain_unwrapped {α : Type} (chains : Chains α) (key : String) :
    chains.unwrapped.chain key = (chains.chain key).map Entry.unwrapped := by
  unfold Chains.unwrapped chain
  rw [SortedMap.find?_filterMap]
  cases SortedMap.find? chains key <;> rfl

/-- Calls of the handlers without their wrappings. -/
def Calls.unwrapped {Handler Signal : Type} (calls : Calls Handler Signal) :
    Calls Handler Signal :=
  calls.map (Prod.map Entry.unwrapped id)

theorem Calls.panic?_unwrapped {Handler Signal : Type} (calls : Calls Handler Signal) :
    calls.unwrapped.panic? = calls.panic? := by
  rw [unwrapped, panic?, List.findSome?_map]
  rfl

namespace DispatchRecord

variable {σ Listener Command : Type}

/-- The same calls, of the handlers without their wrappings. -/
def unwrapped (record : DispatchRecord σ Listener Command) :
    DispatchRecord σ Listener Command where
  chains := record.chains.map (Prod.map id Calls.unwrapped)
  between := record.between
  heard := record.heard.unwrapped
  after := record.after

theorem obeyed_unwrapped (record : DispatchRecord σ Listener Command) :
    record.unwrapped.obeyed = record.obeyed.unwrapped := by
  simp [obeyed, unwrapped, Calls.unwrapped, List.flatMap_map, List.map_flatMap]

/-- It makes no difference to the result whether the handlers were wrapped. -/
theorem result_unwrapped (record : DispatchRecord σ Listener Command) :
    record.unwrapped.result = record.result := by
  have hheard : record.unwrapped.heard = record.heard.unwrapped := rfl
  have hafter : record.unwrapped.after = record.after := rfl
  rw [result, result, stopped, stopped, obeyed_unwrapped, hheard, hafter, Calls.panic?_unwrapped,
    Calls.panic?_unwrapped]
  simp [Calls.unwrapped, Function.comp_def]

end DispatchRecord

namespace Stage

variable {σ Listener Command : Type} {stage : Stage σ Listener Command} {context : EventContext}
  {start : σ}

/-- The stage on which no handler is wrapped. -/
def unwrapped (stage : Stage σ Listener Command) : Stage σ Listener Command :=
  { stage with
    hooks := fun state =>
      ⟨(stage.hooks state).listeners.unwrapped, (stage.hooks state).commands.unwrapped⟩ }

theorem callCommand_unwrapped (hother : context.isOwn = false) (entry : Entry Command) :
    stage.unwrapped.callCommand context entry.unwrapped = stage.callCommand context entry := by
  simp [callCommand, unwrapped, Entry.unwrapped, hother]

theorem callListener_unwrapped (hother : context.isOwn = false) (entry : Entry Listener) :
    stage.unwrapped.callListener context entry.unwrapped = stage.callListener context entry := by
  simp [callListener, unwrapped, Entry.unwrapped, hother]

/-- The calls of a chain are the same without wrappings. -/
theorem ChainRun.unwrapped (hother : context.isOwn = false) {command : String} {state after : σ}
    {calls : Calls Command CommandSignal} (h : stage.ChainRun context command state calls after) :
    stage.unwrapped.ChainRun context command state calls.unwrapped after := by
  have hcall (entry : Entry Command) (state : σ) (answer : Except Panic CommandSignal) (next : σ)
      (h : Called (stage.callCommand context) entry state answer next) :
      Called (stage.unwrapped.callCommand context) entry.unwrapped state answer next := by
    rwa [Called, callCommand_unwrapped hother]
  unfold ChainRun
  rw [Stage.unwrapped, Chains.chain_unwrapped]
  exact InTurn.map Entry.unwrapped id (fun _ => rfl) (fun entry _ => hcall entry) h

theorem lastChain_unwrapped (calls : Calls Command CommandSignal) :
    lastChain calls.unwrapped = lastChain calls := by
  simp [lastChain, Calls.unwrapped, Function.comp_def]

end Stage

/-- For an event of somebody else, the stage without wrappings owes the same calls. -/
theorem DispatchRecord.Follows.unwrapped {σ Listener Command : Type}
    {stage : Stage σ Listener Command} {context : EventContext} {start : σ}
    {record : DispatchRecord σ Listener Command} (hother : context.isOwn = false)
    (h : record.Follows stage context start) :
    record.unwrapped.Follows stage.unwrapped context start := by
  constructor
  · have hchains := InTurn.map id Calls.unwrapped Stage.lastChain_unwrapped
      (fun command _ state calls next => Stage.ChainRun.unwrapped hother) h.chains
    rwa [List.map_id] at hchains
  · have hlast : (record.unwrapped.chains.any fun chain => Stage.lastChain chain.2) =
        record.chains.any fun chain => Stage.lastChain chain.2 := by
      simp [DispatchRecord.unwrapped, Function.comp_def, Stage.lastChain_unwrapped]
    have hlisteners := h.listeners
    rw [hlast]
    split at hlisteners
    · next hend =>
      rw [if_pos hend]
      obtain ⟨hheard, hafter⟩ := hlisteners
      exact ⟨by rw [DispatchRecord.unwrapped, hheard]; rfl, hafter⟩
    · next hend =>
      rw [if_neg hend]
      have hcall (entry : Entry Listener) (state : σ) (answer : Except Panic ListenerSignal)
          (next : σ) (h : Stage.Called (stage.callListener context) entry state answer next) :
          Stage.Called (stage.unwrapped.callListener context) entry.unwrapped state answer
            next := by
        rwa [Stage.Called, Stage.callListener_unwrapped hother]
      simp only [Stage.unwrapped, Chains.chain_unwrapped, ← List.map_append]
      exact InTurn.map Entry.unwrapped id (fun _ => rfl) (fun entry _ => hcall entry) hlisteners

/-! ### Own events -/

/-- Whether nobody but the host hears the events of the account itself. -/
structure Hooks.HostHears {Handler : Type} (hooks : Hooks (Listener Handler) Handler) : Prop where
  commands : ∀ command, ∀ entry ∈ hooks.commands.chain command, entry.hearsOwn = false
  /-- Listeners are wrapped or the host's own. -/
  listeners : ∀ eventType, ∀ entry ∈ hooks.listeners.chain eventType,
    entry.hearsOwn = true → entry.handler = .autojoin

namespace Hooks.HostHears

variable {Handler : Type} {hooks : Hooks (Listener Handler) Handler}

/-- Among the hooks that hear own events there is no command handler. -/
theorem commands_bare (h : hooks.HostHears) (command : String) :
    (hooks.keep (·.hearsOwn) (·.hearsOwn)).commands.chain command = [] := by
  rw [keep, Chains.chain_keep, List.filter_eq_nil_iff]
  intro entry hmem
  rw [h.commands command entry hmem]
  exact Bool.false_ne_true

theorem bare (h : hooks.HostHears) : (hooks.keep (·.hearsOwn) (·.hearsOwn)).HostHears where
  commands command entry hmem := by
    rw [h.commands_bare] at hmem
    cases hmem
  listeners eventType entry hmem := by
    rw [keep, Chains.chain_keep] at hmem
    exact h.listeners eventType entry (List.mem_filter.mp hmem).1

end Hooks.HostHears

namespace Stage

variable {σ Listener Command : Type} {stage : Stage σ Listener Command} {context : EventContext}
  {start after : σ}

/-- Wrapped command handlers are counted, but let an own event pass. -/
theorem runChain_own (hown : context.isOwn = true) {chain : List (Entry Command)}
    (hwrapped : ∀ entry ∈ chain, entry.hearsOwn = false) (invoked : Nat) :
    stage.runChain context invoked chain = pure ⟨invoked + chain.length, false⟩ := by
  induction chain generalizing invoked with
  | nil => rfl
  | cons entry rest ih =>
      have hpass : stage.callCommand context entry = pure .continue := by
        simp [callCommand, hown, hwrapped entry List.mem_cons_self]
      have hrest := ih (fun entry hmem => hwrapped entry (List.mem_cons_of_mem _ hmem))
        (invoked + 1)
      rw [runChain, hpass, pure_bind]
      simp only [hrest, List.length_cons]
      rw [Nat.add_right_comm, Nat.add_assoc]

/-- If every command handler is wrapped, the chains of all matched commands let an own event
pass. -/
theorem runCommands_own (hown : context.isOwn = true)
    (hwrapped : ∀ command, ∀ entry ∈ (stage.hooks start).commands.chain command,
      entry.hearsOwn = false) (commands : List String) (invoked : Nat) :
    stage.runCommands context invoked commands start =
      .ok ⟨invoked + (commands.flatMap (stage.hooks start).commands.chain).length, false⟩
        start := by
  induction commands generalizing invoked with
  | nil => rfl
  | cons command rest ih =>
      rw [runCommands, Act.bind_apply, Act.get_apply]
      dsimp only
      rw [runChain_own hown (hwrapped command), pure_bind]
      simp [ih, Nat.add_assoc]

/-- What an own event comes to if every command handler is wrapped: nothing is stopped, and only
the listeners matter. -/
theorem dispatch_own (hown : context.isOwn = true)
    (hwrapped : ∀ command, ∀ entry ∈ (stage.hooks start).commands.chain command,
      entry.hearsOwn = false) {heard : Calls Listener ListenerSignal}
    (h : InTurn (Called (stage.callListener context)) ListenerSignal.endsPhase start
      ((stage.hooks start).listenersFor context.event.eventType) heard after) :
    stage.dispatch context start =
      comesTo heard.panic?
        ⟨((matchedIds context.found).flatMap (stage.hooks start).commands.chain).length +
          heard.length, false⟩ after := by
  rw [dispatch, Act.bind_apply, runCommands_own hown hwrapped, Nat.zero_add]
  simp only [Bool.false_eq_true, if_false]
  rw [Act.bind_apply, Act.get_apply]
  dsimp only
  rw [Act.bind_apply, runListeners_of_inTurn h]
  cases heard.panic? <;> rfl

end Stage

namespace World

variable {Handler : Type} {userId : String} {world : World Handler} {account : Account Handler}
  {context : EventContext}

/-- The world in which an account has other hooks. -/
def withHooks (userId : String) (hooks : Hooks (Listener Handler) Handler)
    (world : World Handler) : World Handler :=
  { world with
    accounts := ((world.account? userId).map fun account =>
      world.accounts.insert userId { account with hooks }).getD world.accounts }

theorem withHooks_of_account (hfound : world.account? userId = some account)
    (hooks : Hooks (Listener Handler) Handler) :
    world.withHooks userId hooks =
      { world with accounts := world.accounts.insert userId { account with hooks } } := by
  rw [withHooks, hfound]
  rfl

theorem account?_withHooks (hfound : world.account? userId = some account)
    (hooks : Hooks (Listener Handler) Handler) :
    (world.withHooks userId hooks).account? userId = some { account with hooks } := by
  rw [withHooks_of_account hfound]
  exact account?_insert userId _ world

/-- The hooks have no say in what the composite finds. -/
theorem found_withHooks (hfound : world.account? userId = some account)
    (hooks : Hooks (Listener Handler) Handler) (event : Event) :
    (world.withHooks userId hooks).found userId event = world.found userId event := by
  rw [found_of_account (account?_withHooks hfound hooks), found_of_account hfound]

/-- It makes no difference whether an account gets other hooks before an event is announced or after
an event that leaves all accounts alone. -/
theorem withHooks_announced {event : Event} {after : World Handler}
    (hfound : world.account? userId = some account)
    (hsame : after.accounts = (world.announced userId event).accounts)
    (hooks : Hooks (Listener Handler) Handler) :
    after.withHooks userId hooks =
      { after with
        accounts := ((world.withHooks userId hooks).announced userId event).accounts } := by
  have hafter := account?_announced hfound event
  rw [account?, ← hsame] at hafter
  rw [withHooks_of_account hafter, hsame, announced_of_account hfound,
    announced_of_account (account?_withHooks hfound hooks), withHooks_of_account hfound]
  simp only [SortedMap.insert_insert]

/-- The call of a listener for an own event, if nobody but the host hears it. -/
def hostCall (context : EventContext) (entry : Entry (Listener Handler)) :
    Act (World Handler) ListenerSignal :=
  if entry.hearsOwn then autojoin context else pure .continue

/-- An own event reaches the host's listener and no other. -/
theorem callListener_own (behaviour : Behaviour Handler) (hown : context.isOwn = true)
    {entry : Entry (Listener Handler)}
    (hhost : entry.hearsOwn = true → entry.handler = .autojoin) :
    (stage behaviour userId).callListener context entry = hostCall context entry := by
  cases hhears : entry.hearsOwn with
  | false => simp [Stage.callListener, hostCall, hown, hhears]
  | true => simp [Stage.callListener, hostCall, hhears, stage, hhost hhears, listen]

/-- The host's own listener adds to the trace and does nothing else, whoever else is registered. -/
theorem attempt_autojoin (context : EventContext) (world : World Handler) :
    ∃ answer trace, ∀ accounts : SortedMap String (Account Handler),
      (autojoin context).attempt { world with accounts } =
        .ok answer { world with accounts, trace } := by
  by_cases hinvite : context.event.isMembershipOf context.userId .invite = true
  · let asked :=
      .request context.userId world.clock (.join context.event.roomId) :: world.trace
    have hask (accounts : SortedMap String (Account Handler)) :
        (autojoin context).attempt { world with accounts } =
          match world.environment.respond world.trace context.userId
            (.join context.event.roomId) with
          | .panic panic => .ok (.error panic) { world with accounts, trace := asked }
          | _ => .ok (.ok .stop) { world with accounts, trace := asked } := by
      rw [Act.attempt, autojoin, if_pos hinvite, Act.bind_apply, joinRoom, ask_apply]
      cases world.environment.respond world.trace context.userId (.join context.event.roomId) <;>
        rfl
    cases hreply : world.environment.respond world.trace context.userId
      (.join context.event.roomId) with
    | answer roomId => exact ⟨.ok .stop, asked, fun accounts => by rw [hask, hreply]⟩
    | failure error => exact ⟨.ok .stop, asked, fun accounts => by rw [hask, hreply]⟩
    | panic panic => exact ⟨.error panic, asked, fun accounts => by rw [hask, hreply]⟩
  · refine ⟨.ok .continue, world.trace, fun accounts => Act.attempt_of_ok ?_⟩
    rw [autojoin, if_neg hinvite]
    rfl

/-- A call for an own event leaves all accounts alone, and it is the same whatever they are. -/
theorem called_hostCall {entry : Entry (Listener Handler)} {state next : World Handler}
    {answer : Except Panic ListenerSignal}
    (h : Stage.Called (hostCall context) entry state answer next) :
    next.accounts = state.accounts ∧ ∀ accounts : SortedMap String (Account Handler),
      Stage.Called (hostCall context) entry { state with accounts } answer
        { next with accounts } := by
  obtain ⟨_, trace, hcalls⟩ : ∃ answer trace, ∀ accounts : SortedMap String (Account Handler),
      Stage.Called (hostCall context) entry { state with accounts } answer
        { state with accounts, trace } := by
    unfold Stage.Called hostCall
    by_cases hhears : entry.hearsOwn = true
    · simp only [hhears, if_true]
      exact attempt_autojoin context state
    · exact ⟨.ok .continue, state.trace, fun accounts => by rw [if_neg hhears]; rfl⟩
  -- The call that was made is the one with the accounts of the state itself.
  have hmade := (hcalls state.accounts).symm.trans h
  cases hmade
  exact ⟨rfl, hcalls⟩

/-- The calls for an own event leave all accounts alone, and they are the same whatever those
are. -/
theorem calls_of_host {start after : World Handler} {listeners : List (Entry (Listener Handler))}
    {heard : Calls (Listener Handler) ListenerSignal}
    (h : InTurn (Stage.Called (hostCall context)) ListenerSignal.endsPhase start listeners heard
      after) (accounts : SortedMap String (Account Handler)) :
    after.accounts = start.accounts ∧
      InTurn (Stage.Called (hostCall context)) ListenerSignal.endsPhase
        { start with accounts } listeners heard { after with accounts } := by
  obtain ⟨after', hrow, hsame, rfl⟩ := h.simulate
    (fun state state' => state.accounts = start.accounts ∧ state' = { state with accounts }) id id
    (fun _ => rfl) (fun entry _ state answer next state' hstate hcalled =>
      ⟨{ next with accounts }, hstate.2 ▸ (called_hostCall hcalled).2 accounts,
        (called_hostCall hcalled).1.trans hstate.1, rfl⟩) ⟨rfl, rfl⟩
  exact ⟨hsame, by simpa using hrow⟩

/-- A wrapped listener lets an own event pass, so the other calls are those that are made without
it. -/
theorem calls_spared {start after : World Handler} {listeners : List (Entry (Listener Handler))}
    {heard : Calls (Listener Handler) ListenerSignal}
    (h : InTurn (Stage.Called (hostCall context)) ListenerSignal.endsPhase start listeners heard
      after) :
    InTurn (Stage.Called (hostCall context)) ListenerSignal.endsPhase start
        (listeners.filter (·.hearsOwn)) (heard.filter (·.1.hearsOwn)) after ∧
      Calls.panic? (heard.filter (·.1.hearsOwn)) = heard.panic? := by
  have hpass (entry : Entry (Listener Handler)) (state : World Handler)
      (answer : Except Panic ListenerSignal) (next : World Handler)
      (hdeaf : entry.hearsOwn = false)
      (hcalled : Stage.Called (hostCall context) entry state answer next) :
      answer = .ok .continue ∧ next = state := by
    rw [Stage.Called, hostCall, hdeaf] at hcalled
    cases hcalled
    exact ⟨rfl, rfl⟩
  constructor
  · refine h.filter fun entry state answer next hdeaf hcalled => ?_
    obtain ⟨rfl, rfl⟩ := hpass entry state answer next hdeaf hcalled
    exact ⟨rfl, rfl⟩
  · refine Calls.panic?_filter fun call hmem hdeaf => ?_
    obtain ⟨state, next, hcalled⟩ := h.linked.dealt call hmem
    exact ⟨.continue, (hpass _ _ _ _ hdeaf hcalled).1⟩

/-- What an own event comes to if nobody but the host hears it: nothing is stopped, and the handlers
of others have no say in it. -/
theorem dispatchEvent_own {event : Event} {after : World Handler}
    (hfound : world.account? userId = some account) (hhost : account.hooks.HostHears)
    (hown : event.sender = userId) {heard : Calls (Listener Handler) ListenerSignal}
    (h : InTurn (Stage.Called (hostCall ⟨userId, event, world.found userId event⟩))
      ListenerSignal.endsPhase (world.announced userId event)
      (account.hooks.listenersFor event.eventType) heard after) (behaviour : Behaviour Handler) :
    dispatchEvent behaviour userId event world =
      Stage.comesTo heard.panic?
        ⟨((Stage.matchedIds (world.found userId event)).flatMap
            account.hooks.commands.chain).length + heard.length, false⟩ after := by
  let context : EventContext := ⟨userId, event, world.found userId event⟩
  have hcontext : context.isOwn = true := by simp [context, EventContext.isOwn, hown]
  have hhooks : (stage behaviour userId).hooks (world.announced userId event) = account.hooks :=
    hooks_stage (account?_announced hfound event) behaviour
  have hcall : ∀ entry ∈ account.hooks.listenersFor event.eventType,
      (stage behaviour userId).callListener context entry = hostCall context entry := by
    intro entry hmem
    refine callListener_own behaviour hcontext ?_
    rcases List.mem_append.mp hmem with htyped | hall
    · exact hhost.listeners _ entry htyped
    · exact hhost.listeners _ entry hall
  have hrow : InTurn (Stage.Called ((stage behaviour userId).callListener context))
      ListenerSignal.endsPhase (world.announced userId event)
      (account.hooks.listenersFor event.eventType) heard after := by
    have hmapped := h.map id id (fun _ => rfl) fun entry hmem state answer next hcalled =>
      show Stage.Called ((stage behaviour userId).callListener context) entry state answer next by
        rwa [Stage.Called, hcall entry hmem]
    simpa using hmapped
  rw [dispatchEvent_eq]
  have hdispatch := Stage.dispatch_own hcontext (hhooks ▸ hhost.commands) (hhooks ▸ hrow)
  rwa [hhooks] at hdispatch

/-- The calls for an event of somebody else are those of the stage on which nothing is wrapped. -/
theorem exists_dispatched_unwrapped {event : Event} (hother : event.sender ≠ userId)
    (world : World Handler) (behaviour : Behaviour Handler) :
    ∃ record, Dispatched (stage behaviour userId) userId event world record ∧
      Dispatched (stage behaviour userId).unwrapped userId event world record.unwrapped := by
  obtain ⟨record, hdispatched⟩ := exists_dispatched (stage behaviour userId) userId event world
  have hcontext : EventContext.isOwn ⟨userId, event, world.found userId event⟩ = false := by
    simpa [EventContext.isOwn] using hother
  exact ⟨record, hdispatched, hdispatched.unwrapped hcontext⟩

end World

namespace AccountChange

variable {Handler : Type}

/-- Whether a change can come about: owners register their handlers through their own views of the
account, and nothing but the host's own listener is registered in another way. -/
def Usual : AccountChange Handler → Prop
  | addListener _ entry => entry.hearsOwn = true → entry.handler = .autojoin
  | addCommand _ entry => entry.hearsOwn = false
  | _ => True

theorem hostHears_hooksAfter {changes : List (AccountChange Handler)}
    (husual : ∀ change ∈ changes, change.Usual) : (hooksAfter changes).HostHears where
  commands _ _ hmem := husual _ (registered_of_mem_commands hmem)
  listeners _ _ hmem := husual _ (registered_of_mem_listeners hmem)

/-- What is left of a change if nothing is registered through a view of the account. -/
def withoutWrapped : AccountChange Handler → Option (AccountChange Handler)
  | addListener eventType entry =>
    if entry.hearsOwn then some (addListener eventType entry) else none
  | addCommand command entry => if entry.hearsOwn then some (addCommand command entry) else none
  | change => some change

/-- Without the registrations through views of the account, there are the hooks that hear own
events. -/
theorem hooksAfter_withoutWrapped (changes : List (AccountChange Handler)) :
    hooksAfter (changes.filterMap withoutWrapped) =
      (hooksAfter changes).keep (·.hearsOwn) (·.hearsOwn) := by
  refine hooksAfter_filterMap (fun hooks change => ?_) changes
  cases change with
  | setSpec owner spec refusal => rfl
  | load records => rfl
  | addListener eventType entry =>
      rw [onHooks, Hooks.keep_addListener, withoutWrapped]
      split <;> rfl
  | addCommand command entry =>
      rw [onHooks, Hooks.keep_addCommand, withoutWrapped]
      split <;> rfl
  | removeOwner owner => exact Hooks.keep_withdraw _ _ hooks owner

end AccountChange

namespace AccountHistory

variable {Handler : Type} {userId : String} {changes : List (AccountChange Handler)}
  {world : World Handler}

/-- Only the host's own listener hears the events that the account has sent itself, and what comes
of it is what would come of it if nothing else had been registered. -/
theorem own_event (h : AccountHistory userId changes world)
    (husual : ∀ change ∈ changes, change.Usual) {event : Event} (hown : event.sender = userId) :
    let bare := AccountChange.hooksAfter (changes.filterMap AccountChange.withoutWrapped)
    ∃ panic heard passed after,
      (after.account? userId).map (·.hooks) = some (AccountChange.hooksAfter changes) ∧
      ∀ behaviour : Behaviour Handler,
        World.dispatchEvent behaviour userId event world =
          Stage.comesTo panic ⟨heard + passed, false⟩ after ∧
        World.dispatchEvent behaviour userId event (world.withHooks userId bare) =
          Stage.comesTo panic ⟨heard, false⟩ (after.withHooks userId bare) := by
  intro bare
  obtain ⟨account, hfound, hhooks, -⟩ := h.account
  have hhost : account.hooks.HostHears := hhooks ▸ AccountChange.hostHears_hooksAfter husual
  have hbare : bare = account.hooks.keep (·.hearsOwn) (·.hearsOwn) :=
    hhooks ▸ AccountChange.hooksAfter_withoutWrapped changes
  let context : EventContext := ⟨userId, event, world.found userId event⟩
  obtain ⟨heard, after, hrow⟩ : ∃ (heard : Calls (Listener Handler) ListenerSignal) (after : _),
      InTurn (Stage.Called (World.hostCall context)) ListenerSignal.endsPhase
        (world.announced userId event) (account.hooks.listenersFor event.eventType) heard
        after := exists_inTurn (Stage.exists_called _) _ _
  -- The calls without the wrapped listeners are made in the world without them.
  obtain ⟨hspared, hpanic⟩ := World.calls_spared hrow
  rw [← Hooks.listenersFor_keep _ (·.hearsOwn), ← hbare] at hspared
  obtain ⟨hsame, hsparedRow⟩ := World.calls_of_host hspared
    ((world.withHooks userId bare).announced userId event).accounts
  have hdeaf (commands : List String) : commands.flatMap bare.commands.chain = [] := by
    rw [hbare]
    exact List.flatMap_eq_nil_iff.mpr fun command _ => hhost.commands_bare command
  have hspent := List.length_filter_le (fun call => call.1.hearsOwn) heard
  refine ⟨heard.panic?, (heard.filter (·.1.hearsOwn)).length,
    ((Stage.matchedIds context.found).flatMap account.hooks.commands.chain).length +
      (heard.length - (heard.filter (·.1.hearsOwn)).length), after, ?_, fun behaviour => ⟨?_, ?_⟩⟩
  · have hafter := World.account?_announced hfound event
    rw [World.account?, ← hsame] at hafter
    rw [World.account?, hafter, Option.map_some, hhooks]
  · rw [World.dispatchEvent_own hfound hhost hown hrow]
    congr 2
    simp only [context]
    omega
  · have hsparedHost : bare.HostHears := hbare ▸ hhost.bare
    rw [World.dispatchEvent_own (World.account?_withHooks hfound bare) hsparedHost hown
      (by rw [World.found_withHooks hfound]; exact hsparedRow), hpanic, hdeaf, List.length_nil,
      Nat.zero_add, World.withHooks_announced hfound hsame]

/-- Whatever owners have registered through their own views of an account, none of it hears the
events that the account has sent itself: nothing is stopped, no handler has a say in the result,
and the host's own listener does what it would do if nothing else had been registered.  For the
events of others, the same handlers are called in the same order with the same answers as if none
were wrapped. -/
theorem dispatchEvent_wrapped (h : AccountHistory userId changes world)
    (husual : ∀ change ∈ changes, change.Usual) (event : Event) :
    (event.sender = userId →
      let bare := AccountChange.hooksAfter (changes.filterMap AccountChange.withoutWrapped)
      ∃ panic heard passed after,
        (after.account? userId).map (·.hooks) = some (AccountChange.hooksAfter changes) ∧
        ∀ behaviour : Behaviour Handler,
          World.dispatchEvent behaviour userId event world =
            Stage.comesTo panic ⟨heard + passed, false⟩ after ∧
          World.dispatchEvent behaviour userId event (world.withHooks userId bare) =
            Stage.comesTo panic ⟨heard, false⟩ (after.withHooks userId bare)) ∧
    (event.sender ≠ userId → ∀ behaviour : Behaviour Handler, ∃ record,
      World.Dispatched (World.stage behaviour userId) userId event world record ∧
      World.Dispatched (World.stage behaviour userId).unwrapped userId event world
        record.unwrapped ∧
      World.dispatchEvent behaviour userId event world = record.result ∧
      record.unwrapped.result = record.result) := by
  refine ⟨fun hown => h.own_event husual hown, fun hother behaviour => ?_⟩
  obtain ⟨record, hrecord, hunwrapped⟩ :=
    World.exists_dispatched_unwrapped hother world behaviour
  exact ⟨record, hrecord, hunwrapped, World.dispatchEvent_of_dispatched hrecord,
    record.result_unwrapped⟩

end AccountHistory

/-! ### An owner beside the host

The scene of the concrete history: the account accepts every invitation, and an owner registers a
listener behind the host's and a handler for a command. -/

namespace BesideHost

/-- The account as it is stored. -/
def record : AccountRecord := { TwoOwners.record with autojoin := true }

/-- What is asked of the account. -/
def changes : List (AccountChange Unit) :=
  [.load [], .addListener roomMember ⟨Account.autojoinOwner, true, .autojoin⟩,
    .addListener roomMember ⟨"a", false, .custom ()⟩, .setSpec "a" (TwoOwners.spec "ping") none,
    .addCommand "ping" ⟨"a", false, ()⟩]

theorem changed : ∃ after : World Unit, AccountHistory "@bot:hs" changes after := by
  have hstart : AccountHistory "@bot:hs" (changes.take 2) _ :=
    @AccountHistory.connect _ TwoOwners.world record _ rfl
  have hlistens : AccountHistory "@bot:hs" (changes.take 3) _ := .addListener hstart rfl
  have hset : AccountHistory "@bot:hs" (changes.take 4) _ := .setSpec hlistens rfl rfl
  exact ⟨_, .addCommand hset rfl⟩

/-- A message that the account has sent itself. -/
def ownPing : Event := { TwoOwners.message "ping" with sender := "@bot:hs" }

end BesideHost

/-- A command that the account sends to itself is passed over, whatever the handler would do, and
the same command from somebody else reaches the handler as if it were not wrapped. -/
theorem AccountHistory.dispatchEvent_wrapped_ping :
    ∃ world : World Unit, AccountHistory "@bot:hs" BesideHost.changes world ∧
      (∃ panic invoked after, ∀ behaviour : Behaviour Unit,
        World.dispatchEvent behaviour "@bot:hs" BesideHost.ownPing world =
          Stage.comesTo panic ⟨invoked, false⟩ after) ∧
      ∀ behaviour : Behaviour Unit, ∃ record,
        World.Dispatched (World.stage behaviour "@bot:hs").unwrapped "@bot:hs"
          (TwoOwners.message "ping") world record ∧
        World.dispatchEvent behaviour "@bot:hs" (TwoOwners.message "ping") world =
          record.result := by
  obtain ⟨world, hworld⟩ := BesideHost.changed
  have husual : ∀ change ∈ BesideHost.changes, change.Usual := by
    simp [BesideHost.changes, AccountChange.Usual]
  obtain ⟨hown, -⟩ := hworld.dispatchEvent_wrapped husual BesideHost.ownPing
  obtain ⟨-, hother⟩ := hworld.dispatchEvent_wrapped husual (TwoOwners.message "ping")
  obtain ⟨panic, heard, passed, after, -, hpassed⟩ := hown rfl
  refine ⟨world, hworld, ⟨panic, heard + passed, after, fun behaviour => (hpassed behaviour).1⟩,
    fun behaviour => ?_⟩
  obtain ⟨record, -, hunwrapped, hresult, hsame⟩ := hother (by decide) behaviour
  exact ⟨record.unwrapped, hunwrapped, hresult.trans hsame.symm⟩

end BotHost
