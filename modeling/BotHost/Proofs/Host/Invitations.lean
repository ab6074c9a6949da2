/-
# Invitations

An account that accepts every invitation has a listener of the host's own, which is registered when
the account is connected.  As long as it stands in front of the others, `Hooks.hostLeads`, the host
alone answers the invitations of the account: it asks once to join the room, and nobody else hears
of the event, `World.hostAnswers_of_leads`.

Registrations cannot displace the listener, for they go to the end.  What can take it away is that
its owner is withdrawn, and this owner is a name that an instance may have as well.  So in the life
of a host the listener stays in front as long as no instance on the account goes by that name, and
once the start of such an instance has failed, or it has been stopped, the listener is gone.
-/

import BotHost.Proofs.Account.Events
import BotHost.Proofs.Host.Disabling
import BotHost.Proofs.Host.Proxies
import BotHost.Configuration.Validation

namespace BotHost

/-! ### The host's own listener -/

/-- The host's own listener, as it is registered. -/
def Account.hostEntry {Handler : Type} : Entry (Listener Handler) :=
  ⟨autojoinOwner, true, .autojoin⟩

/-- Whether an entry is the host's own listener. -/
def Entry.isHost {Handler : Type} (entry : Entry (Listener Handler)) : Bool :=
  match entry.handler with
  | .autojoin => entry.owner == Account.autojoinOwner && entry.hearsOwn
  | .custom _ => false

theorem Entry.isHost_iff {Handler : Type} {entry : Entry (Listener Handler)} :
    entry.isHost = true ↔ entry = Account.hostEntry := by
  obtain ⟨owner, hearsOwn, _ | handler⟩ := entry <;> simp [isHost, Account.hostEntry]

namespace Hooks

variable {Handler : Type} {hooks : Hooks (Listener Handler) Handler}

/-- Whether the host's own listener is the first to hear of memberships. -/
def hostLeads (hooks : Hooks (Listener Handler) Handler) : Bool :=
  (hooks.listeners.chain roomMember).head?.any Entry.isHost

/-- Whether the host's own listener is among those who hear of memberships. -/
def hostListens (hooks : Hooks (Listener Handler) Handler) : Bool :=
  (hooks.listenersFor roomMember).any Entry.isHost

/-- The listener stays in front of whatever is registered, and nothing else comes to be in front. -/
theorem settled_hostLeads : Settled (hostLeads : Hooks (Listener Handler) Handler → Bool) where
  listener hooks owner eventType handler := by
    rw [hostLeads, hostLeads, addListener, Chains.chain_add]
    by_cases htype : eventType = roomMember
    · rw [if_pos htype]
      cases hooks.listeners.chain roomMember <;> rfl
    · rw [if_neg htype]
  command _ _ _ _ := rfl

theorem settled_hostListens : Settled (hostListens : Hooks (Listener Handler) Handler → Bool) where
  listener hooks owner eventType handler := by
    have hother : Entry.isHost ⟨owner, false, (.custom handler : Listener Handler)⟩ = false := rfl
    have hchain (sought : String) :
        ((hooks.addListener eventType ⟨owner, false, .custom handler⟩).listeners.chain sought).any
          Entry.isHost = (hooks.listeners.chain sought).any Entry.isHost := by
      rw [addListener, Chains.chain_add]
      split <;> simp [hother]
    rw [hostListens, hostListens, listenersFor, listenersFor, List.any_append, List.any_append,
      hchain, hchain]
  command _ _ _ _ := rfl

/-- The listener stays in front when another owner is withdrawn. -/
theorem hostLeads_withdraw {owner : String} (hother : owner ≠ Account.autojoinOwner)
    (h : hooks.hostLeads = true) : (hooks.withdraw owner).hostLeads = true := by
  rw [hostLeads, withdraw_eq_keep, keep, Chains.chain_keep]
  cases hchain : hooks.listeners.chain roomMember with
  | nil =>
      rw [hostLeads, hchain] at h
      cases h
  | cons entry rest =>
      rw [hostLeads, hchain] at h
      have hentry : entry = Account.hostEntry := Entry.isHost_iff.mp h
      have hkept : (entry.owner != owner) = true := by
        simpa [hentry, Account.hostEntry] using Ne.symm hother
      rwa [List.filter_cons, if_pos hkept]

/-- Whoever is withdrawn, the listener does not come back. -/
theorem hostListens_withdraw (h : hooks.hostListens = false) (owner : String) :
    (hooks.withdraw owner).hostListens = false := by
  rw [hostListens, withdraw_eq_keep, listenersFor_keep]
  rw [hostListens, List.any_eq_false] at h
  exact List.any_eq_false.mpr fun entry hmem => h entry (List.mem_filter.mp hmem).1

/-- Once its owner is withdrawn, the listener is gone. -/
theorem hostListens_withdraw_self : (hooks.withdraw Account.autojoinOwner).hostListens = false := by
  rw [hostListens, withdraw_eq_keep, listenersFor_keep]
  refine List.any_eq_false.mpr fun entry hmem hhost => ?_
  have hkept := (List.mem_filter.mp hmem).2
  rw [Entry.isHost_iff.mp hhost] at hkept
  simp [Account.hostEntry] at hkept

end Hooks

/-! ### Answering an invitation -/

theorem Event.eventType_of_isMembershipOf {event : Event} {userId : String}
    {membership : Membership} (h : event.isMembershipOf userId membership = true) :
    event.eventType = roomMember := by
  simp only [isMembershipOf, Bool.and_eq_true, beq_iff_eq] at h
  exact h.1.1

namespace World

variable {Handler : Type} {behaviour : Behaviour Handler} {userId : String} {event : Event}
  {world : World Handler}

/-- The world in which the host has asked to join the room of an event on an account, and nothing
else has happened since the event was announced. -/
def invited (userId : String) (event : Event) (world : World Handler) : World Handler :=
  { world.announced userId event with
    trace := .request userId world.clock (.join event.roomId) :: .dispatch userId event ::
      world.trace }

/-- The host alone answers an event on an account. -/
structure Answered (behaviour : Behaviour Handler) (userId : String) (event : Event)
    (world : World Handler)
    (record : DispatchRecord (World Handler) (Listener Handler) Handler) : Prop where
  dispatched : Dispatched (stage behaviour userId) userId event world record
  obeyed : record.obeyed = []
  /-- Of all listeners, the host's own one is called. -/
  heard : record.heard.map Prod.fst = [Account.hostEntry]
  /-- It asks once to join the room of the event, and does nothing else. -/
  after : record.after = world.invited userId event
  /-- That ends the dispatch, whether or not the request succeeds, and even if it panics. -/
  result : dispatchEvent behaviour userId event world =
    match world.environment.respond (.dispatch userId event :: world.trace) userId
      (.join event.roomId) with
    | .panic panic => .error panic (world.invited userId event)
    | _ => .ok ⟨1, false⟩ (world.invited userId event)

/-- The host alone answers an event on an account, whatever the handlers of others would do. -/
def HostAnswers (userId : String) (event : Event) (world : World Handler) : Prop :=
  ∀ behaviour : Behaviour Handler, ∃ record, Answered behaviour userId event world record

/-- Announcing an event leaves all hooks alone. -/
theorem hooksOf_announced (userId : String) (event : Event) (world : World Handler) :
    (world.announced userId event).hooksOf userId = world.hooksOf userId := by
  cases hfound : world.account? userId with
  | none =>
      rw [announced, hfound]
      rfl
  | some account =>
      rw [hooksOf_of_account (account?_announced hfound event), hooksOf_of_account hfound]

/-- Only messages are matched against a composite, so a membership is a matter of listeners. -/
theorem dispatched_member_iff (hmember : event.eventType = roomMember)
    {record : DispatchRecord (World Handler) (Listener Handler) Handler} :
    Dispatched (stage behaviour userId) userId event world record ↔
      record.chains = [] ∧ record.between = world.announced userId event ∧
      InTurn (Stage.Called ((stage behaviour userId).callListener ⟨userId, event, .none⟩))
        ListenerSignal.endsPhase (world.announced userId event)
        ((world.hooksOf userId).listenersFor roomMember) record.heard record.after := by
  have hfound : world.found userId event = .none := by
    rw [found, Composite.matchEvent, if_neg (by rw [hmember]; decide)]
  have hhooks : (stage behaviour userId).hooks (world.announced userId event) =
      world.hooksOf userId := hooksOf_announced userId event world
  constructor
  · rintro ⟨hchains, hlisteners⟩
    rw [hfound] at hchains hlisteners
    obtain ⟨hnone, hbetween⟩ := inTurn_nil_iff.mp hchains
    rw [hnone, hbetween, if_neg (by simp), hhooks] at hlisteners
    exact ⟨hnone, hbetween, hmember ▸ hlisteners⟩
  · rintro ⟨hnone, hbetween, hlisteners⟩
    constructor
    · rw [hfound, hnone, hbetween]
      exact inTurn_nil_iff.mpr ⟨rfl, rfl⟩
    · rw [hfound, hnone, hbetween, if_neg (by simp), hhooks]
      exact hmember ▸ hlisteners

/-- How the call of the host's own listener ends that answers an event: whatever the homeserver says
to the request, the other listeners are stopped, unless the request panics. -/
def callAnswer (userId : String) (event : Event) (world : World Handler) :
    Except Panic ListenerSignal :=
  match world.environment.respond (.dispatch userId event :: world.trace) userId
    (.join event.roomId) with
  | .panic panic => .error panic
  | _ => .ok .stop

theorem endsPhase_callAnswer (userId : String) (event : Event) (world : World Handler) :
    ListenerSignal.endsPhase (world.callAnswer userId event) = true := by
  unfold callAnswer
  split <;> rfl

/-- The host's own listener answers an invitation. -/
theorem called_hostEntry (hinvite : event.isMembershipOf userId .invite = true) (found : Matches) :
    Stage.Called ((stage behaviour userId).callListener ⟨userId, event, found⟩) Account.hostEntry
      (world.announced userId event) (world.callAnswer userId event)
      (world.invited userId event) := by
  have hcall : (stage behaviour userId).callListener ⟨userId, event, found⟩ Account.hostEntry =
      autojoin ⟨userId, event, found⟩ := rfl
  have hjoin : autojoin ⟨userId, event, found⟩ =
      (joinRoom userId event.roomId >>= fun _ => pure .stop : Act (World Handler) _) :=
    if_pos hinvite
  have henvironment : (world.announced userId event).environment = world.environment := rfl
  have htrace : (world.announced userId event).trace = .dispatch userId event :: world.trace := rfl
  rw [Stage.called_iff, hcall, hjoin, Act.bind_apply, joinRoom, ask_apply, henvironment, htrace,
    callAnswer]
  cases world.environment.respond (.dispatch userId event :: world.trace) userId
    (.join event.roomId) <;> rfl

/-- If the host's own listener stands in front, the host alone answers an invitation. -/
theorem hostAnswers_of_leads (hleads : (world.hooksOf userId).hostLeads = true)
    (hinvite : event.isMembershipOf userId .invite = true) : world.HostAnswers userId event := by
  intro behaviour
  obtain ⟨rest, hchain⟩ : ∃ rest,
      (world.hooksOf userId).listeners.chain roomMember = Account.hostEntry :: rest := by
    rw [Hooks.hostLeads] at hleads
    cases hchain : (world.hooksOf userId).listeners.chain roomMember with
    | nil =>
        rw [hchain] at hleads
        cases hleads
    | cons entry rest =>
        rw [hchain] at hleads
        exact ⟨rest, by rw [Entry.isHost_iff.mp hleads]⟩
  let record : DispatchRecord (World Handler) (Listener Handler) Handler :=
    { chains := []
      between := world.announced userId event
      heard := [(Account.hostEntry, world.callAnswer userId event)]
      after := world.invited userId event }
  have hdispatched : Dispatched (stage behaviour userId) userId event world record := by
    refine (dispatched_member_iff (event.eventType_of_isMembershipOf hinvite)).mpr ⟨rfl, rfl, ?_⟩
    rw [Hooks.listenersFor, hchain, List.cons_append]
    refine inTurn_cons_iff.mpr ⟨_, _, [], rfl, called_hostEntry hinvite _, ?_⟩
    rw [if_pos (endsPhase_callAnswer userId event world)]
    exact ⟨rfl, rfl⟩
  refine ⟨record, hdispatched, rfl, rfl, rfl, ?_⟩
  rw [dispatchEvent_of_dispatched hdispatched, DispatchRecord.result]
  simp only [record, DispatchRecord.obeyed, DispatchRecord.stopped, callAnswer]
  cases world.environment.respond (.dispatch userId event :: world.trace) userId
    (.join event.roomId) <;> rfl

/-- If the host alone answers an invitation, its own listener is registered. -/
theorem hostListens_of_answers (hmember : event.eventType = roomMember)
    (behaviour : Behaviour Handler) (h : world.HostAnswers userId event) :
    (world.hooksOf userId).hostListens = true := by
  obtain ⟨record, hanswered⟩ := h behaviour
  obtain ⟨-, -, hlisteners⟩ := (dispatched_member_iff hmember).mp hanswered.dispatched
  have hheard := hanswered.heard
  rw [Hooks.hostListens]
  cases hrow : (world.hooksOf userId).listenersFor roomMember with
  | nil =>
      rw [hrow] at hlisteners
      rw [(inTurn_nil_iff.mp hlisteners).1] at hheard
      cases hheard
  | cons entry rest =>
      rw [hrow] at hlisteners
      obtain ⟨_, _, _, hcalls, -⟩ := inTurn_cons_iff.mp hlisteners
      rw [hcalls, List.map_cons] at hheard
      obtain rfl : entry = Account.hostEntry := (List.cons.inj hheard).1
      rfl

/-! ### Withdrawals -/

/-- What a removal does to the hooks of an account. -/
theorem hooksOf_removeOwner {changedUser owner : String} {after : World Handler}
    (h : removeOwner changedUser owner world = .ok () after) (userId : String) :
    after.hooksOf userId =
      if changedUser = userId then (world.hooksOf userId).withdraw owner
      else world.hooksOf userId := by
  cases hfound : world.account? changedUser with
  | none =>
      simp only [removeOwner, changeAccount, Act.bind_apply, Act.get_apply, hfound] at h
      cases h
      by_cases huser : changedUser = userId
      · subst huser
        rw [if_pos rfl, hooksOf, hfound]
        rfl
      · rw [if_neg huser]
  | some account =>
      rw [removeOwner, changeAccount_apply hfound] at h
      cases h
      rw [hooksOf, account?, SortedMap.find?_insert]
      by_cases huser : changedUser = userId
      · subst huser
        rw [if_pos rfl, if_pos rfl, hooksOf_of_account hfound]
        rfl
      · rw [if_neg huser, if_neg huser]
        rfl

/-- The worlds through which a host can pass from one on while it polls feeds and applies batches:
when an event is dispatched, those before it have been applied, and its room has taken it in. -/
inductive MidBatch (behaviour : Behaviour Handler) (world : World Handler) :
    World Handler → Prop where
  | here : MidBatch behaviour world world
  | polled {reached : World Handler} (processor : SyncProcessor) :
      MidBatch behaviour world reached →
      MidBatch behaviour world ((processor.poll : Act (World Handler) _).stateAfter reached)
  | applied {reached : World Handler} (userId : String) (count : Nat) (events : List Event) :
      MidBatch behaviour world reached →
      MidBatch behaviour world
        ((SyncProcessor.applyEvents behaviour userId count events).stateAfter reached)
  | projected {reached : World Handler} (event : Event) :
      MidBatch behaviour world reached →
      MidBatch behaviour world
        ((SyncProcessor.project event : Act (World Handler) _).stateAfter reached)

/-- While batches are applied, nothing about the hooks changes that no handler changes. -/
theorem MidBatch.hooks_eq {γ : Type} {test : Hooks (Listener Handler) Handler → γ}
    {reached : World Handler}
    (hkeeps : behaviour.Keeps fun world => test (world.hooksOf userId))
    (h : MidBatch behaviour world reached) :
    test (reached.hooksOf userId) = test (world.hooksOf userId) := by
  have hview := (detached_hooksOf test userId).toUndisturbed
  induction h with
  | here => rfl
  | polled processor _ ih =>
      have hpoll : (processor.poll : Act (World Handler) _).Keeps
          fun world => test (world.hooksOf userId) := processor.poll_keeps fun _ _ _ _ => rfl
      exact (hpoll _).trans ih
  | applied _ count events _ ih =>
      exact (SyncProcessor.applyEvents_keeps hview hkeeps count events _).trans ih
  | projected event _ ih => exact (SyncProcessor.project_keeps hview event _).trans ih

end World

namespace Host

variable {Handler Factory Plugin γ : Type} {performers : Performers Handler Factory Plugin}
  {ready : Host Factory Plugin} {world after connected : World Handler}
  {pasts : List (List Milestone)} {plugins advanced stopped : List (LoadedPlugin Plugin)}
  {userId : String} {test : Hooks (Listener Handler) Handler → γ} {value : γ}

/-! ### What instances spare -/

/-- Withdrawing the instance of a record preserves a value that the hooks of an account have. -/
def Spares (test : Hooks (Listener Handler) Handler → γ) (value : γ) (userId : String)
    (record : PluginRecord) : Prop :=
  record.userId = userId → ∀ hooks, test hooks = value → test (hooks.withdraw record.id) = value

theorem Spares.removeOwner {record : PluginRecord} (h : Spares test value userId record)
    (hremove : World.removeOwner record.userId record.id world = .ok () after)
    (hvalue : test (world.hooksOf userId) = value) : test (after.hooksOf userId) = value := by
  rw [World.hooksOf_removeOwner hremove]
  split
  · rename_i huser
    exact h huser _ hvalue
  · exact hvalue

section Proxies

variable (hproxies : performers.UseProxies) (htest : Hooks.Settled test)
include hproxies htest

theorem advanceStart_spares {loaded moved : LoadedPlugin Plugin}
    (hspares : Spares test value userId loaded.record)
    (h : advanceStart performers loaded world = .ok moved after)
    (hvalue : test (world.hooksOf userId) = value) : test (after.hooksOf userId) = value := by
  have hstart := (hproxies.keeps_hooks htest userId).start
  rcases advanceStart_cases h with ⟨-, -, rfl⟩ | ⟨_, rest, -, hcases⟩
  · exact hvalue
  rcases hcases with ⟨_, hpanic, -⟩ | ⟨hsuccess, -⟩ | ⟨_, _, _, hfail, hremove, hdisable, -⟩ |
    ⟨_, _, hsleep, -⟩
  · exact ((hstart rest).eq_of_panic hpanic).trans hvalue
  · exact ((hstart rest).eq_of_ok hsuccess).trans hvalue
  · refine ((disable_keeps (World.detached_hooksOf test userId) _).eq_of_ok hdisable).trans ?_
    exact hspares.removeOwner hremove (((hstart rest).eq_of_ok hfail).trans hvalue)
  · exact ((hstart rest).eq_of_ok hsleep).trans hvalue

theorem advanceStarts_spares (hspares : ∀ loaded ∈ plugins, Spares test value userId loaded.record)
    (h : advanceStarts performers plugins world = .ok advanced after)
    (hvalue : test (world.hooksOf userId) = value) : test (after.hooksOf userId) = value := by
  induction plugins generalizing world advanced with
  | nil =>
      cases h
      exact hvalue
  | cons loaded rest ih =>
      obtain ⟨hloaded, hrest⟩ := List.forall_mem_cons.mp hspares
      obtain ⟨_, _, _, -, hfirst, hothers⟩ := advanceStarts_cons h
      exact ih hrest hothers (advanceStart_spares hproxies htest hloaded hfirst hvalue)

theorem stopPlugins_spares (hspares : ∀ loaded ∈ plugins, Spares test value userId loaded.record)
    (h : stopPlugins performers plugins world = .ok stopped after)
    (hvalue : test (world.hooksOf userId) = value) : test (after.hooksOf userId) = value := by
  induction plugins generalizing world stopped with
  | nil =>
      cases h
      exact hvalue
  | cons loaded rest ih =>
      obtain ⟨hloaded, hrest⟩ := List.forall_mem_cons.mp hspares
      obtain ⟨_, before, _, -, hstop, hremove, hothers⟩ := stopPlugins_cons h
      have hbefore : test (before.hooksOf userId) = value := by
        rcases hstop with ⟨-, rfl⟩ | ⟨-, hstop⟩
        · exact hvalue
        · exact (((hproxies.keeps_hooks htest userId).stop _).eq_of_ok hstop).trans hvalue
      exact ih hrest hothers (hloaded.removeOwner hremove hbefore)

/-- What the hooks of an account have from the beginning, they have in all of a life, if the
withdrawal of no instance takes it away. -/
theorem Life.hooks_eq (hspares : ∀ loaded ∈ ready.plugins, Spares test value userId loaded.record)
    (hconnected : test (connected.hooksOf userId) = value)
    (h : Life performers ready connected pasts plugins world) :
    test (world.hooksOf userId) = value := by
  have hview := World.detached_hooksOf test userId
  have hkeeps := hproxies.keeps_hooks htest userId
  induction h with
  | made _ => exact hconnected
  | begun _ _ ih => exact ih
  | turned hlife hadvance ih =>
      exact advanceStarts_spares hproxies htest (hlife.forall_record _ hspares) hadvance ih
  | looped _ hmove ih =>
      exact ((advanceLoops_keeps hview hkeeps.handlers
        (fun processor => processor.poll_keeps fun _ _ _ _ => rfl) _ _).eq_of_ok hmove).trans ih
  | waited _ hwait ih => exact ((World.waitUntil_keeps hview _).eq_of_ok hwait).trans ih
  | stopped hlife hstop ih =>
      exact stopPlugins_spares hproxies htest (hlife.forall_record _ hspares) hstop ih

end Proxies

/-! ### The host's own listener in a life -/

/-- There is an instance on the account of a user that goes by the name under which the host itself
listens. -/
def HasNamesake (userId : String) (plugins : List (LoadedPlugin Plugin)) : Prop :=
  (userId, Account.autojoinOwner) ∈ plugins.map (·.record.scope)

/-- An instance that does not go by the host's name on the account spares the host's listener. -/
theorem spares_hostLeads {record : PluginRecord}
    (hother : record.scope ≠ (userId, Account.autojoinOwner)) :
    Spares (Hooks.hostLeads : Hooks (Listener Handler) Handler → Bool) true userId record :=
  fun huser _ hleads =>
    Hooks.hostLeads_withdraw (fun howner => hother (Prod.ext huser howner)) hleads

/-- No instance brings the host's listener back. -/
theorem spares_silence (userId : String) (record : PluginRecord) :
    Spares (Hooks.hostListens : Hooks (Listener Handler) Handler → Bool) false userId record :=
  fun _ _ hsilent => Hooks.hostListens_withdraw hsilent record.id

/-- Removing the host's name from an account takes its listener away. -/
theorem silent_of_removeOwner {record : PluginRecord}
    (hscope : record.scope = (userId, Account.autojoinOwner))
    (h : World.removeOwner record.userId record.id world = .ok () after) :
    (after.hooksOf userId).hostListens = false := by
  have huser : record.userId = userId := congrArg Prod.fst hscope
  have howner : record.id = Account.autojoinOwner := congrArg Prod.snd hscope
  rw [World.hooksOf_removeOwner h, if_pos huser, howner]
  exact Hooks.hostListens_withdraw_self

/-- On an account that accepts every invitation, the host's listener is registered first. -/
theorem hostLeads_connect {record : AccountRecord} (hautojoin : record.autojoin = true)
    (stored : List SpecRecord) :
    (Account.connect record stored : Account Handler).hooks.hostLeads = true := by
  rw [Account.connect, Account.initialHooks, if_pos hautojoin]
  rfl

/-- Every account that accepts all invitations has the host's listener in front. -/
def Attended (world : World Handler) : Prop :=
  ∀ userId record, world.recordOf userId = some record → record.autojoin = true →
    (world.hooksOf userId).hostLeads = true

/-- However often a host has been initialised, the accounts that are connected are attended. -/
theorem InitRun.attended {outcomes : List (Except HostError Unit × Bool)}
    (hproxies : performers.UseProxies) (h : InitRun performers outcomes ready world) :
    Attended world := by
  induction h with
  | fresh _ hempty =>
      intro userId record hrecord
      refine absurd ?_ (World.not_hasAccount_of_isEmpty hempty userId)
      obtain ⟨account, hfound, -⟩ := Option.map_eq_some_iff.mp hrecord
      rw [World.HasAccount, hfound]
      rfl
  | call _ hinit ih =>
      refine init_preserves Attended (fun _ _ hbefore => hbefore) ?_ ?_ ih hinit
      · intro before joined _ hbefore userId record hrecord hautojoin
        rw [World.recordOf, World.account?, SortedMap.find?_insert] at hrecord
        rw [World.hooksOf, World.account?, SortedMap.find?_insert]
        by_cases huser : joined.userId = userId
        · rw [if_pos huser] at hrecord ⊢
          cases hrecord
          exact hostLeads_connect hautojoin _
        · rw [if_neg huser] at hrecord ⊢
          exact hbefore userId record hrecord hautojoin
      · intro records before loaded after hbefore hload userId record hrecord hautojoin
        have hrecords := (loadPlugins_keeps hproxies.keeps_recordOf.create
          (disable_keeps World.ofRecords_recordOf.toDetached) _ records).eq_of_ok hload
        have hkeeps := hproxies.keeps_hooks Hooks.settled_hostLeads userId
        have hhooks := (loadPlugins_keeps hkeeps.create
          (disable_keeps (World.detached_hooksOf Hooks.hostLeads userId)) _ records).eq_of_ok hload
        rw [hrecords] at hrecord
        exact hhooks.trans (hbefore userId record hrecord hautojoin)

/-- Once an instance that goes by the host's name has been stopped along with the others, the host's
listener is gone. -/
theorem stopPlugins_silences (hproxies : performers.UseProxies)
    (hnamed : HasNamesake userId plugins)
    (h : stopPlugins performers plugins world = .ok stopped after) :
    (after.hooksOf userId).hostListens = false := by
  induction plugins generalizing world stopped with
  | nil => cases hnamed
  | cons loaded rest ih =>
      obtain ⟨_, _, removed, -, -, hremove, hothers⟩ := stopPlugins_cons h
      rcases List.mem_cons.mp hnamed with hscope | hlater
      · exact stopPlugins_spares hproxies Hooks.settled_hostListens
          (fun other _ => spares_silence userId other.record) hothers
          (silent_of_removeOwner hscope.symm hremove)
      · exact ih hlater hothers

/-- If the start of an instance that goes by the host's name fails when it has its turn, the host's
listener is gone. -/
theorem advanceStart_silences {loaded moved : LoadedPlugin Plugin}
    (hnamed : loaded.record.scope = (userId, Account.autojoinOwner))
    (hfailed : turnOf performers world loaded = [.failed])
    (h : advanceStart performers loaded world = .ok moved after) :
    (after.hooksOf userId).hostListens = false := by
  rcases advanceStart_cases h with ⟨hturn, -, -⟩ | ⟨_, _, -, ⟨_, -, hturn, -⟩ | ⟨-, hturn, -⟩ |
    ⟨_, _, _, -, hremove, hdisable, -, -⟩ | ⟨_, _, -, hturn, -⟩⟩
  case inr.inr.inr.inl =>
    have hview := World.detached_hooksOf
      (Hooks.hostListens : Hooks (Listener Handler) Handler → Bool) userId
    exact ((disable_keeps hview _).eq_of_ok hdisable).trans (silent_of_removeOwner hnamed hremove)
  all_goals
    rw [hturn] at hfailed
    cases hfailed

theorem advanceStarts_silences (hproxies : performers.UseProxies)
    (hfailed : ∃ turn ∈ plugins.zip (turnsOf performers plugins world),
      turn.1.record.scope = (userId, Account.autojoinOwner) ∧ turn.2 = [.failed])
    (h : advanceStarts performers plugins world = .ok advanced after) :
    (after.hooksOf userId).hostListens = false := by
  induction plugins generalizing world advanced with
  | nil =>
      obtain ⟨_, hmem, -⟩ := hfailed
      cases hmem
  | cons loaded rest ih =>
      obtain ⟨_, _, between, -, hfirst, hothers⟩ := advanceStarts_cons h
      obtain ⟨turn, hmem, hscope, hturn⟩ := hfailed
      rw [turnsOf, List.zip_cons_cons, Act.stateAfter, hfirst] at hmem
      rcases List.mem_cons.mp hmem with rfl | hlater
      · exact advanceStarts_spares hproxies Hooks.settled_hostListens
          (fun other _ => spares_silence userId other.record) hothers
          (advanceStart_silences hscope hturn hfirst)
      · exact ih ⟨turn, hlater, hscope, hturn⟩ hothers

/-- In the life of a host, the host alone answers the invitations of an account that accepts them
all, as long as no instance on the account goes by the host's own name: at any time, in the middle
of batches too, whatever is registered and whether or not the request succeeds.  If there is such an
instance, nothing is answered when its start has failed; and when the instances have been stopped,
invitations are answered exactly if there is none. -/
theorem Life.answers_invites (hproxies : performers.UseProxies)
    (h : Life performers ready connected pasts plugins world) {record : AccountRecord}
    (hrecord : world.recordOf userId = some record) (hautojoin : record.autojoin = true)
    {event : Event} (hinvite : event.isMembershipOf userId .invite = true) :
    (¬HasNamesake userId ready.plugins →
      ∀ reached, World.MidBatch performers.handlers world reached →
        reached.HostAnswers userId event) ∧
    (∀ advanced after, advanceStarts performers plugins world = .ok advanced after →
      (∃ turn ∈ plugins.zip (turnsOf performers plugins world),
        turn.1.record.scope = (userId, Account.autojoinOwner) ∧ turn.2 = [.failed]) →
      ¬after.HostAnswers userId event) ∧
    ∀ stopped after, stopPlugins performers plugins world = .ok stopped after →
      (after.HostAnswers userId event ↔ ¬HasNamesake userId ready.plugins) := by
  obtain ⟨_, hinit⟩ := h.initialised
  have hconnected : (connected.hooksOf userId).hostLeads = true := by
    rw [h.recordOf_eq hproxies.keeps_recordOf] at hrecord
    exact hinit.attended hproxies userId record hrecord hautojoin
  have hleads (hnot : ¬HasNamesake userId ready.plugins) {pasts : List (List Milestone)}
      {plugins : List (LoadedPlugin Plugin)} {world : World Handler}
      (h : Life performers ready connected pasts plugins world) :
      (world.hooksOf userId).hostLeads = true := by
    refine h.hooks_eq hproxies Hooks.settled_hostLeads (fun loaded hmem => ?_) hconnected
    exact spares_hostLeads fun hscope => hnot (List.mem_map.mpr ⟨loaded, hmem, hscope⟩)
  have hsilent {world : World Handler} (hgone : (world.hooksOf userId).hostListens = false) :
      ¬world.HostAnswers userId event := fun hanswers => by
    have hlistens := World.hostListens_of_answers (event.eventType_of_isMembershipOf hinvite)
      performers.handlers hanswers
    rw [hgone] at hlistens
    cases hlistens
  refine ⟨fun hnot reached hreached => ?_, fun advanced after hadvance hfailed => ?_,
    fun stopped after hstop => ⟨fun hanswers hnamed => ?_, fun hnot => ?_⟩⟩
  · have hhandlers := (hproxies.keeps_hooks Hooks.settled_hostLeads userId).handlers
    exact World.hostAnswers_of_leads ((hreached.hooks_eq hhandlers).trans (hleads hnot h)) hinvite
  · exact hsilent (advanceStarts_silences hproxies hfailed hadvance)
  · rw [HasNamesake, ← h.map_record PluginRecord.scope] at hnamed
    exact hsilent (stopPlugins_silences hproxies hnamed hstop) hanswers
  · exact World.hostAnswers_of_leads (hleads hnot (h.stopped hstop)) hinvite

/-! ### A reception

The scene of the concrete runs: the feed of an account that accepts every invitation brings one, and
the homeserver fails to let the account join. -/

section Reception

open SecondBatch

/-- An account that accepts every invitation. -/
def sociable : AccountRecord := { SecondBatch.record with autojoin := true }

/-- Somebody invites the account. -/
def invitation : Event :=
  { eventId := "$invite", eventType := roomMember, sender := "@alice:hs", roomId := "!room:hs"
    stateKey := some "@bot:hs", originServerTs := 0
    content := .member ⟨.invite, none, none, .empty⟩, redacts := none, unsigned := .empty }

/-- Surroundings in which the feed brings the invitation behind `s1` and then stays silent. -/
def welcoming : Environment :=
  { surroundings true with
    respond := fun trace userId request =>
      match request with
      | .sync since _ _ =>
        .answer (if since = some "s1" then some ⟨"s2", [], [("!room:hs", [invitation])], []⟩
          else none)
      | request => (surroundings true).respond trace userId request }

/-- The room of an invitation that is dispatched. -/
def invitedTo? : Occurrence → Option String
  | .dispatch userId event =>
    if event.isMembershipOf userId .invite then some event.roomId else none
  | _ => none

/-- The room that an account asks to join. -/
def joins? : Occurrence → Option String
  | .request _ _ (.join roomId) => some roomId
  | _ => none

theorem troupe_useProxies : troupe.UseProxies where
  listen _ _ := Act.usesProxies_of_keeps (Act.keeps_pure _)
  obey _ _ := Act.usesProxies_of_keeps (Act.keeps_pure _)
  create _ _ _ := Act.usesProxies_of_keeps (Act.keeps_pure _)
  start record := by
    have henter : (enter record).UsesProxies :=
      (Act.usesProxies_setSpec _ _ _).bind fun _ => Act.usesProxies_addListener _ _ _ _
    have hremark (value : Json) :
        (World.remark value : Act (World Unit) Unit).Keeps World.accounts :=
      Act.keeps_modify fun _ => rfl
    exact henter.bind fun _ => Act.usesProxies_of_keeps
      ((hremark _).bind fun _ => Act.keeps_pure _)
  stop _ := Act.usesProxies_of_keeps (Act.keeps_modify fun _ => rfl)

/-- A configuration with the account, and with instances under some ids: the start of the first
fails, and that of the second succeeds. -/
def company (ids : List String) : Configuration :=
  { Configuration.default with
    accounts := [sociable]
    plugins := (ids.zip ["broken", "steady"]).map fun entry =>
      ⟨entry.1, entry.2, true, "@bot:hs"⟩ }

/-- The world before a host is initialised with a configuration. -/
def reception (configuration : Configuration) : World Unit :=
  .initial welcoming (.ofRecords configuration.accounts configuration.plugins)

/-- One instance has failed, and the other one listens to all events.  The invitation has been
answered, though the account could not join, and the next one will be answered as well. -/
theorem Life.answers_invites_of_troupe :
    ∃ ready connected host world,
      stage.init troupe (reception (company ["broken", "steady"])) =
        .ok (.ok (), ready) connected ∧
      performAll troupe [.start, .wait 5 5 1] ready connected = .ok host world ∧
      world.trace.filterMap invitedTo? = ["!room:hs"] ∧
      world.trace.filterMap joins? = ["!room:hs"] ∧ world.HostAnswers "@bot:hs" invitation := by
  obtain ⟨ready, connected, host, world, hinit, hcalls, hidle, hrecord, hinvited, hjoined,
      hscopes⟩ : ∃ ready connected host world,
        stage.init troupe (reception (company ["broken", "steady"])) =
          .ok (.ok (), ready) connected ∧
        performAll troupe [.start, .wait 5 5 1] ready connected = .ok host world ∧
        ready.running = none ∧ world.recordOf "@bot:hs" = some sociable ∧
        world.trace.filterMap invitedTo? = ["!room:hs"] ∧
        world.trace.filterMap joins? = ["!room:hs"] ∧
        ready.plugins.map (·.record.scope) =
          ["broken", "steady"].map fun id => ("@bot:hs", id) :=
    ⟨_, _, _, _, rfl, rfl, rfl, rfl, rfl, rfl, rfl⟩
  obtain ⟨_, hrun⟩ := (Run.initialised (.call (.fresh rfl rfl) hinit) hidle).called hcalls
  have hinvite : invitation.isMembershipOf "@bot:hs" .invite = true := rfl
  obtain ⟨hanswers, -, -⟩ :=
    hrun.inOrder.life.answers_invites troupe_useProxies hrecord rfl hinvite
  refine ⟨_, _, _, _, hinit, hcalls, hinvited, hjoined, hanswers ?_ _ .here⟩
  rw [HasNamesake, hscopes]
  decide

/-- A configuration is accepted in which an instance goes by the host's own name.  Its start fails,
and the invitation that arrives after that is dispatched and not answered. -/
theorem Life.ignores_invites_of_namesake :
    (company [Account.autojoinOwner]).check = .ok () ∧
    ∃ ready connected host world,
      stage.init troupe (reception (company [Account.autojoinOwner])) =
        .ok (.ok (), ready) connected ∧
      performAll troupe [.start, .wait 5 5 1] ready connected = .ok host world ∧
      world.recordOf "@bot:hs" = some sociable ∧ sociable.autojoin = true ∧
      invitation.isMembershipOf "@bot:hs" .invite = true ∧
      world.trace.filterMap invitedTo? = ["!room:hs"] ∧ world.trace.filterMap joins? = [] :=
  ⟨rfl, _, _, _, _, rfl, rfl, rfl, rfl, rfl, rfl, rfl⟩

end Reception

end Host

end BotHost
