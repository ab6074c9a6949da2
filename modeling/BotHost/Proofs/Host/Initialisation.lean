/-
# Initialising a host

An initialisation lists the stored accounts, connects them one by one, and then makes an instance
for every enabled plugin record.  The store may fail at any point, and the caller may try again.

A host takes itself for initialised as soon as one account is connected.  So a failure before the
first account is connected does no harm, and the next call does all the work.  After a failure that
comes later, every further call reports success without doing anything, and no plugin instance is
ever made.
-/

import BotHost.Proofs.Host.Restart

namespace BotHost

/-- From a trace on, no operation of the store fails. -/
def Environment.ServesFrom (environment : Environment) (past : List Occurrence) : Prop :=
  ∀ trace call, past <:+ trace → environment.refuse trace call = none

namespace World

variable {Handler : Type} {world between after : World Handler} {record : AccountRecord}

/-- A user has a connected account. -/
def HasAccount (world : World Handler) (userId : String) : Prop :=
  (world.account? userId).isSome = true

/-- The account could not be connected, and the accounts have not been listed since. -/
def DeclinedLately (record : AccountRecord) (world : World Handler) : Prop :=
  ∃ later earlier, world.trace = later ++ .connect record.userId :: earlier ∧
    .store .accounts ∉ later ∧ (world.environment.decline earlier record).isSome = true

/-- Without accounts, nobody has one. -/
theorem not_hasAccount_of_isEmpty (h : world.accounts.isEmpty = true) (userId : String) :
    ¬world.HasAccount userId := by
  have hnone : world.accounts = .empty := SortedMap.ext_toList (List.isEmpty_iff.mp h)
  simp [HasAccount, account?, hnone]

/-! ### What an initialisation leaves alone -/

/-- A later world of the same initialisation. -/
structure Continues (world after : World Handler) : Prop where
  environment : after.environment = world.environment
  accounts : after.store.accounts = world.store.accounts
  connected : ∀ userId, world.HasAccount userId → after.HasAccount userId
  trace : ∃ more, after.trace = more ++ world.trace ∧ .store .accounts ∉ more

theorem Continues.refl (world : World Handler) : world.Continues world :=
  ⟨rfl, rfl, fun _ h => h, [], rfl, List.not_mem_nil⟩

theorem Continues.trans (h : world.Continues between) (hafter : between.Continues after) :
    world.Continues after := by
  obtain ⟨first, hfirst, hnotFirst⟩ := h.trace
  obtain ⟨second, hsecond, hnotSecond⟩ := hafter.trace
  refine ⟨hafter.environment.trans h.environment, hafter.accounts.trans h.accounts,
    fun userId hfound => hafter.connected userId (h.connected userId hfound), second ++ first,
    ?_, ?_⟩
  · rw [hsecond, hfirst, List.append_assoc]
  · simpa using ⟨hnotSecond, hnotFirst⟩

/-- Anything but listing the accounts may be put on the trace. -/
theorem continues_note (occurrence : Occurrence) (world : World Handler)
    (hother : occurrence ≠ .store .accounts) :
    world.Continues { world with trace := occurrence :: world.trace } :=
  ⟨rfl, rfl, fun _ h => h, [occurrence], rfl, by simpa using hother.symm⟩

/-- Connecting an account keeps the others. -/
theorem continues_insert (userId : String) (account : Account Handler) (world : World Handler) :
    world.Continues { world with accounts := world.accounts.insert userId account } := by
  refine ⟨rfl, rfl, fun sought hfound => ?_, [], rfl, List.not_mem_nil⟩
  rw [HasAccount, account?, SortedMap.find?_insert]
  split
  · rfl
  · exact hfound

theorem continues_addSession (userId : String) (world : World Handler) :
    world.Continues { world with sessions := world.sessions.insert userId () } :=
  ⟨rfl, rfl, fun _ h => h, [], rfl, List.not_mem_nil⟩

theorem DeclinedLately.continues (h : world.DeclinedLately record)
    (hafter : world.Continues after) : after.DeclinedLately record := by
  obtain ⟨later, earlier, htrace, hlater, hdeclined⟩ := h
  obtain ⟨more, hmore, hnot⟩ := hafter.trace
  refine ⟨more ++ later, earlier, ?_, ?_, ?_⟩
  · rw [hmore, htrace, List.append_assoc]
  · simpa using ⟨hnot, hlater⟩
  · rwa [hafter.environment]

/-- A later world of the same initialisation, once the accounts are connected. -/
structure Loads (world after : World Handler) : Prop extends Continues world after where
  disconnected : ∀ userId, after.HasAccount userId → world.HasAccount userId
  plugins : ∀ record ∈ after.store.listPlugins, record.enabled = true →
    record ∈ world.store.listPlugins

theorem Loads.refl (world : World Handler) : world.Loads world :=
  ⟨.refl world, fun _ h => h, fun _ h _ => h⟩

theorem Loads.trans (h : world.Loads between) (hafter : between.Loads after) :
    world.Loads after :=
  ⟨h.toContinues.trans hafter.toContinues,
    fun userId hfound => h.disconnected userId (hafter.disconnected userId hfound),
    fun record hmem henabled =>
      h.plugins record (hafter.plugins record hmem henabled) henabled⟩

/-- A store that fails no more keeps serving. -/
theorem Continues.servesFrom (h : world.Continues after)
    (hserves : world.environment.ServesFrom world.trace) :
    after.environment.ServesFrom after.trace := by
  obtain ⟨more, hmore, -⟩ := h.trace
  intro trace call htrace
  rw [h.environment]
  refine hserves trace call (List.IsSuffix.trans ⟨more, ?_⟩ htrace)
  rw [hmore]

end World

/-- Making an instance comes to an end, without touching what is stored or which accounts are
connected. -/
structure PluginBehaviour.Builds {Handler Factory Plugin : Type}
    (behaviour : PluginBehaviour Handler Factory Plugin) : Prop where
  ends : ∀ plugin record settings world, ∃ made after,
    behaviour.create plugin record settings world = .ok made after ∧ world.Continues after ∧
      after.store = world.store ∧ ∀ userId, after.HasAccount userId → world.HasAccount userId

namespace Host

variable {Handler Factory Plugin : Type} {performers : Performers Handler Factory Plugin}
  {host ready : Host Factory Plugin} {world after : World Handler}

/-! ### Connecting the accounts -/

/-- The account of the first record either becomes connected or is declined, and the work goes on
with the rest; or else the store fails, and the work ends. -/
theorem connectAll_cons (record : AccountRecord) (rest : List AccountRecord)
    (world : World Handler) :
    ∃ reached, world.Continues reached ∧
      ((connectAll (record :: rest) world = connectAll rest reached ∧
          (reached.HasAccount record.userId ∨ reached.DeclinedLately record)) ∨
        ((∃ error, connectAll (record :: rest) world = .ok (.error error) reached) ∧
          ¬world.environment.ServesFrom world.trace)) := by
  have htried := World.continues_note (.connect record.userId) world (by simp)
  rw [connectAll, Act.bind_apply, World.openConnection_apply]
  cases hdecline : world.environment.decline world.trace record with
  | some error =>
      refine ⟨_, htried, .inl ⟨rfl, .inr ⟨[], world.trace, rfl, List.not_mem_nil, ?_⟩⟩⟩
      simp [hdecline]
  | none =>
      have hlisted := htried.trans (World.continues_note (.store (.commandSpecs record.userId)) _
        (by simp))
      dsimp only
      rw [Act.bind_apply, World.connectAccount_apply]
      dsimp only
      cases hrefuse : world.environment.refuse (.connect record.userId :: world.trace)
          (.commandSpecs record.userId) with
      | some error =>
          refine ⟨_, hlisted, .inr ⟨⟨error, rfl⟩, fun hserves => ?_⟩⟩
          rw [hserves _ _ (List.suffix_cons _ _)] at hrefuse
          cases hrefuse
      | none =>
          have hconnected := hlisted.trans (World.continues_insert record.userId
            (.connect record (world.store.listSpecs record.userId)) _)
          refine ⟨_, hconnected.trans (World.continues_addSession record.userId _),
            .inl ⟨rfl, .inl ?_⟩⟩
          rw [World.HasAccount, World.account?, SortedMap.find?_insert, if_pos rfl]
          rfl

/-- Connecting the listed accounts comes to an end.  If it succeeds, each of them is connected or
has been declined; and it succeeds if the store does not fail. -/
theorem connectAll_ends (records : List AccountRecord) (world : World Handler) :
    ∃ result reached, connectAll records world = .ok result reached ∧ world.Continues reached ∧
      (result = .ok () → ∀ record ∈ records,
        reached.HasAccount record.userId ∨ reached.DeclinedLately record) ∧
      (world.environment.ServesFrom world.trace → result = .ok ()) := by
  induction records generalizing world with
  | nil =>
      exact ⟨.ok (), world, rfl, .refl world, fun _ _ hmem => absurd hmem List.not_mem_nil,
        fun _ => rfl⟩
  | cons record rest ih =>
      obtain ⟨reached, hreached, ⟨hrest, hfirst⟩ | ⟨⟨error, hfailed⟩, hnot⟩⟩ :=
        connectAll_cons record rest world
      · obtain ⟨result, last, hends, hlast, hall, hserved⟩ := ih reached
        refine ⟨result, last, hrest.trans hends, hreached.trans hlast, ?_, ?_⟩
        · intro hok other hmem
          rcases List.mem_cons.mp hmem with rfl | hmem
          · exact hfirst.imp (hlast.connected _) (·.continues hlast)
          · exact hall hok other hmem
        · intro hserves
          exact hserved (hreached.servesFrom hserves)
      · exact ⟨.error error, reached, hfailed, hreached, nofun, fun hserves => absurd hserves hnot⟩

/-! ### Making the instances -/

/-- Disabling a record comes to an end, and no record is enabled by it. -/
theorem disable_loads (record : PluginRecord) (world : World Handler) :
    ∃ after, disable record world = .ok () after ∧ world.Loads after := by
  let disabled : PluginRecord := { record with enabled := false }
  have hnoted := World.continues_note (.store (.updatePlugin disabled)) world (by simp)
  rw [disable, Act.bind_apply, World.updatePlugin_apply]
  cases world.environment.refuse world.trace (.updatePlugin disabled) with
  | some error => exact ⟨_, rfl, hnoted, fun _ h => h, fun _ h _ => h⟩
  | none =>
      refine ⟨_, rfl, ⟨hnoted.environment, rfl, fun _ h => h, hnoted.trace⟩, fun _ h => h, ?_⟩
      intro other hmem henabled
      rcases SortedMap.mem_values_insert hmem with rfl | hmem
      · cases henabled
      · exact hmem

/-- An instance was made for a record, from the type that it names and from its section of the
configuration. -/
def MadeFor (host : Host Factory Plugin) (performers : Performers Handler Factory Plugin)
    (record : PluginRecord) (loaded : LoadedPlugin Plugin) : Prop :=
  loaded.record = record ∧ ∃ plugin before after,
    host.registry.find? record.pluginType = some plugin ∧
    performers.plugins.create plugin record (host.sectionOf record.id) before =
      .ok loaded.plugin after

/-- A record for which an instance can be made. -/
structure Ready (host : Host Factory Plugin) (world : World Handler) (record : PluginRecord) :
    Prop where
  enabled : record.enabled = true
  registered : (host.registry.find? record.pluginType).isSome = true
  connected : world.HasAccount record.userId

/-- No instance is made for a record that is not ready; it may be disabled. -/
theorem loadPlugin_of_not_ready (performers : Performers Handler Factory Plugin)
    {record : PluginRecord} (hnot : ¬host.Ready world record) :
    ∃ after, host.loadPlugin performers record world = .ok none after ∧ world.Loads after := by
  by_cases henabled : record.enabled = true
  · obtain ⟨after, hdisable, hloads⟩ := disable_loads record world
    refine ⟨after, ?_, hloads⟩
    -- Whether the type is missing or the account, the record is disabled.
    cases hplugin : host.registry.find? record.pluginType with
    | none =>
        simp only [loadPlugin, henabled, hplugin, Act.bind_apply, Act.get_apply, hdisable,
          Bool.not_true, Bool.false_eq_true, if_false]
        rfl
    | some plugin =>
        have hmissing : (world.account? record.userId).isSome = false := by
          by_contra hconnected
          rw [Bool.not_eq_false] at hconnected
          exact hnot ⟨henabled, by rw [hplugin]; rfl, hconnected⟩
        simp only [loadPlugin, henabled, hplugin, hmissing, Act.bind_apply, Act.get_apply,
          hdisable, Bool.not_true, Bool.false_eq_true, if_false]
        rfl
  · refine ⟨world, ?_, .refl world⟩
    simp only [loadPlugin, Bool.not_eq_true] at henabled ⊢
    rw [henabled]
    rfl

variable (hbuilds : performers.plugins.Builds)
include hbuilds

/-- An instance is made for a record that is ready. -/
theorem loadPlugin_of_ready {record : PluginRecord} (hready : host.Ready world record) :
    ∃ loaded after, host.loadPlugin performers record world = .ok (some loaded) after ∧
      world.Loads after ∧ host.MadeFor performers record loaded := by
  obtain ⟨plugin, hplugin⟩ := Option.isSome_iff_exists.mp hready.registered
  have hfound : (world.account? record.userId).isSome = true := hready.connected
  obtain ⟨made, after, hmade, hcontinues, hstore, hsame⟩ :=
    hbuilds.ends plugin record (host.sectionOf record.id) world
  refine ⟨⟨record, made, false, none⟩, after, ?_, ⟨hcontinues, hsame, ?_⟩, rfl, plugin, world,
    after, hplugin, hmade⟩
  · simp only [loadPlugin, hready.enabled, hplugin, hfound, Act.bind_apply, Act.get_apply, hmade,
      Bool.not_true, Bool.false_eq_true, if_false, if_true]
    rfl
  · intro other hmem _
    rwa [hstore] at hmem

/-- Making instances for the listed records comes to an end, and there is one for each record that
is ready. -/
theorem loadPlugins_loads (host : Host Factory Plugin) (records : List PluginRecord)
    (world : World Handler) :
    ∃ loaded after, host.loadPlugins performers records world = .ok loaded after ∧
      world.Loads after ∧
      (∀ entry ∈ loaded, world.HasAccount entry.record.userId) ∧
      ∀ record ∈ records, host.Ready world record →
        ∃ entry ∈ loaded, host.MadeFor performers record entry := by
  induction records generalizing world with
  | nil => exact ⟨[], world, rfl, .refl world, by simp, by simp⟩
  | cons record rest ih =>
      -- A record that is ready at first is ready when its turn comes.
      have hstill {between : World Handler} (hbetween : world.Loads between)
          {other : PluginRecord} (hother : host.Ready world other) : host.Ready between other :=
        ⟨hother.enabled, hother.registered, hbetween.connected _ hother.connected⟩
      by_cases hready : host.Ready world record
      · obtain ⟨first, between, hfirst, hbetween, hmade⟩ := loadPlugin_of_ready hbuilds hready
        obtain ⟨others, after, hothers, hafter, hconnected, hall⟩ := ih between
        refine ⟨first :: others, after, ?_, hbetween.trans hafter, ?_, ?_⟩
        · simp only [loadPlugins, Act.bind_apply, hfirst, hothers]
          rfl
        · intro entry hentry
          rcases List.mem_cons.mp hentry with rfl | hentry
          · rw [hmade.1]
            exact hready.connected
          · exact hbetween.disconnected _ (hconnected entry hentry)
        · intro other hmem hother
          rcases List.mem_cons.mp hmem with rfl | hmem
          · exact ⟨first, List.mem_cons_self, hmade⟩
          · obtain ⟨entry, hentry, hfor⟩ := hall other hmem (hstill hbetween hother)
            exact ⟨entry, List.mem_cons_of_mem _ hentry, hfor⟩
      · obtain ⟨between, hfirst, hbetween⟩ := loadPlugin_of_not_ready performers hready
        obtain ⟨others, after, hothers, hafter, hconnected, hall⟩ := ih between
        refine ⟨others, after, ?_, hbetween.trans hafter, ?_, ?_⟩
        · simp only [loadPlugins, Act.bind_apply, hfirst, hothers]
          rfl
        · intro entry hentry
          exact hbetween.disconnected _ (hconnected entry hentry)
        · intro other hmem hother
          rcases List.mem_cons.mp hmem with rfl | hmem
          · exact absurd hother hready
          · exact hall other hmem (hstill hbetween hother)

/-! ### One initialisation -/

/-- The initialisation is complete.  A stored account that is not connected was declined when the
accounts were listed last, and there is an instance for every stored plugin record that is ready. -/
structure Complete (performers : Performers Handler Factory Plugin) (host : Host Factory Plugin)
    (world : World Handler) : Prop where
  accounts : ∀ record ∈ world.store.listAccounts,
    world.HasAccount record.userId ∨ world.DeclinedLately record
  plugins : ∀ record ∈ world.store.listPlugins, host.Ready world record →
    ∃ loaded ∈ host.plugins, host.MadeFor performers record loaded

omit hbuilds in
/-- An initialisation does nothing if an account is connected. -/
theorem init_of_connected (host : Host Factory Plugin) (h : world.accounts.isEmpty = false) :
    host.init performers world = .ok (.ok (), host) world := by
  simp only [init, Act.bind_apply, Act.get_apply, h]
  rfl

omit hbuilds in
/-- With the accounts connected, the initialisation is complete once the instances are made. -/
theorem Complete.of_loads {reached : World Handler} {loaded : List (LoadedPlugin Plugin)}
    (haccounts : ∀ record ∈ reached.store.listAccounts,
      reached.HasAccount record.userId ∨ reached.DeclinedLately record)
    (hloads : reached.Loads after)
    (hmade : ∀ record ∈ reached.store.listPlugins, host.Ready reached record →
      ∃ entry ∈ loaded, host.MadeFor performers record entry) :
    Complete performers { host with plugins := host.plugins ++ loaded } after where
  accounts record hmem := by
    rw [Store.listAccounts, hloads.accounts] at hmem
    exact (haccounts record hmem).imp (hloads.connected _) (·.continues hloads.toContinues)
  plugins record hmem hready := by
    obtain ⟨entry, hentry, hfor⟩ := hmade record (hloads.plugins record hmem hready.enabled)
      ⟨hready.enabled, hready.registered, hloads.disconnected _ hready.connected⟩
    exact ⟨entry, List.mem_append_right _ hentry, hfor⟩

/-- An initialisation that finds no account connected comes to an end.  If it succeeds, it is
complete, and it succeeds if the store does not fail. -/
theorem init_of_none (host : Host Factory Plugin) (hnone : world.accounts.isEmpty = true) :
    ∃ result ready after, host.init performers world = .ok (result, ready) after ∧
      (result = .ok () → ready.Complete performers after) ∧
      (ready.plugins ≠ host.plugins → result = .ok () ∧ after.accounts.isEmpty = false) ∧
      (world.environment.ServesFrom world.trace → result = .ok ()) := by
  obtain ⟨joined, reached, hconnect, hreached, hall, hserved⟩ := connectAll_ends
    world.store.listAccounts { world with trace := .store .accounts :: world.trace }
  simp only [init, Act.bind_apply, Act.get_apply, hnone, Bool.not_true, Bool.false_eq_true,
    if_false, World.listAccounts_apply]
  cases hrefuse : world.environment.refuse world.trace .accounts with
  | some error =>
      refine ⟨.error (.store error), host, _, rfl, nofun, fun h => absurd rfl h, ?_⟩
      intro hserves
      rw [hserves _ _ (List.suffix_refl _)] at hrefuse
      cases hrefuse
  | none =>
      -- Listing the accounts is on the trace of a store that still does not fail.
      have hserving (hserves : world.environment.ServesFrom world.trace) :
          world.environment.ServesFrom (.store .accounts :: world.trace) :=
        fun trace call htrace => hserves trace call (.trans (List.suffix_cons _ _) htrace)
      simp only [Act.bind_apply, hconnect]
      rcases joined with error | ⟨⟩
      · refine ⟨.error (.store error), host, reached, rfl, nofun, fun h => absurd rfl h, ?_⟩
        intro hserves
        cases hserved (hserving hserves)
      · simp only [Act.bind_apply, World.listPlugins_apply]
        cases hlist : reached.environment.refuse reached.trace .plugins with
        | some error =>
            refine ⟨.error (.store error), host, _, rfl, nofun, fun h => absurd rfl h, ?_⟩
            intro hserves
            rw [hreached.servesFrom (hserving hserves) _ _ (List.suffix_refl _)] at hlist
            cases hlist
        | none =>
            have hnoted := World.continues_note (.store .plugins) reached (by simp)
            obtain ⟨loaded, after, hload, hloads, hconnected, hmade⟩ :=
              loadPlugins_loads hbuilds host reached.store.listPlugins
                { reached with trace := .store .plugins :: reached.trace }
            simp only [Act.bind_apply, hload]
            refine ⟨.ok (), _, after, rfl, fun _ => .of_loads ?_ hloads hmade, ?_, fun _ => rfl⟩
            · intro record hmem
              rw [Store.listAccounts, hnoted.accounts, hreached.accounts] at hmem
              exact (hall rfl record hmem).imp id (·.continues hnoted)
            · intro hchanged
              refine ⟨rfl, ?_⟩
              by_contra hempty
              rcases loaded with _ | ⟨entry, rest⟩
              · exact hchanged (List.append_nil _)
              · exact World.not_hasAccount_of_isEmpty (by simpa using hempty) _
                  (hloads.connected _ (hconnected entry List.mem_cons_self))

/-! ### Initialising again -/

/-- A host that is initialised any number of times, with the outcome of each call, the latest first:
its result, and whether an account is connected afterwards. -/
inductive InitRun (performers : Performers Handler Factory Plugin) :
    List (Except HostError Unit × Bool) → Host Factory Plugin → World Handler → Prop where
  | fresh {host : Host Factory Plugin} {world : World Handler} :
      host.plugins = [] → world.accounts.isEmpty = true → InitRun performers [] host world
  | call {outcomes : List (Except HostError Unit × Bool)} {host ready : Host Factory Plugin}
      {world after : World Handler} {result : Except HostError Unit} :
      InitRun performers outcomes host world →
      host.init performers world = .ok (result, ready) after →
      InitRun performers ((result, !after.accounts.isEmpty) :: outcomes) ready after

/-- A call has failed and left an account connected. -/
def LeftBehind (outcomes : List (Except HostError Unit × Bool)) : Prop :=
  ∃ error, (.error error, true) ∈ outcomes

omit hbuilds in
theorem leftBehind_cons (result : Except HostError Unit) (connected : Bool)
    (outcomes : List (Except HostError Unit × Bool)) :
    LeftBehind ((result, connected) :: outcomes) ↔
      result ≠ .ok () ∧ connected = true ∨ LeftBehind outcomes := by
  cases result <;> simp [LeftBehind, exists_or]

/-- How a host stands after some initialisations. -/
structure Standing (performers : Performers Handler Factory Plugin)
    (outcomes : List (Except HostError Unit × Bool)) (host : Host Factory Plugin)
    (world : World Handler) : Prop where
  /-- Without a connected account there is no instance. -/
  untouched : world.accounts.isEmpty = true → host.plugins = []
  /-- If a failed call has left an account connected, there is no instance either. -/
  abandoned : LeftBehind outcomes → world.accounts.isEmpty = false ∧ host.plugins = []
  /-- Otherwise the host is complete as soon as an account is connected, or a call succeeds. -/
  settled : ¬LeftBehind outcomes →
    world.accounts.isEmpty = false ∨ (∃ connected, outcomes.head? = some (.ok (), connected)) →
    host.Complete performers world

section Call

variable {outcomes : List (Except HostError Unit × Bool)} {result : Except HostError Unit}
  (h : Standing performers outcomes host world)
  (hinit : host.init performers world = .ok (result, ready) after)
include h hinit

omit hbuilds in
/-- A call that finds an account connected does nothing, so it leaves nothing behind. -/
theorem Standing.call_of_connected (hconnected : world.accounts.isEmpty = false) :
    Standing performers ((result, !after.accounts.isEmpty) :: outcomes) ready after := by
  rw [init_of_connected host hconnected] at hinit
  cases hinit
  have hsame : LeftBehind ((.ok (), !world.accounts.isEmpty) :: outcomes) ↔
      LeftBehind outcomes := by
    rw [leftBehind_cons]
    simp
  constructor
  case untouched => exact h.untouched
  case abandoned =>
    intro hleft
    exact h.abandoned (hsame.mp hleft)
  case settled =>
    intro hleft _
    exact h.settled (fun hbefore => hleft (hsame.mpr hbefore)) (.inl hconnected)

/-- A call that finds no account connected makes a fresh start, since nothing was left behind. -/
theorem Standing.call_of_none (hnone : world.accounts.isEmpty = true) :
    Standing performers ((result, !after.accounts.isEmpty) :: outcomes) ready after := by
  obtain ⟨_, _, _, hends, hcomplete, hmade, -⟩ := init_of_none hbuilds host hnone
  rw [hinit] at hends
  cases hends
  have hbefore : ¬LeftBehind outcomes := by
    intro hleft
    rw [(h.abandoned hleft).1] at hnone
    cases hnone
  -- Instances are made by a successful call for connected accounts only.
  have hplugins (hnot : ¬(result = .ok () ∧ after.accounts.isEmpty = false)) :
      ready.plugins = [] := by
    by_contra hsome
    refine hnot (hmade ?_)
    rwa [h.untouched hnone]
  constructor
  case untouched =>
    intro hempty
    exact hplugins fun hmade => by simp [hempty] at hmade
  case abandoned =>
    intro hleft
    rcases (leftBehind_cons _ _ _).mp hleft with ⟨hfailed, hconnected⟩ | hleft
    · exact ⟨by simpa using hconnected, hplugins fun hmade => hfailed hmade.1⟩
    · exact absurd hleft hbefore
  case settled =>
    intro hleft hdone
    refine hcomplete ?_
    rcases hdone with hconnected | ⟨connected, hhead⟩
    · by_contra hfailed
      exact hleft ((leftBehind_cons _ _ _).mpr (.inl ⟨hfailed, by simp [hconnected]⟩))
    · simp only [List.head?_cons, Option.some.injEq, Prod.mk.injEq] at hhead
      exact hhead.1

/-- A call keeps the standing of a host. -/
theorem Standing.call :
    Standing performers ((result, !after.accounts.isEmpty) :: outcomes) ready after := by
  cases haccounts : world.accounts.isEmpty with
  | false => exact h.call_of_connected hinit haccounts
  | true => exact h.call_of_none hbuilds hinit haccounts

end Call

/-- So any number of calls lead to a standing. -/
theorem InitRun.standing {outcomes : List (Except HostError Unit × Bool)}
    (h : InitRun performers outcomes host world) : Standing performers outcomes host world := by
  induction h with
  | fresh hplugins hnone =>
      refine ⟨fun _ => hplugins, fun ⟨_, hmem⟩ => absurd hmem List.not_mem_nil, fun _ hdone => ?_⟩
      rcases hdone with hconnected | ⟨_, hhead⟩
      · rw [hnone] at hconnected
        cases hconnected
      · cases hhead
  | call _ hinit ih => exact ih.call hbuilds hinit

/-- However often a host is initialised, and wherever the store fails.  As long as no failed call
has left an account connected, a call that succeeds leaves the host complete, and a further call
completes it if the store does not fail any more.  Once a failed call has left an account connected,
there are no instances, and every further call reports success and changes nothing. -/
theorem InitRun.complete_unless_left {outcomes : List (Except HostError Unit × Bool)}
    (h : InitRun performers outcomes host world) :
    (¬LeftBehind outcomes →
      ((∃ connected, outcomes.head? = some (.ok (), connected)) →
        host.Complete performers world) ∧
      (world.environment.ServesFrom world.trace → ∃ ready after,
        host.init performers world = .ok (.ok (), ready) after ∧
          ready.Complete performers after)) ∧
    (LeftBehind outcomes →
      host.plugins = [] ∧ host.init performers world = .ok (.ok (), host) world) := by
  have hstanding := h.standing hbuilds
  refine ⟨fun hleft => ⟨fun hhead => hstanding.settled hleft (.inr hhead), fun hserves => ?_⟩,
    fun hleft => ?_⟩
  · cases hnone : world.accounts.isEmpty with
    | false =>
        exact ⟨host, world, init_of_connected host hnone, hstanding.settled hleft (.inl hnone)⟩
    | true =>
        obtain ⟨result, ready, after, hinit, hcomplete, -, hserved⟩ :=
          init_of_none hbuilds host hnone
        rw [hserved hserves] at hinit hcomplete
        exact ⟨ready, after, hinit, hcomplete rfl⟩
  · obtain ⟨hconnected, hplugins⟩ := hstanding.abandoned hleft
    exact ⟨hplugins, init_of_connected host hconnected⟩

omit hbuilds

/-! ### A store that fails once

The scene of the concrete runs: an account and a plugin instance are stored, the type of the plugin
is registered, and one operation of the store fails the first time. -/

section FirstFailure

/-- Whether the accounts are listed. -/
def listsAccounts : StoreCall → Bool
  | .accounts => true
  | _ => false

/-- Whether the plugin instances are listed. -/
def listsPlugins : StoreCall → Bool
  | .plugins => true
  | _ => false

/-- Surroundings in which a chosen operation of the store fails the first time. -/
def faltering (chosen : StoreCall → Bool) : Environment where
  decline _ _ := none
  respond _ _ _ := .failure (.connectionFailed "https://hs" "reset")
  refuse trace call :=
    let made := trace.any fun
      | .store earlier => chosen earlier
      | _ => false
    if chosen call && !made then some (.backend "busy") else none

/-- After the first time, the store does not fail any more. -/
theorem faltering_servesFrom {chosen : StoreCall → Bool} {call : StoreCall}
    {past : List Occurrence} (hchosen : chosen call = true) (hmade : .store call ∈ past) :
    (faltering chosen).ServesFrom past := by
  intro trace other htrace
  simp only [faltering]
  rw [List.any_eq_true.mpr ⟨.store call, htrace.subset hmade, hchosen⟩]
  simp

/-- The plugin instance as it is stored. -/
def echoRecord : PluginRecord := ⟨"echo", "echo", true, "@bot:hs"⟩

/-- The world before the first call. -/
def supplied (chosen : StoreCall → Bool) : World Unit :=
  .initial (faltering chosen) (.ofRecords [.new "@bot:hs" "https://hs" "token"] [echoRecord])

/-- The host before the first call. -/
def equipped : Host Unit Unit :=
  { configuration := .default
    registry := SortedMap.empty.insert "echo" ⟨"echo", "1.0.0", hostInterface, ()⟩
    plugins := []
    running := none }

theorem idle_builds : idle.plugins.Builds :=
  ⟨fun _ _ _ world => ⟨(), world, rfl, .refl world, rfl, fun _ h => h⟩⟩

/-- After a failure to list the accounts, the next call makes the instance. -/
theorem complete_after_first_failure :
    ∃ first left ready after,
      equipped.init idle (supplied listsAccounts) =
        .ok (.error (.store (.backend "busy")), first) left ∧
      first.init idle left = .ok (.ok (), ready) after ∧
      ∃ loaded ∈ ready.plugins, loaded.record = echoRecord := by
  let left : World Unit := { supplied listsAccounts with trace := [.store .accounts] }
  have hfailed : equipped.init idle (supplied listsAccounts) =
      .ok (.error (.store (.backend "busy")), equipped) left := rfl
  have hrun := InitRun.call (.fresh rfl rfl) hfailed
  have hnothing :
      ¬LeftBehind [(.error (.store (.backend "busy")), !left.accounts.isEmpty)] := by
    rw [leftBehind_cons]
    simp [left, supplied, World.initial, SortedMap.isEmpty, SortedMap.empty, LeftBehind]
  have hserves : left.environment.ServesFrom left.trace :=
    @faltering_servesFrom listsAccounts .accounts _ rfl List.mem_cons_self
  obtain ⟨ready, after, hinit, hcomplete⟩ :=
    ((hrun.complete_unless_left idle_builds).1 hnothing).2 hserves
  refine ⟨equipped, left, ready, after, hfailed, hinit, ?_⟩
  cases hinit
  obtain ⟨loaded, hloaded, hfor⟩ := hcomplete.plugins echoRecord
    (by decide +kernel) ⟨rfl, rfl, rfl⟩
  exact ⟨loaded, hloaded, hfor.1⟩

/-- After a failure to list the plugin instances, the next call reports success, but it makes no
instance though the record is ready, and so does every further call. -/
theorem incomplete_after_late_failure :
    ∃ first left,
      equipped.init idle (supplied listsPlugins) =
        .ok (.error (.store (.backend "busy")), first) left ∧
      first.init idle left = .ok (.ok (), first) left ∧
      echoRecord ∈ left.store.listPlugins ∧ first.Ready left echoRecord ∧ first.plugins = [] ∧
      ¬first.Complete idle left := by
  refine ⟨_, _, rfl, rfl, by decide +kernel, ⟨rfl, rfl, rfl⟩, rfl, ?_⟩
  intro hcomplete
  obtain ⟨loaded, hloaded, -⟩ := hcomplete.plugins echoRecord (by decide +kernel) ⟨rfl, rfl, rfl⟩
  cases hloaded

end FirstFailure

end Host

end BotHost
