/-
# Starting a host again

The cursor of an account is kept in three places: in the record the account was connected with,
in the record of its sync loop, and in the store.  A loop moves its own copy and the stored one,
but every start makes new loops from the records of the connected accounts, and these never
change once the host is initialised.

So the first poll after a start asks from the cursor that was stored when the host was
initialised.  This is the cursor stored last exactly as long as no other has been stored since;
after that, stopping and starting takes the feed back to where it was.
-/

import BotHost.Proofs.Host.Polls

namespace BotHost

/-! ### Calls -/

/-- A call on a host that is initialised. -/
inductive HostCall where
  | start
  | stop
  /-- Give it time up to a deadline, its loops at most so many turns at once, and its clock at
  most so many moves. -/
  | wait (turns moves deadline : Nat)
deriving DecidableEq

namespace Host

variable {Handler Factory Plugin : Type}

/-- Make a call. -/
def perform (performers : Performers Handler Factory Plugin) (host : Host Factory Plugin) :
    HostCall → Act (World Handler) (Host Factory Plugin)
  | .start => host.start
  | .stop => host.stop performers
  | .wait turns moves deadline => runUntil performers turns deadline moves host

/-- Make calls one after the other. -/
def performAll (performers : Performers Handler Factory Plugin) :
    List HostCall → Host Factory Plugin → Act (World Handler) (Host Factory Plugin)
  | [], host => pure host
  | call :: rest, host => do performAll performers rest (← host.perform performers call)

end Host

/-- Handlers and plugins that keep a view of the world, whatever they do. -/
structure Performers.Keeps {Handler Factory Plugin γ : Type}
    (performers : Performers Handler Factory Plugin) (view : World Handler → γ) : Prop where
  handlers : performers.handlers.Keeps view
  create : ∀ plugin record settings, (performers.plugins.create plugin record settings).Keeps view
  start : ∀ plugin, (performers.plugins.start plugin).Keeps view
  stop : ∀ plugin, (performers.plugins.stop plugin).Keeps view

namespace World

variable {Handler : Type}

/-- The cursor that is stored for a user. -/
def storedCursor (world : World Handler) (userId : String) : Option String :=
  (world.store.account? userId).bind AccountRecord.cursor?

end World

namespace Host

variable {Handler Factory Plugin γ : Type} {view : World Handler → γ}
  {performers : Performers Handler Factory Plugin}

/-- A start only looks at the world. -/
theorem start_keeps (host : Host Factory Plugin) :
    (host.start : Act (World Handler) _).Keeps view := by
  unfold start
  split
  · exact Act.keeps_pure _
  · exact Act.keeps_get.bind fun _ => Act.keeps_pure _

/-! ### What plugins may touch -/

section Instances

variable (hview : Detached view)

include hview in
theorem disable_keeps (record : PluginRecord) :
    (disable record : Act (World Handler) Unit).Keeps view :=
  (World.updatePlugin_keeps hview _).bind fun _ => Act.keeps_pure _

/-- Withdrawing an instance keeps a view. -/
def RemovalKeeps (view : World Handler → γ) (loaded : LoadedPlugin Plugin) : Prop :=
  (World.removeOwner loaded.record.userId loaded.record.id : Act (World Handler) Unit).Keeps view

/-- Going on with the start of an instance keeps what the rest of the start, the withdrawal and the
disabling keep. -/
theorem advanceStart_keeps {loaded : LoadedPlugin Plugin}
    (hstart : ∀ wake rest, loaded.pending = some (wake, rest) →
      (performers.plugins.start rest).Keeps view) (hremoval : RemovalKeeps view loaded)
    (hdisable : (disable loaded.record : Act (World Handler) Unit).Keeps view) :
    (advanceStart performers loaded).Keeps view := by
  unfold advanceStart
  split
  · exact Act.keeps_pure _
  · rename_i wake rest hpending
    apply Act.keeps_get.bind
    intro world
    split
    · apply (hstart wake rest hpending).attempt.bind
      intro progress
      rcases progress with _ | _ | _ | _
      · exact Act.keeps_pure _
      · exact Act.keeps_pure _
      · apply hremoval.bind
        intro _
        exact hdisable.bind fun _ => Act.keeps_pure _
      · exact Act.keeps_pure _
    · exact Act.keeps_pure _

include hview in
theorem advanceStarts_keeps {plugins : List (LoadedPlugin Plugin)}
    (hplugins : ∀ loaded ∈ plugins, RemovalKeeps view loaded ∧ ∀ wake rest,
      loaded.pending = some (wake, rest) → (performers.plugins.start rest).Keeps view) :
    (advanceStarts performers plugins).Keeps view := by
  induction plugins with
  | nil => exact Act.keeps_pure _
  | cons loaded rest ih =>
      obtain ⟨⟨hremoval, hstart⟩, hrest⟩ := List.forall_mem_cons.mp hplugins
      apply (advanceStart_keeps hstart hremoval (disable_keeps hview _)).bind
      intro _
      exact (ih hrest).bind fun _ => Act.keeps_pure _

theorem stopPlugins_keeps {plugins : List (LoadedPlugin Plugin)}
    (hplugins : ∀ loaded ∈ plugins, RemovalKeeps view loaded ∧
      (performers.plugins.stop loaded.plugin).Keeps view) :
    (stopPlugins performers plugins).Keeps view := by
  induction plugins with
  | nil => exact Act.keeps_pure _
  | cons loaded rest ih =>
      obtain ⟨⟨hremoval, hstop⟩, hrest⟩ := List.forall_mem_cons.mp hplugins
      have hgoOn : (do
          World.removeOwner loaded.record.userId loaded.record.id
          let rest ← stopPlugins performers rest
          pure ({ loaded with started := false, pending := none } :: rest) :
            Act (World Handler) (List (LoadedPlugin Plugin))).Keeps view :=
        hremoval.bind fun _ => (ih hrest).bind fun _ => Act.keeps_pure _
      unfold stopPlugins
      split
      · exact hstop.bind fun _ => hgoOn
      · exact hgoOn

/-- Making instances keeps what the plugin types and the disabling keep. -/
theorem loadPlugins_keeps
    (hcreate : ∀ plugin record settings,
      (performers.plugins.create plugin record settings).Keeps view)
    (hdisable : ∀ record, (disable record : Act (World Handler) Unit).Keeps view)
    (host : Host Factory Plugin) (records : List PluginRecord) :
    (host.loadPlugins performers records).Keeps view := by
  induction records with
  | nil => exact Act.keeps_pure _
  | cons record rest ih =>
      have hload : (host.loadPlugin performers record).Keeps view := by
        unfold loadPlugin
        split
        · exact Act.keeps_pure _
        · apply Act.keeps_get.bind
          intro world
          dsimp only
          split
          · split
            · exact (hcreate _ _ _).bind fun _ => Act.keeps_pure _
            · exact (hdisable _).bind fun _ => Act.keeps_pure _
          · exact (hdisable _).bind fun _ => Act.keeps_pure _
      exact hload.bind fun _ => ih.bind fun _ => Act.keeps_pure _

end Instances

section Loops

variable (hview : Detached view) (hhandlers : performers.handlers.Keeps view)
  (hpoll : ∀ processor : SyncProcessor, (processor.poll : Act (World Handler) _).Keeps view)
include hview hhandlers hpoll

theorem advanceLoop_keeps (turns : Nat) (loop : SyncLoop) :
    (advanceLoop performers turns loop).Keeps view := by
  have hturn : ∀ loop : SyncLoop, (loop.turnSafely performers.handlers).Keeps view := fun loop =>
    loop.turnSafely_keeps (loop.turn_keeps hview.toUnstored hhandlers fun _ => hpoll _)
  apply (hturn loop).bind
  intro loop
  induction turns generalizing loop with
  | zero => exact Act.keeps_pure _
  | succ turns ih =>
      unfold SyncLoop.settle
      split
      · exact (hturn loop).bind fun next => ih next
      · exact Act.keeps_pure _

theorem advanceLoops_keeps (turns : Nat) (loops : List (String × SyncLoop)) :
    (advanceLoops performers turns loops).Keeps view := by
  induction loops with
  | nil => exact Act.keeps_pure _
  | cons entry rest ih =>
      apply (advanceLoop_keeps hview hhandlers hpoll turns entry.2).bind
      intro _
      exact ih.bind fun _ => Act.keeps_pure _

end Loops

/-! ### What calls may touch -/

section Plugins

variable (hview : OfRecords view) (hperformers : performers.Keeps view)
include hview hperformers

/-- Any instance keeps what all plugins keep, as long as only records show. -/
theorem starts_keeps (plugins : List (LoadedPlugin Plugin)) :
    (advanceStarts performers plugins).Keeps view :=
  advanceStarts_keeps hview.toDetached fun _ _ =>
    ⟨World.removeOwner_keeps hview _ _, fun _ rest _ => hperformers.start rest⟩

theorem stop_keeps (host : Host Factory Plugin) : (host.stop performers).Keeps view := by
  have hstops : ∀ plugins, (stopPlugins performers plugins).Keeps view := fun plugins =>
    stopPlugins_keeps fun _ _ => ⟨World.removeOwner_keeps hview _ _, hperformers.stop _⟩
  unfold stop
  split
  · exact Act.keeps_pure _
  · dsimp only
    split
    · exact (hstops _).bind fun _ => Act.keeps_pure _
    · apply (starts_keeps hview hperformers _).bind
      intro _
      exact (hstops _).bind fun _ => Act.keeps_pure _

variable (hpoll : ∀ processor : SyncProcessor, (processor.poll : Act (World Handler) _).Keeps view)
include hpoll

theorem settle_keeps (turns : Nat) (host : Host Factory Plugin) :
    (host.settle performers turns).Keeps view := by
  unfold settle
  split
  · exact Act.keeps_pure _
  · apply (starts_keeps hview hperformers _).bind
    intro _
    exact (advanceLoops_keeps hview.toDetached hperformers.handlers hpoll turns _).bind fun _ =>
      Act.keeps_pure _

theorem runUntil_keeps (turns deadline moves : Nat) (host : Host Factory Plugin) :
    (runUntil performers turns deadline moves host).Keeps view := by
  induction moves generalizing host with
  | zero => exact Act.keeps_pure _
  | succ moves ih =>
      refine (settle_keeps hview hperformers hpoll turns host).bind fun host =>
        Act.keeps_get.bind fun world => ?_
      split
      · exact (World.waitUntil_keeps hview.toDetached _).bind fun _ => Act.keeps_pure _
      · exact (World.waitUntil_keeps hview.toDetached _).bind fun _ => ih host

theorem performAll_keeps (calls : List HostCall) (host : Host Factory Plugin) :
    (performAll performers calls host).Keeps view := by
  induction calls generalizing host with
  | nil => exact Act.keeps_pure _
  | cons call rest ih =>
      cases call with
      | start => exact (start_keeps host).bind fun next => ih next
      | stop => exact (stop_keeps hview hperformers host).bind fun next => ih next
      | wait turns moves deadline =>
          exact (runUntil_keeps hview hperformers hpoll turns deadline moves host).bind
            fun next => ih next

end Plugins

/-! ### Initialisation -/

/-- Every connected record is one of those listed, under its user id. -/
def Connects (world : World Handler) (records : List AccountRecord) : Prop :=
  ∀ userId record, world.recordOf userId = some record → record.userId = userId ∧ record ∈ records

theorem connects_of_recordOf_eq {world after : World Handler} {records : List AccountRecord}
    (h : Connects world records) (hkept : after.recordOf = world.recordOf) :
    Connects after records := by
  intro userId record hfound
  rw [hkept] at hfound
  exact h userId record hfound

/-- Connecting accounts preserves what neither the trace touches nor the connecting of a listed
account. -/
theorem connectAll_preserves (holds : World Handler → Prop) {records : List AccountRecord}
    (htrace : ∀ world occurrence, holds world →
      holds { world with trace := occurrence :: world.trace })
    (hjoin : ∀ world, ∀ record ∈ records, holds world →
      holds { world with
        accounts := world.accounts.insert record.userId
          (.connect record (world.store.listSpecs record.userId))
        sessions := world.sessions.insert record.userId () })
    {world after : World Handler} {result : Except StoreError Unit} (hworld : holds world)
    (h : connectAll records world = .ok result after) : holds after := by
  induction records generalizing world with
  | nil =>
      cases h
      exact hworld
  | cons record rest ih =>
      have hrest {before : World Handler} (hbefore : holds before)
          (h : connectAll rest before = .ok result after) : holds after :=
        ih (fun world other hmem => hjoin world other (List.mem_cons_of_mem _ hmem)) hbefore h
      have htried := htrace world (.connect record.userId) hworld
      rw [connectAll, Act.bind_apply, World.openConnection_apply] at h
      cases hdecline : world.environment.decline world.trace record with
      | some error =>
          simp only [hdecline] at h
          exact hrest htried h
      | none =>
          simp only [hdecline] at h
          rw [Act.bind_apply, World.connectAccount_apply] at h
          have hlisted := htrace _ (.store (.commandSpecs record.userId)) htried
          cases hrefuse : world.environment.refuse (.connect record.userId :: world.trace)
              (.commandSpecs record.userId) with
          | some error =>
              simp only [hrefuse] at h
              cases h
              exact hlisted
          | none =>
              simp only [hrefuse] at h
              exact hrest (hjoin _ record List.mem_cons_self hlisted) h

/-- Connecting accounts leaves the store as it is. -/
theorem connectAll_store {records : List AccountRecord} {world after : World Handler}
    {result : Except StoreError Unit} (h : connectAll records world = .ok result after) :
    after.store = world.store :=
  connectAll_preserves (·.store = world.store) (fun _ _ hbefore => hbefore)
    (fun _ _ _ hbefore => hbefore) rfl h

/-- Everything an initialisation can come to.  It does nothing if an account is connected.  Else it
lists the accounts, connects them, lists the plugin instances and makes them, as far as the store
serves. -/
theorem init_cases {host ready : Host Factory Plugin} {world after : World Handler}
    {result : Except HostError Unit}
    (h : host.init performers world = .ok (result, ready) after) :
    let listed := { world with trace := .store .accounts :: world.trace }
    (ready = host ∧ (after = world ∨ after = listed)) ∨
      ∃ joined reached, connectAll world.store.listAccounts listed = .ok joined reached ∧
        let found := { reached with trace := .store .plugins :: reached.trace }
        (ready = host ∧ (after = reached ∨ after = found)) ∨
          ∃ loaded, host.loadPlugins performers reached.store.listPlugins found =
              .ok loaded after ∧
            ready = { host with plugins := host.plugins ++ loaded } := by
  obtain ⟨seen, same, hget, h⟩ := Act.bind_eq_ok.mp h
  cases hget
  split at h
  · cases h
    exact .inl ⟨rfl, .inl rfl⟩
  rw [Act.bind_apply, World.listAccounts_apply] at h
  cases hrefuse : world.environment.refuse world.trace .accounts with
  | some error =>
      simp only [hrefuse] at h
      cases h
      exact .inl ⟨rfl, .inr rfl⟩
  | none =>
      simp only [hrefuse] at h
      obtain ⟨joined, reached, hjoin, h⟩ := Act.bind_eq_ok.mp h
      refine .inr ⟨joined, reached, hjoin, ?_⟩
      rcases joined with error | _
      · cases h
        exact .inl ⟨rfl, .inl rfl⟩
      dsimp only at h
      rw [Act.bind_apply, World.listPlugins_apply] at h
      cases hrefuse : reached.environment.refuse reached.trace .plugins with
      | some error =>
          simp only [hrefuse] at h
          cases h
          exact .inl ⟨rfl, .inr rfl⟩
      | none =>
          simp only [hrefuse] at h
          obtain ⟨loaded, ended, hload, h⟩ := Act.bind_eq_ok.mp h
          cases h
          exact .inr ⟨loaded, hload, rfl⟩

/-- An initialisation preserves what neither the trace touches nor the connecting of a stored
account nor the making of instances. -/
theorem init_preserves (holds : World Handler → Prop) {host ready : Host Factory Plugin}
    {world after : World Handler} {result : Except HostError Unit}
    (htrace : ∀ world occurrence, holds world →
      holds { world with trace := occurrence :: world.trace })
    (hjoin : ∀ before, ∀ record ∈ world.store.listAccounts, holds before →
      holds { before with
        accounts := before.accounts.insert record.userId
          (.connect record (before.store.listSpecs record.userId))
        sessions := before.sessions.insert record.userId () })
    (hload : ∀ records before loaded after, holds before →
      host.loadPlugins performers records before = .ok loaded after → holds after)
    (hworld : holds world) (h : host.init performers world = .ok (result, ready) after) :
    holds after := by
  have hlisted := htrace world (.store .accounts) hworld
  rcases init_cases h with ⟨-, rfl | rfl⟩ | ⟨joined, reached, hconnect, hcases⟩
  · exact hworld
  · exact hlisted
  · have hreached := connectAll_preserves holds htrace hjoin hlisted hconnect
    have hfound := htrace reached (.store .plugins) hreached
    rcases hcases with ⟨-, rfl | rfl⟩ | ⟨loaded, hloaded, -⟩
    · exact hreached
    · exact hfound
    · exact hload _ _ _ _ hfound hloaded

/-- After the initialisation, every connected record was stored before. -/
theorem init_connects {host ready : Host Factory Plugin} {world connected : World Handler}
    {result : Except HostError Unit} (hperformers : performers.Keeps World.recordOf)
    (hempty : world.accounts = .empty)
    (h : host.init performers world = .ok (result, ready) connected) :
    Connects connected world.store.listAccounts := by
  refine init_preserves (Connects · world.store.listAccounts) (fun _ _ hbefore => hbefore)
    ?_ ?_ ?_ h
  · intro before record hmem hbefore userId found hfound
    simp only [World.recordOf, World.account?, SortedMap.find?_insert] at hfound
    split at hfound
    · rename_i huser
      cases hfound
      exact ⟨huser, hmem⟩
    · exact hbefore userId found hfound
  · intro records before loaded after hbefore hload
    exact connects_of_recordOf_eq hbefore ((loadPlugins_keeps hperformers.create
      (disable_keeps World.ofRecords_recordOf.toDetached) host records).eq_of_ok hload)
  · intro userId record hfound
    rw [World.recordOf, World.account?, hempty, SortedMap.find?_empty] at hfound
    cases hfound

/-! ### The first poll after a start -/

section FirstPoll

variable (userId : String) (base : List (Option String)) (cursor : Option String)

/-- If a user has been polled for since, the first time was from the cursor. -/
def Opened (world : World Handler) : Prop :=
  ∃ since, world.sincesOf userId = base ++ since ∧
    ∀ first, since.head? = some first → first = cursor

/-- As long as the user has not been polled for, a loop of that user holds the cursor. -/
def Opens (loop : SyncLoop) (world : World Handler) : Prop :=
  loop.processor.record.userId = userId → world.sincesOf userId = base →
    loop.processor.record.cursor? = cursor

/-- Polls of the user are added, and the first is from the cursor. -/
structure GoesOn (world after : World Handler) : Prop where
  extended : ∃ more, after.sincesOf userId = world.sincesOf userId ++ more
  opened : Opened userId base cursor after

variable {userId base cursor} {world after : World Handler}

theorem GoesOn.of_sincesOf_eq (hopened : Opened userId base cursor world)
    (hkept : after.sincesOf = world.sincesOf) : GoesOn userId base cursor world after := by
  refine ⟨⟨[], by rw [hkept, List.append_nil]⟩, ?_⟩
  rwa [Opened, hkept]

theorem GoesOn.trans {later : World Handler} (h : GoesOn userId base cursor world after)
    (hlater : GoesOn userId base cursor after later) : GoesOn userId base cursor world later := by
  obtain ⟨more, hmore⟩ := h.extended
  obtain ⟨most, hmost⟩ := hlater.extended
  exact ⟨⟨more ++ most, by rw [hmost, hmore, List.append_assoc]⟩, hlater.opened⟩

/-- A loop that has no turn holds the cursor as long as before. -/
theorem GoesOn.opens {loop : SyncLoop} (h : GoesOn userId base cursor world after)
    (hopened : Opened userId base cursor world) (hloop : Opens userId base cursor loop world) :
    Opens userId base cursor loop after := by
  intro huser hsinces
  apply hloop huser
  obtain ⟨more, hmore⟩ := h.extended
  obtain ⟨since, hsince, -⟩ := hopened
  rw [hsinces, hsince, List.append_assoc] at hmore
  have hnothing := List.append_eq_nil_iff.mp (List.self_eq_append_right.mp hmore)
  rw [hsince, hnothing.1, List.append_nil]

/-- A turn of a loop that holds the cursor, if it polls first, polls from the cursor. -/
theorem turnSafely_opens {loop next : SyncLoop}
    (hhandlers : performers.handlers.Keeps World.sincesOf)
    (hopened : Opened userId base cursor world) (hloop : Opens userId base cursor loop world)
    (h : loop.turnSafely performers.handlers world = .ok next after) :
    GoesOn userId base cursor world after ∧ Opens userId base cursor next after := by
  have hsinces := loop.turnSafely_sincesOf hhandlers h userId
  obtain ⟨since, hsince, hfirst⟩ := hopened
  obtain ⟨hnext, hcases⟩ := SyncLoop.turnSafely_cases h
  by_cases huser : loop.processor.record.userId = userId
  · rw [if_pos huser] at hsinces
    rcases hcases with ⟨hpolls, hcursor⟩ | ⟨hpolls, -⟩
    · rw [hpolls, List.map_nil, List.append_nil] at hsinces
      refine ⟨⟨⟨[], by rw [hsinces, List.append_nil]⟩, since, by rw [hsinces, hsince], hfirst⟩, ?_⟩
      intro _ hbase
      rw [hcursor]
      exact hloop huser (hsinces.symm.trans hbase)
    · rw [hpolls, List.map_singleton, SyncProcessor.pollOf_since] at hsinces
      refine ⟨⟨⟨_, hsinces⟩, ⟨since ++ [loop.processor.record.cursor?], ?_, ?_⟩⟩, ?_⟩
      · rw [hsinces, hsince, List.append_assoc]
      · intro first hhead
        cases since with
        | nil =>
            cases hhead
            exact hloop huser (by rw [hsince, List.append_nil])
        | cons earliest others => exact hfirst first hhead
      · intro _ hbase
        rw [hsinces, hsince] at hbase
        simp at hbase
  · rw [if_neg huser, List.append_nil] at hsinces
    refine ⟨⟨⟨[], by rw [hsinces, List.append_nil]⟩, ⟨since, by rw [hsinces, hsince], hfirst⟩⟩, ?_⟩
    intro hsame
    exact absurd (hnext.symm.trans hsame) huser

/-- All loops of a running host hold the cursor as long as the user has not been polled for. -/
def AllOpen (userId : String) (base : List (Option String)) (cursor : Option String)
    (host : Host Factory Plugin) (world : World Handler) : Prop :=
  ∃ loops, host.running = some loops ∧ ∀ entry ∈ loops, Opens userId base cursor entry.2 world

section Running

variable (hperformers : performers.Keeps World.sincesOf)
include hperformers

theorem settleLoop_opens {turns : Nat} {loop next : SyncLoop}
    (hopened : Opened userId base cursor world) (hloop : Opens userId base cursor loop world)
    (h : loop.settle performers.handlers turns world = .ok next after) :
    GoesOn userId base cursor world after ∧ Opens userId base cursor next after := by
  induction turns generalizing loop world with
  | zero =>
      cases h
      exact ⟨.of_sincesOf_eq hopened rfl, hloop⟩
  | succ turns ih =>
      rcases hstate : loop.state with errand | _ | _ | _
      · rw [SyncLoop.settle, hstate] at h
        obtain ⟨turned, reached, hturn, h⟩ := Act.bind_eq_ok.mp h
        obtain ⟨hgoes, hturned⟩ := turnSafely_opens hperformers.handlers hopened hloop hturn
        obtain ⟨hrest, hnext⟩ := ih hgoes.opened hturned h
        exact ⟨hgoes.trans hrest, hnext⟩
      all_goals
        rw [SyncLoop.settle, hstate] at h
        cases h
        exact ⟨.of_sincesOf_eq hopened rfl, hloop⟩

theorem advanceLoops_opens {turns : Nat} {loops advanced : List (String × SyncLoop)}
    (hopened : Opened userId base cursor world)
    (hloops : ∀ entry ∈ loops, Opens userId base cursor entry.2 world)
    (h : advanceLoops performers turns loops world = .ok advanced after) :
    GoesOn userId base cursor world after ∧
      ∀ entry ∈ advanced, Opens userId base cursor entry.2 after := by
  induction loops generalizing world advanced with
  | nil =>
      cases h
      exact ⟨.of_sincesOf_eq hopened rfl, fun _ hmem => absurd hmem List.not_mem_nil⟩
  | cons entry rest ih =>
      obtain ⟨hentry, hrest⟩ := List.forall_mem_cons.mp hloops
      obtain ⟨loop, reached, hadvance, h⟩ := Act.bind_eq_ok.mp h
      obtain ⟨first, turned, hturn, hsettle⟩ := Act.bind_eq_ok.mp hadvance
      obtain ⟨hfirst, hheld⟩ := turnSafely_opens hperformers.handlers hopened hentry hturn
      obtain ⟨hsettled, hloop⟩ := settleLoop_opens hperformers hfirst.opened hheld hsettle
      have hgoes := hfirst.trans hsettled
      obtain ⟨others, ended, hothers, h⟩ := Act.bind_eq_ok.mp h
      cases h
      obtain ⟨hon, hadvanced⟩ := ih hgoes.opened
        (fun other hmem => hgoes.opens hopened (hrest other hmem)) hothers
      refine ⟨hgoes.trans hon, List.forall_mem_cons.mpr ⟨?_, hadvanced⟩⟩
      exact hon.opens hgoes.opened hloop

theorem settle_opens {turns : Nat} {host next : Host Factory Plugin}
    (hopened : Opened userId base cursor world) (hhost : AllOpen userId base cursor host world)
    (h : host.settle performers turns world = .ok next after) :
    GoesOn userId base cursor world after ∧ AllOpen userId base cursor next after := by
  obtain ⟨loops, hrunning, hloops⟩ := hhost
  rw [settle, hrunning] at h
  obtain ⟨plugins, begun, hstarts, h⟩ := Act.bind_eq_ok.mp h
  have hkept := (starts_keeps World.ofRecords_sincesOf hperformers _).eq_of_ok hstarts
  have hbegun : GoesOn userId base cursor world begun := .of_sincesOf_eq hopened hkept
  obtain ⟨advanced, reached, hadvance, h⟩ := Act.bind_eq_ok.mp h
  obtain ⟨hgoes, hadvanced⟩ := advanceLoops_opens hperformers hbegun.opened
    (fun entry hmem => hbegun.opens hopened (hloops entry hmem)) hadvance
  cases h
  exact ⟨hbegun.trans hgoes, advanced, rfl, hadvanced⟩

theorem runUntil_opens {turns deadline moves : Nat} {host next : Host Factory Plugin}
    (hopened : Opened userId base cursor world) (hhost : AllOpen userId base cursor host world)
    (h : runUntil performers turns deadline moves host world = .ok next after) :
    GoesOn userId base cursor world after ∧ AllOpen userId base cursor next after := by
  induction moves generalizing host world with
  | zero =>
      cases h
      exact ⟨.of_sincesOf_eq hopened rfl, hhost⟩
  | succ moves ih =>
      obtain ⟨settled, reached, hsettle, h⟩ := Act.bind_eq_ok.mp h
      obtain ⟨hgoes, hsettled⟩ := settle_opens hperformers hopened hhost hsettle
      obtain ⟨seen, same, hget, h⟩ := Act.bind_eq_ok.mp h
      cases hget
      cases hwake : settled.nextWake? reached.clock deadline with
      | none =>
          simp only [hwake] at h
          obtain ⟨_, waited, hwait, h⟩ := Act.bind_eq_ok.mp h
          cases hwait
          cases h
          exact ⟨⟨hgoes.extended, hgoes.opened⟩, hsettled⟩
      | some wake =>
          simp only [hwake] at h
          obtain ⟨_, waited, hwait, h⟩ := Act.bind_eq_ok.mp h
          cases hwait
          have hwaited : GoesOn userId base cursor world
              { reached with clock := max reached.clock wake } := ⟨hgoes.extended, hgoes.opened⟩
          obtain ⟨hrest, hnext⟩ := ih hwaited.opened hsettled h
          exact ⟨hwaited.trans hrest, hnext⟩

/-- As long as nobody stops a running host, starts change nothing and time keeps its loops to
the cursor. -/
theorem performAll_opens {calls : List HostCall} {host next : Host Factory Plugin}
    (hcalls : ∀ call ∈ calls, call ≠ .stop) (hopened : Opened userId base cursor world)
    (hhost : AllOpen userId base cursor host world)
    (h : performAll performers calls host world = .ok next after) :
    GoesOn userId base cursor world after := by
  induction calls generalizing host world with
  | nil =>
      cases h
      exact .of_sincesOf_eq hopened rfl
  | cons call rest ih =>
      obtain ⟨hcall, hrest⟩ := List.forall_mem_cons.mp hcalls
      obtain ⟨served, reached, hperform, hserve⟩ := Act.bind_eq_ok.mp h
      cases call with
      | start =>
          obtain ⟨loops, hrunning, -⟩ := id hhost
          rw [perform, start, if_pos (by rw [hrunning]; rfl)] at hperform
          cases hperform
          exact ih hrest hopened hhost hserve
      | stop => exact absurd rfl hcall
      | wait turns moves deadline =>
          obtain ⟨hgoes, hserved⟩ := runUntil_opens hperformers hopened hhost hperform
          exact hgoes.trans (ih hrest hgoes.opened hserved hserve)

end Running

end FirstPoll

/-- A start gives every account that follows its feed a loop with the record it was connected
with. -/
theorem start_allOpen {host next : Host Factory Plugin} {world after : World Handler}
    {records : List AccountRecord} (hconnects : Connects world records)
    (hidle : host.running = none) (h : host.start world = .ok next after) (userId : String) :
    after = world ∧ AllOpen userId (world.sincesOf userId)
      ((world.recordOf userId).bind AccountRecord.cursor?) next world := by
  rw [start, if_neg (by rw [hidle]; exact Bool.false_ne_true)] at h
  cases h
  refine ⟨rfl, _, rfl, ?_⟩
  intro entry hmem huser _
  obtain ⟨⟨key, account⟩, haccount, rfl⟩ := List.mem_map.mp hmem
  have hfound : world.recordOf key = some account.record := by
    rw [World.recordOf, World.account?,
      SortedMap.mem_toList_iff.mp (List.mem_filter.mp haccount).1]
    rfl
  have hkey := (hconnects key _ hfound).1
  obtain rfl : key = userId := hkey.symm.trans huser
  rw [hfound]
  rfl

/-- However a host has been started, stopped and given time since it was initialised: when it
is started again, the first poll of every account asks from the cursor that was stored for it
before the initialisation.  It is the cursor stored last if and only if that is still the
same. -/
theorem first_poll_after_start {host ready reached served : Host Factory Plugin}
    {world connected before after : World Handler} {result : Except HostError Unit}
    {calls later : List HostCall}
    (hrecords : performers.Keeps World.recordOf) (hpolls : performers.Keeps World.sincesOf)
    (hempty : world.accounts = .empty)
    (hinit : host.init performers world = .ok (result, ready) connected)
    (hcalls : performAll performers calls ready connected = .ok reached before)
    (hidle : reached.running = none) (hlater : ∀ call ∈ later, call ≠ .stop)
    (hserve : performAll performers (.start :: later) reached before = .ok served after)
    (userId : String) :
    ∃ polls, after.sincesOf userId = before.sincesOf userId ++ polls ∧
      ∀ since, polls.head? = some since →
        since = (connected.recordOf userId).bind AccountRecord.cursor? ∧
        (∀ record, connected.recordOf userId = some record →
          record.userId = userId ∧ record ∈ world.store.listAccounts) ∧
        (since = before.storedCursor userId ↔
          before.storedCursor userId = (connected.recordOf userId).bind AccountRecord.cursor?) := by
  have hconnected : Connects connected world.store.listAccounts :=
    init_connects hrecords hempty hinit
  have hkept : before.recordOf = connected.recordOf :=
    (performAll_keeps World.ofRecords_recordOf hrecords SyncProcessor.poll_keeps_recordOf
      calls ready).eq_of_ok hcalls
  obtain ⟨begun, started, hstart, hbegun⟩ := Act.bind_eq_ok.mp hserve
  obtain ⟨rfl, hall⟩ := start_allOpen (connects_of_recordOf_eq hconnected hkept) hidle hstart userId
  have hopened : Opened userId (started.sincesOf userId)
      ((started.recordOf userId).bind AccountRecord.cursor?) started :=
    ⟨[], (List.append_nil _).symm, fun _ h => nomatch h⟩
  obtain ⟨polls, hadded, hfirst⟩ := (performAll_opens hpolls hlater hopened hall hbegun).opened
  refine ⟨polls, hadded, ?_⟩
  intro since hsince
  have hcursor := hfirst since hsince
  rw [hkept] at hcursor
  refine ⟨hcursor, hconnected userId, ?_⟩
  rw [hcursor]
  exact eq_comm

section Scene

open SecondBatch

/-- Plugins and handlers that do nothing. -/
def idle : Performers Unit Unit Unit where
  handlers := quiet
  plugins :=
    { create := fun _ _ _ => pure ()
      start := fun _ => pure .started
      stop := fun _ => pure () }

theorem idle_keeps {γ : Type} (view : World Unit → γ) : idle.Keeps view where
  handlers := ⟨fun _ _ => Act.keeps_pure _, fun _ _ => Act.keeps_pure _⟩
  create _ _ _ := Act.keeps_pure _
  start _ := Act.keeps_pure _
  stop _ := Act.keeps_pure _

/-- A world in which the account is stored and nothing has happened. -/
def untouched : World Unit := .initial (surroundings true) (.ofRecords [SecondBatch.record] [])

/-- A host that is stopped before its first batch, and started again, polls from the stored
cursor. -/
theorem first_poll_after_early_stop :
    ∃ ready connected reached before served after polls,
      (Host.new .default : Host Unit Unit).init idle untouched = .ok (.ok (), ready) connected ∧
      performAll idle [.start, .stop] ready connected = .ok reached before ∧
      performAll idle [.start, .wait 5 5 1] reached before = .ok served after ∧
      after.sincesOf "@bot:hs" = before.sincesOf "@bot:hs" ++ polls ∧
      polls.head? = some (before.storedCursor "@bot:hs") := by
  obtain ⟨ready, connected, hinit, hcursor, reached, before, hcalls, hidle, hquiet, hstored,
      served, after, hserve, hsinces⟩ : ∃ ready connected,
      (Host.new .default : Host Unit Unit).init idle untouched = .ok (.ok (), ready) connected ∧
        (connected.recordOf "@bot:hs").bind AccountRecord.cursor? = some "s1" ∧
        ∃ reached before, performAll idle [.start, .stop] ready connected = .ok reached before ∧
          reached.running = none ∧ before.sincesOf "@bot:hs" = [] ∧
          before.storedCursor "@bot:hs" = some "s1" ∧
          ∃ served after, performAll idle [.start, .wait 5 5 1] reached before = .ok served after ∧
            after.sincesOf "@bot:hs" = [some "s1", some "s2"] :=
    ⟨_, _, rfl, rfl, _, _, rfl, rfl, rfl, rfl, _, _, rfl, rfl⟩
  obtain ⟨polls, hpolls, hfirst⟩ := first_poll_after_start (idle_keeps World.recordOf)
    (idle_keeps World.sincesOf) rfl hinit hcalls hidle (by decide) hserve "@bot:hs"
  refine ⟨_, _, _, _, _, _, polls, hinit, hcalls, hserve, hpolls, ?_⟩
  rw [hsinces, hquiet, List.nil_append] at hpolls
  subst hpolls
  exact congrArg some ((hfirst _ rfl).2.2.mpr (hstored.trans hcursor.symm))

/-- A host that is stopped after a batch, and started again, polls from where it was when it was
initialised, though another cursor has been stored. -/
theorem first_poll_after_batch_rewinds :
    ∃ ready connected reached before served after,
      (Host.new .default : Host Unit Unit).init idle untouched = .ok (.ok (), ready) connected ∧
      performAll idle [.start, .wait 5 5 1, .stop] ready connected = .ok reached before ∧
      performAll idle [.start, .wait 5 5 2] reached before = .ok served after ∧
      before.storedCursor "@bot:hs" = some "s2" ∧
      before.sincesOf "@bot:hs" = [some "s1", some "s2"] ∧
      after.sincesOf "@bot:hs" = before.sincesOf "@bot:hs" ++ [some "s1", some "s2"] :=
  ⟨_, _, _, _, _, _, rfl, rfl, rfl, rfl, rfl, rfl⟩

end Scene

end Host

end BotHost
