/-
# Plugin instances

Once the start of an instance has begun, it has turns until it succeeds, fails or panics; each turn
that does not end it lets it sleep.  When the host is stopped, what is left of a start is given up,
the instances whose start has succeeded are stopped, and whatever the instances hold is withdrawn.

The milestones of an instance are recorded beside it.  Its `Tally` ties the two together: an
instance counts as started exactly if it has succeeded once more than it was stopped.  Instances act
on the account and in the name of their record, `PluginBehaviour.Scoped`, so that what they hold is
theirs alone.
-/

import Mathlib.Data.List.Forall2
import BotHost.Proofs.Account.Holdings
import BotHost.Proofs.Host.Initialisation

namespace BotHost

/-! ### Milestones -/

/-- Something that happens to an instance. -/
inductive Milestone where
  | succeeded
  | failed
  /-- Its start has panicked. -/
  | gaveUp
  /-- Its start has come to a point where it sleeps. -/
  | slept
  | stopped
deriving DecidableEq

/-- What it is to an instance if a turn of its start ends well. -/
def Progress.milestone {Plugin : Type} : Progress Plugin → Milestone
  | .started => .succeeded
  | .failed _ => .failed
  | .sleeping .. => .slept

/-- The account on which the instance of a record acts, and the owner in whose name it does. -/
def PluginRecord.scope (record : PluginRecord) : String × String := (record.userId, record.id)

namespace LoadedPlugin

variable {Plugin : Type}

/-- The instance as it was made: not started, and with nothing pending. -/
def atRest (loaded : LoadedPlugin Plugin) : LoadedPlugin Plugin :=
  { loaded with started := false, pending := none }

/-- The instance with its start begun. -/
def begin (clock : Nat) (loaded : LoadedPlugin Plugin) : LoadedPlugin Plugin :=
  { loaded with pending := some (clock, loaded.plugin) }

end LoadedPlugin

/-- Instances keep to their scope: an instance that is made for a record acts on the account and in
the name of this record only, while it is started, while it goes on with its start, and while it is
stopped. -/
structure PluginBehaviour.Scoped {Handler Factory Plugin : Type}
    (behaviour : PluginBehaviour Handler Factory Plugin)
    (belongs : PluginRecord → Plugin → Prop) : Prop where
  /-- An instance belongs to the record for which it is made. -/
  create : ∀ {plugin record settings world made after},
    behaviour.create plugin record settings world = .ok made after → belongs record made
  rest : ∀ {record plugin world wake rest after}, belongs record plugin →
    behaviour.start plugin world = .ok (.sleeping wake rest) after → belongs record rest
  /-- A start does not show in what others hold. -/
  start : ∀ {record plugin userId owner}, belongs record plugin → record.scope ≠ (userId, owner) →
    (behaviour.start plugin).Keeps (World.holdings userId owner)
  stop : ∀ {record plugin userId owner}, belongs record plugin → record.scope ≠ (userId, owner) →
    (behaviour.stop plugin).Keeps (World.holdings userId owner)

/-- A poll does not show in what an owner holds. -/
theorem SyncProcessor.poll_keeps_holdings {Handler : Type} (processor : SyncProcessor)
    (userId owner : String) :
    (processor.poll : Act (World Handler) _).Keeps (World.holdings userId owner) :=
  processor.poll_keeps fun _ _ _ _ => rfl

namespace Host

variable {Handler Factory Plugin : Type}

/-- What the end of a turn is to an instance. -/
def milestoneOf : EStateM.Result Panic (World Handler) (Progress Plugin) → Milestone
  | .ok progress _ => progress.milestone
  | .error .. => .gaveUp

theorem milestoneOf_ne_stopped
    (ended : EStateM.Result Panic (World Handler) (Progress Plugin)) :
    milestoneOf ended ≠ .stopped := by
  rcases ended with ⟨_ | _ | _, _⟩ | _ <;> nofun

/-- The turn of an instance, if its start is due. -/
def turnOf (performers : Performers Handler Factory Plugin) (world : World Handler)
    (loaded : LoadedPlugin Plugin) : List Milestone :=
  match loaded.pending with
  | none => []
  | some (wake, rest) =>
    if wake ≤ world.clock then [milestoneOf (performers.plugins.start rest world)] else []

/-- The turns of the instances, one after the other. -/
def turnsOf (performers : Performers Handler Factory Plugin) :
    List (LoadedPlugin Plugin) → World Handler → List (List Milestone)
  | [], _ => []
  | loaded :: rest, world =>
    turnOf performers world loaded ::
      turnsOf performers rest ((advanceStart performers loaded).stateAfter world)

/-- What stopping the host is to an instance. -/
def stopOf (loaded : LoadedPlugin Plugin) : List Milestone :=
  if loaded.started then [.stopped] else []

/-- Add to the past of each instance. -/
def extend (pasts more : List (List Milestone)) : List (List Milestone) :=
  pasts.zipWith (· ++ ·) more

variable {performers : Performers Handler Factory Plugin} {ready host : Host Factory Plugin}
  {world after : World Handler}

/-! ### Instances as they are made -/

/-- An instance that has just been made: it is not started, and it was made for its record, which is
enabled. -/
structure Fresh (performers : Performers Handler Factory Plugin) (loaded : LoadedPlugin Plugin) :
    Prop where
  atRest : loaded.atRest = loaded
  enabled : loaded.record.enabled = true
  made : ∃ plugin settings before after,
    performers.plugins.create plugin loaded.record settings before = .ok loaded.plugin after

theorem loadPlugin_fresh {record : PluginRecord} {loaded : LoadedPlugin Plugin}
    (h : host.loadPlugin performers record world = .ok (some loaded) after) :
    loaded.record = record ∧ Fresh performers loaded := by
  unfold loadPlugin at h
  split at h
  · cases h
  · rename_i henabled
    obtain ⟨seen, same, hget, h⟩ := Act.bind_eq_ok.mp h
    cases hget
    cases hplugin : host.registry.find? record.pluginType with
    | none =>
        simp only [hplugin] at h
        obtain ⟨_, reached, -, h⟩ := Act.bind_eq_ok.mp h
        cases h
    | some plugin =>
        simp only [hplugin] at h
        split at h
        · obtain ⟨made, reached, hcreate, h⟩ := Act.bind_eq_ok.mp h
          cases h
          exact ⟨rfl, rfl, by simpa using henabled, _, _, _, _, hcreate⟩
        · obtain ⟨_, reached, -, h⟩ := Act.bind_eq_ok.mp h
          cases h

theorem loadPlugins_fresh {records : List PluginRecord} {loaded : List (LoadedPlugin Plugin)}
    (h : host.loadPlugins performers records world = .ok loaded after) :
    ∀ entry ∈ loaded, entry.record ∈ records ∧ Fresh performers entry := by
  induction records generalizing world loaded with
  | nil =>
      cases h
      exact fun _ hmem => absurd hmem List.not_mem_nil
  | cons record rest ih =>
      obtain ⟨first, reached, hfirst, h⟩ := Act.bind_eq_ok.mp h
      obtain ⟨others, ended, hothers, h⟩ := Act.bind_eq_ok.mp h
      cases h
      intro entry hmem
      rcases List.mem_append.mp hmem with hmem | hmem
      · rw [Option.mem_toList.mp hmem] at hfirst
        obtain ⟨rfl, hfresh⟩ := loadPlugin_fresh hfirst
        exact ⟨List.mem_cons_self, hfresh⟩
      · exact (ih hothers entry hmem).imp_left (List.mem_cons_of_mem _)

/-- What an initialisation does to a host: it may add instances, for records that are stored. -/
theorem init_adds {result : Except HostError Unit}
    (h : host.init performers world = .ok (result, ready) after) :
    ∃ loaded, ready = { host with plugins := host.plugins ++ loaded } ∧
      ∀ entry ∈ loaded, entry.record ∈ world.store.listPlugins ∧ Fresh performers entry := by
  have hnone : ∃ loaded, host = { host with plugins := host.plugins ++ loaded } ∧
      ∀ entry ∈ loaded, entry.record ∈ world.store.listPlugins ∧ Fresh performers entry :=
    ⟨[], by rw [List.append_nil], fun _ hmem => absurd hmem List.not_mem_nil⟩
  rcases init_cases h with ⟨rfl, -⟩ | ⟨joined, reached, hconnect, ⟨rfl, -⟩ | ⟨loaded, hload, rfl⟩⟩
  · exact hnone
  · exact hnone
  · have hstore : reached.store = world.store := (connectAll_store hconnect).trans rfl
    rw [hstore] at hload
    exact ⟨loaded, rfl, loadPlugins_fresh hload⟩

/-- However often a host has been initialised, its instances are as they were made. -/
theorem InitRun.fresh_plugins {outcomes : List (Except HostError Unit × Bool)}
    (h : InitRun performers outcomes host world) :
    ∀ loaded ∈ host.plugins, Fresh performers loaded := by
  induction h with
  | fresh hplugins _ =>
      rw [hplugins]
      exact fun _ hmem => absurd hmem List.not_mem_nil
  | call _ hinit ih =>
      obtain ⟨loaded, rfl, hfresh⟩ := init_adds hinit
      exact List.forall_mem_append.mpr ⟨ih, fun entry hmem => (hfresh entry hmem).2⟩

/-! ### Turns -/

section Turn

variable {loaded advanced : LoadedPlugin Plugin}

/-- Everything that can happen when an instance is given a turn: it is not due; or else the start
panics, succeeds, fails or sleeps. -/
theorem advanceStart_cases (h : advanceStart performers loaded world = .ok advanced after) :
    (turnOf performers world loaded = [] ∧ advanced = loaded ∧ after = world) ∨
    ∃ wake rest, loaded.pending = some (wake, rest) ∧
      ((∃ panic, performers.plugins.start rest world = .error panic after ∧
          turnOf performers world loaded = [.gaveUp] ∧
          advanced = { loaded with pending := none }) ∨
        (performers.plugins.start rest world = .ok .started after ∧
          turnOf performers world loaded = [.succeeded] ∧
          advanced = { loaded with started := true, pending := none }) ∨
        (∃ error failed removed, performers.plugins.start rest world = .ok (.failed error) failed ∧
          World.removeOwner loaded.record.userId loaded.record.id failed = .ok () removed ∧
          disable loaded.record removed = .ok () after ∧
          turnOf performers world loaded = [.failed] ∧
          advanced = { loaded with pending := none }) ∨
        ∃ later remaining, performers.plugins.start rest world =
            .ok (.sleeping later remaining) after ∧
          turnOf performers world loaded = [.slept] ∧
          advanced = { loaded with pending := some (later, remaining) }) := by
  unfold advanceStart at h
  cases hpending : loaded.pending with
  | none =>
      simp only [hpending] at h
      cases h
      exact .inl ⟨by rw [turnOf, hpending], rfl, rfl⟩
  | some pending =>
      obtain ⟨wake, rest⟩ := pending
      simp only [hpending] at h
      obtain ⟨seen, same, hget, h⟩ := Act.bind_eq_ok.mp h
      cases hget
      by_cases hdue : wake ≤ world.clock
      · have hturn : turnOf performers world loaded =
            [milestoneOf (performers.plugins.start rest world)] := by
          rw [turnOf, hpending]
          exact if_pos hdue
        rw [if_pos hdue, continueStart] at h
        refine .inr ⟨wake, rest, rfl, ?_⟩
        obtain ⟨ended, reached, hattempt, h⟩ := Act.bind_eq_ok.mp h
        cases hstart : performers.plugins.start rest world with
        | error panic left =>
            rw [Act.attempt_of_panic hstart] at hattempt
            cases hattempt
            cases h
            exact .inl ⟨panic, rfl, by rw [hturn, hstart]; rfl, rfl⟩
        | ok progress left =>
            rw [Act.attempt_of_ok hstart] at hattempt
            cases hattempt
            cases progress with
            | started =>
                cases h
                exact .inr (.inl ⟨rfl, by rw [hturn, hstart]; rfl, rfl⟩)
            | failed error =>
                obtain ⟨_, removed, hremove, h⟩ := Act.bind_eq_ok.mp h
                obtain ⟨_, disabled, hdisable, h⟩ := Act.bind_eq_ok.mp h
                cases h
                exact .inr (.inr (.inl
                  ⟨error, _, removed, rfl, hremove, hdisable, by rw [hturn, hstart]; rfl, rfl⟩))
            | sleeping later remaining =>
                cases h
                exact .inr (.inr (.inr ⟨later, remaining, rfl, by rw [hturn, hstart]; rfl, rfl⟩))
      · rw [if_neg hdue] at h
        cases h
        exact .inl ⟨by rw [turnOf, hpending]; exact if_neg hdue, rfl, rfl⟩

/-- A turn changes nothing in an instance but how far its start has come. -/
theorem advanceStart_atRest (h : advanceStart performers loaded world = .ok advanced after) :
    advanced.atRest = loaded.atRest := by
  rcases advanceStart_cases h with ⟨-, rfl, -⟩ | ⟨wake, rest, -, ⟨_, -, -, rfl⟩ | ⟨-, -, rfl⟩ |
    ⟨_, _, _, -, -, -, -, rfl⟩ | ⟨_, _, -, -, rfl⟩⟩ <;> rfl

/-- The past of an instance and how it stands agree: it counts as started if it has succeeded once
more than it was stopped, and then nothing is pending. -/
structure Tally (past : List Milestone) (loaded : LoadedPlugin Plugin) : Prop where
  balance : past.count .succeeded = past.count .stopped + if loaded.started then 1 else 0
  /-- A start that has succeeded does not go on. -/
  quiet : loaded.started = true → loaded.pending = none

/-- A turn keeps the tally of an instance. -/
theorem Tally.advance {past : List Milestone} (htally : Tally past loaded)
    (h : advanceStart performers loaded world = .ok advanced after) :
    Tally (past ++ turnOf performers world loaded) advanced := by
  rcases advanceStart_cases h with ⟨hturn, rfl, -⟩ | ⟨wake, rest, hpending, hcases⟩
  · rwa [hturn, List.append_nil]
  -- An instance with a pending start has not been started yet.
  have hnot : loaded.started = false := by
    by_contra hstarted
    have := htally.quiet (by simpa using hstarted)
    rw [hpending] at this
    cases this
  have hbalance := htally.balance
  rcases hcases with ⟨_, -, hturn, rfl⟩ | ⟨-, hturn, rfl⟩ | ⟨_, _, _, -, -, -, hturn, rfl⟩ |
    ⟨_, _, -, hturn, rfl⟩
  · rw [hturn]
    exact ⟨by simpa [hnot] using hbalance, fun h => absurd h (by simp [hnot])⟩
  · rw [hturn]
    exact ⟨by simpa [hnot] using hbalance, fun _ => rfl⟩
  · rw [hturn]
    exact ⟨by simpa [hnot] using hbalance, fun h => absurd h (by simp [hnot])⟩
  · rw [hturn]
    exact ⟨by simpa [hnot] using hbalance, fun h => absurd h (by simp [hnot])⟩

/-- A stop settles the tally of an instance. -/
theorem Tally.stop {past : List Milestone} (h : Tally past loaded) :
    Tally (past ++ stopOf loaded) loaded.atRest := by
  refine ⟨?_, fun hstarted => absurd hstarted (by simp [LoadedPlugin.atRest])⟩
  have hbalance := h.balance
  by_cases hstarted : loaded.started = true <;>
    simpa [stopOf, hstarted, LoadedPlugin.atRest] using hbalance

/-- The start of an instance at rest may be begun. -/
theorem Tally.begin {past : List Milestone} (h : Tally past loaded)
    (hat_rest : loaded.atRest = loaded) (clock : Nat) : Tally past (loaded.begin clock) := by
  refine ⟨h.balance, fun hstarted => ?_⟩
  rw [← hat_rest] at hstarted
  cases hstarted

end Turn

/-! ### Turns of all instances -/

section Turns

variable {plugins advanced stopped : List (LoadedPlugin Plugin)} {pasts : List (List Milestone)}

theorem advanceStarts_cons {loaded : LoadedPlugin Plugin}
    (h : advanceStarts performers (loaded :: plugins) world = .ok advanced after) :
    ∃ first others between, advanced = first :: others ∧
      advanceStart performers loaded world = .ok first between ∧
      advanceStarts performers plugins between = .ok others after := by
  obtain ⟨first, between, hfirst, h⟩ := Act.bind_eq_ok.mp h
  obtain ⟨others, ended, hothers, h⟩ := Act.bind_eq_ok.mp h
  cases h
  exact ⟨first, others, between, rfl, hfirst, hothers⟩

theorem advanceStarts_atRest (h : advanceStarts performers plugins world = .ok advanced after) :
    advanced.map (·.atRest) = plugins.map (·.atRest) := by
  induction plugins generalizing world advanced with
  | nil =>
      cases h
      rfl
  | cons loaded rest ih =>
      obtain ⟨first, others, between, rfl, hfirst, hothers⟩ := advanceStarts_cons h
      rw [List.map_cons, List.map_cons, advanceStart_atRest hfirst, ih hothers]

/-- The turns of the instances keep their tallies. -/
theorem tallies_advance (htallies : List.Forall₂ Tally pasts plugins)
    (h : advanceStarts performers plugins world = .ok advanced after) :
    List.Forall₂ Tally (extend pasts (turnsOf performers plugins world)) advanced := by
  induction htallies generalizing world advanced with
  | nil =>
      cases h
      exact .nil
  | cons htally _ ih =>
      obtain ⟨first, others, between, rfl, hfirst, hothers⟩ := advanceStarts_cons h
      refine .cons (htally.advance hfirst) ?_
      rw [Act.stateAfter, hfirst]
      exact ih hothers

/-- A stop settles the tallies of the instances. -/
theorem tallies_stop (htallies : List.Forall₂ Tally pasts plugins) :
    List.Forall₂ Tally (extend pasts (plugins.map stopOf)) (plugins.map (·.atRest)) := by
  induction htallies with
  | nil => exact .nil
  | cons htally _ ih => exact .cons htally.stop ih

/-- The starts of instances at rest may be begun. -/
theorem tallies_begin (htallies : List.Forall₂ Tally pasts plugins)
    (hat_rest : ∀ loaded ∈ plugins, loaded.atRest = loaded) (clock : Nat) :
    List.Forall₂ Tally pasts (plugins.map (·.begin clock)) := by
  induction htallies with
  | nil => exact .nil
  | cons htally _ ih =>
      obtain ⟨hloaded, hrest⟩ := List.forall_mem_cons.mp hat_rest
      exact .cons (htally.begin hloaded _) (ih hrest)

/-- Where nothing happens, the pasts stay as they are. -/
theorem extend_blank (hlength : pasts.length = plugins.length) :
    extend pasts (plugins.map fun _ => []) = pasts := by
  induction pasts generalizing plugins with
  | nil => rfl
  | cons past rest ih =>
      cases plugins with
      | nil => cases hlength
      | cons loaded others =>
          rw [List.map_cons, extend, List.zipWith_cons_cons, List.append_nil]
          exact congrArg _ (ih (Nat.succ.inj hlength))

/-- What happens in two steps may be added in two steps. -/
theorem extend_extend (pasts first second : List (List Milestone)) :
    extend (extend pasts first) second = extend pasts (extend first second) := by
  induction pasts generalizing first second with
  | nil => rfl
  | cons past rest ih =>
      cases first with
      | nil => rfl
      | cons turn turns =>
          cases second with
          | nil => rfl
          | cons stop stops =>
              simp only [extend, List.zipWith_cons_cons, List.append_assoc] at ih ⊢
              rw [ih]

theorem stopPlugins_cons {loaded : LoadedPlugin Plugin}
    (h : stopPlugins performers (loaded :: plugins) world = .ok stopped after) :
    ∃ others before removed, stopped = loaded.atRest :: others ∧
      (loaded.started = false ∧ before = world ∨
        loaded.started = true ∧ performers.plugins.stop loaded.plugin world = .ok () before) ∧
      World.removeOwner loaded.record.userId loaded.record.id before = .ok () removed ∧
      stopPlugins performers plugins removed = .ok others after := by
  have hgoOn {before : World Handler}
      (h : (do
          World.removeOwner loaded.record.userId loaded.record.id
          let rest ← stopPlugins performers plugins
          pure (loaded.atRest :: rest) : Act (World Handler) _) before = .ok stopped after) :
      ∃ others removed, stopped = loaded.atRest :: others ∧
        World.removeOwner loaded.record.userId loaded.record.id before = .ok () removed ∧
        stopPlugins performers plugins removed = .ok others after := by
    obtain ⟨_, removed, hremove, h⟩ := Act.bind_eq_ok.mp h
    obtain ⟨others, ended, hothers, h⟩ := Act.bind_eq_ok.mp h
    cases h
    exact ⟨others, removed, rfl, hremove, hothers⟩
  rw [stopPlugins] at h
  cases hstarted : loaded.started with
  | false =>
      simp only [hstarted] at h
      obtain ⟨others, removed, hsame, hremove, hothers⟩ := hgoOn h
      exact ⟨others, world, removed, hsame, .inl ⟨rfl, rfl⟩, hremove, hothers⟩
  | true =>
      simp only [hstarted] at h
      obtain ⟨_, before, hstop, h⟩ := Act.bind_eq_ok.mp h
      obtain ⟨others, removed, hsame, hremove, hothers⟩ := hgoOn h
      exact ⟨others, before, removed, hsame, .inr ⟨rfl, hstop⟩, hremove, hothers⟩

/-- After a stop, the instances are as they were made. -/
theorem stopPlugins_atRest (h : stopPlugins performers plugins world = .ok stopped after) :
    stopped = plugins.map (·.atRest) := by
  induction plugins generalizing world stopped with
  | nil =>
      cases h
      rfl
  | cons loaded rest ih =>
      obtain ⟨others, _, _, rfl, -, -, hothers⟩ := stopPlugins_cons h
      rw [List.map_cons, ih hothers]

end Turns

/-! ### What instances hold -/

section Scope

variable {belongs : PluginRecord → Plugin → Prop}
  (hscoped : performers.plugins.Scoped belongs) {plugins stopped : List (LoadedPlugin Plugin)}

/-- An instance belongs to its record, and so does what is left of its start. -/
structure Belongs (belongs : PluginRecord → Plugin → Prop) (loaded : LoadedPlugin Plugin) :
    Prop where
  plugin : belongs loaded.record loaded.plugin
  pending : ∀ wake rest, loaded.pending = some (wake, rest) → belongs loaded.record rest

include hscoped

theorem Belongs.advance {loaded advanced : LoadedPlugin Plugin} (hbelongs : Belongs belongs loaded)
    (h : advanceStart performers loaded world = .ok advanced after) : Belongs belongs advanced := by
  rcases advanceStart_cases h with ⟨-, rfl, -⟩ | ⟨wake, rest, hpending, ⟨_, -, -, rfl⟩ |
    ⟨-, -, rfl⟩ | ⟨_, _, _, -, -, -, -, rfl⟩ | ⟨later, remaining, hslept, -, rfl⟩⟩
  · exact hbelongs
  · exact ⟨hbelongs.plugin, nofun⟩
  · exact ⟨hbelongs.plugin, nofun⟩
  · exact ⟨hbelongs.plugin, nofun⟩
  · refine ⟨hbelongs.plugin, ?_⟩
    rintro _ _ ⟨⟩
    exact hscoped.rest (hbelongs.pending wake rest hpending) hslept

theorem Belongs.advanceAll {advanced : List (LoadedPlugin Plugin)}
    (hbelongs : ∀ loaded ∈ plugins, Belongs belongs loaded)
    (h : advanceStarts performers plugins world = .ok advanced after) :
    ∀ loaded ∈ advanced, Belongs belongs loaded := by
  induction plugins generalizing world advanced with
  | nil =>
      cases h
      exact fun _ hmem => absurd hmem List.not_mem_nil
  | cons loaded rest ih =>
      obtain ⟨hloaded, hrest⟩ := List.forall_mem_cons.mp hbelongs
      obtain ⟨first, others, between, rfl, hfirst, hothers⟩ := advanceStarts_cons h
      exact List.forall_mem_cons.mpr ⟨hloaded.advance hscoped hfirst, ih hrest hothers⟩

/-- While instances are stopped, an owner who holds nothing keeps holding nothing, and the instances
that are stopped come to hold nothing. -/
theorem stopPlugins_holdsNothing {userId owner : String}
    (hbelongs : ∀ loaded ∈ plugins, Belongs belongs loaded)
    (h : stopPlugins performers plugins world = .ok stopped after)
    (hnothing : world.HoldsNothing userId owner ∨
      ∃ loaded ∈ plugins, loaded.record.scope = (userId, owner)) :
    after.HoldsNothing userId owner := by
  induction plugins generalizing world stopped with
  | nil =>
      cases h
      simpa using hnothing
  | cons loaded rest ih =>
      obtain ⟨hloaded, hrest⟩ := List.forall_mem_cons.mp hbelongs
      obtain ⟨others, before, removed, rfl, hstop, hremove, hothers⟩ := stopPlugins_cons h
      refine ih hrest hothers ?_
      by_cases hscope : loaded.record.scope = (userId, owner)
      · cases hscope
        exact .inl (World.holdsNothing_removeOwner hremove)
      -- Somebody else is stopped and removed, which does not show.
      rcases hnothing with hnothing | ⟨other, hmem, hother⟩
      · have hbefore : before.HoldsNothing userId owner := by
          rcases hstop with ⟨-, rfl⟩ | ⟨-, hstop⟩
          · exact hnothing
          · exact hnothing.of_keeps (hscoped.stop hloaded.plugin hscope) hstop
        exact .inl (hbefore.of_keeps (World.removeOwner_keeps_holdings hscope) hremove)
      · rcases List.mem_cons.mp hmem with rfl | hmem
        · exact absurd hother hscope
        · exact .inr ⟨other, hmem, hother⟩

/-- What is nobody's among the instances does not change while they are given turns. -/
theorem advanceStarts_keeps_holdings {userId owner : String}
    (hbelongs : ∀ loaded ∈ plugins, Belongs belongs loaded)
    (hnobody : ∀ loaded ∈ plugins, loaded.record.scope ≠ (userId, owner)) :
    (advanceStarts performers plugins).Keeps (World.holdings userId owner) :=
  advanceStarts_keeps (World.detached_holdings userId owner) fun loaded hmem =>
    ⟨World.removeOwner_keeps_holdings (hnobody loaded hmem), fun wake rest hpending =>
      hscoped.start ((hbelongs loaded hmem).pending wake rest hpending) (hnobody loaded hmem)⟩

/-- What is nobody's among the instances does not change while they are stopped. -/
theorem stopPlugins_keeps_holdings {userId owner : String}
    (hbelongs : ∀ loaded ∈ plugins, Belongs belongs loaded)
    (hnobody : ∀ loaded ∈ plugins, loaded.record.scope ≠ (userId, owner)) :
    (stopPlugins performers plugins).Keeps (World.holdings userId owner) :=
  stopPlugins_keeps fun loaded hmem =>
    ⟨World.removeOwner_keeps_holdings (hnobody loaded hmem),
      hscoped.stop (hbelongs loaded hmem).plugin (hnobody loaded hmem)⟩

end Scope

/-! ### Returning -/

theorem changeAccount_returns (userId : String) (change : Account Handler → Account Handler)
    (world : World Handler) : ∃ after, World.changeAccount userId change world = .ok () after := by
  cases hfound : world.account? userId with
  | none =>
      refine ⟨world, ?_⟩
      simp only [World.changeAccount, Act.bind_apply, Act.get_apply, hfound]
      rfl
  | some account => exact ⟨_, World.changeAccount_apply hfound⟩

theorem setSpec_returns (userId owner : String) (spec : CommandSpec) (world : World Handler) :
    ∃ result after, World.setSpec userId owner spec world = .ok result after := by
  rw [World.setSpec, Act.bind_apply, Act.get_apply]
  dsimp only
  split
  · exact ⟨_, _, rfl⟩
  · rw [Act.bind_apply, World.putSpec_apply]
    cases world.environment.refuse world.trace (.putCommandSpec owner userId spec) with
    | some error => exact ⟨_, _, rfl⟩
    | none =>
        obtain ⟨after, hinstall⟩ := changeAccount_returns userId _ _
        exact ⟨_, after, Act.bind_eq_ok.mpr ⟨_, _, hinstall, rfl⟩⟩

theorem removeOwner_returns (userId owner : String) (world : World Handler) :
    ∃ after, World.removeOwner userId owner world = .ok () after :=
  changeAccount_returns userId _ world

/-- A turn of an instance always comes to an end. -/
theorem advanceStart_returns (performers : Performers Handler Factory Plugin)
    (loaded : LoadedPlugin Plugin) (world : World Handler) :
    ∃ advanced after, advanceStart performers loaded world = .ok advanced after := by
  cases hpending : loaded.pending with
  | none =>
      rw [advanceStart, hpending]
      exact ⟨loaded, world, rfl⟩
  | some pending =>
      obtain ⟨wake, rest⟩ := pending
      simp only [advanceStart, hpending, Act.bind_apply, Act.get_apply]
      split
      · obtain ⟨ended, hended⟩ := Act.attempt_eq_ok (performers.plugins.start rest) world
        simp only [continueStart, Act.bind_apply, hended]
        rcases ended with panic | _ | error | ⟨later, remaining⟩
        · exact ⟨_, _, rfl⟩
        · exact ⟨_, _, rfl⟩
        · obtain ⟨removed, hremove⟩ := removeOwner_returns loaded.record.userId loaded.record.id
            ((performers.plugins.start rest).stateAfter world)
          obtain ⟨after, hdisable, -⟩ := disable_loads loaded.record removed
          exact ⟨_, after, Act.bind_eq_ok.mpr
            ⟨_, _, hremove, Act.bind_eq_ok.mpr ⟨_, _, hdisable, rfl⟩⟩⟩
        · exact ⟨_, _, rfl⟩
      · exact ⟨loaded, world, rfl⟩

theorem advanceStarts_returns (performers : Performers Handler Factory Plugin)
    (plugins : List (LoadedPlugin Plugin)) (world : World Handler) :
    ∃ advanced after, advanceStarts performers plugins world = .ok advanced after := by
  induction plugins generalizing world with
  | nil => exact ⟨[], world, rfl⟩
  | cons loaded rest ih =>
      obtain ⟨first, between, hfirst⟩ := advanceStart_returns performers loaded world
      obtain ⟨others, after, hothers⟩ := ih between
      exact ⟨first :: others, after, Act.bind_eq_ok.mpr
        ⟨_, _, hfirst, Act.bind_eq_ok.mpr ⟨_, _, hothers, rfl⟩⟩⟩

/-- Loops can always take their turns. -/
theorem advanceLoops_returns (performers : Performers Handler Factory Plugin) (turns : Nat)
    (loops : List (String × SyncLoop)) (world : World Handler) :
    ∃ moved after, advanceLoops performers turns loops world = .ok moved after := by
  have hturn (loop : SyncLoop) (world : World Handler) :
      ∃ next after, loop.turnSafely performers.handlers world = .ok next after := by
    obtain ⟨ended, hended⟩ := Act.attempt_eq_ok (loop.turn performers.handlers) world
    rw [SyncLoop.turnSafely, Act.bind_apply, hended]
    cases ended <;> exact ⟨_, _, rfl⟩
  have hsettle (turns : Nat) (loop : SyncLoop) (world : World Handler) :
      ∃ next after, loop.settle performers.handlers turns world = .ok next after := by
    induction turns generalizing loop world with
    | zero => exact ⟨loop, world, rfl⟩
    | succ turns ih =>
        unfold SyncLoop.settle
        cases loop.state with
        | ready _ =>
            obtain ⟨next, between, hnext⟩ := hturn loop world
            obtain ⟨settled, after, hsettled⟩ := ih next between
            exact ⟨settled, after, Act.bind_eq_ok.mpr ⟨_, _, hnext, hsettled⟩⟩
        | _ => exact ⟨loop, world, rfl⟩
  induction loops generalizing world with
  | nil => exact ⟨[], world, rfl⟩
  | cons entry rest ih =>
      obtain ⟨userId, loop⟩ := entry
      obtain ⟨next, between, hnext⟩ := hturn loop world
      obtain ⟨settled, reached, hsettled⟩ := hsettle turns next between
      obtain ⟨others, after, hothers⟩ := ih reached
      exact ⟨(userId, settled) :: others, after, Act.bind_eq_ok.mpr
        ⟨_, _, Act.bind_eq_ok.mpr ⟨_, _, hnext, hsettled⟩,
          Act.bind_eq_ok.mpr ⟨_, _, hothers, rfl⟩⟩⟩

/-- Stopping instances comes to an end if none of them panics when it is stopped. -/
theorem stopPlugins_returns {plugins : List (LoadedPlugin Plugin)}
    (hstops : ∀ loaded ∈ plugins, ∀ reached,
      ∃ left, performers.plugins.stop loaded.plugin reached = .ok () left) (world : World Handler) :
    ∃ stopped after, stopPlugins performers plugins world = .ok stopped after := by
  induction plugins generalizing world with
  | nil => exact ⟨[], world, rfl⟩
  | cons loaded rest ih =>
      obtain ⟨hloaded, hrest⟩ := List.forall_mem_cons.mp hstops
      have hgoOn (before : World Handler) : ∃ stopped after, (do
          World.removeOwner loaded.record.userId loaded.record.id
          let rest ← stopPlugins performers rest
          pure (loaded.atRest :: rest) : Act (World Handler) _) before = .ok stopped after := by
        obtain ⟨removed, hremove⟩ :=
          removeOwner_returns loaded.record.userId loaded.record.id before
        obtain ⟨others, after, hothers⟩ := ih hrest removed
        exact ⟨loaded.atRest :: others, after, Act.bind_eq_ok.mpr
          ⟨_, _, hremove, Act.bind_eq_ok.mpr ⟨_, _, hothers, rfl⟩⟩⟩
      rw [stopPlugins]
      cases hstarted : loaded.started with
      | false => exact hgoOn world
      | true =>
          obtain ⟨before, hstop⟩ := hloaded world
          obtain ⟨stopped, after, hafter⟩ := hgoOn before
          exact ⟨stopped, after, Act.bind_eq_ok.mpr ⟨_, _, hstop, hafter⟩⟩

end Host

end BotHost
