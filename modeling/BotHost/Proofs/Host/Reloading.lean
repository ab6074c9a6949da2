/-
# Specs that outlast their instances

A spec that an instance sets is kept twice, in the spec book of its account and in the store.  When
the start of the instance fails, the book drops the spec and the record of the instance is written
as disabled, but the spec stays in the store, from which nothing is ever removed.

A host that is initialised later makes no instance for a disabled record.  Yet it connects every
account with all the specs that are stored for it, so the commands of an instance that failed are
back in the composite.
-/

import BotHost.Proofs.Host.Disabling
import BotHost.Proofs.Specs.Storage

namespace BotHost

/-- A composite has the compiled commands of every spec, and no others. -/
theorem SpecBook.mem_compile {specs : SortedMap String CommandSpec} {command : ParsedCommand} :
    command ∈ compile specs ↔
      ∃ owner spec, specs.find? owner = some spec ∧ command ∈ spec.compile := by
  rw [compile, List.mem_flatMap]
  constructor
  · rintro ⟨spec, hspec, hcommand⟩
    obtain ⟨⟨owner, found⟩, hentry, rfl⟩ := List.mem_map.mp hspec
    exact ⟨owner, found, SortedMap.mem_toList_iff.mp hentry, hcommand⟩
  · rintro ⟨owner, spec, hfound, hcommand⟩
    have hentry := SortedMap.mem_toList_iff.mpr hfound
    exact ⟨spec, List.mem_map.mpr ⟨(owner, spec), hentry, rfl⟩, hcommand⟩

namespace Host

variable {Handler Factory Plugin : Type} {performers : Performers Handler Factory Plugin}
  {ready host : Host Factory Plugin} {world after connected : World Handler}

/-! ### What a failure leaves behind -/

/-- What is left after a start that had come to an end in a world and failed there: the instance is
withdrawn from its account, and its record is written as disabled unless the store refuses.  Of the
stored specs, none is touched. -/
structure LeftByFailure (record : PluginRecord) (failed after : World Handler) : Prop where
  dropped : after.HoldsNothing record.userId record.id
  specs : after.store.specs = failed.store.specs
  disabled : after.store = failed.store.putPlugin { record with enabled := false } ∨
    ∃ error, failed.environment.refuse failed.trace
      (.updatePlugin { record with enabled := false }) = some error

/-- A turn with which a start fails. -/
theorem leftByFailure_of_turn {loaded advanced : LoadedPlugin Plugin}
    (hturn : advanceStart performers loaded world = .ok advanced after)
    (hfailed : turnOf performers world loaded = [.failed]) :
    ∃ wake rest error failed, loaded.pending = some (wake, rest) ∧
      performers.plugins.start rest world = .ok (.failed error) failed ∧
      LeftByFailure loaded.record failed after := by
  rcases advanceStart_cases hturn with ⟨hother, -⟩ | ⟨wake, rest, hpending, ⟨_, -, hother, -⟩ |
    ⟨-, hother, -⟩ | ⟨error, failed, removed, hstart, hremove, hdisable, -⟩ | ⟨_, _, -, hother, -⟩⟩
  · exact absurd (hother.symm.trans hfailed) (by simp)
  · exact absurd (hother.symm.trans hfailed) (by simp)
  · exact absurd (hother.symm.trans hfailed) (by simp)
  · refine ⟨wake, rest, error, failed, hpending, hstart, ?_⟩
    have hkeeps : (World.removeOwner loaded.record.userId loaded.record.id).Keeps
        fun world : World Handler => (world.environment, world.store, world.trace) :=
      World.changeAccount_keeps _ fun _ _ _ => rfl
    obtain ⟨henvironment, hstore, htrace⟩ :
        removed.environment = failed.environment ∧ removed.store = failed.store ∧
          removed.trace = failed.trace := by
      simpa using hkeeps.eq_of_ok hremove
    obtain ⟨ended, hended, haccounts, hspecs, hrecord⟩ := disable_apply loaded.record removed
    rw [hdisable] at hended
    cases hended
    rw [hstore] at hspecs hrecord
    rw [henvironment, htrace] at hrecord
    refine ⟨?_, hspecs, hrecord⟩
    have hnothing := World.holdsNothing_removeOwner hremove
    rwa [World.HoldsNothing, World.holdings, World.account?, ← haccounts] at hnothing
  · exact absurd (hother.symm.trans hfailed) (by simp)

/-! ### What a later host finds -/

theorem disable_keeps_specBook (record : PluginRecord) (userId : String) :
    (disable record : Act (World Handler) Unit).Keeps (World.specBook? userId) := by
  intro world
  obtain ⟨after, hdisable, haccounts, -⟩ := disable_apply record world
  rw [Act.stateAfter, hdisable, World.specBook?, World.account?, haccounts]
  rfl

/-- After an initialisation, the spec book of every connected account has the specs that were stored
for it, whoever has set them. -/
theorem init_current {result : Except HostError Unit} {userId : String} {book : SpecBook}
    (hcreate : ∀ plugin record settings,
      (performers.plugins.create plugin record settings).Keeps (World.specBook? userId))
    (hempty : world.accounts = .empty)
    (h : host.init performers world = .ok (result, ready) connected)
    (hbook : connected.specBook? userId = some book) :
    book.Current (world.store.specsOf userId) := by
  have hnone : world.specBook? userId = none := by
    rw [World.specBook?, World.account?, hempty, SortedMap.find?_empty]
    rfl
  let Loaded (reached : World Handler) : Prop := reached.store = world.store ∧
    ∀ book, reached.specBook? userId = some book → book.Current (world.store.specsOf userId)
  rcases init_cases h with ⟨-, rfl | rfl⟩ | ⟨joined, reached, hconnect, hcases⟩
  · rw [hnone] at hbook
    cases hbook
  · cases hnone.symm.trans hbook
  · have hlisted : Loaded { world with trace := .store .accounts :: world.trace } := by
      refine ⟨rfl, fun book hbook => ?_⟩
      cases hnone.symm.trans hbook
    have hloaded : Loaded reached := by
      refine connectAll_preserves Loaded (fun _ _ hbefore => hbefore) ?_ hlisted hconnect
      rintro before record - ⟨hstore, hbefore⟩
      refine ⟨hstore, fun book hbook => ?_⟩
      simp only [World.specBook?, World.account?, SortedMap.find?_insert] at hbook
      split at hbook
      · rename_i huser
        cases hbook
        rw [← hstore, ← huser]
        exact SpecSharing.current_connect record before.store
      · exact hbefore book hbook
    refine hloaded.2 book ?_
    rcases hcases with ⟨-, rfl | rfl⟩ | ⟨loaded, hload, -⟩
    · exact hbook
    · exact hbook
    · rw [← hbook]
      exact ((loadPlugins_keeps hcreate (disable_keeps_specBook · userId) host _).eq_of_ok
        hload).symm

/-- What becomes of a spec whose owner could not start.  When the start has failed, the spec is
dropped, and the record of the instance is written as disabled unless the store refuses; but the
specs that are stored stay, its own among them.  A host that is initialised while these specs are
stored makes no instance for a disabled record.  On every account it connects, though, the composite
consists of the commands of all specs that are stored for the account, whether or not there is an
instance for their owner. -/
theorem failed_spec_reloaded {loaded advanced : LoadedPlugin Plugin}
    (hturn : advanceStart performers loaded world = .ok advanced after)
    (hfailed : turnOf performers world loaded = [.failed]) :
    ∃ wake rest error failed, loaded.pending = some (wake, rest) ∧
      performers.plugins.start rest world = .ok (.failed error) failed ∧
      LeftByFailure loaded.record failed after ∧
      ∀ {later : Performers Handler Factory Plugin} {fresh ready : Host Factory Plugin}
        {origin connected : World Handler} {result : Except HostError Unit} (userId : String),
        fresh.init later origin = .ok (result, ready) connected →
        fresh.plugins = [] → origin.accounts = .empty → origin.store.specs = after.store.specs →
        (∀ plugin record settings,
          (later.plugins.create plugin record settings).Keeps (World.specBook? userId)) →
        (∀ made ∈ ready.plugins,
          made.record ∈ origin.store.listPlugins ∧ made.record.enabled = true) ∧
        ∀ book, connected.specBook? userId = some book →
          ∀ command, command ∈ book.composite.1 ↔ ∃ owner spec,
            failed.store.specs.find? (owner, userId) = some spec ∧ command ∈ spec.compile := by
  obtain ⟨wake, rest, error, failed, hpending, hstart, hleft⟩ := leftByFailure_of_turn hturn hfailed
  refine ⟨wake, rest, error, failed, hpending, hstart, hleft, ?_⟩
  intro later fresh ready origin connected result userId hinit hnone hempty hspecs hcreate
  refine ⟨?_, fun book hbook command => ?_⟩
  · obtain ⟨made, rfl, hmade⟩ := init_adds hinit
    rw [hnone, List.nil_append]
    exact fun entry hmem => (hmade entry hmem).imp_right (·.enabled)
  · have hcurrent := init_current hcreate hempty hinit hbook
    rw [hcurrent.composite_fst, SpecBook.mem_compile]
    simp only [Store.find?_specsOf, hspecs, hleft.specs]

/-! ### The next morning

The troupe is initialised anew from the store that the failure of one of its instances has left. -/

section NextMorning

open SecondBatch

/-- The first instance of the troupe cannot start.  In the store that it leaves, a later host makes
no instance for it, and finds its commands all the same. -/
theorem failed_spec_reloaded_of_troupe :
    ∃ ready connected begun started loaded advanced after again reconnected book,
      stage.init troupe backstage = .ok (.ok (), ready) connected ∧
      ready.start connected = .ok begun started ∧ loaded ∈ begun.plugins ∧
      advanceStart troupe loaded started = .ok advanced after ∧
      turnOf troupe started loaded = [.failed] ∧
      stage.init troupe (.initial (surroundings true) after.store) =
        .ok (.ok (), again) reconnected ∧
      again.plugins.map (·.record.id) = ["slow", "steady"] ∧
      reconnected.specBook? "@bot:hs" = some book ∧
      ∀ command ∈ (TwoOwners.spec "broken").compile, command ∈ book.composite.1 := by
  obtain ⟨ready, connected, begun, started, loaded, advanced, after, again, reconnected, book,
      hinit, hstart, hmem, hturn, hfailed, hagain, hmade, hbook, hrow⟩ :
      ∃ ready connected begun started loaded advanced after again reconnected book,
        stage.init troupe backstage = .ok (.ok (), ready) connected ∧
        ready.start connected = .ok begun started ∧ loaded ∈ begun.plugins ∧
        advanceStart troupe loaded started = .ok advanced after ∧
        turnOf troupe started loaded = [.failed] ∧
        stage.init troupe (.initial (surroundings true) after.store) =
          .ok (.ok (), again) reconnected ∧
        again.plugins.map (·.record.id) = ["slow", "steady"] ∧
        reconnected.specBook? "@bot:hs" = some book ∧
        after.store.specs.find? ("broken", "@bot:hs") = some (TwoOwners.spec "broken") :=
    ⟨_, _, _, _, _, _, _, _, _, _, rfl, rfl, List.mem_cons_self, rfl, rfl, rfl, rfl, rfl, rfl⟩
  obtain ⟨_, _, _, failed, -, -, hleft, hlater⟩ := failed_spec_reloaded hturn hfailed
  have hcommands := (hlater "@bot:hs" hagain rfl rfl rfl fun _ _ _ => Act.keeps_pure _).2 book hbook
  refine ⟨ready, connected, begun, started, loaded, advanced, after, again, reconnected, book,
    hinit, hstart, hmem, hturn, hfailed, hagain, hmade, hbook, fun command hcommand => ?_⟩
  exact (hcommands command).mpr ⟨"broken", _, hleft.specs ▸ hrow, hcommand⟩

/-- When the troupe has been started, the host finds the commands of the instance that could not
start among those of the account, once it is initialised from the same store. -/
theorem failed_spec_reappears :
    ∃ ready connected host world again reconnected book,
      stage.init troupe backstage = .ok (.ok (), ready) connected ∧
      performAll troupe [.start, .wait 0 1 0, .stop] ready connected = .ok host world ∧
      world.store.listPlugins.map (fun record => (record.id, record.enabled)) =
        [("broken", false), ("slow", true), ("steady", true)] ∧
      stage.init troupe (.initial (surroundings true) world.store) =
        .ok (.ok (), again) reconnected ∧
      again.plugins.map (·.record.id) = ["slow", "steady"] ∧
      reconnected.specBook? "@bot:hs" = some book ∧
      book.composite.1.map ParsedCommand.id =
        ["broken", "broken-seen", "slow", "slow-seen", "steady", "steady-seen"] :=
  ⟨_, _, _, _, _, _, _, rfl, rfl, by decide +kernel, rfl, rfl, rfl, by decide +kernel⟩

end NextMorning

end Host

end BotHost
