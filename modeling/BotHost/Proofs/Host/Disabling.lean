/-
# Disabled records

A start that fails has its record written as disabled, and a loop whose token belongs to somebody
else has its account written as not following its feed.  Only the store learns of either: the host
goes on with the instances and the account records it had after its initialisation.

So a later start of the same host begins the start of every instance once more, and a loop for every
account that was to follow its feed at first.  What has been written shows after the next
initialisation.
-/

import BotHost.Proofs.Host.Lifecycle

namespace BotHost

namespace World

variable {Handler : Type}

theorem undisturbed_clock : Undisturbed (@clock Handler) where
  trace _ _ _ := rfl
  rooms _ _ := rfl
  compiled _ _ _ _ _ := rfl

end World

/-! ### What is written -/

namespace SyncLoop

variable {Handler : Type} {world : World Handler}

end SyncLoop

namespace Host

variable {Handler Factory Plugin : Type} {performers : Performers Handler Factory Plugin}
  {ready host next : Host Factory Plugin} {world after connected : World Handler}

/-- A start that fails has its record written as disabled unless the store refuses. -/
theorem disable_apply (record : PluginRecord) (world : World Handler) :
    ∃ after, disable record world = .ok () after ∧ after.accounts = world.accounts ∧
      after.store.specs = world.store.specs ∧
      (after.store = world.store.putPlugin { record with enabled := false } ∨
        ∃ error, world.environment.refuse world.trace
          (.updatePlugin { record with enabled := false }) = some error) := by
  rw [disable, Act.bind_apply, World.updatePlugin_apply]
  cases hrefuse : world.environment.refuse world.trace
      (.updatePlugin { record with enabled := false }) with
  | none => exact ⟨_, rfl, rfl, rfl, .inl rfl⟩
  | some error => exact ⟨_, rfl, rfl, rfl, .inr ⟨error, rfl⟩⟩

/-! ### Turns at once -/

theorem advanceStart_keeps_clock {loaded : LoadedPlugin Plugin}
    (hclock : ∀ plugin, (performers.plugins.start plugin).Keeps World.clock) :
    (advanceStart performers loaded).Keeps World.clock := by
  refine advanceStart_keeps (fun _ rest _ => hclock rest) ?_ ?_
  · exact World.changeAccount_keeps _ fun _ _ _ => rfl
  · have hwrite : (World.updatePlugin { loaded.record with enabled := false } :
        Act (World Handler) _).Keeps World.clock :=
      World.consult_keeps World.undisturbed_clock _ (Act.keeps_modify fun _ => rfl)
    exact hwrite.bind fun _ => Act.keeps_pure _

/-- Instances whose start has just been begun are due: each has one turn, which is not a stop. -/
theorem turnsOf_begun (hclock : ∀ plugin, (performers.plugins.start plugin).Keeps World.clock)
    {clock : Nat} (plugins : List (LoadedPlugin Plugin)) (hnow : world.clock = clock) :
    List.Forall₂ (fun turns _ => ∃ milestone, milestone ≠ .stopped ∧ turns = [milestone])
      (turnsOf performers (plugins.map (·.begin clock)) world) plugins := by
  induction plugins generalizing world with
  | nil => exact .nil
  | cons loaded rest ih =>
      refine .cons ⟨milestoneOf (performers.plugins.start loaded.plugin world),
        milestoneOf_ne_stopped _, ?_⟩ (ih ?_)
      · exact if_pos (Nat.le_of_eq hnow.symm)
      · exact (advanceStart_keeps_clock hclock world).trans hnow

/-! ### Loops -/

/-- There is a loop for an account if and only if the record it is connected with follows the
feed. -/
theorem exists_mem_loops (host : Host Factory Plugin) (world : World Handler) (userId : String) :
    (∃ loop, (userId, loop) ∈ host.loops world) ↔
      ∃ record, world.recordOf userId = some record ∧ record.sync = true := by
  constructor
  · rintro ⟨loop, hmem⟩
    obtain ⟨⟨key, account⟩, haccount, hentry⟩ := List.mem_map.mp hmem
    obtain ⟨hfound, hsync⟩ := List.mem_filter.mp haccount
    cases hentry
    refine ⟨account.record, ?_, hsync⟩
    rw [World.recordOf, World.account?, SortedMap.mem_toList_iff.mp hfound]
    rfl
  · rintro ⟨record, hrecord, hsync⟩
    obtain ⟨account, hfound, rfl⟩ := Option.map_eq_some_iff.mp hrecord
    exact ⟨_, List.mem_map.mpr ⟨(userId, account),
      List.mem_filter.mpr ⟨SortedMap.mem_toList_iff.mpr hfound, hsync⟩, rfl⟩⟩

/-! ### Starting again -/

/-- In the life of its instances, the accounts of a host stay connected with the same records. -/
theorem Life.recordOf_eq {pasts : List (List Milestone)} {plugins : List (LoadedPlugin Plugin)}
    (hrecords : performers.Keeps World.recordOf)
    (h : Life performers ready connected pasts plugins world) :
    world.recordOf = connected.recordOf := by
  have hview := @World.ofRecords_recordOf Handler
  induction h with
  | made _ => rfl
  | begun _ _ ih => exact ih
  | turned _ hadvance ih => exact ((starts_keeps hview hrecords _).eq_of_ok hadvance).trans ih
  | looped _ hmove ih =>
      exact ((advanceLoops_keeps hview.toDetached hrecords.handlers
        SyncProcessor.poll_keeps_recordOf _ _).eq_of_ok hmove).trans ih
  | waited _ hwait ih => exact ((World.waitUntil_keeps hview.toDetached _).eq_of_ok hwait).trans ih
  | stopped _ hstop ih =>
      exact ((stopPlugins_keeps fun loaded _ =>
        ⟨World.removeOwner_keeps hview _ _, hrecords.stop loaded.plugin⟩).eq_of_ok hstop).trans ih

/-- The turns of the instances of a host that runs are in their logs if they have distinct ids. -/
theorem settle_logs {belongs : PluginRecord → Plugin → Prop}
    {log : String → World Handler → List Milestone} {loops : List (String × SyncLoop)} {turns : Nat}
    (hlogged : performers.Logged belongs log)
    (hbelongs : ∀ loaded ∈ host.plugins, Belongs belongs loaded)
    (hdistinct : (host.plugins.map (·.record.id)).Nodup) (hrunning : host.running = some loops)
    (h : host.settle performers turns world = .ok next after) :
    LogsGrow log world after (turnsOf performers host.plugins world)
      (host.plugins.map (·.record.id)) := by
  obtain ⟨advanced, moved, between, hadvance, hmove, -⟩ := settle_of_running hrunning h
  refine (advanceStarts_logs hlogged hbelongs hdistinct hadvance).keep fun id => ?_
  exact (advanceLoops_keeps (hlogged.view id).toDetached (hlogged.handlers id) (hlogged.poll id)
    _ _).eq_of_ok hmove

/-- A host that is started again, however it has been started, stopped and given time since it was
initialised.  Its instances are those of records that were stored as enabled before the
initialisation, and there is a loop for each account whose record followed the feed when it was
connected.  Whatever has been stored since has no say in it: every instance has a turn at once, so
its start is called again, which is also what the instances find if they log how they are called,
even if it has failed before and the record is disabled. -/
theorem Run.start_again {pasts : List (List Milestone)} {fresh : Host Factory Plugin}
    {origin : World Handler} {result : Except HostError Unit}
    (hrecords : performers.Keeps World.recordOf)
    (hclock : ∀ plugin, (performers.plugins.start plugin).Keeps World.clock)
    (hnone : fresh.plugins = []) (hempty : origin.accounts = .empty)
    (hinit : fresh.init performers origin = .ok (result, ready) connected)
    (h : Run performers ready connected pasts host world) (hidle : host.running = none) :
    ∃ next loops, next.running = some loops ∧
      (∀ loaded ∈ ready.plugins,
        loaded.record ∈ origin.store.listPlugins ∧ loaded.record.enabled = true) ∧
      (∀ userId, (∃ loop, (userId, loop) ∈ loops) ↔
        ∃ record ∈ origin.store.listAccounts,
          connected.recordOf userId = some record ∧ record.sync = true) ∧
      ∀ store, host.start { world with store } = .ok next { world with store } ∧
        List.Forall₂ (fun turns _ => ∃ milestone, milestone ≠ .stopped ∧ turns = [milestone])
          (next.settleTurns performers { world with store }) ready.plugins ∧
        ∀ turns, ∃ settled after,
          next.settle performers turns { world with store } = .ok settled after ∧
          ∀ belongs log, performers.plugins.Scoped belongs → performers.Logged belongs log →
            (ready.plugins.map (·.record.id)).Nodup →
            List.Forall₂ (fun loaded turns =>
                log loaded.record.id after = log loaded.record.id world ++ turns)
              ready.plugins (next.settleTurns performers { world with store }) := by
  obtain rfl := h.inOrder.idle hidle
  have hat_rest : ∀ loaded ∈ host.plugins, loaded.atRest = loaded :=
    List.map_inj_left.mp (h.inOrder.life.atRest.trans (List.map_id _).symm)
  let next : Host Factory Plugin :=
    { host with
      plugins := host.plugins.map (·.begin world.clock)
      running := some (host.loops world) }
  refine ⟨next, host.loops world, rfl, ?_, fun userId => ?_, fun store =>
    ⟨start_of_idle hidle, turnsOf_begun hclock host.plugins rfl, fun turns => ?_⟩⟩
  · obtain ⟨made, rfl, hmade⟩ := init_adds hinit
    intro loaded hmem
    rw [hnone, List.nil_append] at hmem
    exact (hmade loaded hmem).imp_right (·.enabled)
  · have hconnects := init_connects hrecords hempty hinit
    rw [exists_mem_loops, h.inOrder.life.recordOf_eq hrecords]
    constructor
    · rintro ⟨record, hfound, hsync⟩
      exact ⟨record, (hconnects userId record hfound).2, hfound, hsync⟩
    · rintro ⟨record, -, hfound, hsync⟩
      exact ⟨record, hfound, hsync⟩
  · obtain ⟨settled, after, hsettle⟩ := settle_returns performers next turns { world with store }
    refine ⟨settled, after, hsettle, fun belongs log hscoped hlogged hdistinct => ?_⟩
    have hlife : Life performers host connected pasts next.plugins world :=
      h.inOrder.life.begun hat_rest
    have hids : next.plugins.map (·.record.id) = host.plugins.map (·.record.id) :=
      hlife.map_record PluginRecord.id
    have hgrow := settle_logs hlogged (hlife.all_belong hscoped) (hids ▸ hdistinct) rfl hsettle
    rw [hids] at hgrow
    refine (List.forall₂_map_left_iff.mp hgrow.each).imp fun loaded turns hadded => ?_
    rw [hadded, (hlogged.view _).store]

/-! ### A second night

The troupe is started, given a turn and stopped, and started again. -/

section SecondNight

open SecondBatch

theorem troupe_keeps_recordOf : troupe.Keeps World.recordOf where
  handlers := ⟨fun _ _ => Act.keeps_pure _, fun _ _ => Act.keeps_pure _⟩
  create _ _ _ := Act.keeps_pure _
  start record := troupe_start_keeps (enter_keeps World.ofRecords_recordOf record)
    fun _ => Act.keeps_modify fun _ => rfl
  stop _ := Act.keeps_modify fun _ => rfl

theorem troupe_keeps_clock (record : PluginRecord) :
    (troupe.plugins.start record).Keeps World.clock := by
  refine troupe_start_keeps ?_ fun _ => Act.keeps_modify fun _ => rfl
  exact (World.setSpec_keeps
    (World.consult_keeps World.undisturbed_clock _ (Act.keeps_modify fun _ => rfl))
    (World.changeAccount_keeps _ fun _ _ _ => rfl)).bind
      fun _ => World.changeAccount_keeps _ fun _ _ _ => rfl

/-- The instance whose start has failed is stored as disabled; each of the three is called again, as
their diaries say. -/
theorem start_again_of_troupe :
    ∃ ready connected host world next settled after,
      stage.init troupe backstage = .ok (.ok (), ready) connected ∧
      performAll troupe [.start, .wait 0 1 0, .stop] ready connected = .ok host world ∧
      world.store.listPlugins.map (fun record => (record.id, record.enabled)) =
        [("broken", false), ("slow", true), ("steady", true)] ∧
      host.start world = .ok next world ∧ next.settle troupe 0 world = .ok settled after ∧
      List.Forall₂ (fun turns _ => ∃ milestone, milestone ≠ .stopped ∧ turns = [milestone])
        (next.settleTurns troupe world) ready.plugins ∧
      List.Forall₂ (fun loaded turns =>
          diary loaded.record.id after = diary loaded.record.id world ++ turns)
        ready.plugins (next.settleTurns troupe world) := by
  obtain ⟨ready, connected, host, world, hinit, hcalls, hidle, hstopped, hids, hstored⟩ :
      ∃ ready connected host world,
        stage.init troupe backstage = .ok (.ok (), ready) connected ∧
        performAll troupe [.start, .wait 0 1 0, .stop] ready connected = .ok host world ∧
        ready.running = none ∧ host.running = none ∧
        ready.plugins.map (·.record.id) = ["broken", "slow", "steady"] ∧
        world.store.listPlugins.map (fun record => (record.id, record.enabled)) =
          [("broken", false), ("slow", true), ("steady", true)] :=
    ⟨_, _, _, _, rfl, rfl, rfl, rfl, rfl, by decide +kernel⟩
  obtain ⟨pasts, hrun⟩ := (Run.initialised (.call (.fresh rfl rfl) hinit) hidle).called hcalls
  obtain ⟨next, loops, -, -, -, hagain⟩ :=
    Run.start_again troupe_keeps_recordOf troupe_keeps_clock rfl rfl hinit hrun hstopped
  obtain ⟨hstart, hturns, hsettles⟩ := hagain world.store
  obtain ⟨settled, after, hsettle, hlogs⟩ := hsettles 0
  exact ⟨_, _, _, _, next, settled, after, hinit, hcalls, hstored, hstart, hsettle, hturns,
    hlogs _ diary troupe_scoped troupe_logged (by rw [hids]; decide)⟩

/-- Surroundings in which the token of every account belongs to somebody else. -/
def mistaken : Environment :=
  { surroundings true with
    respond := fun trace userId request =>
      match request with
      | .whoAmI => .answer "@other:hs"
      | request => (surroundings true).respond trace userId request }

/-- The start of the only instance has failed and the token of the only account belongs to somebody
else, and both are stored as disabled when the host is started again.  The start is called again,
and there is a loop for the account again. -/
theorem start_again_disabled :
    ∃ ready connected host world next settled after,
      stage.init troupe (.initial mistaken (.ofRecords [SecondBatch.record]
        [⟨"broken", "broken", true, "@bot:hs"⟩])) = .ok (.ok (), ready) connected ∧
      performAll troupe [.start, .wait 0 1 0, .stop] ready connected = .ok host world ∧
      world.store.listPlugins.map (·.enabled) = [false] ∧
      world.store.listAccounts.map (·.sync) = [false] ∧
      host.start world = .ok next world ∧ next.running.map (·.map Prod.fst) = some ["@bot:hs"] ∧
      next.settle troupe 0 world = .ok settled after ∧ diary "broken" world = [.failed] ∧
      diary "broken" after = [.failed, .failed] :=
  ⟨_, _, _, _, _, _, _, rfl, rfl, by decide +kernel, by decide +kernel, rfl, rfl, rfl, rfl, rfl⟩

end SecondNight

end Host

end BotHost
