/-
# The lives of instances

Whatever is done to a host, it comes to a few things for its instances: their starts are begun,
they are given turns, loops move, time passes, and they are stopped.  `Life` follows the instances
through any number of these steps, with the milestones of each.

What holds along a life is proved here step by step: the tallies, that everything keeps to the scope
of its record, and what those hold who have no instance.  Instances may also keep logs of their own,
`Performers.Logged`, and then the logs say what the milestones say.
-/

import BotHost.Proofs.Host.Instances

namespace BotHost

namespace Host

variable {Handler Factory Plugin : Type}

/-- The instances of a host that was initialised, with the past of each of them. -/
inductive Life (performers : Performers Handler Factory Plugin) (ready : Host Factory Plugin)
    (connected : World Handler) :
    List (List Milestone) → List (LoadedPlugin Plugin) → World Handler → Prop where
  /-- The instances have been made, be it at the first initialisation or after some that failed. -/
  | made {outcomes : List (Except HostError Unit × Bool)} :
      InitRun performers outcomes ready connected →
      Life performers ready connected (ready.plugins.map fun _ => []) ready.plugins connected
  | begun {pasts : List (List Milestone)} {plugins : List (LoadedPlugin Plugin)}
      {world : World Handler} {clock : Nat} :
      Life performers ready connected pasts plugins world →
      (∀ loaded ∈ plugins, loaded.atRest = loaded) →
      Life performers ready connected pasts (plugins.map (·.begin clock)) world
  | turned {pasts : List (List Milestone)} {plugins advanced : List (LoadedPlugin Plugin)}
      {world after : World Handler} :
      Life performers ready connected pasts plugins world →
      advanceStarts performers plugins world = .ok advanced after →
      Life performers ready connected (extend pasts (turnsOf performers plugins world)) advanced
        after
  | looped {pasts : List (List Milestone)} {plugins : List (LoadedPlugin Plugin)}
      {world after : World Handler} {turns : Nat} {loops moved : List (String × SyncLoop)} :
      Life performers ready connected pasts plugins world →
      advanceLoops performers turns loops world = .ok moved after →
      Life performers ready connected pasts plugins after
  | waited {pasts : List (List Milestone)} {plugins : List (LoadedPlugin Plugin)}
      {world after : World Handler} {time : Nat} :
      Life performers ready connected pasts plugins world →
      World.waitUntil time world = .ok () after →
      Life performers ready connected pasts plugins after
  | stopped {pasts : List (List Milestone)} {plugins stopped : List (LoadedPlugin Plugin)}
      {world after : World Handler} :
      Life performers ready connected pasts plugins world →
      stopPlugins performers plugins world = .ok stopped after →
      Life performers ready connected (extend pasts (plugins.map stopOf)) stopped after

variable {performers : Performers Handler Factory Plugin} {ready : Host Factory Plugin}
  {world after connected : World Handler} {pasts : List (List Milestone)}
  {plugins : List (LoadedPlugin Plugin)}

namespace Life

/-- Every life begins with a host that has been initialised. -/
theorem initialised (h : Life performers ready connected pasts plugins world) :
    ∃ outcomes, InitRun performers outcomes ready connected := by
  induction h with
  | made hinit => exact ⟨_, hinit⟩
  | begun _ _ ih => exact ih
  | turned _ _ ih => exact ih
  | looped _ _ ih => exact ih
  | waited _ _ ih => exact ih
  | stopped _ _ ih => exact ih

/-- In a life, nothing changes in the instances but how far their starts have come. -/
theorem atRest (h : Life performers ready connected pasts plugins world) :
    plugins.map (·.atRest) = ready.plugins := by
  induction h with
  | made hinit =>
      exact (List.map_congr_left fun loaded hmem => (hinit.fresh_plugins loaded hmem).atRest).trans
        (List.map_id _)
  | begun _ _ ih => rwa [List.map_map]
  | turned _ hadvance ih => exact (advanceStarts_atRest hadvance).trans ih
  | looped _ _ ih => exact ih
  | waited _ _ ih => exact ih
  | stopped _ hstop ih =>
      rw [stopPlugins_atRest hstop, List.map_map]
      exact ih

theorem map_record {α : Type} (f : PluginRecord → α)
    (h : Life performers ready connected pasts plugins world) :
    plugins.map (fun loaded => f loaded.record) =
      ready.plugins.map fun loaded => f loaded.record := by
  rw [← h.atRest, List.map_map]
  rfl

/-- What is so for the records of the instances that were made is so in all of a life. -/
theorem forall_record (holds : PluginRecord → Prop)
    (hready : ∀ loaded ∈ ready.plugins, holds loaded.record)
    (h : Life performers ready connected pasts plugins world) :
    ∀ loaded ∈ plugins, holds loaded.record := fun loaded hmem =>
  hready loaded.atRest (h.atRest ▸ List.mem_map.mpr ⟨loaded, hmem, rfl⟩)

/-- In a life, each instance has its tally. -/
theorem tallies (h : Life performers ready connected pasts plugins world) :
    List.Forall₂ Tally pasts plugins := by
  induction h with
  | made hinit =>
      rw [List.forall₂_map_left_iff, List.forall₂_same]
      intro loaded hmem
      rw [← (hinit.fresh_plugins loaded hmem).atRest]
      exact ⟨rfl, nofun⟩
  | begun _ hat_rest ih => exact tallies_begin ih hat_rest _
  | turned _ hadvance ih => exact tallies_advance ih hadvance
  | looped _ _ ih => exact ih
  | waited _ _ ih => exact ih
  | stopped _ hstop ih =>
      rw [stopPlugins_atRest hstop]
      exact tallies_stop ih

/-! ### Holdings -/

section Scope

variable {belongs : PluginRecord → Plugin → Prop} (hscoped : performers.plugins.Scoped belongs)
include hscoped

/-- In a life, an instance and what is left of its start belong to its record. -/
theorem all_belong (h : Life performers ready connected pasts plugins world) :
    ∀ loaded ∈ plugins, Belongs belongs loaded := by
  induction h with
  | made hinit =>
      intro loaded hmem
      have hfresh := hinit.fresh_plugins loaded hmem
      obtain ⟨_, _, _, _, hmade⟩ := hfresh.made
      refine ⟨hscoped.create hmade, ?_⟩
      rw [← hfresh.atRest]
      exact nofun
  | begun _ _ ih =>
      intro loaded hmem
      obtain ⟨made, hmade, rfl⟩ := List.mem_map.mp hmem
      refine ⟨(ih made hmade).plugin, ?_⟩
      rintro _ _ ⟨⟩
      exact (ih made hmade).plugin
  | turned _ hadvance ih => exact .advanceAll hscoped ih hadvance
  | looped _ _ ih => exact ih
  | waited _ _ ih => exact ih
  | stopped _ hstop ih =>
      rw [stopPlugins_atRest hstop]
      intro loaded hmem
      obtain ⟨made, hmade, rfl⟩ := List.mem_map.mp hmem
      exact ⟨(ih made hmade).plugin, nofun⟩

/-- In a life, what an owner without an instance on an account holds there never changes, unless a
handler changes it. -/
theorem holdings_eq {userId owner : String}
    (hnobody : ∀ loaded ∈ ready.plugins, loaded.record.scope ≠ (userId, owner))
    (hhandlers : performers.handlers.Keeps (World.holdings userId owner))
    (h : Life performers ready connected pasts plugins world) :
    world.holdings userId owner = connected.holdings userId owner := by
  have hview := @World.detached_holdings Handler userId owner
  induction h with
  | made _ => rfl
  | begun _ _ ih => exact ih
  | turned hlife hadvance ih =>
      exact ((advanceStarts_keeps_holdings hscoped (hlife.all_belong hscoped)
        (hlife.forall_record (·.scope ≠ (userId, owner)) hnobody)).eq_of_ok hadvance).trans ih
  | looped _ hmove ih =>
      exact ((advanceLoops_keeps hview hhandlers
        (fun processor => processor.poll_keeps_holdings userId owner) _ _).eq_of_ok hmove).trans ih
  | waited _ hwait ih => exact ((World.waitUntil_keeps hview _).eq_of_ok hwait).trans ih
  | stopped hlife hstop ih =>
      exact ((stopPlugins_keeps_holdings hscoped (hlife.all_belong hscoped)
        (hlife.forall_record (·.scope ≠ (userId, owner)) hnobody)).eq_of_ok hstop).trans ih

end Scope

end Life

end Host

/-! ### Logs -/

/-- Instances that keep logs, each under the id of its record.  Whatever a turn comes to is added to
the log of the instance, and so is each time it is stopped.  Nobody else touches the logs. -/
structure Performers.Logged {Handler Factory Plugin : Type}
    (performers : Performers Handler Factory Plugin) (belongs : PluginRecord → Plugin → Prop)
    (log : String → World Handler → List Milestone) : Prop where
  view : ∀ id, OfRecords (log id)
  poll : ∀ id (processor : SyncProcessor), (processor.poll : Act (World Handler) _).Keeps (log id)
  handlers : ∀ id, performers.handlers.Keeps (log id)
  start : ∀ {record plugin} id world, belongs record plugin →
    log id ((performers.plugins.start plugin).stateAfter world) = log id world ++
      if record.id = id then [Host.milestoneOf (performers.plugins.start plugin world)] else []
  stop : ∀ {record plugin} id {world after}, belongs record plugin →
    performers.plugins.stop plugin world = .ok () after →
    log id after = log id world ++ if record.id = id then [.stopped] else []

/-- Between two states, milestones have been added to the logs of some ids, and nothing to those of
others. -/
structure LogsGrow {Handler : Type} (log : String → World Handler → List Milestone)
    (before after : World Handler) (milestones : List (List Milestone)) (ids : List String) :
    Prop where
  each : List.Forall₂ (fun id own => log id after = log id before ++ own) ids milestones
  others : ∀ id ∉ ids, log id after = log id before

namespace LogsGrow

variable {Handler : Type} {log : String → World Handler → List Milestone}
  {before between after : World Handler} {milestones more : List (List Milestone)}
  {ids : List String}

/-- The log of the first of some distinct ids grows, and then those of the others. -/
theorem cons {own : List Milestone} {id : String} (hnew : id ∉ ids)
    (hown : ∀ other, log other between = log other before ++ if id = other then own else [])
    (hrest : LogsGrow log between after milestones ids) :
    LogsGrow log before after (own :: milestones) (id :: ids) := by
  have hkept : ∀ other, id ≠ other → log other between = log other before := fun other hother => by
    rw [hown, if_neg hother, List.append_nil]
  refine ⟨.cons ?_ ?_, fun other hother => ?_⟩
  · rw [hrest.others id hnew, hown, if_pos rfl]
  · have hdistinct : ∀ other ∈ ids, id ≠ other := fun other hmem hsame => hnew (hsame ▸ hmem)
    refine ((List.forall₂_and_left _ _).mpr ⟨hdistinct, hrest.each⟩).imp ?_
    rintro other share ⟨hother, hadded⟩
    rw [hadded, hkept other hother]
  · obtain ⟨hfirst, hothers⟩ := List.ne_and_not_mem_of_not_mem_cons hother
    rw [hrest.others other hothers, hkept other (Ne.symm hfirst)]

/-- What the logs grow by in two steps is added up. -/
theorem trans (hfirst : LogsGrow log before between milestones ids)
    (hsecond : LogsGrow log between after more ids) :
    LogsGrow log before after (Host.extend milestones more) ids := by
  refine ⟨?_, fun id hid => (hsecond.others id hid).trans (hfirst.others id hid)⟩
  obtain ⟨hfirst, -⟩ := hfirst
  obtain ⟨hsecond, -⟩ := hsecond
  induction hfirst generalizing more with
  | nil =>
      cases hsecond
      exact .nil
  | cons hown _ ih =>
      obtain _ | ⟨hmore, hrest⟩ := hsecond
      refine .cons ?_ (ih hrest)
      rw [hmore, hown, List.append_assoc]

/-- What does not show in the logs may come after. -/
theorem keep (h : LogsGrow log before between milestones ids)
    (hsame : ∀ id, log id after = log id between) : LogsGrow log before after milestones ids where
  each := h.each.imp fun id _ hown => (hsame id).trans hown
  others id hid := (hsame id).trans (h.others id hid)

end LogsGrow

namespace Host

variable {Handler Factory Plugin : Type} {performers : Performers Handler Factory Plugin}
  {ready : Host Factory Plugin} {world after connected : World Handler}
  {pasts : List (List Milestone)} {plugins : List (LoadedPlugin Plugin)}
  {belongs : PluginRecord → Plugin → Prop} {log : String → World Handler → List Milestone}
  (hlogged : performers.Logged belongs log)
include hlogged

/-- A turn of an instance is in its log. -/
theorem advanceStart_logs {loaded advanced : LoadedPlugin Plugin}
    (hbelongs : Belongs belongs loaded)
    (h : advanceStart performers loaded world = .ok advanced after) (id : String) :
    log id after =
      log id world ++ if loaded.record.id = id then turnOf performers world loaded else [] := by
  rcases advanceStart_cases h with ⟨hturn, -, rfl⟩ | ⟨wake, rest, hpending, hcases⟩
  · rw [hturn, ite_self, List.append_nil]
  have hadded := hlogged.start id world (hbelongs.pending wake rest hpending)
  rw [Act.stateAfter] at hadded
  rcases hcases with ⟨_, hstart, hturn, -⟩ | ⟨hstart, hturn, -⟩ |
    ⟨_, _, _, hstart, hremove, hdisable, hturn, -⟩ | ⟨_, _, hstart, hturn, -⟩
  · rw [hstart] at hadded
    rwa [hturn]
  · rw [hstart] at hadded
    rwa [hturn]
  · rw [hstart] at hadded
    rw [hturn, (disable_keeps (hlogged.view id).toDetached _).eq_of_ok hdisable,
      (World.removeOwner_keeps (hlogged.view id) _ _).eq_of_ok hremove]
    exact hadded
  · rw [hstart] at hadded
    rwa [hturn]

/-- The turns of instances with distinct ids are in their logs. -/
theorem advanceStarts_logs {advanced : List (LoadedPlugin Plugin)}
    (hbelongs : ∀ loaded ∈ plugins, Belongs belongs loaded)
    (hdistinct : (plugins.map (·.record.id)).Nodup)
    (h : advanceStarts performers plugins world = .ok advanced after) :
    LogsGrow log world after (turnsOf performers plugins world) (plugins.map (·.record.id)) := by
  induction plugins generalizing world advanced with
  | nil =>
      cases h
      exact ⟨.nil, fun _ _ => rfl⟩
  | cons loaded rest ih =>
      obtain ⟨hloaded, hrest⟩ := List.forall_mem_cons.mp hbelongs
      obtain ⟨hnew, hdistinct⟩ := List.nodup_cons.mp hdistinct
      obtain ⟨first, others, between, -, hfirst, hothers⟩ := advanceStarts_cons h
      refine .cons hnew (advanceStart_logs hlogged hloaded hfirst) ?_
      rw [Act.stateAfter, hfirst]
      exact ih hrest hdistinct hothers

/-- That instances with distinct ids are stopped is in their logs. -/
theorem stopPlugins_logs {stopped : List (LoadedPlugin Plugin)}
    (hbelongs : ∀ loaded ∈ plugins, Belongs belongs loaded)
    (hdistinct : (plugins.map (·.record.id)).Nodup)
    (h : stopPlugins performers plugins world = .ok stopped after) :
    LogsGrow log world after (plugins.map stopOf) (plugins.map (·.record.id)) := by
  induction plugins generalizing world stopped with
  | nil =>
      cases h
      exact ⟨.nil, fun _ _ => rfl⟩
  | cons loaded rest ih =>
      obtain ⟨hloaded, hrest⟩ := List.forall_mem_cons.mp hbelongs
      obtain ⟨hnew, hdistinct⟩ := List.nodup_cons.mp hdistinct
      obtain ⟨others, before, removed, -, hstop, hremove, hothers⟩ := stopPlugins_cons h
      refine .cons hnew (fun id => ?_) (ih hrest hdistinct hothers)
      rw [(World.removeOwner_keeps (hlogged.view id) _ _).eq_of_ok hremove]
      rcases hstop with ⟨hnot, rfl⟩ | ⟨hstarted, hstop⟩
      · simp [stopOf, hnot]
      · rw [hlogged.stop id hloaded.plugin hstop, stopOf, if_pos hstarted]

/-- In the life of instances with distinct ids, the logs say what the milestones say. -/
theorem Life.logs_grow (hscoped : performers.plugins.Scoped belongs)
    (hdistinct : (ready.plugins.map (·.record.id)).Nodup)
    (h : Life performers ready connected pasts plugins world) :
    LogsGrow log connected world pasts (ready.plugins.map (·.record.id)) := by
  have hview := fun id => (hlogged.view id).toDetached
  induction h with
  | made _ =>
      refine ⟨?_, fun _ _ => rfl⟩
      rw [List.forall₂_map_left_iff, List.forall₂_map_right_iff, List.forall₂_same]
      exact fun _ _ => (List.append_nil _).symm
  | begun _ _ ih => exact ih
  | turned hlife hadvance ih =>
      have hids := hlife.map_record PluginRecord.id
      have hturns :=
        advanceStarts_logs hlogged (hlife.all_belong hscoped) (hids ▸ hdistinct) hadvance
      exact ih.trans (hids ▸ hturns)
  | looped _ hmove ih =>
      exact ih.keep fun id => (advanceLoops_keeps (hview id) (hlogged.handlers id) (hlogged.poll id)
        _ _).eq_of_ok hmove
  | waited _ hwait ih =>
      exact ih.keep fun id => (World.waitUntil_keeps (hview id) _).eq_of_ok hwait
  | stopped hlife hstop ih =>
      have hids := hlife.map_record PluginRecord.id
      have hstops := stopPlugins_logs hlogged (hlife.all_belong hscoped) (hids ▸ hdistinct) hstop
      exact ih.trans (hids ▸ hstops)

end Host

end BotHost
