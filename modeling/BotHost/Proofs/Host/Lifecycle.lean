/-
# The life of a host

A start of the host begins the start of every instance.  A stop gives up the starts that still
sleep, stops the instances whose start has succeeded, and removes whatever the instances hold.

`Run` follows a host that has been initialised through starts, stops and turns in any order, and
keeps for every instance the milestones of its life.  The invariant is `InOrder`: the instances lead
a life, and apart from how far the starts have come, the host is the one that was initialised.
-/

import BotHost.Proofs.Host.Lives

namespace BotHost

namespace Host

variable {Handler Factory Plugin : Type}

/-! ### What happens to the instances -/

/-- What happens to the instances while a host does everything that is due. -/
def settleTurns (host : Host Factory Plugin) (performers : Performers Handler Factory Plugin)
    (world : World Handler) : List (List Milestone) :=
  match host.running with
  | none => host.plugins.map fun _ => []
  | some _ => turnsOf performers host.plugins world

/-- What happens to the instances while a host is stopped: the starts that are due have their turn
if there are loops to wait for, and then what has started is stopped. -/
def stopTurns (host : Host Factory Plugin) (performers : Performers Handler Factory Plugin)
    (world : World Handler) : List (List Milestone) :=
  match host.running with
  | none => host.plugins.map fun _ => []
  | some loops =>
    if loops.isEmpty then host.plugins.map stopOf
    else
      match advanceStarts performers host.plugins world with
      | .ok advanced _ => extend (turnsOf performers host.plugins world) (advanced.map stopOf)
      | .error .. => turnsOf performers host.plugins world

/-- A host that has been initialised, and then started, stopped and given time in any order, with
the past of each of its instances. -/
inductive Run (performers : Performers Handler Factory Plugin) (ready : Host Factory Plugin)
    (connected : World Handler) :
    List (List Milestone) → Host Factory Plugin → World Handler → Prop where
  /-- The host has been initialised, be it at the first call or after some that failed. -/
  | initialised {outcomes : List (Except HostError Unit × Bool)} :
      InitRun performers outcomes ready connected → ready.running = none →
      Run performers ready connected (ready.plugins.map fun _ => []) ready connected
  | start {pasts : List (List Milestone)} {host next : Host Factory Plugin}
      {world after : World Handler} :
      Run performers ready connected pasts host world →
      host.start world = .ok next after → Run performers ready connected pasts next after
  | settle {pasts : List (List Milestone)} {host next : Host Factory Plugin}
      {world after : World Handler} {turns : Nat} :
      Run performers ready connected pasts host world →
      host.settle performers turns world = .ok next after →
      Run performers ready connected (extend pasts (host.settleTurns performers world)) next
        after
  | wait {pasts : List (List Milestone)} {host : Host Factory Plugin} {world after : World Handler}
      {time : Nat} :
      Run performers ready connected pasts host world →
      World.waitUntil time world = .ok () after →
      Run performers ready connected pasts host after
  | stop {pasts : List (List Milestone)} {host next : Host Factory Plugin}
      {world after : World Handler} :
      Run performers ready connected pasts host world →
      host.stop performers world = .ok next after →
      Run performers ready connected (extend pasts (host.stopTurns performers world)) next after

variable {performers : Performers Handler Factory Plugin} {ready host next : Host Factory Plugin}
  {world after connected : World Handler}

/-! ### Steps of a host -/

/-- A turn of a host that runs advances the starts and the loops. -/
theorem settle_of_running {loops : List (String × SyncLoop)} {turns : Nat}
    (hrunning : host.running = some loops)
    (h : host.settle performers turns world = .ok next after) :
    ∃ advanced moved between, advanceStarts performers host.plugins world = .ok advanced between ∧
      advanceLoops performers turns loops between = .ok moved after ∧
      next = { host with plugins := advanced, running := some moved } := by
  rw [settle, hrunning] at h
  obtain ⟨advanced, between, hadvance, h⟩ := Act.bind_eq_ok.mp h
  obtain ⟨moved, ended, hmove, h⟩ := Act.bind_eq_ok.mp h
  cases h
  exact ⟨advanced, moved, between, hadvance, hmove, rfl⟩

theorem settle_of_idle {turns : Nat} (hidle : host.running = none) :
    host.settle performers turns world = .ok host world := by
  rw [settle, hidle]
  rfl

/-- A turn of a host always comes to an end. -/
theorem settle_returns (performers : Performers Handler Factory Plugin) (host : Host Factory Plugin)
    (turns : Nat) (world : World Handler) :
    ∃ next after, host.settle performers turns world = .ok next after := by
  cases hrunning : host.running with
  | none => exact ⟨host, world, settle_of_idle hrunning⟩
  | some loops =>
      obtain ⟨advanced, between, hadvance⟩ := advanceStarts_returns performers host.plugins world
      obtain ⟨moved, after, hmove⟩ := advanceLoops_returns performers turns loops between
      rw [settle, hrunning]
      exact ⟨_, after, Act.bind_eq_ok.mpr
        ⟨_, _, hadvance, Act.bind_eq_ok.mpr ⟨_, _, hmove, rfl⟩⟩⟩

/-- A stop of a host that runs lets the starts that are due have their turn if there are loops to
wait for, and stops the instances. -/
theorem stop_of_running {loops : List (String × SyncLoop)} (hrunning : host.running = some loops)
    (h : host.stop performers world = .ok next after) :
    ∃ advanced between stopped,
      (loops.isEmpty = true ∧ advanced = host.plugins ∧ between = world ∨
        loops.isEmpty = false ∧
          advanceStarts performers host.plugins world = .ok advanced between) ∧
      stopPlugins performers advanced between = .ok stopped after ∧
      next = { host with plugins := stopped, running := none } := by
  simp only [stop, hrunning] at h
  cases hempty : loops.isEmpty with
  | true =>
      simp only [hempty, if_true] at h
      obtain ⟨_, _, hsame, h⟩ := Act.bind_eq_ok.mp h
      cases hsame
      obtain ⟨stopped, ended, hstop, h⟩ := Act.bind_eq_ok.mp h
      cases h
      exact ⟨_, _, stopped, .inl ⟨rfl, rfl, rfl⟩, hstop, rfl⟩
  | false =>
      simp only [hempty, Bool.false_eq_true, if_false] at h
      obtain ⟨advanced, between, hadvance, h⟩ := Act.bind_eq_ok.mp h
      obtain ⟨stopped, ended, hstop, h⟩ := Act.bind_eq_ok.mp h
      cases h
      exact ⟨advanced, between, stopped, .inr ⟨rfl, hadvance⟩, hstop, rfl⟩

/-- A host that does not run cannot be stopped. -/
theorem stop_of_idle (hidle : host.running = none) :
    host.stop performers world = .ok host world := by
  rw [stop, hidle]
  rfl

/-- A host that runs cannot be started. -/
theorem start_of_running (hrunning : host.running ≠ none) : host.start world = .ok host world := by
  rw [start, if_pos (Option.isSome_iff_ne_none.mpr hrunning)]
  rfl

/-- A start begins the start of every instance. -/
theorem start_of_idle (hidle : host.running = none) :
    host.start world =
      .ok { host with
        plugins := host.plugins.map (·.begin world.clock)
        running := some (host.loops world) } world := by
  rw [start, if_neg (by rw [hidle]; exact Bool.false_ne_true)]
  rfl

/-! ### Runs -/

/-- How a host stands in a run: its instances lead a life, and apart from how far the starts have
come, the host is the one that was initialised. -/
structure InOrder (performers : Performers Handler Factory Plugin) (ready : Host Factory Plugin)
    (connected : World Handler) (pasts : List (List Milestone)) (host : Host Factory Plugin)
    (world : World Handler) : Prop where
  life : Life performers ready connected pasts host.plugins world
  rest : { host with plugins := ready.plugins, running := none } = ready
  idle : host.running = none → host = ready

namespace InOrder

variable {pasts : List (List Milestone)}

theorem start (h : InOrder performers ready connected pasts host world)
    (hstart : host.start world = .ok next after) :
    InOrder performers ready connected pasts next after := by
  by_cases hrunning : host.running = none
  · rw [start_of_idle hrunning] at hstart
    cases hstart
    obtain rfl := h.idle hrunning
    have hat_rest : ∀ loaded ∈ host.plugins, loaded.atRest = loaded :=
      List.map_inj_left.mp (h.life.atRest.trans (List.map_id _).symm)
    exact ⟨h.life.begun hat_rest, h.rest, nofun⟩
  · rw [start_of_running hrunning] at hstart
    cases hstart
    exact h

theorem settle {turns : Nat} (h : InOrder performers ready connected pasts host world)
    (hsettle : host.settle performers turns world = .ok next after) :
    InOrder performers ready connected (extend pasts (host.settleTurns performers world)) next
      after := by
  cases hrunning : host.running with
  | none =>
      rw [settle_of_idle hrunning] at hsettle
      cases hsettle
      rwa [settleTurns, hrunning, extend_blank h.life.tallies.length_eq]
  | some loops =>
      obtain ⟨advanced, moved, between, hadvance, hmove, rfl⟩ := settle_of_running hrunning hsettle
      rw [settleTurns, hrunning]
      exact ⟨(h.life.turned hadvance).looped hmove, h.rest, nofun⟩

/-- The starts that have a turn while a host that runs is stopped are a step in the life of the
instances, and so are their stops. -/
theorem stop_cases (h : InOrder performers ready connected pasts host world)
    (hrunning : host.running ≠ none) (hstop : host.stop performers world = .ok next after) :
    ∃ turned advanced between,
      extend pasts (host.stopTurns performers world) = extend turned (advanced.map stopOf) ∧
      Life performers ready connected turned advanced between ∧
      stopPlugins performers advanced between = .ok ready.plugins after ∧ next = ready := by
  obtain ⟨loops, hloops⟩ := Option.ne_none_iff_exists'.mp hrunning
  obtain ⟨advanced, between, stopped, hadvance, hstopped, rfl⟩ := stop_of_running hloops hstop
  obtain ⟨turned, hpasts, hlife⟩ : ∃ turned,
      extend pasts (host.stopTurns performers world) = extend turned (advanced.map stopOf) ∧
      Life performers ready connected turned advanced between := by
    rcases hadvance with ⟨hempty, rfl, rfl⟩ | ⟨hsome, hadvance⟩
    · refine ⟨pasts, ?_, h.life⟩
      rw [stopTurns, hloops]
      exact congrArg _ (if_pos hempty)
    · refine ⟨_, ?_, h.life.turned hadvance⟩
      rw [stopTurns, hloops, extend_extend]
      simp only [hsome, hadvance, Bool.false_eq_true, if_false]
  obtain rfl : stopped = ready.plugins := (stopPlugins_atRest hstopped).trans hlife.atRest
  exact ⟨turned, advanced, between, hpasts, hlife, hstopped, h.rest⟩

theorem stop (h : InOrder performers ready connected pasts host world)
    (hstop : host.stop performers world = .ok next after) :
    InOrder performers ready connected (extend pasts (host.stopTurns performers world)) next
      after := by
  cases hrunning : host.running with
  | none =>
      rw [stop_of_idle hrunning] at hstop
      cases hstop
      rwa [stopTurns, hrunning, extend_blank h.life.tallies.length_eq]
  | some loops =>
      obtain ⟨turned, advanced, between, hpasts, hlife, hstopped, rfl⟩ :=
        h.stop_cases (by simp [hrunning]) hstop
      have hidle : next.running = none := by rw [← h.rest]
      rw [hpasts]
      exact ⟨hlife.stopped hstopped, by rw [← hidle], fun _ => rfl⟩

end InOrder

/-- However a run goes, the host is in order. -/
theorem Run.inOrder {pasts : List (List Milestone)}
    (h : Run performers ready connected pasts host world) :
    InOrder performers ready connected pasts host world := by
  induction h with
  | initialised hinit hidle => exact ⟨.made hinit, by rw [← hidle], fun _ => rfl⟩
  | start _ hstart ih => exact ih.start hstart
  | settle _ hsettle ih => exact ih.settle hsettle
  | wait _ hwait ih => exact ⟨ih.life.waited hwait, ih.rest, ih.idle⟩
  | stop _ hstop ih => exact ih.stop hstop

/-! ### Calls -/

section Calls

variable {pasts : List (List Milestone)}

/-- A host that is given time goes on with its run. -/
theorem Run.given {turns deadline moves : Nat}
    (h : Run performers ready connected pasts host world)
    (hgiven : runUntil performers turns deadline moves host world = .ok next after) :
    ∃ pasts, Run performers ready connected pasts next after := by
  induction moves generalizing pasts host world with
  | zero =>
      cases hgiven
      exact ⟨pasts, h⟩
  | succ moves ih =>
      obtain ⟨settled, reached, hsettle, hgiven⟩ := Act.bind_eq_ok.mp hgiven
      obtain ⟨seen, same, hget, hgiven⟩ := Act.bind_eq_ok.mp hgiven
      cases hget
      cases hwake : settled.nextWake? reached.clock deadline with
      | none =>
          simp only [hwake] at hgiven
          obtain ⟨_, waited, hwait, hgiven⟩ := Act.bind_eq_ok.mp hgiven
          cases hgiven
          exact ⟨_, (h.settle hsettle).wait hwait⟩
      | some wake =>
          simp only [hwake] at hgiven
          obtain ⟨_, waited, hwait, hgiven⟩ := Act.bind_eq_ok.mp hgiven
          exact ih ((h.settle hsettle).wait hwait) hgiven

/-- Whatever is called, a host goes on with its run. -/
theorem Run.called {calls : List HostCall} (h : Run performers ready connected pasts host world)
    (hcalls : performAll performers calls host world = .ok next after) :
    ∃ pasts, Run performers ready connected pasts next after := by
  induction calls generalizing pasts host world with
  | nil =>
      cases hcalls
      exact ⟨pasts, h⟩
  | cons call rest ih =>
      obtain ⟨served, reached, hperform, hrest⟩ := Act.bind_eq_ok.mp hcalls
      cases call with
      | start => exact ih (h.start hperform) hrest
      | stop => exact ih (h.stop hperform) hrest
      | wait turns moves deadline =>
          obtain ⟨_, hgiven⟩ := h.given hperform
          exact ih hgiven hrest

end Calls

/-! ### Stopping -/

/-- A host can be stopped if no instance panics when it is stopped. -/
theorem stop_returns {instances : List (LoadedPlugin Plugin)}
    (hinstances : host.plugins.map (·.atRest) = instances)
    (hstops : ∀ loaded ∈ instances, ∀ reached,
      ∃ left, performers.plugins.stop loaded.plugin reached = .ok () left) (world : World Handler) :
    ∃ next after, host.stop performers world = .ok next after := by
  have hall {plugins : List (LoadedPlugin Plugin)} (hplugins : plugins.map (·.atRest) = instances) :
      ∀ loaded ∈ plugins, ∀ reached,
        ∃ left, performers.plugins.stop loaded.plugin reached = .ok () left := fun loaded hmem =>
    hstops loaded.atRest (hplugins ▸ List.mem_map.mpr ⟨loaded, hmem, rfl⟩)
  cases hrunning : host.running with
  | none => exact ⟨host, world, stop_of_idle hrunning⟩
  | some loops =>
      simp only [stop, hrunning]
      split
      · obtain ⟨stopped, after, hstopped⟩ := stopPlugins_returns (hall hinstances) world
        exact ⟨_, after, Act.bind_eq_ok.mpr
          ⟨_, _, rfl, Act.bind_eq_ok.mpr ⟨_, _, hstopped, rfl⟩⟩⟩
      · obtain ⟨advanced, between, hadvance⟩ := advanceStarts_returns performers host.plugins world
        obtain ⟨stopped, after, hstopped⟩ :=
          stopPlugins_returns (hall ((advanceStarts_atRest hadvance).trans hinstances)) between
        exact ⟨_, after, Act.bind_eq_ok.mpr
          ⟨_, _, hadvance, Act.bind_eq_ok.mpr ⟨_, _, hstopped, rfl⟩⟩⟩

/-- What starts and stops come to, however a host has been initialised, started, given time and
stopped before.  A stop of a host that does not run and a start of one that does change nothing.  A
stop of a host that runs returns unless an instance panics when it is stopped.  It leaves the host
as it was initialised, so no instance counts as started; every instance has been stopped as often as
its start has succeeded, which is also what the instances find if they log how they are called; an
instance holds nothing on its account; and on any other account its id, like anybody without an
instance there, holds what it held at first, unless a handler has changed it. -/
theorem Run.stop_leaves_nothing {belongs : PluginRecord → Plugin → Prop}
    {pasts : List (List Milestone)} (hscoped : performers.plugins.Scoped belongs)
    (h : Run performers ready connected pasts host world) :
    (host.running = none → host.stop performers world = .ok host world) ∧
    (host.running ≠ none → host.start world = .ok host world ∧
      ((∀ loaded ∈ ready.plugins, ∀ reached,
          ∃ left, performers.plugins.stop loaded.plugin reached = .ok () left) →
        ∃ next after, host.stop performers world = .ok next after) ∧
      ∀ next after, host.stop performers world = .ok next after →
        next = ready ∧ (next.counts after).started = 0 ∧
        List.Forall₂ (fun past _ => past.count .succeeded = past.count .stopped)
          (extend pasts (host.stopTurns performers world)) next.plugins ∧
        (∀ log, performers.Logged belongs log → (next.plugins.map (·.record.id)).Nodup →
          List.Forall₂ (fun loaded past =>
              log loaded.record.id after = log loaded.record.id connected ++ past)
            next.plugins (extend pasts (host.stopTurns performers world))) ∧
        (∀ loaded ∈ next.plugins, ∀ account,
          after.account? loaded.record.userId = some account →
          account.hooks.countOf loaded.record.id = 0 ∧
            account.specs.spec? loaded.record.id = none) ∧
        ∀ userId owner, (∀ loaded ∈ next.plugins, loaded.record.scope ≠ (userId, owner)) →
          performers.handlers.Keeps (World.holdings userId owner) →
          after.holdings userId owner = connected.holdings userId owner) := by
  have horder := h.inOrder
  refine ⟨stop_of_idle, fun hrunning => ⟨start_of_running hrunning, ?_, ?_⟩⟩
  · exact fun hstops => stop_returns horder.life.atRest hstops world
  · intro next after hstop
    obtain ⟨turned, advanced, between, hpasts, hlife, hstopped, rfl⟩ :=
      horder.stop_cases hrunning hstop
    have hsettled := hlife.stopped hstopped
    have hnot : ∀ loaded ∈ next.plugins, loaded.started = false := by
      rw [← hlife.atRest]
      intro loaded hmem
      obtain ⟨made, -, rfl⟩ := List.mem_map.mp hmem
      rfl
    rw [hpasts]
    refine ⟨rfl, ?_, ?_, ?_, ?_, ?_⟩
    · simpa [counts] using hnot
    · have htallies := hsettled.tallies
      rw [← hlife.atRest] at htallies ⊢
      rw [List.forall₂_map_right_iff] at htallies ⊢
      exact htallies.imp fun past loaded htally => htally.balance
    · intro log hlogged hdistinct
      exact List.forall₂_map_left_iff.mp (hsettled.logs_grow hlogged hscoped hdistinct).each
    · intro loaded hmem account hfound
      obtain ⟨made, hmade, rfl⟩ := List.mem_map.mp (hlife.atRest ▸ hmem)
      have hnothing := stopPlugins_holdsNothing hscoped (hlife.all_belong hscoped) hstopped
        (.inr ⟨made, hmade, rfl⟩)
      refine account.holds_nothing (hnothing _ ?_)
      rw [World.holdings]
      exact congrArg (Option.map _) hfound
    · intro userId owner hnobody hhandlers
      exact hsettled.holdings_eq hscoped hnobody hhandlers

/-! ### A troupe

The scene of the concrete runs: instances whose starts go on differently, and who keep diaries. -/

section Troupe

open SecondBatch

/-- The word for a milestone in a diary. -/
def wordFor : Milestone → String
  | .succeeded => "succeeded"
  | .failed => "failed"
  | .gaveUp => "gave up"
  | .slept => "slept"
  | .stopped => "stopped"

/-- What an instance puts on record about a milestone. -/
def diaryEntry (id : String) (milestone : Milestone) : Json :=
  .array [.string id, .string (wordFor milestone)]

/-- The milestone about which the instance of an id has put something on record. -/
def noted? (id : String) : Occurrence → Option Milestone
  | .remark (.array [.string author, .string word]) =>
    if author = id then
      [.succeeded, .failed, .gaveUp, .slept, .stopped].find? fun milestone =>
        wordFor milestone == word
    else none
  | _ => none

/-- The diary of the instance of an id. -/
def diary (id : String) (world : World Unit) : List Milestone :=
  (world.trace.filterMap (noted? id)).reverse

theorem noted?_diaryEntry (id author : String) (milestone : Milestone) :
    noted? id (.remark (diaryEntry author milestone)) =
      if author = id then some milestone else none := by
  cases milestone <;> rfl

theorem noted?_of_isRoutine (id : String) {occurrence : Occurrence}
    (hroutine : occurrence.isRoutine = true) : noted? id occurrence = none := by
  cases occurrence with
  | remark value => cases hroutine
  | _ => rfl

theorem diary_remark (id author : String) (milestone : Milestone) (world : World Unit) :
    diary id { world with trace := .remark (diaryEntry author milestone) :: world.trace } =
      diary id world ++ if author = id then [milestone] else [] := by
  rw [diary, List.filterMap_cons, noted?_diaryEntry]
  by_cases hauthor : author = id
  · simp [hauthor, diary]
  · simp [hauthor, diary]

theorem ofRecords_diary (id : String) : OfRecords (diary id) where
  trace world occurrence hroutine := by
    rw [diary, List.filterMap_cons, noted?_of_isRoutine id hroutine]
    rfl
  rooms _ _ := rfl
  compiled _ _ _ _ _ := rfl
  store _ _ := rfl
  clock _ _ := rfl
  account _ _ _ _ _ _ := rfl

/-- To enter, an instance sets a spec and registers a listener. -/
def enter (record : PluginRecord) : Act (World Unit) Unit := do
  let _ ← World.setSpec record.userId record.id (TwoOwners.spec record.id)
  World.changeAccount record.userId fun account =>
    account.addListener record.id Hooks.wildcard false ()

/-- How a start goes on from there depends on the type. -/
def part (record : PluginRecord) : Progress PluginRecord :=
  if record.pluginType = "broken" then .failed (.configuration "no credentials")
  else if record.pluginType = "slow" then .sleeping 1000 record
  else .started

/-- Instances that are their records. -/
def troupe : Performers Unit Unit PluginRecord where
  handlers := quiet
  plugins :=
    { create := fun _ record _ => pure record
      start := fun record => do
        enter record
        World.remark (diaryEntry record.id (part record).milestone)
        pure (part record)
      stop := fun record => World.remark (diaryEntry record.id .stopped) }

theorem enter_returns (record : PluginRecord) (world : World Unit) :
    ∃ after, enter record world = .ok () after := by
  obtain ⟨_, between, hset⟩ :=
    setSpec_returns record.userId record.id (TwoOwners.spec record.id) world
  obtain ⟨after, hadd⟩ := changeAccount_returns record.userId
    (fun account => account.addListener record.id Hooks.wildcard false ()) between
  exact ⟨after, Act.bind_eq_ok.mpr ⟨_, _, hset, hadd⟩⟩

/-- If only records show in a view, an instance that enters does not. -/
theorem enter_keeps {γ : Type} {view : World Unit → γ} (hview : OfRecords view)
    (record : PluginRecord) : (enter record).Keeps view := by
  have hchange {change : Account Unit → Account Unit}
      (hrecord : ∀ account, (change account).record = account.record) :
      (World.changeAccount record.userId change).Keeps view :=
    World.changeAccount_keeps _ fun world account hfound =>
      hview.account world _ account _ hfound (hrecord account)
  have hput := World.consult_keeps hview.toUndisturbed
    (.putCommandSpec record.id record.userId (TwoOwners.spec record.id))
    (Act.keeps_modify fun world => hview.store world
      (world.store.putSpec record.id record.userId (TwoOwners.spec record.id)))
  exact (World.setSpec_keeps hput (hchange fun _ => rfl)).bind fun _ => hchange fun _ => rfl

/-- A start keeps what entering keeps, if the diary does not show. -/
theorem troupe_start_keeps {γ : Type} {view : World Unit → γ} {record : PluginRecord}
    (henter : (enter record).Keeps view)
    (hdiary : ∀ value, (World.remark value : Act (World Unit) Unit).Keeps view) :
    (troupe.plugins.start record).Keeps view :=
  henter.bind fun _ => (hdiary _).bind fun _ => Act.keeps_pure _

/-- Each instance acts on the account and in the name of its record. -/
theorem troupe_scoped : troupe.plugins.Scoped fun record plugin => plugin = record where
  create h := by
    cases h
    rfl
  rest hplugin h := by
    subst hplugin
    obtain ⟨_, _, -, h⟩ := Act.bind_eq_ok.mp h
    obtain ⟨_, _, -, h⟩ := Act.bind_eq_ok.mp h
    have hpart := (EStateM.Result.ok.inj h).1
    unfold part at hpart
    split at hpart
    · cases hpart
    · split at hpart <;> cases hpart
      rfl
  start hplugin hother := by
    subst hplugin
    exact troupe_start_keeps ((World.setSpec_keeps_holdings hother _).bind fun _ =>
      World.addListener_keeps_holdings hother _ _ _) fun _ => Act.keeps_modify fun _ => rfl
  stop _ _ := Act.keeps_modify fun _ => rfl

/-- The diaries are logs. -/
theorem troupe_logged : troupe.Logged (fun record plugin => plugin = record) diary where
  view := ofRecords_diary
  poll _ processor := processor.poll_keeps fun _ _ _ _ => rfl
  handlers _ := ⟨fun _ _ => Act.keeps_pure _, fun _ _ => Act.keeps_pure _⟩
  start {record plugin} id world hplugin := by
    subst hplugin
    obtain ⟨entered, henter⟩ := enter_returns plugin world
    have hstart : troupe.plugins.start plugin world = .ok (part plugin)
        { entered with
          trace := .remark (diaryEntry plugin.id (part plugin).milestone) :: entered.trace } :=
      Act.bind_eq_ok.mpr ⟨_, _, henter, rfl⟩
    rw [Act.stateAfter, hstart]
    dsimp only
    rw [diary_remark, (enter_keeps (ofRecords_diary id) plugin).eq_of_ok henter]
    rfl
  stop {record plugin} id world after hplugin h := by
    subst hplugin
    cases h
    exact diary_remark id plugin.id .stopped world

/-- A host that knows the types of the troupe. -/
def stage : Host Unit PluginRecord :=
  { configuration := .default
    registry := .ofList (["broken", "slow", "steady"].map fun name =>
      (name, ⟨name, "1.0.0", hostInterface, ()⟩))
    plugins := []
    running := none }

/-- The world before the host is initialised, with an instance of each type. -/
def backstage : World Unit :=
  .initial (surroundings true) (.ofRecords [SecondBatch.record]
    (["broken", "slow", "steady"].map fun name => ⟨name, name, true, "@bot:hs"⟩))

/-- One start fails, one sleeps and one succeeds.  After the stop nobody holds anything, and only
the last instance has been stopped, as the diaries say. -/
theorem stop_leaves_nothing_of_troupe :
    ∃ ready connected begun started host world next after,
      stage.init troupe backstage = .ok (.ok (), ready) connected ∧
      ready.start connected = .ok begun started ∧
      begun.settle troupe 0 started = .ok host world ∧
      host.stop troupe world = .ok next after ∧
      begun.settleTurns troupe started = [[.failed], [.slept], [.succeeded]] ∧
      host.stopTurns troupe world = [[], [], [.stopped]] ∧
      (world.account? "@bot:hs").map (·.hooks.countOf "steady") = some 1 ∧
      List.Forall₂ (fun loaded past => diary loaded.record.id after = past) next.plugins
        [[.failed], [.slept], [.succeeded, .stopped]] ∧
      ∀ account, after.account? "@bot:hs" = some account → ∀ loaded ∈ next.plugins,
        account.hooks.countOf loaded.record.id = 0 ∧
          account.specs.spec? loaded.record.id = none := by
  obtain ⟨ready, connected, begun, started, host, world, next, after, hinit, hstart, hsettle, hstop,
      hidle, hrunning, husers, hids, hblank, hempty, hturns, hstops, hcount⟩ :
      ∃ ready connected begun started host world next after,
        stage.init troupe backstage = .ok (.ok (), ready) connected ∧
        ready.start connected = .ok begun started ∧
        begun.settle troupe 0 started = .ok host world ∧
        host.stop troupe world = .ok next after ∧
        ready.running = none ∧ host.running ≠ none ∧
        ready.plugins.map (·.record.userId) = ["@bot:hs", "@bot:hs", "@bot:hs"] ∧
        ready.plugins.map (·.record.id) = ["broken", "slow", "steady"] ∧
        ready.plugins.map (fun _ => ([] : List Milestone)) = [[], [], []] ∧
        (∀ id, diary id connected = []) ∧
        begun.settleTurns troupe started = [[.failed], [.slept], [.succeeded]] ∧
        host.stopTurns troupe world = [[], [], [.stopped]] ∧
        (world.account? "@bot:hs").map (·.hooks.countOf "steady") = some 1 :=
    ⟨_, _, _, _, _, _, _, _, rfl, rfl, rfl, rfl, rfl, nofun, rfl, rfl, rfl, fun _ => rfl, rfl, rfl,
      by decide +kernel⟩
  have hrun : Run troupe ready connected _ host world :=
    ((Run.initialised (.call (.fresh rfl rfl) hinit) hidle).start hstart).settle hsettle
  obtain ⟨rfl, -, -, hlogs, hnothing, -⟩ :=
    ((hrun.stop_leaves_nothing troupe_scoped).2 hrunning).2.2 next after hstop
  refine ⟨_, _, _, _, _, _, _, _, hinit, hstart, hsettle, hstop, hturns, hstops, hcount, ?_, ?_⟩
  · have hdiaries := hlogs diary troupe_logged (by rw [hids]; decide)
    rw [hblank, hturns, hstops] at hdiaries
    exact hdiaries.imp fun loaded past hdiary => by rwa [hempty, List.nil_append] at hdiary
  · intro account hfound loaded hmem
    have huser : loaded.record.userId ∈ next.plugins.map (·.record.userId) :=
      List.mem_map.mpr ⟨loaded, hmem, rfl⟩
    rw [husers] at huser
    have huser : loaded.record.userId = "@bot:hs" := by simpa using huser
    exact hnothing loaded hmem account (huser ▸ hfound)

/-- An instance that goes by the name under which the host itself listens, on one of two accounts
that accept every invitation. -/
def namesake : World Unit :=
  .initial (surroundings true) (.ofRecords
    [{ SecondBatch.record with autojoin := true },
      { AccountRecord.new "@ops:hs" "https://hs" "token" with autojoin := true }]
    [⟨Account.autojoinOwner, "steady", true, "@bot:hs"⟩])

/-- After the stop, the id of the instance owns nothing on its account, and the host's own listener
on the other one. -/
theorem stop_leaves_namesake :
    ∃ ready connected host world next after,
      stage.init troupe namesake = .ok (.ok (), ready) connected ∧
      performAll troupe [.start, .wait 0 1 0] ready connected = .ok host world ∧
      host.stop troupe world = .ok next after ∧ host.running.isSome ∧
      next.plugins.map (·.record.id) = [Account.autojoinOwner] ∧
      (after.account? "@bot:hs").map (·.hooks.countOf Account.autojoinOwner) = some 0 ∧
      (after.account? "@ops:hs").map (·.hooks.countOf Account.autojoinOwner) = some 1 :=
  ⟨_, _, _, _, _, _, rfl, rfl, rfl, rfl, rfl, by decide +kernel, by decide +kernel⟩

end Troupe

end Host

end BotHost
