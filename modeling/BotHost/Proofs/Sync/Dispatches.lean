/-
# Dispatches on the trace

Every event that is handed to the handlers of an account is put on the trace first, so what polls
have dispatched can be read off the trace.  One step of a processor adds the events that its poll
has dispatched, in order, and if a handler has panicked, also the event for which it was called:
`SyncProcessor.dispatches_step`.  So does every turn of a loop, and when a loop runs by itself, the
trace has grown by the events of its history, poll by poll: `SyncLoop.exists_shown_of_run`.

Handlers cannot dispatch events themselves, which is what is assumed of them here.
-/

import BotHost.Proofs.Account.Events
import BotHost.Proofs.Host.Polls
import Mathlib.Data.List.Forall2

namespace BotHost

/-- The event that an occurrence hands to the handlers of an account, if it is a dispatch. -/
def Occurrence.dispatch? : Occurrence → Option (String × Event)
  | .dispatch userId event => some (userId, event)
  | _ => none

namespace World

variable {Handler : Type}

/-- The events that have been handed to handlers, with the accounts on which they were, in order. -/
def dispatches (world : World Handler) : List (String × Event) :=
  (world.trace.filterMap Occurrence.dispatch?).reverse

/-- An event is the last one that has been handed to handlers once it is announced. -/
theorem dispatches_announced (userId : String) (event : Event) (world : World Handler) :
    (world.announced userId event).dispatches = world.dispatches ++ [(userId, event)] :=
  List.reverse_cons

/-- What is no dispatch does not show in the dispatches. -/
theorem note_keeps_dispatches {occurrence : Occurrence} (h : occurrence.dispatch? = none) :
    (note occurrence : Act (World Handler) Unit).Keeps dispatches :=
  Act.keeps_modify fun world => by rw [dispatches, List.filterMap_cons, h, dispatches]

theorem unasked_dispatches : Unasked (@dispatches Handler) where
  request _ _ _ _ := note_keeps_dispatches rfl
  call _ := note_keeps_dispatches rfl
  store _ _ := rfl

/-- A dispatch puts its event on the trace, and its handlers put none there. -/
theorem dispatches_dispatchEvent {behaviour : Behaviour Handler}
    (hbehaviour : behaviour.Keeps dispatches) (userId : String) (event : Event)
    (world : World Handler) :
    ((dispatchEvent behaviour userId event).stateAfter world).dispatches =
      world.dispatches ++ [(userId, event)] := by
  rw [view_dispatchEvent hbehaviour (fun _ _ _ => note_keeps_dispatches rfl)]
  exact dispatches_announced userId event world

end World

namespace Poll

/-- The events for which handlers have been called in a poll, in order: those that were dispatched
to the end, and if a handler has panicked also the one for which it was called, the next one that
was due. -/
def Announces (userId : String) (poll : Poll) (events : List Event) : Prop :=
  (∃ panic event, poll.result = some (.error (.batchPanicked panic)) ∧
    poll.dispatched ++ [event] <+: poll.due userId ∧ events = poll.dispatched ++ [event]) ∨
  (∀ panic, poll.result ≠ some (.error (.batchPanicked panic))) ∧ events = poll.dispatched

/-- From one world to another, the trace has grown by the events of a poll. -/
def Shown {Handler : Type} (userId : String) (poll : Poll) (world after : World Handler) : Prop :=
  ∃ events, poll.Announces userId events ∧
    after.dispatches = world.dispatches ++ events.map (Prod.mk userId)

end Poll

/-! ### One step -/

namespace SyncProcessor

variable {Handler : Type} {behaviour : Behaviour Handler} {userId : String}
  {world after : World Handler}

theorem project_keeps_dispatches (event : Event) :
    (project event : Act (World Handler) _).Keeps World.dispatches :=
  project_keeps_of_applyToRoom <|
    World.applyToRoom_keeps_of_note (fun _ => World.note_keeps_dispatches rfl) (fun _ _ => rfl)
      event

/-- Writing an event into its room never panics. -/
theorem exists_project (event : Event) (world : World Handler) :
    ∃ result after, project event world = .ok result after := by
  by_cases hstate : event.isState = true
  · rw [project, if_pos hstate, World.applyToRoom, Act.bind_apply, World.loadRoom_apply]
    cases world.environment.refuse world.trace (.loadRoom event.roomId) with
    | some error => exact ⟨_, _, rfl⟩
    | none =>
        dsimp only
        rw [if_pos hstate, World.saveRoom_apply]
        dsimp only
        split
        · exact ⟨_, _, rfl⟩
        · exact ⟨_, _, rfl⟩
  · rw [project, if_neg hstate]
    exact ⟨_, _, rfl⟩

section Applying

variable (hbehaviour : behaviour.Keeps World.dispatches)
include hbehaviour

/-- Applying events without a panic puts those on the trace that are delivered. -/
theorem dispatches_of_applyEvents_ok {count : Nat} {events : List Event}
    {result : Except StoreError Nat}
    (h : applyEvents behaviour userId count events world = .ok result after) :
    after.dispatches =
      world.dispatches ++ (delivered behaviour userId events world).map (Prod.mk userId) := by
  induction events generalizing count world with
  | nil =>
      cases h
      rw [delivered, List.map_nil, List.append_nil]
  | cons event rest ih =>
      obtain ⟨projection, projected, hproject, h⟩ := Act.bind_eq_ok.mp h
      have hprojected := (project_keeps_dispatches event).eq_of_ok hproject
      cases projection with
      | error error =>
          cases h
          simp [delivered, hproject, hprojected]
      | ok value =>
          obtain ⟨outcome, dispatched, hdispatch, h⟩ := Act.bind_eq_ok.mp h
          have hdispatched := World.dispatches_dispatchEvent hbehaviour userId event projected
          rw [Act.stateAfter, hdispatch] at hdispatched
          simp [delivered, hproject, hdispatch, ih h, hdispatched, hprojected]

/-- If a handler panics while events are applied, the event for which it was called is on the trace
as well. -/
theorem dispatches_of_applyEvents_panic {count : Nat} {events : List Event} {panic : Panic}
    (h : applyEvents behaviour userId count events world = .error panic after) :
    ∃ event, delivered behaviour userId events world ++ [event] <+: events ∧
      after.dispatches =
        world.dispatches ++
          (delivered behaviour userId events world ++ [event]).map (Prod.mk userId) := by
  induction events generalizing count world with
  | nil => cases h
  | cons event rest ih =>
      obtain ⟨projection, projected, hproject⟩ := exists_project event world
      have hprojected := (project_keeps_dispatches event).eq_of_ok hproject
      rw [applyEvents, Act.bind_apply, hproject] at h
      cases projection with
      | error error => cases h
      | ok value =>
          dsimp only at h
          have hdispatched := World.dispatches_dispatchEvent hbehaviour userId event projected
          rw [Act.bind_apply] at h
          rw [Act.stateAfter] at hdispatched
          cases hdispatch : World.dispatchEvent behaviour userId event projected with
          | error cause reached =>
              rw [hdispatch] at h hdispatched
              cases h
              refine ⟨event, ?_, ?_⟩
              · simp [delivered, hproject, hdispatch]
              · simp [delivered, hproject, hdispatch, hdispatched, hprojected]
          | ok outcome dispatched =>
              rw [hdispatch] at h hdispatched
              obtain ⟨last, hprefix, hrest⟩ := ih h
              refine ⟨last, ?_, ?_⟩
              · simpa [delivered, hproject, hdispatch] using hprefix
              · simp [delivered, hproject, hdispatch, hrest, hdispatched, hprojected]

end Applying

section Polling

variable (hbehaviour : behaviour.Keeps World.dispatches) (processor : SyncProcessor)
include hbehaviour

theorem shown_of_applyBatch {batch : Batch} {result : Except SyncError BatchReport}
    (h : processor.applyBatch behaviour batch world = .ok result after) :
    Poll.Shown processor.record.userId
      ⟨processor.record.cursor?, some batch, processor.deliveredOf behaviour batch world,
        some result⟩ world after := by
  cases hcursor : processor.record.cursor? with
  | none =>
      rw [processor.applyBatch_of_no_cursor batch world hcursor] at h
      cases h
      exact ⟨_, .inr ⟨by simp, rfl⟩, by simp [deliveredOf, hcursor]⟩
  | some cursor =>
      have hdelivered : processor.deliveredOf behaviour batch world =
          delivered behaviour processor.record.userId
            (batch.orderedFor processor.record.userId) world := by
        simp [deliveredOf, hcursor]
      rw [processor.applyBatch_of_cursor batch world (by simp [hcursor])] at h
      rw [hdelivered]
      cases happly : applyEvents behaviour processor.record.userId 0
          (batch.orderedFor processor.record.userId) world with
      | error panic reached =>
          rw [happly] at h
          cases h
          obtain ⟨event, hdue, htrace⟩ := dispatches_of_applyEvents_panic hbehaviour happly
          exact ⟨_, .inl ⟨panic, event, rfl, hdue, rfl⟩, htrace⟩
      | ok outcome reached =>
          rw [happly] at h
          have htrace := dispatches_of_applyEvents_ok hbehaviour happly
          cases outcome with
          | error error =>
              cases h
              exact ⟨_, .inr ⟨by simp, rfl⟩, htrace⟩
          | ok count =>
              cases h
              exact ⟨_, .inr ⟨by simp, rfl⟩, htrace⟩

theorem shown_of_processBatch {batch : Batch} {result : Except SyncError BatchReport}
    {next : SyncProcessor}
    (h : processor.processBatch behaviour batch world = .ok (result, next) after) :
    Poll.Shown processor.record.userId
      ⟨processor.record.cursor?, some batch, processor.deliveredOf behaviour batch world,
        some result⟩ world after := by
  obtain ⟨applied, reached, happly, h⟩ := Act.bind_eq_ok.mp h
  have hshown := processor.shown_of_applyBatch hbehaviour happly
  cases applied with
  | error error =>
      cases h
      exact hshown
  | ok report =>
      obtain ⟨events, ⟨panic, event, hpanic, -⟩ | ⟨-, rfl⟩, htrace⟩ := hshown
      · cases hpanic
      obtain ⟨written, stored, hwrite, h⟩ := Act.bind_eq_ok.mp h
      -- Writing the record dispatches nothing.
      have hstored := (World.updateAccount_keeps World.unasked_dispatches _).eq_of_ok hwrite
      cases written with
      | error error =>
          cases h
          exact ⟨_, .inr ⟨by simp, rfl⟩, hstored.trans htrace⟩
      | ok _ =>
          cases h
          exact ⟨_, .inr ⟨by simp, rfl⟩, hstored.trans htrace⟩

/-- After a step of a processor the trace shows what its poll has dispatched. -/
theorem dispatches_step (world : World Handler) :
    (processor.pollOf behaviour world).Shown processor.record.userId world
      ((processor.step behaviour).stateAfter world) := by
  have hpolls : (processor.poll : Act (World Handler) _).Keeps World.dispatches :=
    World.ask_keeps_of_note fun _ => World.note_keeps_dispatches rfl
  have hsilent {poll : Poll} {answered : World Handler} (hnothing : poll.dispatched = [])
      (hwell : ∀ panic, poll.result ≠ some (.error (.batchPanicked panic)))
      (hanswered : answered.dispatches = world.dispatches) :
      poll.Shown processor.record.userId world answered :=
    ⟨_, .inr ⟨hwell, rfl⟩, by rw [hanswered, hnothing, List.map_nil, List.append_nil]⟩
  rw [Act.stateAfter, step, Act.bind_apply]
  cases hpoll : processor.poll world with
  | error panic answered =>
      have hanswered := hpolls.eq_of_panic hpoll
      exact hsilent (by simp [pollOf, hpoll]) (by simp [pollOf, hpoll]) hanswered
  | ok answer answered =>
      have hanswered := hpolls.eq_of_ok hpoll
      rcases answer with error | _ | batch
      · exact hsilent (by simp [pollOf, hpoll]) (by simp [pollOf, hpoll]) hanswered
      · exact hsilent (by simp [pollOf, hpoll]) (by simp [pollOf, hpoll]) hanswered
      · obtain ⟨result, next, after, hprocess, hrecord⟩ :=
          processor.pollOf_of_batch behaviour world hpoll
        have hshown := processor.shown_of_processBatch hbehaviour hprocess
        rw [Poll.Shown, hanswered] at hshown
        dsimp only
        rw [Act.bind_apply, hprocess, hrecord]
        exact hshown

end Polling

end SyncProcessor

/-! ### Turns and runs -/

namespace SyncLoop

variable {Handler : Type} {behaviour : Behaviour Handler} {userId : String}
  {polls more : List Poll} {first loop next : SyncLoop} {start world between after : World Handler}

/-- From one world to another, the trace has grown by the events of polls, poll by poll. -/
def Shown (userId : String) (polls : List Poll) (world after : World Handler) : Prop :=
  ∃ events, List.Forall₂ (Poll.Announces userId) polls events ∧
    after.dispatches = world.dispatches ++ events.flatten.map (Prod.mk userId)

theorem Shown.nil (h : after.dispatches = world.dispatches) : Shown userId [] world after :=
  ⟨[], .nil, by rw [h, List.flatten_nil, List.map_nil, List.append_nil]⟩

theorem Shown.append (h : Shown userId polls world between)
    (hmore : Shown userId more between after) : Shown userId (polls ++ more) world after := by
  obtain ⟨events, hevents, hbetween⟩ := h
  obtain ⟨others, hothers, hafter⟩ := hmore
  refine ⟨events ++ others, List.rel_append hevents hothers, ?_⟩
  rw [hafter, hbetween, List.flatten_append, List.map_append, List.append_assoc]

section

variable (hbehaviour : behaviour.Keeps World.dispatches)
include hbehaviour

/-- A turn of a loop adds what its poll has dispatched, and nothing if it has made none. -/
theorem shown_of_turnSafely (h : loop.turnSafely behaviour world = .ok next after) :
    Shown loop.processor.record.userId (loop.pollsOf behaviour world) world after := by
  rw [← loop.stateAfter_turn_of_turnSafely h]
  by_cases hstate : loop.state = .ready .poll
  · obtain ⟨events, hevents, hstep⟩ := loop.processor.dispatches_step hbehaviour world
    rw [pollsOf, hstate, turn_ready_poll hstate]
    refine ⟨[events], .cons hevents .nil, ?_⟩
    rw [loop.view_turnPoll World.dispatches, hstep, List.flatten_singleton]
  · rw [pollsOf_of_no_poll hstate]
    exact .nil (loop.turn_keeps_of_no_poll World.unasked_dispatches hstate world)

/-- The trace goes on to show the history of a loop that nobody interferes with. -/
theorem persists_shown :
    Persists behaviour (fun loop world => loop.pollsOf behaviour world)
      fun polls loop world =>
        Run behaviour first start polls loop world ∧
          loop.processor.record.userId = first.processor.record.userId ∧
          Shown first.processor.record.userId polls start world where
  turn h hturn := by
    obtain ⟨run, huser, hshown⟩ := h
    have hturned := shown_of_turnSafely hbehaviour hturn
    rw [huser] at hturned
    exact ⟨run.turn hturn, (turnSafely_cases hturn).1.trans huser, hshown.append hturned⟩
  wait h _ _ := ⟨h.1.meanwhile _, h.2⟩
  rested := pollsOf_of_resting

/-- When the program runs a loop by itself, the trace grows by the events of its history. -/
theorem exists_shown_of_run {deadline : Option Nat} {turns : Nat} {ending : RunEnd}
    (h : first.run behaviour deadline turns start = .ok (ending, next) after) :
    ∃ polls, Run behaviour first start polls next after ∧
      Shown first.processor.record.userId polls start after := by
  obtain ⟨polls, run, -, hshown⟩ := (persists_shown hbehaviour).run ⟨.refl, rfl, .nil rfl⟩ h
  exact ⟨polls, run, hshown⟩

/-- So it does when the program lets a loop take its turns among others. -/
theorem exists_shown_of_settle {turns : Nat}
    (h : first.settle behaviour turns start = .ok next after) :
    ∃ polls, Run behaviour first start polls next after ∧
      Shown first.processor.record.userId polls start after := by
  obtain ⟨polls, run, -, hshown⟩ := (persists_shown hbehaviour).settle ⟨.refl, rfl, .nil rfl⟩ h
  exact ⟨polls, run, hshown⟩

end

end SyncLoop

end BotHost
