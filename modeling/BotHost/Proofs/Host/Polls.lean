/-
# What a host leaves alone

A view of the world that neither the store nor the clock touches is kept by everything that a
host does, as long as its handlers and plugins keep it and no poll shows in it.  A poll shows on
the trace, and nowhere else; so the polls of an account can be read off the trace of the world,
and they are those of its sync loop.
-/

import BotHost.Host.Schedule
import BotHost.Proofs.Sync.History

namespace BotHost

namespace Act

variable {σ α β γ : Type} {view : σ → γ}

/-- What is done afterwards does not show if it keeps the view. -/
theorem view_stateAfter_bind {act : Act σ α} {next : α → Act σ β}
    (h : ∀ value, (next value).Keeps view) (state : σ) :
    view ((act >>= next).stateAfter state) = view (act.stateAfter state) := by
  rw [stateAfter, stateAfter, bind_apply]
  cases act state with
  | ok value reached => exact h value reached
  | error panic reached => rfl

end Act

/-- A view that the store does not touch either; the clock may show in it. -/
structure Unstored {Handler γ : Type} (view : World Handler → γ) : Prop
    extends Undisturbed view where
  store : ∀ (world : World Handler) store, view { world with store } = view world

theorem Detached.toUnstored {Handler γ : Type} {view : World Handler → γ} (h : Detached view) :
    Unstored view :=
  ⟨h.toUndisturbed, h.store⟩

/-- A view in which neither the store shows nor what is asked for, polls aside. -/
structure Unasked {Handler γ : Type} (view : World Handler → γ) : Prop where
  request : ∀ userId time request,
    (Occurrence.request userId time request).isRoutine = true →
    (World.note (.request userId time request) : Act (World Handler) Unit).Keeps view
  call : ∀ call, (World.note (.store call) : Act (World Handler) Unit).Keeps view
  store : ∀ (world : World Handler) store, view { world with store } = view world

theorem Unstored.toUnasked {Handler γ : Type} {view : World Handler → γ} (h : Unstored view) :
    Unasked view where
  request _ _ _ hroutine := World.note_keeps h.toUndisturbed _ hroutine
  call _ := World.note_keeps h.toUndisturbed _ rfl
  store := h.store

namespace World

variable {Handler γ : Type} {view : World Handler → γ}

theorem unstored_clock : Unstored (@World.clock Handler) where
  trace _ _ _ := rfl
  rooms _ _ := rfl
  compiled _ _ _ _ _ := rfl
  store _ _ := rfl

theorem updateAccount_keeps (hview : Unasked view) (record : AccountRecord) :
    (updateAccount record : Act (World Handler) _).Keeps view :=
  consult_keeps_of_note (hview.call _) (Act.keeps_modify fun world => hview.store world _)

theorem updatePlugin_keeps (hview : Detached view) (record : PluginRecord) :
    (updatePlugin record : Act (World Handler) _).Keeps view :=
  consult_keeps hview.toUndisturbed _ (Act.keeps_modify fun world => hview.store world _)

theorem removeOwner_keeps (hview : OfRecords view) (userId owner : String) :
    (removeOwner userId owner : Act (World Handler) Unit).Keeps view :=
  changeAccount_keeps userId fun world account hfound =>
    hview.account world userId account _ hfound rfl

theorem waitUntil_keeps (hview : Detached view) (time : Nat) :
    (waitUntil time : Act (World Handler) Unit).Keeps view :=
  Act.keeps_modify fun world => hview.clock world _

end World

namespace SyncProcessor

variable {Handler γ : Type} {view : World Handler → γ} (processor : SyncProcessor)

theorem ensureFilter_keeps (hview : Unasked view) :
    (processor.ensureFilter : Act (World Handler) _).Keeps view := by
  unfold ensureFilter
  split
  · exact Act.keeps_pure _
  · apply (World.ask_keeps_of_note fun _ => hview.request _ _ _ rfl).bind
    intro filterId
    cases filterId with
    | error error => exact Act.keeps_pure _
    | ok filterId =>
        apply (World.updateAccount_keeps hview _).bind
        intro written
        cases written with
        | error error => exact Act.keeps_pure _
        | ok value => exact Act.keeps_pure _

theorem prepare_keeps (hview : Unasked view) :
    (processor.prepare : Act (World Handler) _).Keeps view := by
  apply (World.ask_keeps_of_note fun _ => hview.request _ _ _ rfl).bind
  intro actual
  cases actual with
  | error error => exact Act.keeps_pure _
  | ok actual =>
      dsimp only
      split
      · exact Act.keeps_pure _
      · exact processor.ensureFilter_keeps hview

theorem processBatch_keeps (hview : Unstored view) {behaviour : Behaviour Handler}
    (hbehaviour : behaviour.Keeps view) (batch : Batch) :
    (processor.processBatch behaviour batch).Keeps view := by
  apply (processor.applyBatch_keeps batch hview.toUndisturbed hbehaviour).bind
  intro applied
  cases applied with
  | error error => exact Act.keeps_pure _
  | ok report =>
      apply (World.updateAccount_keeps hview.toUnasked _).bind
      intro written
      cases written with
      | error error => exact Act.keeps_pure _
      | ok value => exact Act.keeps_pure _

/-- A poll adds the processor's cursor to the polls of its user. -/
theorem sincesOf_stateAfter_poll (world : World Handler) (userId : String) :
    ((processor.poll : Act (World Handler) _).stateAfter world).sincesOf userId =
      world.sincesOf userId ++
        if processor.record.userId = userId then [processor.record.cursor?] else [] := by
  have hshows : ∀ time filter timeout,
      (Occurrence.request processor.record.userId time
        (.sync processor.record.cursor? filter timeout)).poll? =
        some (processor.record.userId, processor.record.cursor?) := fun _ _ _ => rfl
  simp only [World.sincesOf, poll_trace, List.filterMap_cons, hshows, Option.bind_some]
  by_cases huser : processor.record.userId = userId
  · simp [huser]
  · simp [huser]

/-- A poll shows on the trace and nowhere else. -/
theorem poll_keeps (htrace : ∀ (world : World Handler) userId time request,
    view { world with trace := .request userId time request :: world.trace } = view world) :
    (processor.poll : Act (World Handler) _).Keeps view :=
  World.ask_keeps_of_note fun _ => Act.keeps_modify fun world => htrace world _ _ _

/-- A poll leaves the connected records alone. -/
theorem poll_keeps_recordOf : (processor.poll : Act (World Handler) _).Keeps World.recordOf :=
  processor.poll_keeps fun _ _ _ _ => rfl

end SyncProcessor

namespace SyncLoop

variable {Handler γ : Type} {view : World Handler → γ} (loop : SyncLoop)

theorem rest_keeps (errand : Errand) : (loop.rest errand : Act (World Handler) _).Keeps view :=
  Act.keeps_get.bind fun _ => Act.keeps_pure _

theorem switchOff_keeps (hview : Unasked view) :
    (loop.switchOff : Act (World Handler) _).Keeps view :=
  (World.updateAccount_keeps hview _).bind fun _ => Act.keeps_pure _

/-- After its step, a turn that polls only decides what to do next. -/
theorem view_turnPoll (view : World Handler → γ) (behaviour : Behaviour Handler)
    (world : World Handler) :
    view ((loop.turnPoll behaviour).stateAfter world) =
      view ((loop.processor.step behaviour).stateAfter world) := by
  refine Act.view_stateAfter_bind (fun stepped => ?_) world
  rcases stepped with ⟨_ | _ | _, processor⟩
  · exact Act.keeps_pure _
  · exact rest_keeps _ _
  · exact Act.keeps_pure _

/-- What a loop does with the answer to its poll keeps what handlers keep. -/
theorem view_stateAfter_turnPoll (hview : Unstored view) {behaviour : Behaviour Handler}
    (hbehaviour : behaviour.Keeps view) (world : World Handler) :
    view ((loop.turnPoll behaviour).stateAfter world) =
      view (loop.processor.poll.stateAfter world) := by
  rw [loop.view_turnPoll view behaviour]
  refine Act.view_stateAfter_bind (fun answer => ?_) world
  rcases answer with _ | _ | batch
  · exact Act.keeps_pure _
  · exact Act.keeps_pure _
  · exact (loop.processor.processBatch_keeps hview hbehaviour batch).bind fun _ => Act.keeps_pure _

/-- A turn without a poll has nothing to do with handlers. -/
theorem turn_keeps_of_no_poll (hview : Unasked view) {behaviour : Behaviour Handler}
    (hpoll : loop.state ≠ .ready .poll) : (loop.turn behaviour).Keeps view := by
  rcases hstate : loop.state with (_ | _) | ⟨errand, wake⟩ | _ | _
  · rw [turn, hstate]
    apply (loop.processor.prepare_keeps hview).bind
    intro prepared
    rcases prepared with ⟨(_ | _ | _ | _) | _, processor⟩
    · exact rest_keeps _ _
    · exact rest_keeps _ _
    · exact rest_keeps _ _
    · exact switchOff_keeps _ hview
    · exact Act.keeps_pure _
  · exact absurd hstate hpoll
  · rw [turn, hstate]
    apply Act.keeps_get.bind
    intro world
    split
    · exact Act.keeps_pure _
    · exact Act.keeps_pure _
  · rw [turn, hstate]
    exact Act.keeps_pure _
  · rw [turn, hstate]
    exact Act.keeps_pure _

/-- A turn keeps what handlers keep, unless it polls and the poll shows. -/
theorem turn_keeps (hview : Unstored view) {behaviour : Behaviour Handler}
    (hbehaviour : behaviour.Keeps view)
    (hpoll : loop.state = .ready .poll →
      (loop.processor.poll : Act (World Handler) _).Keeps view) :
    (loop.turn behaviour).Keeps view := by
  by_cases hstate : loop.state = .ready .poll
  · intro world
    rw [turn_ready_poll hstate, view_stateAfter_turnPoll loop hview hbehaviour]
    exact hpoll hstate world
  · exact loop.turn_keeps_of_no_poll hview.toUnasked hstate

theorem turnSafely_keeps {behaviour : Behaviour Handler} (h : (loop.turn behaviour).Keeps view) :
    (loop.turnSafely behaviour).Keeps view := by
  apply h.attempt.bind
  intro turned
  cases turned with
  | error panic => exact Act.keeps_pure _
  | ok loop => exact Act.keeps_pure _

/-- A loop that ends because its turn panics changes nothing else. -/
theorem stateAfter_turn_of_turnSafely {behaviour : Behaviour Handler} {next : SyncLoop}
    {world after : World Handler} (h : loop.turnSafely behaviour world = .ok next after) :
    (loop.turn behaviour).stateAfter world = after := by
  rcases turn_cases_of_turnSafely h with hturn | ⟨⟨panic, hturn⟩, -⟩
  · rw [Act.stateAfter, hturn]
  · rw [Act.stateAfter, hturn]

/-- Of a user's polls, those of a turn show on the trace and no others. -/
theorem turnSafely_sincesOf {behaviour : Behaviour Handler} {next : SyncLoop}
    {world after : World Handler}
    (hbehaviour : behaviour.Keeps World.sincesOf)
    (h : loop.turnSafely behaviour world = .ok next after) (userId : String) :
    after.sincesOf userId = world.sincesOf userId ++
      if loop.processor.record.userId = userId then
        (loop.pollsOf behaviour world).map (·.since) else [] := by
  rw [← loop.stateAfter_turn_of_turnSafely h]
  by_cases hstate : loop.state = .ready .poll
  · rw [turn_ready_poll hstate, pollsOf, hstate, List.map_singleton, SyncProcessor.pollOf_since,
      ← SyncProcessor.sincesOf_stateAfter_poll]
    exact congrFun
      (view_stateAfter_turnPoll loop World.ofRecords_sincesOf.toUnstored hbehaviour world) userId
  · have hkept : (loop.turn behaviour).Keeps World.sincesOf :=
      loop.turn_keeps_of_no_poll World.ofRecords_sincesOf.toUnstored.toUnasked hstate
    simp [hkept world, pollsOf_of_no_poll hstate]

end SyncLoop

end BotHost
