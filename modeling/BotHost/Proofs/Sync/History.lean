/-
# The history of a feed

A loop is watched from outside: what it polled for, what came back, and which events of the
batch were dispatched.  `SyncLoop.Run` relates a loop to its history, for turns that the loop
takes itself and for whatever happens to the world in between, so it covers a loop that runs
alone as well as one among others on a host.

The law of the history is `CursorAfter`: a poll asks from the cursor of the latest batch that
was settled before it.  A batch is settled once all of its events have been dispatched, or if
there was no cursor and it was dropped.  The account's record does not occur in the law, nor
does the reason for which a batch was not settled.
-/

import BotHost.Proofs.Sync.Delivery
import BotHost.Sync.Loop
import Mathlib.Data.List.Induction

namespace BotHost

/-! ### Polls -/

namespace Batch

/-- The cursor that a batch leaves behind; an empty text is none. -/
def cursor? (batch : Batch) : Option String :=
  if batch.nextBatch = "" then none else some batch.nextBatch

end Batch

/-- One poll of the feed as it can be watched. -/
structure Poll where
  /-- The cursor it asked from. -/
  since : Option String
  batch : Option Batch
  /-- The events that were dispatched to the end, in order. -/
  dispatched : List Event
  /-- What the processor made of it; nothing if the feed stays silent or the transport
  panics. -/
  result : Option (Except SyncError BatchReport)

namespace Poll

/-- The batch of a poll has been dispatched as a whole, or dropped for want of a cursor. -/
def Settles (userId : String) (poll : Poll) (batch : Batch) : Prop :=
  poll.batch = some batch ∧ (poll.since = none ∨ poll.dispatched = batch.orderedFor userId)

/-- No batch was settled by the poll. -/
def SettlesNone (userId : String) (poll : Poll) : Prop := ∀ batch, ¬ poll.Settles userId batch

/-- The events that a poll has to deliver: those of its batch if it had a cursor. -/
def due (userId : String) (poll : Poll) : List Event :=
  match poll.since, poll.batch with
  | some _, some batch => batch.orderedFor userId
  | _, _ => []

/-- The processor has reported no failure of the poll. -/
def WentWell (poll : Poll) : Prop := ∀ error, poll.result ≠ some (.error error)

end Poll

/-- The cursor in force after some polls: that of the latest settled batch, and the initial
one if none was settled. -/
def CursorAfter (userId : String) (initial : Option String) (polls : List Poll)
    (cursor : Option String) : Prop :=
  (∃ earlier poll later batch, polls = earlier ++ poll :: later ∧ poll.Settles userId batch ∧
    (∀ other ∈ later, other.SettlesNone userId) ∧ cursor = batch.cursor?) ∨
  ((∀ poll ∈ polls, poll.SettlesNone userId) ∧ cursor = initial)

namespace CursorAfter

variable {userId : String} {initial cursor : Option String} {polls : List Poll} {poll : Poll}

theorem nil : CursorAfter userId initial [] initial :=
  .inr ⟨fun _ h => absurd h List.not_mem_nil, rfl⟩

/-- One more poll decides by itself if it settles a batch, and changes nothing if not. -/
theorem append_singleton_iff :
    CursorAfter userId initial (polls ++ [poll]) cursor ↔
      (∃ batch, poll.Settles userId batch ∧ cursor = batch.cursor?) ∨
        (poll.SettlesNone userId ∧ CursorAfter userId initial polls cursor) := by
  constructor
  · rintro (⟨earlier, settling, later, batch, hpolls, hsettles, hlater, hcursor⟩ | ⟨hnone, hcursor⟩)
    · rcases List.eq_nil_or_concat later with rfl | ⟨shorter, last, rfl⟩
      · obtain ⟨-, hlast⟩ := List.append_inj' hpolls rfl
        obtain rfl := (List.cons.inj hlast).1
        exact .inl ⟨batch, hsettles, hcursor⟩
      · rw [List.concat_eq_append, ← List.cons_append, ← List.append_assoc] at hpolls
        obtain ⟨rfl, hlast⟩ := List.append_inj' hpolls rfl
        obtain rfl := (List.cons.inj hlast).1
        refine .inr ⟨hlater _ (by simp), .inl ⟨earlier, settling, shorter, batch, rfl, hsettles,
          fun other hother => hlater other (by simp [hother]), hcursor⟩⟩
    · exact .inr ⟨hnone _ (by simp), .inr ⟨fun other hother => hnone other (by simp [hother]),
        hcursor⟩⟩
  · rintro (⟨batch, hsettles, hcursor⟩ |
      ⟨hlast, ⟨earlier, settling, later, batch, rfl, hsettles, hlater, hcursor⟩ | ⟨hnone, hcursor⟩⟩)
    · exact .inl ⟨polls, poll, [], batch, rfl, hsettles, fun _ h => absurd h List.not_mem_nil,
        hcursor⟩
    · refine .inl ⟨earlier, settling, later ++ [poll], batch, by simp, hsettles, ?_, hcursor⟩
      intro other hother
      rcases List.mem_append.mp hother with hother | hother
      · exact hlater other hother
      · rwa [List.mem_singleton.mp hother]
    · refine .inr ⟨?_, hcursor⟩
      intro other hother
      rcases List.mem_append.mp hother with hother | hother
      · exact hnone other hother
      · rwa [List.mem_singleton.mp hother]

/-- A history has one cursor in force. -/
theorem unique {other : Option String} (h : CursorAfter userId initial polls cursor)
    (hother : CursorAfter userId initial polls other) : cursor = other := by
  induction polls using List.reverseRecOn generalizing cursor other with
  | nil =>
      obtain ⟨_, _, _, _, hpolls, -⟩ | ⟨-, rfl⟩ := h
      · simp at hpolls
      · obtain ⟨_, _, _, _, hpolls, -⟩ | ⟨-, rfl⟩ := hother
        · simp at hpolls
        · rfl
  | append_singleton polls poll ih =>
      rw [append_singleton_iff] at h hother
      obtain ⟨batch, hbatch, rfl⟩ | ⟨hnone, h⟩ := h
      · obtain ⟨batch', hbatch', rfl⟩ | ⟨hnone, -⟩ := hother
        · rw [Option.some.inj (hbatch.1.symm.trans hbatch'.1)]
        · exact absurd hbatch (hnone batch)
      · obtain ⟨batch, hbatch, -⟩ | ⟨-, hother⟩ := hother
        · exact absurd hbatch (hnone batch)
        · exact ih h hother

end CursorAfter

/-! ### Watching a loop -/

namespace SyncProcessor

variable {Handler : Type} (processor : SyncProcessor) (behaviour : Behaviour Handler)
  (world : World Handler)

/-- The cursor from which the latest request asks for the feed. -/
def askedSince (trace : List Occurrence) : Option String :=
  match trace with
  | .request _ _ (.sync since _ _) :: _ => since
  | _ => none

/-- The poll that one step of a processor makes. -/
def pollOf : Poll :=
  let since := askedSince (processor.poll.stateAfter world).trace
  match processor.poll world with
  | .ok (.ok (some batch)) answered =>
    { since
      batch := some batch
      dispatched := processor.deliveredOf behaviour batch answered
      result :=
        match processor.processBatch behaviour batch answered with
        | .ok (result, _) _ => some result
        | .error _ _ => none }
  | .ok (.ok none) _ => ⟨since, none, [], none⟩
  | .ok (.error error) _ => ⟨since, none, [], some (.error (.transport error))⟩
  | .error _ _ => ⟨since, none, [], none⟩

/-- However a poll ends, its request is the latest on the trace. -/
theorem poll_trace :
    (processor.poll.stateAfter world).trace =
      .request processor.record.userId world.clock
        (.sync processor.record.cursor? processor.record.filter? processor.settings.timeout) ::
          world.trace := by
  rw [Act.stateAfter, poll, World.pollFeed, World.ask_apply]
  cases world.environment.respond world.trace processor.record.userId
    (.sync processor.record.cursor? processor.record.filter? processor.settings.timeout) <;> rfl

theorem pollOf_since : (processor.pollOf behaviour world).since = processor.record.cursor? := by
  have hasked : askedSince (processor.poll.stateAfter world).trace = processor.record.cursor? := by
    rw [poll_trace]
    rfl
  unfold pollOf
  split <;> exact hasked

theorem pollOf_of_batch {batch : Batch} {answered : World Handler}
    (hpoll : processor.poll world = .ok (.ok (some batch)) answered) :
    ∃ result next after,
      processor.processBatch behaviour batch answered = .ok (result, next) after ∧
      processor.pollOf behaviour world =
        ⟨processor.record.cursor?, some batch, processor.deliveredOf behaviour batch answered,
          some result⟩ := by
  have hsince := processor.pollOf_since behaviour world
  rcases processor.processBatch_cases behaviour batch answered with
    ⟨error, after, -, hprocess⟩ | ⟨report, applied, result, after, -, hprocess, -⟩
  · refine ⟨_, _, _, hprocess, ?_⟩
    rw [← hsince]
    simp only [pollOf, hpoll, hprocess]
  · refine ⟨_, _, _, hprocess, ?_⟩
    rw [← hsince]
    simp only [pollOf, hpoll, hprocess]

/-- Without a batch, nothing is settled. -/
theorem pollOf_settlesNone_of_no_batch
    (h : (processor.pollOf behaviour world).batch = none) (userId : String) :
    (processor.pollOf behaviour world).SettlesNone userId := by
  rintro batch ⟨hbatch, -⟩
  rw [h] at hbatch
  cases hbatch

/-- A batch is settled exactly if it could be applied. -/
theorem pollOf_settles_iff {batch : Batch} {answered : World Handler}
    (hpoll : processor.poll world = .ok (.ok (some batch)) answered) :
    (processor.pollOf behaviour world).Settles processor.record.userId batch ↔
      ∃ report after, processor.applyBatch behaviour batch answered = .ok (.ok report) after := by
  obtain ⟨result, next, after, -, hrecord⟩ :=
    processor.pollOf_of_batch behaviour world hpoll
  rw [applyBatch_eq_ok_iff, Poll.Settles, hrecord]
  simp

/-- The record moves to the cursor of a batch that was settled, and only then. -/
theorem step_moves {result : Option (Except SyncError BatchReport)} {next : SyncProcessor}
    {after : World Handler}
    (hstep : processor.step behaviour world = .ok (result, next) after) :
    next.record.userId = processor.record.userId ∧
      ((∃ batch, (processor.pollOf behaviour world).Settles processor.record.userId batch ∧
          next.record.nextBatch = batch.nextBatch) ∨
        ((processor.pollOf behaviour world).SettlesNone processor.record.userId ∧
          next.record = processor.record)) := by
  obtain ⟨answer, answered, hpoll, hstep⟩ := Act.bind_eq_ok.mp hstep
  rcases answer with error | _ | batch
  · cases hstep
    refine ⟨rfl, .inr ⟨?_, rfl⟩⟩
    exact pollOf_settlesNone_of_no_batch _ _ _ (by simp only [pollOf, hpoll]) _
  · cases hstep
    refine ⟨rfl, .inr ⟨?_, rfl⟩⟩
    exact pollOf_settlesNone_of_no_batch _ _ _ (by simp only [pollOf, hpoll]) _
  · obtain ⟨⟨outcome, moved⟩, processed, hprocess, hstep⟩ := Act.bind_eq_ok.mp hstep
    cases hstep
    have hsettles := processor.pollOf_settles_iff behaviour world hpoll
    rcases processor.processBatch_cases behaviour batch answered with
      ⟨error, reached, happly, hcase⟩ | ⟨report, applied, _, reached, happly, hcase, -⟩
    · rw [hcase] at hprocess
      cases hprocess
      refine ⟨rfl, .inr ⟨?_, rfl⟩⟩
      rintro other hother
      obtain ⟨result, next, after, -, hrecord⟩ :=
        processor.pollOf_of_batch behaviour world hpoll
      have hsame : other = batch := by
        have := hother.1
        rw [hrecord] at this
        exact (Option.some.inj this).symm
      rw [hsame] at hother
      obtain ⟨report, other, hother⟩ := hsettles.mp hother
      rw [happly] at hother
      cases hother
    · rw [hcase] at hprocess
      cases hprocess
      exact ⟨rfl, .inl ⟨batch, hsettles.mpr ⟨report, applied, happly⟩, rfl⟩⟩

end SyncProcessor

namespace SyncLoop

variable {Handler : Type} {behaviour : Behaviour Handler}

/-- The polls that a turn of a loop makes: one if it is ready to poll. -/
def pollsOf (loop : SyncLoop) (behaviour : Behaviour Handler) (world : World Handler) :
    List Poll :=
  match loop.state with
  | .ready .poll => [loop.processor.pollOf behaviour world]
  | _ => []

theorem pollsOf_of_no_poll {loop : SyncLoop} {world : World Handler}
    (hpoll : loop.state ≠ .ready .poll) : loop.pollsOf behaviour world = [] := by
  unfold pollsOf
  split
  · exact absurd ‹_› hpoll
  · rfl

/-- A loop goes from one state in one world to another with a history of polls.  It takes
turns of its own, and in between anything may happen to the world. -/
inductive Run (behaviour : Behaviour Handler) (first : SyncLoop) (start : World Handler) :
    List Poll → SyncLoop → World Handler → Prop where
  | refl : Run behaviour first start [] first start
  | meanwhile {polls : List Poll} {loop : SyncLoop} {world : World Handler}
      (other : World Handler) : Run behaviour first start polls loop world →
      Run behaviour first start polls loop other
  | turn {polls : List Poll} {loop next : SyncLoop} {world after : World Handler} :
      Run behaviour first start polls loop world →
      loop.turnSafely behaviour world = .ok next after →
      Run behaviour first start (polls ++ loop.pollsOf behaviour world) next after

end SyncLoop

/-! ### What one turn does to the cursor -/

namespace SyncProcessor

variable {Handler : Type} {processor next : SyncProcessor} {world after : World Handler}
  {result : Except SyncError Unit}

theorem ensureFilter_keeps_cursor
    (h : processor.ensureFilter world = .ok (result, next) after) :
    next.record.userId = processor.record.userId ∧
      next.record.nextBatch = processor.record.nextBatch := by
  unfold ensureFilter at h
  split at h
  · cases h
    exact ⟨rfl, rfl⟩
  · obtain ⟨created, asked, -, h⟩ := Act.bind_eq_ok.mp h
    cases created with
    | error error =>
        cases h
        exact ⟨rfl, rfl⟩
    | ok filterId =>
        obtain ⟨written, stored, -, h⟩ := Act.bind_eq_ok.mp h
        cases written <;> cases h <;> exact ⟨rfl, rfl⟩

/-- Preparing changes neither the user nor the cursor. -/
theorem prepare_keeps_cursor (h : processor.prepare world = .ok (result, next) after) :
    next.record.userId = processor.record.userId ∧
      next.record.nextBatch = processor.record.nextBatch := by
  obtain ⟨identity, asked, -, h⟩ := Act.bind_eq_ok.mp h
  cases identity with
  | error error =>
      cases h
      exact ⟨rfl, rfl⟩
  | ok actual =>
      dsimp only at h
      split at h
      · cases h
        exact ⟨rfl, rfl⟩
      · exact ensureFilter_keeps_cursor h

end SyncProcessor

namespace SyncLoop

variable {Handler : Type} {behaviour : Behaviour Handler} {loop next : SyncLoop}
  {world after : World Handler}

theorem turnSafely_of_ok (h : loop.turn behaviour world = .ok next after) :
    loop.turnSafely behaviour world = .ok next after := by
  rw [turnSafely, Act.bind_apply, Act.attempt_of_ok h]
  rfl

theorem turnSafely_of_panic {panic : Panic} (h : loop.turn behaviour world = .error panic after) :
    loop.turnSafely behaviour world = .ok { loop with state := .ended } after := by
  rw [turnSafely, Act.bind_apply, Act.attempt_of_panic h]
  rfl

/-- A turn ends as the errand does, or ends the loop if the errand panics. -/
theorem turn_cases_of_turnSafely (h : loop.turnSafely behaviour world = .ok next after) :
    loop.turn behaviour world = .ok next after ∨
      (∃ panic, loop.turn behaviour world = .error panic after) ∧
        next = { loop with state := .ended } := by
  cases hturn : loop.turn behaviour world with
  | ok value reached =>
      rw [turnSafely_of_ok hturn] at h
      cases h
      exact .inl rfl
  | error panic reached =>
      rw [turnSafely_of_panic hturn] at h
      cases h
      exact .inr ⟨⟨panic, rfl⟩, rfl⟩

/-- A turn that is not a poll changes neither the user nor the cursor. -/
theorem turn_keeps_cursor (hstate : loop.state ≠ .ready .poll)
    (h : loop.turn behaviour world = .ok next after) :
    next.processor.record.userId = loop.processor.record.userId ∧
      next.processor.record.nextBatch = loop.processor.record.nextBatch := by
  rcases hready : loop.state with (_ | _) | ⟨errand, wake⟩ | _ | _
  · rw [turn, hready] at h
    obtain ⟨⟨result, prepared⟩, reached, hprepare, h⟩ := Act.bind_eq_ok.mp h
    have hkept := SyncProcessor.prepare_keeps_cursor hprepare
    rcases result with (_ | _ | _ | _) | _
    · cases h
      exact hkept
    · cases h
      exact hkept
    · cases h
      exact hkept
    · obtain ⟨written, stored, -, h⟩ := Act.bind_eq_ok.mp h
      cases h
      exact hkept
    · cases h
      exact hkept
  · exact absurd hready hstate
  · rw [turn, hready] at h
    obtain ⟨seen, reached, -, h⟩ := Act.bind_eq_ok.mp h
    split at h
    · cases h
      exact ⟨rfl, rfl⟩
    · cases h
      exact ⟨rfl, rfl⟩
  · rw [turn, hready] at h
    cases h
    exact ⟨rfl, rfl⟩
  · rw [turn, hready] at h
    cases h
    exact ⟨rfl, rfl⟩

theorem turn_ready_poll (hstate : loop.state = .ready .poll) :
    loop.turn behaviour = loop.turnPoll behaviour := by
  rw [turn, hstate]

/-- A turn that polls moves the cursor if it settles a batch, and leaves the record alone if
not. -/
theorem turn_moves (hstate : loop.state = .ready .poll)
    (h : loop.turn behaviour world = .ok next after) :
    next.processor.record.userId = loop.processor.record.userId ∧
      ((∃ batch, (loop.processor.pollOf behaviour world).Settles
            loop.processor.record.userId batch ∧
          next.processor.record.nextBatch = batch.nextBatch) ∨
        ((loop.processor.pollOf behaviour world).SettlesNone loop.processor.record.userId ∧
          next.processor.record = loop.processor.record)) := by
  rw [turn_ready_poll hstate] at h
  obtain ⟨⟨result, stepped⟩, reached, hstep, h⟩ := Act.bind_eq_ok.mp h
  have hmoved := loop.processor.step_moves behaviour world hstep
  rcases result with _ | _ | _
  · cases h
    exact hmoved
  · cases h
    exact hmoved
  · cases h
    exact hmoved

/-- A poll that panics settles nothing. -/
theorem settlesNone_of_panic {panic : Panic} (hstate : loop.state = .ready .poll)
    (h : loop.turn behaviour world = .error panic after) (userId : String) :
    (loop.processor.pollOf behaviour world).SettlesNone userId := by
  refine SyncProcessor.pollOf_settlesNone_of_no_batch _ _ _ ?_ userId
  cases hpoll : loop.processor.poll world with
  | error panic reached => simp only [SyncProcessor.pollOf, hpoll]
  | ok answer answered =>
      rcases answer with error | _ | batch
      · simp only [SyncProcessor.pollOf, hpoll]
      · simp only [SyncProcessor.pollOf, hpoll]
      · obtain ⟨result, moved, processed, hprocess, -⟩ :=
          loop.processor.pollOf_of_batch behaviour world hpoll
        have hstep : loop.processor.step behaviour world = .ok (some result, moved) processed := by
          rw [SyncProcessor.step, Act.bind_apply, hpoll]
          exact Act.bind_eq_ok.mpr ⟨_, _, hprocess, rfl⟩
        obtain ⟨next, reached, hturn⟩ :
            ∃ next reached, loop.turn behaviour world = .ok next reached := by
          rw [turn_ready_poll hstate]
          rcases result with error | report
          · exact ⟨_, _, Act.bind_eq_ok.mpr ⟨_, _, hstep, rfl⟩⟩
          · exact ⟨_, _, Act.bind_eq_ok.mpr ⟨_, _, hstep, rfl⟩⟩
        rw [hturn] at h
        cases h

/-! ### Runs of the program

The program lets a loop take turns in two ways: until it is no longer ready, and until its end.
What every turn preserves, and what goes on to hold while the loop rests, holds after both. -/

/-- A law about a loop and a history to which every turn adds something. -/
structure Persists {γ : Type} (behaviour : Behaviour Handler)
    (added : SyncLoop → World Handler → List γ)
    (law : List γ → SyncLoop → World Handler → Prop) : Prop where
  turn : ∀ {history : List γ} {loop next : SyncLoop} {world after : World Handler},
    law history loop world → loop.turnSafely behaviour world = .ok next after →
    law (history ++ added loop world) next after
  wait : ∀ {history : List γ} {loop : SyncLoop} {world : World Handler} {errand : Errand}
    {wake time : Nat}, law history loop world → loop.state = .resting errand wake →
    time ≤ wake → law history loop { world with clock := max world.clock time }
  /-- Nothing is added by the turn that ends a rest. -/
  rested : ∀ {loop : SyncLoop} {errand : Errand} {wake : Nat},
    loop.state = .resting errand wake → ∀ world, added loop world = []

theorem pollsOf_of_resting {errand : Errand} {wake : Nat}
    (hstate : loop.state = .resting errand wake) (world : World Handler) :
    loop.pollsOf behaviour world = [] :=
  pollsOf_of_no_poll (by simp [hstate])

theorem Run.persists {first : SyncLoop} {start : World Handler} :
    Persists behaviour (fun loop world => loop.pollsOf behaviour world)
      (Run behaviour first start) where
  turn run hturn := run.turn hturn
  wait run _ _ := run.meanwhile _
  rested := pollsOf_of_resting

namespace Persists

variable {γ : Type} {added : SyncLoop → World Handler → List γ}
  {law : List γ → SyncLoop → World Handler → Prop} {history : List γ}

/-- At the end of its rest, a loop is ready for its errand again. -/
theorem wake (hpersists : Persists behaviour added law) {errand : Errand} {wake : Nat}
    (hstate : loop.state = .resting errand wake) (h : law history loop world) :
    law history { loop with state := .ready errand }
      { world with clock := max world.clock wake } := by
  have hturn : loop.turn behaviour { world with clock := max world.clock wake } =
      .ok { loop with state := .ready errand } { world with clock := max world.clock wake } := by
    rw [SyncLoop.turn, hstate]
    exact congrFun (if_pos (Nat.le_max_right _ _)) _
  have hnext := hpersists.turn (hpersists.wait h hstate (Nat.le_refl wake)) (turnSafely_of_ok hturn)
  rwa [hpersists.rested hstate, List.append_nil] at hnext

theorem settle (hpersists : Persists behaviour added law) {turns : Nat}
    (h : law history loop world) (hsettle : loop.settle behaviour turns world = .ok next after) :
    ∃ more, law (history ++ more) next after := by
  induction turns generalizing loop world history with
  | zero =>
      cases hsettle
      exact ⟨[], by rwa [List.append_nil]⟩
  | succ turns ih =>
      rcases hstate : loop.state with errand | _ | _ | _
      · rw [SyncLoop.settle, hstate] at hsettle
        obtain ⟨turned, reached, hturn, hsettle⟩ := Act.bind_eq_ok.mp hsettle
        obtain ⟨more, h⟩ := ih (hpersists.turn h hturn) hsettle
        exact ⟨_, by rwa [List.append_assoc] at h⟩
      all_goals
        rw [SyncLoop.settle, hstate] at hsettle
        cases hsettle
        exact ⟨[], by rwa [List.append_nil]⟩

theorem run (hpersists : Persists behaviour added law) {deadline : Option Nat} {turns : Nat}
    {ending : RunEnd} (h : law history loop world)
    (hrun : loop.run behaviour deadline turns world = .ok (ending, next) after) :
    ∃ more, law (history ++ more) next after := by
  induction turns generalizing loop world history with
  | zero =>
      cases hrun
      exact ⟨[], by rwa [List.append_nil]⟩
  | succ turns ih =>
      rcases hstate : loop.state with errand | ⟨errand, wake⟩ | _ | _
      · rw [SyncLoop.run, hstate] at hrun
        obtain ⟨turned, reached, hturn, hrun⟩ := Act.bind_eq_ok.mp hrun
        obtain ⟨more, h⟩ := ih (hpersists.turn h hturn) hrun
        exact ⟨_, by rwa [List.append_assoc] at h⟩
      · rw [SyncLoop.run, hstate] at hrun
        cases hdeadline : deadline.filter fun time => time < wake with
        | some time =>
            have hbefore : time < wake := by simpa using (Option.filter_eq_some_iff.mp hdeadline).2
            simp only [hdeadline] at hrun
            cases hrun
            exact ⟨[], by
              rw [List.append_nil]
              exact hpersists.wait h hstate (Nat.le_of_lt hbefore)⟩
        | none =>
            simp only [hdeadline] at hrun
            obtain ⟨_, waited, hwait, hrun⟩ := Act.bind_eq_ok.mp hrun
            cases hwait
            exact ih (hpersists.wake hstate h) hrun
      all_goals
        rw [SyncLoop.run, hstate] at hrun
        cases hrun
        exact ⟨[], by rwa [List.append_nil]⟩

end Persists

/-! ### The law of the history -/

/-- What a turn adds to the history, and where it leaves the cursor. -/
theorem turnSafely_cases (h : loop.turnSafely behaviour world = .ok next after) :
    next.processor.record.userId = loop.processor.record.userId ∧
      ((loop.pollsOf behaviour world = [] ∧
          next.processor.record.cursor? = loop.processor.record.cursor?) ∨
        (loop.pollsOf behaviour world = [loop.processor.pollOf behaviour world] ∧
          ((∃ batch, (loop.processor.pollOf behaviour world).Settles
                loop.processor.record.userId batch ∧
              next.processor.record.cursor? = batch.cursor?) ∨
            ((loop.processor.pollOf behaviour world).SettlesNone
                loop.processor.record.userId ∧
              next.processor.record.cursor? = loop.processor.record.cursor?)))) := by
  by_cases hstate : loop.state = .ready .poll
  · have hpolls : loop.pollsOf behaviour world = [loop.processor.pollOf behaviour world] := by
      rw [pollsOf, hstate]
    rcases turn_cases_of_turnSafely h with hturn | ⟨⟨panic, hturn⟩, rfl⟩
    · obtain ⟨huser, ⟨batch, hsettles, hcursor⟩ | ⟨hnone, hrecord⟩⟩ := turn_moves hstate hturn
      · refine ⟨huser, .inr ⟨hpolls, .inl ⟨batch, hsettles, ?_⟩⟩⟩
        rw [AccountRecord.cursor?, hcursor, Batch.cursor?]
      · exact ⟨huser, .inr ⟨hpolls, .inr ⟨hnone, by rw [hrecord]⟩⟩⟩
    · exact ⟨rfl, .inr ⟨hpolls, .inr ⟨settlesNone_of_panic hstate hturn _, rfl⟩⟩⟩
  · have hpolls : loop.pollsOf behaviour world = [] := pollsOf_of_no_poll hstate
    rcases turn_cases_of_turnSafely h with hturn | ⟨-, rfl⟩
    · obtain ⟨huser, hcursor⟩ := turn_keeps_cursor hstate hturn
      refine ⟨huser, .inl ⟨hpolls, ?_⟩⟩
      rw [AccountRecord.cursor?, hcursor, AccountRecord.cursor?]
    · exact ⟨rfl, .inl ⟨hpolls, rfl⟩⟩

namespace Run

variable {first : SyncLoop} {start : World Handler} {polls : List Poll}

/-- The loop of a run holds the cursor that follows its history, for the user it began
with. -/
theorem cursorAfter (run : Run behaviour first start polls loop world) :
    loop.processor.record.userId = first.processor.record.userId ∧
      CursorAfter first.processor.record.userId first.processor.record.cursor? polls
        loop.processor.record.cursor? := by
  induction run with
  | refl => exact ⟨rfl, .nil⟩
  | meanwhile other run ih => exact ih
  | turn run hturn ih =>
      obtain ⟨huser, hcursor⟩ := ih
      obtain ⟨hnext, ⟨hpolls, hkept⟩ | ⟨hpolls, ⟨batch, hsettles, hmoved⟩ | ⟨hnone, hkept⟩⟩⟩ :=
        turnSafely_cases hturn
      · rw [hpolls, List.append_nil, hkept]
        exact ⟨hnext.trans huser, hcursor⟩
      · rw [hpolls, hmoved]
        rw [huser] at hsettles
        refine ⟨hnext.trans huser, CursorAfter.append_singleton_iff.mpr ?_⟩
        exact .inl ⟨batch, hsettles, rfl⟩
      · rw [hpolls, hkept]
        rw [huser] at hnone
        exact ⟨hnext.trans huser, CursorAfter.append_singleton_iff.mpr (.inr ⟨hnone, hcursor⟩)⟩

/-- Every poll of a run asks from the cursor that follows the polls before it. -/
theorem since_follows (run : Run behaviour first start polls loop world) {earlier later : List Poll}
    {poll : Poll} (hpolls : polls = earlier ++ poll :: later) :
    CursorAfter first.processor.record.userId first.processor.record.cursor? earlier
      poll.since := by
  induction run generalizing later with
  | refl => simp at hpolls
  | meanwhile other run ih => exact ih hpolls
  | turn run hturn ih =>
      obtain ⟨-, ⟨hnew, -⟩ | ⟨hnew, -⟩⟩ := turnSafely_cases hturn
      · rw [hnew, List.append_nil] at hpolls
        exact ih hpolls
      · rw [hnew] at hpolls
        rcases List.eq_nil_or_concat later with rfl | ⟨shorter, last, rfl⟩
        · obtain ⟨rfl, hpoll⟩ := List.append_inj' hpolls rfl
          obtain rfl := (List.cons.inj hpoll).1
          rw [SyncProcessor.pollOf_since]
          exact run.cursorAfter.2
        · rw [List.concat_eq_append, ← List.cons_append, ← List.append_assoc] at hpolls
          exact ih (List.append_inj' hpolls rfl).1

/-- If the account begins with a cursor and every batch brings one, every poll has a cursor. -/
theorem since_ne_none (run : Run behaviour first start polls loop world)
    (hinitial : first.processor.record.cursor? ≠ none)
    (hbatches : ∀ poll ∈ polls, ∀ batch, poll.batch = some batch → batch.nextBatch ≠ "")
    {poll : Poll} (hmem : poll ∈ polls) : poll.since ≠ none := by
  obtain ⟨earlier, later, rfl⟩ := List.append_of_mem hmem
  rcases run.since_follows rfl with
    ⟨before, settling, after, batch, rfl, hsettles, -, hcursor⟩ | ⟨-, hcursor⟩
  · have hbatch := hbatches settling (by simp) batch hsettles.1
    rw [hcursor, Batch.cursor?, if_neg hbatch]
    exact Option.some_ne_none _
  · rwa [hcursor]

end Run

section Scene

open SecondBatch

end Scene

end SyncLoop

end BotHost
