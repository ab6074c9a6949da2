/-
# When a loop tries again

A loop does one errand at a time, and every failure is followed by a rest.  This module watches the
errands of a loop by the clock: when each was begun and what came of it.  The clock is virtual:
`SyncLoop.Attempts` lets it move while the loop rests, at most to the end of the rest, and nothing
that the loop asks for takes time.  Handlers are somebody else's code, so that they take none is an
assumption about them.

Whatever goes wrong, an errand is begun when as many retry delays have passed as errands have failed
before it, `SyncLoop.Timely`.  The polls of a loop that runs by itself can be read off the
trace with their times, and these are the times of its attempts to poll.
-/

import BotHost.Proofs.Host.Polls
import BotHost.Proofs.Sync.Identity

namespace BotHost

/-! ### Attempts -/

/-- One attempt at an errand as it can be watched. -/
structure Attempt where
  errand : Errand
  /-- When it was begun, on the clock. -/
  time : Nat
  /-- What came of it; nothing if the feed stays silent or the transport panics. -/
  result : Option (Except SyncError Unit)

namespace Attempt

/-- Whether a failure was reported: of a request, of the store, or of a handler. -/
def failed (attempt : Attempt) : Bool :=
  match attempt.result with
  | some (.error _) => true
  | _ => false

/-- When the next errand is due: at once behind a success, and one delay later behind a failure,
unless the token is somebody else's. -/
def next? (delay : Nat) (attempt : Attempt) : Option Nat :=
  match attempt.result with
  | some (.ok _) => some attempt.time
  | some (.error (.identityMismatch ..)) => none
  | some (.error _) => some (attempt.time + delay)
  | none => none

theorem eq_of_next? {attempt : Attempt} {delay time : Nat} (h : attempt.next? delay = some time) :
    time = attempt.time + if attempt.failed then delay else 0 := by
  unfold next? at h
  unfold failed
  split at h
  · rename_i hresult
    cases h
    simp [hresult]
  · cases h
  · rename_i hresult
    cases h
    simp [hresult]
  · cases h

end Attempt

namespace SyncProcessor

variable {Handler : Type}

/-- What one attempt at an errand amounts to. -/
def attemptOf (processor : SyncProcessor) (behaviour : Behaviour Handler) (errand : Errand)
    (world : World Handler) : Attempt where
  errand := errand
  time := world.clock
  result :=
    match errand with
    | .prepare =>
      match processor.prepare world with
      | .ok (result, _) _ => some result
      | .error _ _ => none
    | .poll =>
      match processor.step behaviour world with
      | .ok (result, _) _ => result.map fun outcome => outcome.map fun _ => ()
      | .error _ _ => none

end SyncProcessor

namespace SyncLoop

variable {Handler : Type}

/-- When a loop does its next errand, if the clock shows a time now; a loop that listens to its feed
or has ended does none. -/
def dueAt? (loop : SyncLoop) (clock : Nat) : Option Nat :=
  match loop.state with
  | .ready _ => some clock
  | .resting _ wake => some wake
  | .listening => none
  | .ended => none

/-- The attempts that a turn of a loop makes: one if it is ready. -/
def attemptsOf (loop : SyncLoop) (behaviour : Behaviour Handler) (world : World Handler) :
    List Attempt :=
  match loop.state with
  | .ready errand => [loop.processor.attemptOf behaviour errand world]
  | _ => []

/-- A loop goes from one state in one world to another by its attempts, on a virtual clock.  In
between its turns anything may happen to the world, but time passes only up to the next errand. -/
inductive Attempts (behaviour : Behaviour Handler) (first : SyncLoop) (start : World Handler) :
    List Attempt → SyncLoop → World Handler → Prop where
  | refl : Attempts behaviour first start [] first start
  | meanwhile {attempts : List Attempt} {loop : SyncLoop} {world : World Handler}
      (other : World Handler) : Attempts behaviour first start attempts loop world →
      world.clock ≤ other.clock →
      (∀ time, loop.dueAt? world.clock = some time → other.clock ≤ time) →
      Attempts behaviour first start attempts loop other
  | turn {attempts : List Attempt} {loop next : SyncLoop} {world after : World Handler} :
      Attempts behaviour first start attempts loop world →
      loop.turnSafely behaviour world = .ok next after →
      Attempts behaviour first start (attempts ++ loop.attemptsOf behaviour world) next after

end SyncLoop

/-! ### Polls on the trace -/

/-- The time at which an occurrence polls the feed of a user, if it does. -/
def Occurrence.polledAt? (userId : String) : Occurrence → Option Nat
  | .request user time (.sync ..) => if user = userId then some time else none
  | _ => none

theorem Occurrence.polledAt?_of_isRoutine {userId : String} {occurrence : Occurrence}
    (hroutine : occurrence.isRoutine = true) : occurrence.polledAt? userId = none := by
  cases occurrence with
  | request user time request =>
      cases request with
      | sync => cases hroutine
      | _ => rfl
  | _ => rfl

namespace World

variable {Handler : Type}

/-- The times at which the feed of a user has been polled, in order. -/
def pollTimesOf (world : World Handler) (userId : String) : List Nat :=
  (world.trace.filterMap (Occurrence.polledAt? userId)).reverse

theorem unstored_pollTimesOf : Unstored (@pollTimesOf Handler) where
  trace world occurrence hroutine := by
    funext userId
    simp [pollTimesOf, Occurrence.polledAt?_of_isRoutine hroutine]
  rooms _ _ := rfl
  compiled _ _ _ _ _ := rfl
  store _ _ := rfl

end World

/-- The times of the attempts to poll. -/
def Attempt.pollTimes (attempts : List Attempt) : List Nat :=
  (attempts.filter fun attempt => attempt.errand == .poll).map (·.time)

/-! ### One turn -/

namespace SyncProcessor

variable {Handler : Type} {processor next : SyncProcessor} {world after : World Handler}

theorem settings_of_ensureFilter {result : Except SyncError Unit}
    (h : processor.ensureFilter world = .ok (result, next) after) :
    next.settings = processor.settings := by
  unfold ensureFilter at h
  split at h
  · cases h
    rfl
  · obtain ⟨created, asked, -, h⟩ := Act.bind_eq_ok.mp h
    cases created with
    | error error =>
        cases h
        rfl
    | ok filterId =>
        obtain ⟨written, stored, -, h⟩ := Act.bind_eq_ok.mp h
        cases written <;> cases h <;> rfl

/-- Preparing leaves the settings alone. -/
theorem settings_of_prepare {result : Except SyncError Unit}
    (h : processor.prepare world = .ok (result, next) after) :
    next.settings = processor.settings := by
  obtain ⟨identity, asked, -, h⟩ := Act.bind_eq_ok.mp h
  cases identity with
  | error error =>
      cases h
      rfl
  | ok actual =>
      dsimp only at h
      split at h
      · cases h
        rfl
      · exact settings_of_ensureFilter h

/-- So do a poll and what is done with its batch. -/
theorem settings_of_step {behaviour : Behaviour Handler}
    {result : Option (Except SyncError BatchReport)}
    (h : processor.step behaviour world = .ok (result, next) after) :
    next.settings = processor.settings := by
  obtain ⟨answer, answered, -, h⟩ := Act.bind_eq_ok.mp h
  rcases answer with error | _ | batch
  · cases h
    rfl
  · cases h
    rfl
  · obtain ⟨⟨outcome, moved⟩, processed, hprocess, h⟩ := Act.bind_eq_ok.mp h
    cases h
    rcases processor.processBatch_cases behaviour batch answered with
      ⟨error, reached, -, hcase⟩ | ⟨report, applied, result, reached, -, hcase, -⟩
    · rw [hcase] at hprocess
      cases hprocess
      rfl
    · rw [hcase] at hprocess
      cases hprocess
      rfl

/-- Whose token it is, does not show while a batch is applied. -/
theorem applyBatch_ne_identityMismatch {behaviour : Behaviour Handler} {batch : Batch}
    {expected actual : String} :
    processor.applyBatch behaviour batch world ≠
      .ok (.error (.identityMismatch expected actual)) after := by
  intro h
  by_cases hcursor : processor.record.cursor? = none
  · rw [processor.applyBatch_of_no_cursor batch world hcursor] at h
    cases h
  · rw [processor.applyBatch_of_cursor batch world hcursor] at h
    split at h <;> cases h

/-- Nor does it show in a poll. -/
theorem step_ne_identityMismatch {behaviour : Behaviour Handler} {expected actual : String} :
    processor.step behaviour world ≠
      .ok (some (.error (.identityMismatch expected actual)), next) after := by
  intro h
  obtain ⟨answer, answered, -, h⟩ := Act.bind_eq_ok.mp h
  rcases answer with error | _ | batch
  · cases h
  · cases h
  · obtain ⟨⟨outcome, moved⟩, processed, hprocess, h⟩ := Act.bind_eq_ok.mp h
    cases h
    rcases processor.processBatch_cases behaviour batch answered with
      ⟨error, reached, happly, hcase⟩ | ⟨report, applied, result, reached, -, hcase, hresult⟩
    · rw [hcase] at hprocess
      cases hprocess
      exact applyBatch_ne_identityMismatch happly
    · rw [hcase] at hprocess
      cases hprocess
      obtain ⟨error, herror, -⟩ | ⟨hok, -⟩ := hresult
      · cases herror
      · cases hok

/-- A poll and what is done with its batch take no time if the handlers take none. -/
theorem step_keeps_clock {behaviour : Behaviour Handler} (h : behaviour.Keeps World.clock) :
    (processor.step behaviour).Keeps World.clock := by
  apply (processor.poll_keeps fun _ _ _ _ => rfl).bind
  intro answer
  rcases answer with _ | _ | batch
  · exact Act.keeps_pure _
  · exact Act.keeps_pure _
  · exact (processor.processBatch_keeps World.unstored_clock h batch).bind fun _ => Act.keeps_pure _

end SyncProcessor

namespace SyncLoop

variable {Handler : Type} {behaviour : Behaviour Handler} {loop next : SyncLoop}
  {world after : World Handler} {errand : Errand}

/-- A loop that rests has its errand due when the retry delay is over. -/
theorem rest_due (loop : SyncLoop) (errand : Errand) (world : World Handler) :
    ∃ next, loop.rest errand world = .ok next world ∧ next.processor = loop.processor ∧
      next.dueAt? world.clock = some (world.clock + loop.retryDelay) := by
  refine ⟨_, rfl, rfl, ?_⟩
  by_cases hdelay : loop.retryDelay = 0
  · simp [dueAt?, hdelay]
  · simp [dueAt?, hdelay]

/-- Switching the feed off ends the loop. -/
theorem switchOff_due (loop : SyncLoop) (world : World Handler) :
    ∃ next after, loop.switchOff world = .ok next after ∧
      next.processor.settings = loop.processor.settings ∧ next.state = .ended := by
  obtain ⟨result, after, hwrite, -⟩ :=
    World.updateAccount_cases { loop.processor.record with sync := false } world
  exact ⟨_, after, Act.bind_eq_ok.mpr ⟨result, after, hwrite, rfl⟩, rfl, rfl⟩

/-- What a turn that polls makes of its poll. -/
theorem turnPoll_apply (loop : SyncLoop) (behaviour : Behaviour Handler) (world : World Handler) :
    loop.turnPoll behaviour world =
      match loop.processor.step behaviour world with
      | .error panic after => .error panic after
      | .ok (none, processor) after => .ok ⟨processor, .listening⟩ after
      | .ok (some (.ok _), processor) after => .ok ⟨processor, loop.state⟩ after
      | .ok (some (.error _), processor) after => rest ⟨processor, loop.state⟩ .poll after := by
  rw [turnPoll, Act.bind_apply]
  rcases loop.processor.step behaviour world with ⟨⟨_ | _ | _, _⟩, _⟩ | _ <;> rfl

/-- How a turn at an errand ends: it panics, or the next errand is due when the attempt says so. -/
inductive TurnCase (loop : SyncLoop) (attempt : Attempt) :
    EStateM.Result Panic (World Handler) SyncLoop → Prop where
  | panicked {panic : Panic} {after : World Handler} : attempt.result = none →
      TurnCase loop attempt (.error panic after)
  | done {next : SyncLoop} {after : World Handler} :
      next.processor.settings = loop.processor.settings → after.clock = attempt.time →
      next.dueAt? after.clock = attempt.next? loop.retryDelay →
      TurnCase loop attempt (.ok next after)

/-- A turn that rests is done: the errand is due one delay after the attempt. -/
theorem turnCase_rest {attempt : Attempt} {processor : SyncProcessor}
    (hsettings : processor.settings = loop.processor.settings)
    (hclock : after.clock = attempt.time)
    (hnext : attempt.next? loop.retryDelay = some (attempt.time + loop.retryDelay)) :
    TurnCase loop attempt (rest ⟨processor, loop.state⟩ errand after) := by
  obtain ⟨next, hrest, hprocessor, hdue⟩ := rest_due ⟨processor, loop.state⟩ errand after
  have hdelay : retryDelay ⟨processor, loop.state⟩ = loop.retryDelay := by
    rw [retryDelay, hsettings, retryDelay]
  rw [hrest]
  refine .done (by rw [hprocessor, hsettings]) hclock ?_
  rw [hdue, hnext, hdelay, hclock]

theorem turnPrepare_case (loop : SyncLoop) (behaviour : Behaviour Handler)
    (world : World Handler) :
    TurnCase loop (loop.processor.attemptOf behaviour .prepare world) (loop.turnPrepare world) := by
  rw [turnPrepare_apply]
  generalize hattempt : loop.processor.attemptOf behaviour .prepare world = attempt
  have htime : attempt.time = world.clock := hattempt ▸ rfl
  have hresult := congrArg Attempt.result hattempt
  cases hprepare : loop.processor.prepare world with
  | error panic reached =>
      simp only [SyncProcessor.attemptOf, hprepare] at hresult
      exact .panicked hresult.symm
  | ok prepared reached =>
      obtain ⟨result, processor⟩ := prepared
      simp only [SyncProcessor.attemptOf, hprepare] at hresult
      have hsettings := SyncProcessor.settings_of_prepare hprepare
      have hkeeps := loop.processor.prepare_keeps (@World.unstored_clock Handler).toUnasked
      have hclock : reached.clock = attempt.time := (hkeeps.eq_of_ok hprepare).trans htime.symm
      rcases result with (_ | _ | _ | _) | _
      case ok =>
        refine .done hsettings hclock ?_
        simp [dueAt?, Attempt.next?, ← hresult, hclock]
      case error.identityMismatch =>
        obtain ⟨next, after, hact, hkept, hended⟩ :=
          switchOff_due ⟨processor, loop.state⟩ reached
        have hafter : after.clock = reached.clock :=
          (switchOff_keeps _ World.unstored_clock.toUnasked).eq_of_ok hact
        dsimp only
        rw [hact]
        refine .done (hkept.trans hsettings) (hafter.trans hclock) ?_
        simp [dueAt?, hended, Attempt.next?, ← hresult]
      all_goals exact turnCase_rest hsettings hclock (by simp [Attempt.next?, ← hresult])

theorem turnPoll_case (loop : SyncLoop) (hstate : loop.state = .ready .poll)
    (hbehaviour : behaviour.Keeps World.clock) (world : World Handler) :
    TurnCase loop (loop.processor.attemptOf behaviour .poll world)
      (loop.turnPoll behaviour world) := by
  rw [turnPoll_apply]
  generalize hattempt : loop.processor.attemptOf behaviour .poll world = attempt
  have htime : attempt.time = world.clock := hattempt ▸ rfl
  have hresult := congrArg Attempt.result hattempt
  cases hstep : loop.processor.step behaviour world with
  | error panic reached =>
      simp only [SyncProcessor.attemptOf, hstep] at hresult
      exact .panicked hresult.symm
  | ok stepped reached =>
      obtain ⟨result, processor⟩ := stepped
      simp only [SyncProcessor.attemptOf, hstep] at hresult
      have hsettings := SyncProcessor.settings_of_step hstep
      have hclock : reached.clock = attempt.time :=
        ((SyncProcessor.step_keeps_clock hbehaviour).eq_of_ok hstep).trans htime.symm
      rcases result with _ | (_ | _ | _ | _) | _
      case none =>
        refine .done hsettings hclock ?_
        simp [dueAt?, Attempt.next?, ← hresult]
      case some.ok =>
        refine .done hsettings hclock ?_
        simp [dueAt?, hstate, Attempt.next?, ← hresult, hclock, Except.map]
      case some.error.identityMismatch => exact absurd hstep SyncProcessor.step_ne_identityMismatch
      all_goals
        exact turnCase_rest hsettings hclock (by simp [Attempt.next?, ← hresult, Except.map])

/-- Behind a turn at an errand, the next errand is due when the attempt says so. -/
theorem due_of_turnSafely (hstate : loop.state = .ready errand)
    (hbehaviour : behaviour.Keeps World.clock)
    (h : loop.turnSafely behaviour world = .ok next after) :
    next.processor.settings = loop.processor.settings ∧
      next.dueAt? after.clock =
        (loop.processor.attemptOf behaviour errand world).next? loop.retryDelay ∧
      ∀ time, next.dueAt? after.clock = some time → after.clock ≤ time := by
  have hcase : TurnCase loop (loop.processor.attemptOf behaviour errand world)
      (loop.turn behaviour world) := by
    cases errand with
    | prepare =>
        rw [turn, hstate]
        exact loop.turnPrepare_case behaviour world
    | poll =>
        rw [turn_ready_poll hstate]
        exact loop.turnPoll_case hstate hbehaviour world
  obtain hturn | ⟨⟨panic, hturn⟩, rfl⟩ := turn_cases_of_turnSafely h
  · rw [hturn] at hcase
    cases hcase with
    | done hsettings hclock hdue =>
        refine ⟨hsettings, hdue, fun time htime => ?_⟩
        rw [hclock, Attempt.eq_of_next? (hdue.symm.trans htime)]
        exact Nat.le_add_right _ _
  · rw [hturn] at hcase
    cases hcase with
    | panicked hresult =>
        refine ⟨rfl, by simp [dueAt?, Attempt.next?, hresult], fun time htime => ?_⟩
        exact absurd htime (Option.some_ne_none time).symm

/-- A loop without an errand to do now makes no attempt; it may find that its rest is over. -/
theorem due_of_idle (hstate : ∀ errand, loop.state ≠ .ready errand)
    (hclock : ∀ time, loop.dueAt? world.clock = some time → world.clock ≤ time)
    (h : loop.turnSafely behaviour world = .ok next after) :
    loop.attemptsOf behaviour world = [] ∧ next.processor = loop.processor ∧
      after = world ∧ next.dueAt? world.clock = loop.dueAt? world.clock := by
  have hturn : ∃ next, loop.turn behaviour world = .ok next world ∧
      next.processor = loop.processor ∧ next.dueAt? world.clock = loop.dueAt? world.clock := by
    rcases hloop : loop.state with errand | ⟨errand, wake⟩ | _ | _
    · exact absurd hloop (hstate errand)
    · by_cases hwake : wake ≤ world.clock
      · refine ⟨{ loop with state := .ready errand }, ?_, rfl, ?_⟩
        · rw [turn, hloop]
          exact congrFun (if_pos hwake) world
        · -- The clock shows the end of the rest, and no later time.
          have hlate := hclock wake (by rw [dueAt?, hloop])
          simp [dueAt?, hloop, Nat.le_antisymm hwake hlate]
      · refine ⟨loop, ?_, rfl, rfl⟩
        rw [turn, hloop]
        exact congrFun (if_neg hwake) world
    · exact ⟨loop, by rw [turn, hloop]; rfl, rfl, rfl⟩
    · exact ⟨loop, by rw [turn, hloop]; rfl, rfl, rfl⟩
  obtain ⟨turned, hturn, hprocessor, hdue⟩ := hturn
  rw [turnSafely_of_ok hturn] at h
  cases h
  refine ⟨?_, hprocessor, rfl, hdue⟩
  rcases hloop : loop.state with errand | _ | _ | _
  · exact absurd hloop (hstate errand)
  all_goals rw [attemptsOf, hloop]

/-! ### The law -/

/-- How many of some attempts failed. -/
def failures (attempts : List Attempt) : Nat := attempts.countP Attempt.failed

/-- Where a loop stands by the clock, behind its attempts. -/
structure Timely (first : SyncLoop) (start : World Handler) (attempts : List Attempt)
    (loop : SyncLoop) (world : World Handler) : Prop where
  settings_eq : loop.processor.settings = first.processor.settings
  /-- Nothing that is due is past. -/
  clock_le : ∀ time, loop.dueAt? world.clock = some time → world.clock ≤ time
  /-- The next errand is due when the latest attempt says so, and at once if there is none. -/
  due_eq : loop.dueAt? world.clock =
    (attempts.getLast?.map (·.next? first.retryDelay)).getD (first.dueAt? start.clock)
  /-- What is due comes one delay later for every failure. -/
  due_time : ∀ time, loop.dueAt? world.clock = some time →
    time = start.clock + first.retryDelay * failures attempts
  /-- So did all attempts come. -/
  time_eq : ∀ earlier attempt later, attempts = earlier ++ attempt :: later →
    attempt.time = start.clock + first.retryDelay * failures earlier

namespace Attempts

variable {first : SyncLoop} {start : World Handler} {attempts : List Attempt}

/-- A loop that has just begun stands by the clock, and so it does behind every turn. -/
theorem timely (hbehaviour : behaviour.Keeps World.clock) {processor : SyncProcessor}
    (h : Attempts behaviour (.new processor) start attempts loop world) :
    Timely (.new processor) start attempts loop world := by
  induction h with
  | refl =>
      refine ⟨rfl, fun time htime => ?_, rfl, fun time htime => ?_, by simp⟩
      · cases htime
        exact Nat.le_refl _
      · cases htime
        rfl
  | @meanwhile attempts loop world other _ hpast hdue ih =>
      -- What is due stays due: if it is due at once, no time has passed.
      have hsame : loop.dueAt? other.clock = loop.dueAt? world.clock := by
        rcases hstate : loop.state with errand | _ | _ | _
        · have hready : loop.dueAt? world.clock = some world.clock := by rw [dueAt?, hstate]
          rw [Nat.le_antisymm (hdue _ hready) hpast]
        all_goals simp only [dueAt?, hstate]
      exact ⟨ih.settings_eq, fun time htime => hdue time (hsame ▸ htime), hsame ▸ ih.due_eq,
        fun time htime => ih.due_time time (hsame ▸ htime), ih.time_eq⟩
  | @turn attempts loop next world after _ hturn ih =>
      by_cases hready : ∃ errand, loop.state = .ready errand
      · obtain ⟨errand, hstate⟩ := hready
        obtain ⟨hsettings, hdue, hclock⟩ := due_of_turnSafely hstate hbehaviour hturn
        have hdelay : loop.retryDelay = (SyncLoop.new processor).retryDelay := by
          rw [retryDelay, ih.settings_eq, retryDelay]
        have hattempts : loop.attemptsOf behaviour world =
            [loop.processor.attemptOf behaviour errand world] := by rw [attemptsOf, hstate]
        have hnow : world.clock = start.clock +
            (SyncLoop.new processor).retryDelay * failures attempts :=
          ih.due_time _ (by rw [dueAt?, hstate])
        rw [hattempts]
        generalize hattempt : loop.processor.attemptOf behaviour errand world = attempt at hdue
        have htime : attempt.time = world.clock := hattempt ▸ rfl
        rw [hdelay] at hdue
        refine ⟨hsettings.trans ih.settings_eq, hclock, by simpa using hdue,
          fun time hnext => ?_, fun earlier other later hsplit => ?_⟩
        · rw [Attempt.eq_of_next? (hdue.symm.trans hnext), htime, hnow, failures, failures,
            List.countP_append, List.countP_singleton]
          split <;> simp [Nat.mul_add, Nat.add_assoc]
        · rcases List.eq_nil_or_concat later with rfl | ⟨shorter, last, rfl⟩
          · obtain ⟨rfl, hlast⟩ := List.append_inj' hsplit rfl
            rw [← (List.cons.inj hlast).1, htime, hnow]
          · rw [List.concat_eq_append, ← List.cons_append, ← List.append_assoc] at hsplit
            exact ih.time_eq _ _ _ (List.append_inj' hsplit rfl).1
      · obtain ⟨hattempts, hprocessor, rfl, hdue⟩ :=
          due_of_idle (fun errand hstate => hready ⟨errand, hstate⟩) ih.clock_le hturn
        rw [hattempts, List.append_nil]
        exact ⟨hprocessor ▸ ih.settings_eq, fun time htime => ih.clock_le time (hdue ▸ htime),
          hdue.trans ih.due_eq, fun time htime => ih.due_time time (hdue ▸ htime), ih.time_eq⟩

end Attempts

/-! ### Runs of the program -/

theorem turnSafely_total (loop : SyncLoop) (behaviour : Behaviour Handler)
    (world : World Handler) :
    ∃ next after, loop.turnSafely behaviour world = .ok next after := by
  cases hturn : loop.turn behaviour world with
  | ok next after => exact ⟨next, after, turnSafely_of_ok hturn⟩
  | error panic after => exact ⟨_, after, turnSafely_of_panic hturn⟩

/-- A run always comes to a result; a panic only ends the loop. -/
theorem run_total (behaviour : Behaviour Handler) (deadline : Option Nat) (turns : Nat)
    (loop : SyncLoop) (world : World Handler) :
    ∃ ending next after, loop.run behaviour deadline turns world = .ok (ending, next) after := by
  induction turns generalizing loop world with
  | zero => exact ⟨_, _, _, rfl⟩
  | succ turns ih =>
      rcases hstate : loop.state with errand | ⟨errand, wake⟩ | _ | _
      · obtain ⟨turned, reached, hturn⟩ := loop.turnSafely_total behaviour world
        obtain ⟨ending, next, after, hrun⟩ := ih turned reached
        exact ⟨ending, next, after, by
          rw [run, hstate]
          exact Act.bind_eq_ok.mpr ⟨turned, reached, hturn, hrun⟩⟩
      · rw [run, hstate]
        cases hdeadline : deadline.filter fun time => time < wake with
        | some time =>
            simp only [hdeadline]
            exact ⟨_, _, _, rfl⟩
        | none =>
            simp only [hdeadline]
            exact ih { loop with state := .ready errand } _
      all_goals
        rw [run, hstate]
        exact ⟨_, _, _, rfl⟩

/-- Of a user's polls, the attempts of a turn to poll show on the trace and no others. -/
theorem pollTimesOf_of_turnSafely (hbehaviour : behaviour.Keeps World.pollTimesOf)
    (h : loop.turnSafely behaviour world = .ok next after) :
    after.pollTimesOf loop.processor.record.userId =
      world.pollTimesOf loop.processor.record.userId ++
        Attempt.pollTimes (loop.attemptsOf behaviour world) := by
  by_cases hstate : loop.state = .ready .poll
  · rw [← loop.stateAfter_turn_of_turnSafely h, turn_ready_poll hstate,
      congrFun (view_stateAfter_turnPoll loop World.unstored_pollTimesOf hbehaviour world) _,
      World.pollTimesOf, SyncProcessor.poll_trace, attemptsOf, hstate]
    simp [Occurrence.polledAt?, World.pollTimesOf, Attempt.pollTimes, SyncProcessor.attemptOf]
  · have hpolls : Attempt.pollTimes (loop.attemptsOf behaviour world) = [] := by
      rcases hready : loop.state with (_ | _) | _ | _ | _ <;>
        simp_all [attemptsOf, Attempt.pollTimes, SyncProcessor.attemptOf]
    have hkept : after.pollTimesOf = world.pollTimesOf :=
      (turnSafely_keeps loop (turn_keeps loop World.unstored_pollTimesOf hbehaviour
        fun hpoll => absurd hpoll hstate)).eq_of_ok h
    rw [hkept, hpolls, List.append_nil]

namespace Attempts

variable {start : World Handler} {attempts : List Attempt} {processor : SyncProcessor}

/-- While a loop rests, time may pass up to the end of the rest. -/
theorem wait (hclock : behaviour.Keeps World.clock)
    (h : Attempts behaviour (.new processor) start attempts loop world) {wake time : Nat}
    (hstate : loop.state = .resting errand wake) (htime : time ≤ wake) :
    Attempts behaviour (.new processor) start attempts loop
      { world with clock := max world.clock time } := by
  have hdue : loop.dueAt? world.clock = some wake := by rw [dueAt?, hstate]
  have hearly : world.clock ≤ wake := (h.timely hclock).clock_le wake hdue
  refine h.meanwhile _ (Nat.le_max_left _ _) fun due hsome => ?_
  rw [hdue] at hsome
  cases hsome
  exact Nat.max_le.mpr ⟨hearly, htime⟩

/-- Along a run of the program, the polls among the attempts show on the trace. -/
theorem persists (hclock : behaviour.Keeps World.clock)
    (hpolls : behaviour.Keeps World.pollTimesOf) :
    Persists behaviour (fun loop world => loop.attemptsOf behaviour world)
      fun attempts loop world =>
        Attempts behaviour (.new processor) start attempts loop world ∧
          loop.processor.record.userId = processor.record.userId ∧
          world.pollTimesOf processor.record.userId =
            start.pollTimesOf processor.record.userId ++ Attempt.pollTimes attempts where
  turn h hturn := by
    obtain ⟨hattempts, huser, htimes⟩ := h
    refine ⟨hattempts.turn hturn, (turnSafely_cases hturn).1.trans huser, ?_⟩
    have hturned := pollTimesOf_of_turnSafely hpolls hturn
    rw [huser, htimes] at hturned
    rw [hturned, Attempt.pollTimes, Attempt.pollTimes, Attempt.pollTimes, List.filter_append,
      List.map_append, List.append_assoc]
  wait h hstate htime := ⟨h.1.wait hclock hstate htime, h.2⟩
  rested hstate _ := by rw [attemptsOf, hstate]

/-- On a virtual clock on which handlers take no time, every errand of a loop is begun when as many
retry delays have passed as errands have failed before it, for whatever reason.  Behind a success
the next errand is due at once, and behind a failure one retry delay later, unless the token is
somebody else's.  In a run of the program, the polls on the trace are the loop's, so the time of
each of them is the retry delay, times the number of failures before it. -/
theorem on_time (hclock : behaviour.Keeps World.clock)
    (hpolls : behaviour.Keeps World.pollTimesOf) :
    (∀ attempts loop world, Attempts behaviour (.new processor) start attempts loop world →
      (∀ earlier attempt later, attempts = earlier ++ attempt :: later →
        attempt.time = start.clock + (SyncLoop.new processor).retryDelay * failures earlier) ∧
      loop.dueAt? world.clock = (attempts.getLast?.map
        (·.next? (SyncLoop.new processor).retryDelay)).getD (some start.clock)) ∧
    ∀ deadline turns, ∃ ending next after attempts,
      (SyncLoop.new processor).run behaviour deadline turns start = .ok (ending, next) after ∧
      Attempts behaviour (.new processor) start attempts next after ∧
      after.pollTimesOf processor.record.userId =
        start.pollTimesOf processor.record.userId ++ Attempt.pollTimes attempts ∧
      ∀ earlier poll later, attempts = earlier ++ poll :: later → poll.errand = .poll →
        (Attempt.pollTimes attempts)[(Attempt.pollTimes earlier).length]? =
          some (start.clock + (SyncLoop.new processor).retryDelay * failures earlier) := by
  constructor
  · intro attempts loop world h
    exact ⟨(h.timely hclock).time_eq, (h.timely hclock).due_eq⟩
  · intro deadline turns
    obtain ⟨ending, next, after, hrun⟩ :=
      (SyncLoop.new processor).run_total behaviour deadline turns start
    obtain ⟨attempts, h, -, htimes⟩ :=
      (persists hclock hpolls).run ⟨.refl, rfl, (List.append_nil _).symm⟩ hrun
    rw [List.nil_append] at h htimes
    refine ⟨ending, next, after, attempts, hrun, h, htimes, ?_⟩
    rintro earlier poll later rfl hpoll
    rw [← (h.timely hclock).time_eq earlier poll later rfl]
    simp [Attempt.pollTimes, List.filter_append, hpoll]

section Scene

open SecondBatch

/-- Surroundings in which something fails time and again: the first question, every write before the
first poll, and the first poll itself.  The second poll brings a message, and the fourth one is held
open. -/
def troubled : Environment where
  decline _ _ := none
  respond
    | trace, userId, .whoAmI =>
      if trace.isEmpty then .failure (.connectionFailed "https://hs" "reset") else .answer userId
    | _, _, .createFilter _ _ => .answer "f1"
    | trace, _, .sync _ _ _ =>
      match trace.countP fun occurrence => occurrence.poll?.isSome with
      | 0 => .failure (.connectionFailed "https://hs" "reset")
      | 1 => .answer (some (batch "s2" [message "$boom"]))
      | 2 => .answer (some (batch "s2" []))
      | _ => .answer none
    | _, _, _ => .failure (.connectionFailed "https://hs" "reset")
  refuse
    | trace, .updateAccount _ =>
      if trace.any fun occurrence => occurrence.poll?.isSome then none
      else some (.backend "update_account failed")
    | _, _ => none

/-- With a delay of ten seconds, two failed preparations, a failed poll and a handler's panic put
the polls off by ten seconds each; the batch that goes well puts off nothing. -/
theorem on_time_of_troubled :
    panicking.Keeps World.clock ∧ panicking.Keeps World.pollTimesOf ∧
      ∃ ending next after attempts,
        (SyncLoop.new SecondBatch.processor).run panicking none 12 (SecondBatch.world troubled) =
          .ok (ending, next) after ∧
        Attempts panicking (.new SecondBatch.processor) (SecondBatch.world troubled) attempts next
          after ∧
        after.pollTimesOf "@bot:hs" = [20000, 30000, 40000, 40000] ∧
        Attempt.pollTimes attempts = [20000, 30000, 40000, 40000] := by
  have hclock : panicking.Keeps World.clock := panicking_keeps _
  have hpolls : panicking.Keeps World.pollTimesOf := panicking_keeps _
  obtain ⟨ending, next, after, attempts, hrun, h, htimes, -⟩ :=
    (on_time hclock hpolls).2 none 12
  have hseen : (match (SyncLoop.new SecondBatch.processor).run panicking none 12
      (SecondBatch.world troubled) with
      | .ok _ after => after.pollTimesOf "@bot:hs"
      | .error _ _ => []) = [20000, 30000, 40000, 40000] := by decide +kernel
  rw [hrun] at hseen
  exact ⟨hclock, hpolls, ending, next, after, attempts, hrun, h, hseen, htimes.symm.trans hseen⟩

end Scene

end Attempts

end SyncLoop

end BotHost
