/-
# The sync loop

The loop of an account prepares until it succeeds and then polls for ever.  Every failure
is followed by one retry delay, after which the same errand is tried again with the cursor
where it was.  Only a token that belongs to somebody else ends the loop: the account's
feed is switched off and the record written.

A loop is a value with a turn that does one errand, so a run of it is a sequence of turns;
between turns it may rest, listen to a silent feed, or have ended.
-/

import BotHost.Sync.Processor

namespace BotHost

/-- What a loop does next. -/
inductive Errand where
  /-- Check the token and make sure that there is a filter. -/
  | prepare
  /-- Poll and apply a batch. -/
  | poll
deriving DecidableEq

/-- Where a loop stands. -/
inductive LoopState where
  | ready (errand : Errand)
  /-- It rests until a time on the clock and then does an errand. -/
  | resting (errand : Errand) (wake : Nat)
  /-- Its poll is held open. -/
  | listening
  | ended
deriving DecidableEq

/-- The sync loop of an account. -/
structure SyncLoop where
  processor : SyncProcessor
  state : LoopState

/-- How a run of a loop came to its end. -/
inductive RunEnd where
  | ended
  /-- The feed fell silent. -/
  | idle
  /-- The time was up. -/
  | cancelled
  /-- The turns were used up. -/
  | unfinished
deriving DecidableEq

namespace World

variable {Handler : Type}

/-- Let time pass until the clock shows a time. -/
def waitUntil (time : Nat) : Act (World Handler) Unit :=
  modify fun world => { world with clock := max world.clock time }

end World

namespace SyncLoop

variable {Handler : Type}

/-- A loop that has not done anything yet. -/
def new (processor : SyncProcessor) : SyncLoop := ⟨processor, .ready .prepare⟩

/-- The milliseconds of the retry delay. -/
def retryDelay (loop : SyncLoop) : Nat := loop.processor.settings.retryDelay * 1000

/-- Rest for the retry delay before an errand; without a delay there is no rest. -/
def rest (loop : SyncLoop) (errand : Errand) : Act (World Handler) SyncLoop := do
  let wake := (← get).clock + loop.retryDelay
  return { loop with
    state := if loop.retryDelay = 0 then .ready errand else .resting errand wake }

/-- Switch the account's feed off, and end. -/
def switchOff (loop : SyncLoop) : Act (World Handler) SyncLoop := do
  let record := { loop.processor.record with sync := false }
  let _ ← World.updateAccount record
  return ⟨{ loop.processor with record }, .ended⟩

/-- Prepare once. -/
def turnPrepare (loop : SyncLoop) : Act (World Handler) SyncLoop := do
  let (result, processor) ← loop.processor.prepare
  let loop := { loop with processor }
  match result with
  | .ok _ => return { loop with state := .ready .poll }
  | .error (.identityMismatch ..) => loop.switchOff
  | .error _ => loop.rest .prepare

/-- Poll once and apply the batch. -/
def turnPoll (loop : SyncLoop) (behaviour : Behaviour Handler) :
    Act (World Handler) SyncLoop := do
  let (result, processor) ← loop.processor.step behaviour
  let loop := { loop with processor }
  match result with
  | none => return { loop with state := .listening }
  | some (.ok _) => return loop
  | some (.error _) => loop.rest .poll

/-- Do the errand that the loop is ready for, or go on if the rest is over. -/
def turn (loop : SyncLoop) (behaviour : Behaviour Handler) : Act (World Handler) SyncLoop := do
  match loop.state with
  | .ready .prepare => loop.turnPrepare
  | .ready .poll => loop.turnPoll behaviour
  | .resting errand wake =>
    if wake ≤ (← get).clock then return { loop with state := .ready errand }
    else return loop
  | .listening => return loop
  | .ended => return loop

/-- A turn of a loop that ends if the turn panics. -/
def turnSafely (loop : SyncLoop) (behaviour : Behaviour Handler) :
    Act (World Handler) SyncLoop := do
  match ← (loop.turn behaviour).attempt with
  | .ok loop => return loop
  | .error _ => return { loop with state := .ended }

/-- Take turns, at most so many, as long as the loop is ready. -/
def settle (behaviour : Behaviour Handler) : Nat → SyncLoop → Act (World Handler) SyncLoop
  | 0, loop => return loop
  | turns + 1, loop =>
    match loop.state with
    | .ready _ => do settle behaviour turns (← loop.turnSafely behaviour)
    | _ => return loop

/-- Run a loop by itself, for at most so many turns, until it ends, the feed falls silent
or the deadline passes. -/
def run (behaviour : Behaviour Handler) (deadline : Option Nat) :
    Nat → SyncLoop → Act (World Handler) (RunEnd × SyncLoop)
  | 0, loop => return (.unfinished, loop)
  | turns + 1, loop =>
    match loop.state with
    | .ready _ => do run behaviour deadline turns (← loop.turnSafely behaviour)
    | .resting errand wake =>
      match deadline.filter fun time => time < wake with
      | some time => do
        World.waitUntil time
        return (.cancelled, loop)
      | none => do
        World.waitUntil wake
        run behaviour deadline turns { loop with state := .ready errand }
    | .listening => return (.idle, loop)
    | .ended => return (.ended, loop)

end SyncLoop

end BotHost
