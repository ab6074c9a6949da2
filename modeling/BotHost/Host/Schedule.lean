/-
# Giving a host time

A running host has one thing to do at a time: the starts of its plugins in the order of the
instances, and then its sync loops in the order of the accounts, each until it sleeps,
rests, listens or has ended.  When nothing is due, the clock moves to the next time at
which something is.
-/

import BotHost.Host

namespace BotHost

namespace Host

variable {Handler Factory Plugin : Type}

/-- Wake a loop whose rest is over and let it take turns, at most so many, as long as it is
ready. -/
def advanceLoop (performers : Performers Handler Factory Plugin) (turns : Nat)
    (loop : SyncLoop) : Act (World Handler) SyncLoop := do
  let loop ← loop.turnSafely performers.handlers
  loop.settle performers.handlers turns

/-- Let every loop that is due take its turns, in the order of the accounts. -/
def advanceLoops (performers : Performers Handler Factory Plugin) (turns : Nat) :
    List (String × SyncLoop) → Act (World Handler) (List (String × SyncLoop))
  | [] => pure []
  | (userId, loop) :: rest => do
    let loop ← advanceLoop performers turns loop
    let rest ← advanceLoops performers turns rest
    pure ((userId, loop) :: rest)

/-- Do everything that is due. -/
def settle (host : Host Factory Plugin) (performers : Performers Handler Factory Plugin)
    (turns : Nat) : Act (World Handler) (Host Factory Plugin) := do
  match host.running with
  | none => pure host
  | some loops =>
    let plugins ← advanceStarts performers host.plugins
    let loops ← advanceLoops performers turns loops
    pure { host with plugins, running := some loops }

/-- When a loop that rests goes on. -/
def wakeOf? (loop : SyncLoop) : Option Nat :=
  match loop.state with
  | .resting _ wake => some wake
  | _ => none

/-- The times at which something is due. -/
def wakes (host : Host Factory Plugin) : List Nat :=
  match host.running with
  | none => []
  | some loops =>
    host.plugins.filterMap (fun loaded => loaded.pending.map (·.1)) ++
      loops.filterMap fun entry => wakeOf? entry.2

/-- The next time from now up to a deadline at which something is due. -/
def nextWake? (host : Host Factory Plugin) (now deadline : Nat) : Option Nat :=
  (host.wakes.filter fun wake => now ≤ wake && wake ≤ deadline).min?

/-- Give the host time up to a deadline: do what is due, and move the clock to the next time
at which something is, at most so often. -/
def runUntil (performers : Performers Handler Factory Plugin) (turns deadline : Nat) :
    Nat → Host Factory Plugin → Act (World Handler) (Host Factory Plugin)
  | 0, host => pure host
  | moves + 1, host => do
    let host ← host.settle performers turns
    match host.nextWake? (← get).clock deadline with
    | none =>
      World.waitUntil deadline
      pure host
    | some wake =>
      World.waitUntil wake
      runUntil performers turns deadline moves host

/-- Initialise, start, give the host so many milliseconds, and stop. -/
def serve (host : Host Factory Plugin) (performers : Performers Handler Factory Plugin)
    (turns moves duration : Nat) :
    Act (World Handler) (Except HostError Unit × Host Factory Plugin) := do
  let (result, host) ← host.init performers
  match result with
  | .error error => pure (.error error, host)
  | .ok _ =>
    let host ← host.start
    let host ← runUntil performers turns ((← get).clock + duration) moves host
    let host ← host.stop performers
    pure (.ok (), host)

end Host

end BotHost
