/-
# Acts

Everything the host does outside of pure computation is an `Act`: it reads and changes
a state, and it either comes to a result or panics.  What a panicking act had changed
before it panicked stays changed.
-/

namespace BotHost

/-- What an act that gives up leaves behind. -/
inductive Panic where
  | text (reason : String)
  /-- Anything but a text. -/
  | other
deriving DecidableEq

namespace Panic

/-- The wording of a panic. -/
def message : Panic → String
  | text reason => reason
  | other => "non-string panic payload"

end Panic

/-- An act on a state of type `σ` with a result of type `α`. -/
abbrev Act (σ α : Type) := EStateM Panic σ α

namespace Act

variable {σ α : Type}

/-- Carry out an act and turn a panic into a result. -/
def attempt (act : Act σ α) : Act σ (Except Panic α) := fun state =>
  match act state with
  | .ok value state => .ok (.ok value) state
  | .error panic state => .ok (.error panic) state

/-- An act that ends well shows its result. -/
theorem attempt_of_ok {act : Act σ α} {state after : σ} {value : α}
    (h : act state = .ok value after) : act.attempt state = .ok (.ok value) after := by
  simp [attempt, h]

/-- An act that panics shows the panic, and the state it had reached stays. -/
theorem attempt_of_panic {act : Act σ α} {state after : σ} {panic : Panic}
    (h : act state = .error panic after) : act.attempt state = .ok (.error panic) after := by
  simp [attempt, h]

end Act

end BotHost
