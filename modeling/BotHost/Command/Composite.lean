/-
# Composites

The composite of an account is the list of all compiled commands of all its owners.
Against one message the first active command that matches wins, and every passive
command that matches is reported in the order of the list.
-/

import BotHost.Command.Active
import BotHost.Command.Passive

namespace BotHost

/-- A compiled command. -/
inductive ParsedCommand where
  | active (matcher : ActiveMatcher)
  | passive (matcher : PassiveMatcher)

/-- A list of compiled commands. -/
abbrev Composite := List ParsedCommand

/-- What a composite found in one event. -/
structure Matches where
  command : Option CommandMatch
  passive : List PassiveMatch
deriving BEq

namespace ParsedCommand

/-- The id that handlers are registered under. -/
def id : ParsedCommand → String
  | active matcher => matcher.template
  | passive matcher => matcher.name

/-- The active matcher of a command. -/
def active? : ParsedCommand → Option ActiveMatcher
  | active matcher => some matcher
  | passive _ => none

/-- The passive matcher of a command. -/
def passive? : ParsedCommand → Option PassiveMatcher
  | active _ => none
  | passive matcher => some matcher

end ParsedCommand

namespace Matches

/-- Nothing found. -/
def none : Matches := ⟨.none, []⟩

/-- Whether nothing was found. -/
def isEmpty (found : Matches) : Bool := found.command.isNone && found.passive.isEmpty

/-- The matches of the first passive command with a name. -/
def passive? (found : Matches) (name : String) : Option PassiveMatch :=
  found.passive.find? fun entry => entry.name == name

end Matches

namespace CommandSpec

/-- Compile every command of a spec, active ones first.  Commands that cannot be
compiled are left out. -/
def compile (spec : CommandSpec) : Composite :=
  (spec.active.filterMap fun command => command.compile.toOption.map ParsedCommand.active) ++
    spec.passive.filterMap fun command => command.compile.toOption.map ParsedCommand.passive

end CommandSpec

namespace Composite

/-- Match an event.  Only room messages are considered. -/
def matchEvent (composite : Composite) (event : Event) : Matches :=
  if event.eventType = roomMessage then
    { command := event.body?.bind fun body =>
        (composite.filterMap ParsedCommand.active?).findSome? (·.matchText? body)
      passive := (composite.filterMap ParsedCommand.passive?).filterMap (·.matchEvent? event) }
  else .none

end Composite

end BotHost
