/-
# Passive commands

The pattern of a passive command is looked for in one field of an event, and every
match is reported.  A template restricts the command to the events of which it is a
structural subset.
-/

import BotHost.Command.Spec
import BotHost.Command.Error
import BotHost.Pattern.Text
import BotHost.Json.Subset
import BotHost.Event

namespace BotHost

/-- A compiled passive command. -/
structure PassiveMatcher where
  /-- The name, which is also the command's id. -/
  name : String
  pattern : Pattern
  /-- The dotted path of the field it is looked for in. -/
  field : String
  /-- The partial event that restricts it. -/
  template : Option Json

/-- All matches of one passive command in one event. -/
structure PassiveMatch where
  name : String
  /-- For each match its text and the texts of its groups; a group that took no part
  is empty. -/
  captures : List (List String)
deriving DecidableEq

namespace PassiveCommand

/-- Compile a passive command. -/
def compile (command : PassiveCommand) : Except CompileError PassiveMatcher :=
  match Pattern.ofText? command.pattern with
  | none => .error (.invalidPattern command.name)
  | some pattern =>
    .ok { name := command.name, pattern, field := command.field, template := command.template }

end PassiveCommand

namespace PassiveMatcher

/-- Whether the template lets an event through. -/
def accepts (matcher : PassiveMatcher) (event : Event) : Bool :=
  match matcher.template with
  | none => true
  | some template => template.leftEquals event.toJson

/-- The texts of a match and of its groups. -/
def texts (matcher : PassiveMatcher) (found : Pattern.Match) : List String :=
  (List.range (matcher.pattern.lastGroup + 1)).map fun index =>
    String.ofList ((found.group? index).getD [])

/-- Match the field of an event. -/
def matchEvent? (matcher : PassiveMatcher) (event : Event) : Option PassiveMatch :=
  if matcher.accepts event then
    match event.content.get matcher.field with
    | some (.string text) =>
      let found := matcher.pattern.findAll text
      if found.isEmpty then none
      else some { name := matcher.name, captures := found.map matcher.texts }
    | _ => none
  else none

end PassiveMatcher

end BotHost
