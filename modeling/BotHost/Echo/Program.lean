/-
# The program of the echo bot

What the command line and the sources of the configuration make of a host of echo bots, and
which of its records the logging settings show.
-/

import BotHost.CommandLine
import BotHost.Configuration.Sources
import BotHost.Echo
import BotHost.Host.Schedule

namespace BotHost

namespace LogLevel

/-- How talkative a level is. -/
def volume : LogLevel → Nat
  | error => 1
  | warn => 2
  | info => 3
  | debug => 4
  | trace => 5

end LogLevel

namespace LogSettings

/-- The level that counts for a target: that of the longest filter the target begins with,
or the level of all others. -/
def levelFor (settings : LogSettings) (target : String) : LogLevel :=
  let fitting := settings.filters.toList.filter fun (name, _) =>
    name.toList.isPrefixOf target.toList
  (fitting.foldl (fun best (name, level) =>
    if best.1 ≤ name.length then (name.length, level) else best) (0, settings.level)).2

/-- Whether what is logged for a target at a level is shown on the standard output. -/
def shows (settings : LogSettings) (target : String) (level : LogLevel) : Bool :=
  settings.output == .stdout && level.volume ≤ (settings.levelFor target).volume

end LogSettings

namespace Echo

/-- What the bot logs under. -/
def target : String := "echo_bot"

/-- The sources of the configuration that a command line asks for. -/
def sourcesFor (usual : Sources) (line : CommandLine) : Sources :=
  { usual with
    file := line.config
    profile := (line.profile.map Profile.ofName).getD usual.profile }

/-- A host of echo bots. -/
def host (configuration : Configuration) : Except HostError (Host Unit Echo) :=
  (Host.new configuration).register pluginType

/-- The level of a record, by its first word. -/
def levelOf? (line : String) : Option LogLevel :=
  LogLevel.all.find? fun level => level.name.toUpper.toList.isPrefixOf line.toList

/-- The lines of a record that the settings show. -/
def shownLines (settings : LogSettings) : Occurrence → List String
  | .remark (.string line) =>
    match levelOf? line with
    | some level => if settings.shows target level then [line] else []
    | none => []
  | _ => []

end Echo

end BotHost
