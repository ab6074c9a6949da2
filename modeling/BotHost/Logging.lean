/-
# Setting up logging

A `LogPlan` is what the logging settings of a configuration come to once embedders have
had their say: the directives in the order in which they take effect, and where and
how lines are written.
-/

import BotHost.Configuration
import BotHost.Text.Quoted

namespace BotHost

/-- How logging is to be set up. -/
structure LogPlan where
  /-- Filter directives; later ones override earlier ones. -/
  directives : List String
  /-- The level of targets without a directive. -/
  level : Option LogLevel
  spanEvents : SpanEvents
  format : LogFormat
  output : LogOutput
  rotation : LogRotation
  filePath : Option String
  showsTarget : Bool
  showsThread : Bool
  showsFile : Bool
  showsLine : Bool

namespace LogPlan

/-- The plan that carries out the settings, with the filters as directives by ascending
target. -/
def ofSettings (settings : LogSettings) : LogPlan :=
  { directives := settings.filters.toList.map fun (target, level) =>
      target ++ "=" ++ level.name
    level := some settings.level
    spanEvents := settings.spanEvents
    format := settings.format
    output := settings.output
    rotation := settings.rotation
    filePath := settings.filePath
    showsTarget := true
    showsThread := settings.threadIds
    showsFile := settings.fileLocation
    showsLine := settings.fileLocation }

/-- The plan with a further directive. -/
def addDirective (plan : LogPlan) (directive : String) : LogPlan :=
  { plan with directives := plan.directives ++ [directive] }

/-- A name with a capital. -/
def capitalized (name : String) : String :=
  match name.toList with
  | [] => ""
  | c :: rest => String.ofList (c.toUpper :: rest)

/-- A truth value as a word. -/
def word (value : Bool) : String := if value then "true" else "false"

/-- The plan as one line of text. -/
def describe (plan : LogPlan) : String :=
  Text.labelled "LoggingBuilder"
    [("directives", Text.quotedList plan.directives),
      ("level", match plan.level with
        | none => "None"
        | some level => "Some(Level(" ++ capitalized level.name ++ "))"),
      ("span_events", Text.labelled "SpanEvents"
        [("new", word plan.spanEvents.new), ("enter", word plan.spanEvents.enter),
          ("exit", word plan.spanEvents.exit), ("close", word plan.spanEvents.close)]),
      ("format", capitalized plan.format.name), ("output", capitalized plan.output.name),
      ("rotation", capitalized plan.rotation.name),
      ("file_path", Text.quotedOption plan.filePath), ("with_target", word plan.showsTarget),
      ("with_thread_ids", word plan.showsThread), ("with_file", word plan.showsFile),
      ("with_line_number", word plan.showsLine)]

end LogPlan

end BotHost
