/-
# The echo bot as a program

Reads the command line, the environment and the files of the configuration, and runs a host
of echo bots until it is ended from outside.  Requests leave the program through a network
that it is given; without one nobody can be reached, and every poll is tried again.
-/

import BotHost.Echo.Program
import BotHost.World.Online

namespace BotHost

namespace EchoProgram

/-- The variables of the environment of this program. -/
def environment : IO Variables := do
  try
    let bytes ← IO.FS.readBinFile "/proc/self/environ"
    let entries := ((String.fromUTF8? bytes).getD "").toList.splitOn '\x00'
    return .ofList (entries.map fun entry =>
      (String.ofList (entry.takeWhile (· != '=')),
        String.ofList ((entry.dropWhile (· != '=')).drop 1)))
  catch _ => return .empty

/-- The text of a file, if it can be read. -/
def text? (path : String) : IO (Option String) := do
  try
    return some (← IO.FS.readFile path)
  catch _ => return none

/-- The files among some paths that can be read, as a tree of their own. -/
def readable (paths : List String) : IO FileTree := do
  let current := toString (← IO.currentDir)
  let mut files := []
  for path in paths do
    let full := if path.startsWith "/" then path else current ++ "/" ++ path
    if let some text ← text? path then files := files ++ [(full, text)]
  let tree := FileTree.ofFiles files [current]
  return { tree with start := FileTree.place current, absolute := true }

/-- The sources of the configuration that a command line asks for. -/
def sources (line : CommandLine) : IO Sources := do
  let environment ← environment
  let home := (environment.find? "HOME").getD ""
  let user := (environment.find? "XDG_CONFIG_HOME").getD (home ++ "/.config")
  let usual := Sources.usual (.ofFiles [] []) environment "" user
  let wanted := Echo.sourcesFor usual line
  let candidates := Candidate.ofFolders wanted.folders
  let paths :=
    match line.config with
    | some path => [path]
    | none => candidates.flatMap fun candidate =>
      [candidate.main, candidate.overlay wanted.profile]
  return { wanted with tree := ← readable paths }

/-- How much time the host is given at once, in milliseconds. -/
def slice : Nat := 100

/-- How often the host may act within a slice. -/
def turns : Nat := 10000

/-- Give the host time for ever, and print what it puts on record behind what has been
told. -/
partial def follow (settings : LogSettings) (told : Nat) (host : Host Unit Echo)
    (world : World EchoHandler) : IO Unit := do
  let deadline := world.clock + slice
  match Host.runUntil Echo.performers turns deadline turns host world with
  | .error _ _ => return ()
  | .ok host world =>
    let news := (world.trace.take (world.trace.length - told)).reverse
    for line in news.flatMap (Echo.shownLines settings) do
      IO.println line
    IO.sleep slice.toUInt32
    follow settings world.trace.length host world

/-- Tell why the program ends. -/
def fail (message : String) : IO UInt32 := do
  IO.eprintln ("Error: " ++ message)
  return 1

/-- Run a host with a configuration. -/
def run (configuration : Configuration) : IO UInt32 := do
  match Echo.host configuration with
  | .error error => fail error.message
  | .ok host =>
    let online : Online := ⟨toString (← IO.monoMsNow), configuration.accounts⟩
    let world := World.initial (online.environment fun _ => Network.unreachable)
      (Store.ofRecords configuration.accounts configuration.plugins)
    match host.init Echo.performers world with
    | .error panic _ => fail panic.message
    | .ok (.error error, _) _ => fail error.message
    | .ok (.ok _, host) world =>
      match host.start world with
      | .error panic _ => fail panic.message
      | .ok host world =>
        follow configuration.logging 0 host world
        return 0

end EchoProgram

end BotHost

open BotHost in
/-- Run the echo bot. -/
def main (arguments : List String) : IO UInt32 := do
  match CommandLine.read arguments with
  | .error .help =>
    for line in CommandLine.help do
      IO.println line
    return 0
  | .error error =>
    IO.eprintln error.message
    return 2
  | .ok line =>
    match (← EchoProgram.sources line).load with
    | .error error => EchoProgram.fail error.message
    | .ok configuration => EchoProgram.run configuration
