/-
# Understudies

The plugins of a rehearsal.  The instances of an idle type do nothing.  The others follow
the section of the configuration they are given, in a fixed order: they set a spec, register
players, make a call, look up a session, sleep, and fail.
-/

import BotHost.Host.Schedule
import BotHost.Rehearsal.Player

namespace BotHost

/-- What the start of an understudy does, step by step. -/
structure Part where
  /-- Whether it refuses its section of the configuration at once. -/
  unfit : Bool
  /-- The spec it sets, if any; a spec that is no spec fails the start. -/
  spec : Option (Option CommandSpec)
  players : List (Registration × Player)
  call : Option Call
  lookup : Option String
  /-- The milliseconds it sleeps, if it does. -/
  delay : Option Nat
  failure : Option PluginError

/-- A plugin instance of a rehearsal. -/
structure Understudy where
  id : String
  userId : String
  /-- What its start does; none for an idle instance. -/
  part : Option Part
  /-- Whether its start has slept already. -/
  rested : Bool

namespace Understudy

/-- The act of a step that can fail the start. -/
abbrev Step (α : Type) := ExceptT PluginError (Act (World Player)) α

/-- Put a happening of an instance on record. -/
def record (name id : String) (rest : List Json) : Act (World Player) Unit :=
  World.remark (.array (.string name :: .string id :: rest))

/-- Set the spec of a part. -/
def setSpec (understudy : Understudy) : Option (Option CommandSpec) → Step Unit
  | none => pure ()
  | some none => throw (.configuration "spec")
  | some (some spec) => do
    let result : Except StoreError SpecUpdate ←
      ExceptT.lift (World.setSpec understudy.userId understudy.id spec)
    match result with
    | .error error => throw (.spec error)
    | .ok update => record "set_spec" understudy.id [Report.update update]

/-- Register the players of a part, in order. -/
def registerAll (understudy : Understudy) :
    List (Registration × Player) → Act (World Player) Unit
  | [] => pure ()
  | (registration, player) :: rest => do
    Player.register understudy.userId
      { registration with owner := understudy.id, hearsOwn := false } player
    registerAll understudy rest

/-- Make the call of a part. -/
def makeCall (understudy : Understudy) : Option Call → Act (World Player) Unit
  | none => pure ()
  | some call => do
    let report ← Player.makeCall understudy.userId call
    record "call" understudy.id [report]

/-- Look up the session of a part. -/
def lookUp (understudy : Understudy) : Option String → Act (World Player) Unit
  | none => pure ()
  | some userId => do
    let world ← get
    record "lookup" understudy.id
      [.ofText? (world.session? userId), .ofTexts world.sessions.keys]

/-- How the start of a part ends. -/
def finish (part : Part) : Progress Understudy :=
  match part.failure with
  | none => .started
  | some error => .failed error

/-- Begin the start of a part. -/
def begin (understudy : Understudy) (part : Part) : Step (Progress Understudy) := do
  record "start" understudy.id []
  if part.unfit then throw (.other "bad config")
  understudy.setSpec part.spec
  understudy.registerAll part.players
  understudy.makeCall part.call
  understudy.lookUp part.lookup
  match part.delay with
  | none => pure (finish part)
  | some 0 =>
    record "delayed" understudy.id []
    pure (finish part)
  | some delay =>
    let world ← get
    pure (.sleeping (world.clock + delay) { understudy with rested := true })

/-- Start an instance, or go on with a start that slept. -/
def start (understudy : Understudy) : Act (World Player) (Progress Understudy) :=
  match understudy.part with
  | none => pure .started
  | some part =>
    if understudy.rested then do
      record "delayed" understudy.id []
      pure (finish part)
    else do
      match ← (understudy.begin part).run with
      | .ok progress => pure progress
      | .error error => pure (.failed error)

/-- Stop an instance. -/
def stop (understudy : Understudy) : Act (World Player) Unit :=
  if understudy.part.isSome then record "stop" understudy.id [] else pure ()

/-- Make an instance; `readPart` says what a section of the configuration means.  A type is
made with whether its instances are idle. -/
def create (readPart : PluginRecord → Json → Part) (plugin : PluginType Bool)
    (stored : PluginRecord) (config : Json) : Act (World Player) Understudy :=
  if plugin.create then pure ⟨stored.id, stored.userId, none, false⟩
  else do
    record "create" stored.id
      [.string plugin.name, .string stored.id, .string stored.userId, config]
    pure ⟨stored.id, stored.userId, some (readPart stored config), false⟩

/-- How everything in a rehearsal acts. -/
def performers (readPart : PluginRecord → Json → Part) : Performers Player Bool Understudy :=
  { handlers := Player.behaviour
    plugins := { create := create readPart, start, stop } }

end Understudy

end BotHost
