/-
# Players

The handlers of a rehearsal.  A player is called by its tag, does its deeds in order, puts on
record what each came to, and gives the signal it was told to give, or only for the listed
events.  A deed may be anything a handler can do: talk to the homeserver, look at the match,
register another player, set a spec, withdraw an owner, or panic.
-/

import BotHost.Report

namespace BotHost

/-- A call through an owner's view of an account. -/
inductive Call where
  | sendEvent (roomId eventType : String) (content : Json)
  | sendText (roomId body : String)
  | sendNotice (roomId body : String)
  | joinRoom (room : String)
  | getEvent (roomId eventId : String)
  | reply (event : Event) (body : String)
  | markRead (event : Event)
  /-- Who calls, and on which account. -/
  | who (owner : String)
  /-- A call that could not be read, with what is reported about it. -/
  | refused (report : Json)

/-- For what a player is registered, and by whom. -/
structure Registration where
  owner : String
  hearsOwn : Bool
  /-- The command it handles, if it does not listen. -/
  command : Option String
  eventType : String

mutual

/-- Something a player does. -/
inductive Deed where
  | reply (body : String)
  | respond (body : String)
  | sendText (body : String)
  | markRead
  | command
  | argument (key : String)
  | passive (name : String)
  | passives
  /-- Tell the account. -/
  | client
  /-- Tell the event. -/
  | wire
  | echo (key : String)
  | register (registration : Registration) (player : Player)
  | call (call : Call)
  | setSpec (owner : String) (spec : CommandSpec)
  | removeOwner (owner : String)
  /-- Tell the room of the event. -/
  | room (users : List String) (keys : List (String × String))
  | panic (reason : Panic)
  /-- A deed that could not be read, with what is reported about it. -/
  | refused (report : Json)

/-- A handler of a rehearsal: its tag, its signal, the events for which the signal counts if
not for all, and its deeds with their names. -/
inductive Player where
  | mk (tag signal : String) (only : Option (List String)) (deeds : List (String × Deed))

end

namespace Player

/-- Carry out a call on an account and report on it. -/
def makeCall (userId : String) : Call → Act (World Player) Json
  | .sendEvent roomId eventType content =>
    Report.transport .string <$> World.sendEvent userId roomId eventType content
  | .sendText roomId body => Report.transport .string <$> World.sendText userId roomId body
  | .sendNotice roomId body => Report.transport .string <$> World.sendNotice userId roomId body
  | .joinRoom room => Report.transport .string <$> World.joinRoom userId room
  | .getEvent roomId eventId =>
    Report.transport Report.event <$> World.getEvent userId roomId eventId
  | .reply event body => Report.transport .string <$> World.reply userId event body
  | .markRead event => Report.transport Report.nothing <$> World.markRead userId event
  | .who owner => pure (.ofTexts [owner, userId])
  | .refused report => pure report

/-- Register a player on an account. -/
def register (userId : String) (registration : Registration) (player : Player) :
    Act (World Player) Unit :=
  World.changeAccount userId fun account =>
    let { owner, hearsOwn, command, eventType } := registration
    match command with
    | some command => account.addCommand owner command hearsOwn player
    | none => account.addListener owner eventType hearsOwn player

/-- Do a deed and report on it. -/
def perform (context : EventContext) : Deed → Act (World Player) Json
  | .reply body =>
    Report.transport .string <$> World.reply context.userId context.event body
  | .respond body =>
    Report.transport .string <$> World.respond context.userId context.event body
  | .sendText body =>
    Report.transport .string <$> World.sendText context.userId context.event.roomId body
  | .markRead => Report.transport Report.nothing <$> World.markRead context.userId context.event
  | .command =>
    pure (.ofOption (context.found.command.map fun command =>
      .array [.string command.command, Report.arguments command.arguments]))
  | .argument key =>
    let value := Json.ofText? (context.argument? key)
    pure (.array [value, value])
  | .passive name =>
    pure (.ofOption ((context.found.passive? name).map fun found =>
      Report.captures found.captures))
  | .passives => pure (.ofTexts (context.found.passive.map (·.name)))
  | .client => pure (.string context.userId)
  | .wire => pure context.event.toJson
  | .echo key =>
    Report.transport .string <$>
      World.reply context.userId context.event ((context.argument? key).getD "")
  | .register registration player => do
    register context.userId registration player
    pure .null
  | .call call => makeCall context.userId call
  | .setSpec owner spec => Report.store Report.update <$> World.setSpec context.userId owner spec
  | .removeOwner owner => do
    World.removeOwner context.userId owner
    pure .null
  | .room users keys => Report.store (Report.room users keys) <$>
      World.loadRoom context.event.roomId
  | .panic reason => throw reason
  | .refused report => pure report

/-- Do deeds in order and put on record what each came to. -/
def performAll (tag : String) (context : EventContext) :
    List (String × Deed) → Act (World Player) Unit
  | [] => pure ()
  | (name, deed) :: rest => do
    let report ← perform context deed
    World.remark (.array [.string "action", .string tag, .string name, report])
    performAll tag context rest

/-- Call a player: put the call on record, do its deeds, and give its signal. -/
def play (context : EventContext) : Player → Act (World Player) String
  | .mk tag signal only deeds => do
    World.remark (.ofTexts ["handler", tag, context.event.eventId])
    performAll tag context deeds
    let counts := only.all fun ids => ids.contains context.event.eventId
    pure (if counts then signal else "continue")

/-- How players act. -/
def behaviour : Behaviour Player where
  listen player context := do
    let signal ← play context player
    pure (if signal = "stop" then .stop else .continue)
  obey player context := do
    let signal ← play context player
    pure
      (if signal = "stop_command" then .stopCommand
      else if signal = "stop_all" then .stopAll
      else .continue)

end Player

end BotHost
