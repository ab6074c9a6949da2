/-
# Talking to the homeserver

The outbound calls of an account, each in its name.  A notice is how bots speak; a reply
is a notice that refers to the event it answers.
-/

import BotHost.World

namespace BotHost

namespace World

variable {Handler : Type}

/-- Whose token the account has. -/
def whoAmI (userId : String) : Act (World Handler) (Except TransportError String) :=
  ask userId .whoAmI

/-- Store a feed filter for the account. -/
def createFilter (userId : String) (filter : Json) :
    Act (World Handler) (Except TransportError String) :=
  ask userId (.createFilter userId filter)

/-- Poll the account's feed. -/
def pollFeed (userId : String) (since filter : Option String) (timeout : Nat) :
    Act (World Handler) (Except TransportError (Option Batch)) :=
  ask userId (.sync since filter timeout)

/-- Send an event into a room. -/
def sendEvent (userId roomId eventType : String) (content : Json) :
    Act (World Handler) (Except TransportError String) :=
  ask userId (.send roomId eventType content)

/-- Send a message into a room. -/
def sendMessage (userId roomId : String) (content : MessageContent) :
    Act (World Handler) (Except TransportError String) :=
  sendEvent userId roomId roomMessage content.toJson

/-- Send a plain text into a room. -/
def sendText (userId roomId body : String) :
    Act (World Handler) (Except TransportError String) :=
  sendMessage userId roomId (.text body)

/-- Send a notice into a room. -/
def sendNotice (userId roomId body : String) :
    Act (World Handler) (Except TransportError String) :=
  sendMessage userId roomId (.notice body)

/-- Send a notice into the room of an event. -/
def respond (userId : String) (event : Event) (body : String) :
    Act (World Handler) (Except TransportError String) :=
  sendNotice userId event.roomId body

/-- Reply to an event with a notice. -/
def reply (userId : String) (event : Event) (body : String) :
    Act (World Handler) (Except TransportError String) :=
  sendMessage userId event.roomId ((MessageContent.notice body).inReplyTo event.eventId)

/-- Join a room. -/
def joinRoom (userId roomIdOrAlias : String) :
    Act (World Handler) (Except TransportError String) :=
  ask userId (.join roomIdOrAlias)

/-- Mark an event as read. -/
def markRead (userId : String) (event : Event) :
    Act (World Handler) (Except TransportError Unit) :=
  ask userId (.markRead event.roomId event.eventId)

/-- Fetch an event. -/
def getEvent (userId roomId eventId : String) :
    Act (World Handler) (Except TransportError Event) :=
  ask userId (.getEvent roomId eventId)

end World

end BotHost
