/-
# The world of a host

A `World` is the state that the acts of a host work on: the store and the room
projections, the connected accounts, the clock, and a trace of everything the host has
asked for so far.

What lies outside of the host is the `Environment`: how homeservers answer and which
operations of the store fail.  Both may depend on the whole trace, so an environment can
behave in any way, and a law that holds in every environment holds for every sequence of
answers and failures.
-/

import BotHost.Account
import BotHost.Request
import BotHost.Store

namespace BotHost

/-- An operation of the store. -/
inductive StoreCall where
  | accounts
  | account (userId : String)
  | updateAccount (record : AccountRecord)
  | commandSpecs (account : String)
  | putCommandSpec (owner account : String) (spec : CommandSpec)
  | plugins
  | updatePlugin (record : PluginRecord)
  | loadRoom (roomId : String)
  | saveRoom (roomId : String)

/-- Something the host did. -/
inductive Occurrence where
  /-- A connection for an account, whether or not it came about. -/
  | connect (userId : String)
  /-- A request in the name of an account, at a time on the clock. -/
  | request (userId : String) (time : Nat) (request : Request)
  /-- An operation of the store, whether or not it failed. -/
  | store (call : StoreCall)
  | dispatch (userId : String) (event : Event)
  /-- Something that a handler or a plugin puts on record. -/
  | remark (value : Json)

/-- What lies outside of the host.  The traces are listed latest first. -/
structure Environment where
  /-- Whether a connection for an account fails, and how. -/
  decline : List Occurrence → AccountRecord → Option TransportError
  /-- How a request in the name of an account ends. -/
  respond : List Occurrence → String → (request : Request) → Reply request.Answer
  /-- Whether an operation of the store fails, and how. -/
  refuse : List Occurrence → StoreCall → Option StoreError

/-- The state that the acts of a host work on. -/
structure World (Handler : Type) where
  environment : Environment
  store : Store
  rooms : Rooms
  /-- The connected accounts by user id. -/
  accounts : SortedMap String (Account Handler)
  /-- The users whose sessions can be looked up. -/
  sessions : SortedMap String Unit
  /-- The clock in milliseconds. -/
  clock : Nat
  /-- What has happened, latest first. -/
  trace : List Occurrence

namespace World

variable {Handler : Type}

/-- A world before anything has happened. -/
def initial (environment : Environment) (store : Store) : World Handler :=
  { environment, store, rooms := .empty, accounts := .empty, sessions := .empty, clock := 0
    trace := [] }

/-- Add an occurrence to the trace. -/
def note (occurrence : Occurrence) : Act (World Handler) Unit :=
  modify fun world => { world with trace := occurrence :: world.trace }

/-- Put something on record. -/
def remark (value : Json) : Act (World Handler) Unit := note (.remark value)

/-- Make a request in the name of an account. -/
def ask (userId : String) (request : Request) :
    Act (World Handler) (Except TransportError request.Answer) := do
  let world ← get
  note (.request userId world.clock request)
  match world.environment.respond world.trace userId request with
  | .answer value => pure (.ok value)
  | .failure error => pure (.error error)
  | .panic panic => throw panic

/-- Open a connection for an account. -/
def openConnection (record : AccountRecord) :
    Act (World Handler) (Except TransportError Unit) := do
  let world ← get
  note (.connect record.userId)
  match world.environment.decline world.trace record with
  | some error => pure (.error error)
  | none => pure (.ok ())

/-- Carry out an operation of the store unless it fails. -/
def consult {α : Type} (call : StoreCall) (act : Act (World Handler) α) :
    Act (World Handler) (Except StoreError α) := do
  let world ← get
  note (.store call)
  match world.environment.refuse world.trace call with
  | some error => pure (.error error)
  | none => .ok <$> act

/-- The connected account of a user. -/
def account? (userId : String) (world : World Handler) : Option (Account Handler) :=
  world.accounts.find? userId

/-- Change the connected account of a user. -/
def setAccount (userId : String) (account : Account Handler) : Act (World Handler) Unit :=
  modify fun world => { world with accounts := world.accounts.insert userId account }

/-- Change the connected account of a user, if there is one. -/
def changeAccount (userId : String) (change : Account Handler → Account Handler) :
    Act (World Handler) Unit := do
  match (← get).account? userId with
  | none => pure ()
  | some account => setAccount userId (change account)

/-- Let an account's session be looked up. -/
def addSession (userId : String) : Act (World Handler) Unit :=
  modify fun world => { world with sessions := world.sessions.insert userId () }

/-- Let an account's session not be looked up any more. -/
def removeSession (userId : String) : Act (World Handler) Unit :=
  modify fun world => { world with sessions := world.sessions.erase userId }

/-- The session of a user, if it can be looked up. -/
def session? (userId : String) (world : World Handler) : Option String :=
  (world.sessions.find? userId).map fun _ => userId

end World

end BotHost
