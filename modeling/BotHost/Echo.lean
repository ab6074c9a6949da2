/-
# The echo bot

A plugin type with two active commands and a passive one.  The command `ping` is answered
with a notice, `echo` with a reply that repeats its text, and posted links as well as changes
of membership are put on record.  The two commands have a mark before their names, which the
section of the configuration may set.
-/

import BotHost.Host
import BotHost.Text.Quoted

namespace BotHost

/-- A handler of the echo bot. -/
inductive EchoHandler where
  | ping
  | echo
  | link
  | membership
deriving DecidableEq

/-- An instance of the echo bot. -/
structure Echo where
  /-- Who owns what it registers. -/
  id : String
  userId : String
  /-- What stands before the names of its commands. -/
  mark : String

namespace Echo

/-- The mark of an instance whose section sets none. -/
def defaultMark : String := "!"

/-- The mark that a section sets. -/
def decodeMark : Decoder String := fun document => do
  let fields ← document.fields? ["prefix"]
  fields.orElse "prefix" Decoder.text defaultMark

/-- The mark of a section, which may be missing; nothing if the section is unfit. -/
def markOf? (config : Json) : Option String :=
  if config.isNull then some defaultMark else decodeMark.ofJson config

/-! ### Commands -/

/-- The template of the command that shows whether the bot is alive. -/
def pingTemplate (mark : String) : String := mark ++ "ping"

/-- The placeholder for the text to repeat. -/
def textKey : String := "$text"

/-- The template of the command that repeats a text. -/
def echoTemplate (mark : String) : String := mark ++ "echo " ++ textKey

/-- The name of the command that finds links. -/
def linkName : String := "link"

/-- The commands of the bot. -/
def spec (mark : String) : CommandSpec :=
  { active :=
      [⟨pingTemplate mark, "Check that the bot is alive", .empty⟩,
        ⟨echoTemplate mark, "Repeat a message",
          .ofList [(textKey, ⟨".+", true, "Text to repeat"⟩)]⟩]
    passive := [⟨linkName, "https?://\\S+", PassiveCommand.defaultField, none⟩] }

/-! ### Records -/

/-- A record of something that happened: how grave it is, what it is, and its circumstances
with their texts. -/
def line (level : LogLevel) (message : String) (circumstances : List (String × String)) :
    Json :=
  let told := circumstances.map fun (name, text) => " " ++ name ++ "=" ++ text
  .string (level.name.toUpper ++ " echo_bot: " ++ message ++ String.join told)

/-- Put something on record. -/
def tell (level : LogLevel) (message : String) (circumstances : List (String × String)) :
    Act (World EchoHandler) Unit :=
  World.remark (line level message circumstances)

/-- Put the failure of a request on record. -/
def tellFailure {α : Type} (message : String) :
    Except TransportError α → Act (World EchoHandler) Unit
  | .ok _ => pure ()
  | .error error => tell .warn message [("error", error.message)]

/-! ### Handlers -/

/-- Put the links found in an event on record, one by one. -/
def tellLinks (roomId : String) : List (List String) → Act (World EchoHandler) Unit
  | [] => pure ()
  | capture :: rest => do
    tell .info "Link posted" [("room_id", roomId), ("url", (capture.head?).getD "")]
    tellLinks roomId rest

/-- The name of a membership with a capital letter. -/
def capitalized (membership : Membership) : String := membership.name.capitalize

/-- How the handlers act: an echo ends the dispatch, and nothing else does. -/
def behaviour : Behaviour EchoHandler where
  listen handler context := do
    match handler, context.event.membership? with
    | .membership, some membership =>
      tell .info "Membership changed"
        [("room_id", context.event.roomId),
          ("user", Text.quoted (context.event.stateKey.getD "")),
          ("membership", capitalized membership)]
    | _, _ => pure ()
    pure .continue
  obey handler context := do
    match handler with
    | .ping =>
      tellFailure "Failed to answer ping"
        (← World.respond context.userId context.event "pong")
      pure .continue
    | .echo =>
      tellFailure "Failed to echo"
        (← World.reply context.userId context.event ((context.argument? textKey).getD ""))
      pure .stopAll
    | .link =>
      match context.found.passive? linkName with
      | none => pure .continue
      | some found =>
        tellLinks context.event.roomId found.captures
        pure .continue
    | .membership => pure .continue

/-! ### Instances -/

/-- Make an instance; an unfit section is put on record and counts as a missing one. -/
def create (record : PluginRecord) (config : Json) : Act (World EchoHandler) Echo := do
  match markOf? config with
  | some mark => pure ⟨record.id, record.userId, mark⟩
  | none =>
    tell .warn "Invalid echo config, using defaults" [("plugin", record.id)]
    pure ⟨record.id, record.userId, defaultMark⟩

/-- Register the handlers of an instance on its account. -/
def hook (echo : Echo) (account : Account EchoHandler) : Account EchoHandler :=
  let account := account.addCommand echo.id (pingTemplate echo.mark) false .ping
  let account := account.addCommand echo.id (echoTemplate echo.mark) false .echo
  let account := account.addCommand echo.id linkName false .link
  account.addListener echo.id roomMember false .membership

/-- Start an instance: set its spec and register its handlers. -/
def start (echo : Echo) : Act (World EchoHandler) (Progress Echo) := do
  match ← World.setSpec echo.userId echo.id (spec echo.mark) with
  | .error error => pure (.failed (.spec error))
  | .ok _ =>
    World.changeAccount echo.userId echo.hook
    tell .info "Echo plugin ready" [("account", echo.userId), ("prefix", echo.mark)]
    pure .started

/-- Stop an instance. -/
def stop (echo : Echo) : Act (World EchoHandler) Unit :=
  tell .info "Echo plugin stopping" [("account", echo.userId)]

/-- The plugin type. -/
def pluginType : PluginType Unit := ⟨"echo", "0.1.0", hostInterface, ()⟩

/-- How everything on a host of echo bots acts. -/
def performers : Performers EchoHandler Unit Echo :=
  { handlers := behaviour
    plugins := { create := fun _ record config => create record config, start, stop } }

end Echo

end BotHost
