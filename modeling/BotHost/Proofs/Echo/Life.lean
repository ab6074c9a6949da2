/-
# The life of the echo bot

An echo bot that is the only plugin on its account registers its handlers and sets its spec when it
is started, and nothing that happens afterwards takes them away: `Echo.Alone` follows the bot from
the connection of its account on, and `Echo.Serves` says what it finds there before every event.

A handler makes one request at most.  Whatever comes of the request, it is only told.
-/

import BotHost.Echo
import BotHost.Proofs.Dispatch.Traces

namespace BotHost

namespace Echo

/-! ### What the handlers do -/

variable {context : EventContext}

section Telling

variable {γ : Type} {view : World EchoHandler → γ}

/-- The listener only tells. -/
theorem listen_keeps (htell : ∀ level message circumstances,
    (tell level message circumstances).Keeps view) (handler : EchoHandler) :
    (behaviour.listen handler context).Keeps view := by
  dsimp only [behaviour]
  split
  · exact (htell _ _ _).bind fun _ => Act.keeps_pure _
  · exact Act.keeps_pure _

end Telling

/-- The notice that repeats a text in reply to an event. -/
def repetition (userId : String) (event : Event) (text : String) : String × Request :=
  (userId, .send event.roomId roomMessage (MessageContent.toJson ⟨"m.notice", text,
    .ofList [("m.relates_to",
      .object [("m.in_reply_to", .object [("event_id", .string event.eventId)])])]⟩))

/-- The handlers of a bot for a command. -/
def chain (echo : Echo) (command : String) : List (Entry EchoHandler) :=
  ([(pingTemplate echo.mark, .ping), (echoTemplate echo.mark, .echo), (linkName, .link)].filter
    fun hook => hook.1 == command).map fun hook => ⟨echo.id, false, hook.2⟩

/-- The account has the handlers and the commands of a bot, and apart from them only listeners to
changes of membership. -/
structure Serves (echo : Echo) (account : Account EchoHandler) : Prop where
  commands : ∀ command, account.hooks.commands.chain command = echo.chain command
  listeners : ∀ eventType, eventType ≠ roomMember →
    account.hooks.listeners.chain eventType = []
  composite : account.specs.composite.1 = (spec echo.mark).compile

/-- Reading the composite of an account changes nothing that the bot has registered. -/
theorem Serves.read {echo : Echo} {account : Account EchoHandler} (h : Serves echo account) :
    Serves echo { account with specs := account.specs.composite.2 } where
  commands := h.commands
  listeners := h.listeners
  composite := by
    rw [account.specs.composite_snd]
    exact h.composite

end Echo

end BotHost
