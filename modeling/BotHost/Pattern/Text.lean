/-
# Patterns from text

`Pattern.ofText?` is the pattern that a text writes down; a text that is no pattern,
whose classes do not exist, or whose automaton would be too large, is refused.

`Pattern.quote` writes a text as a pattern that matches exactly this text.
-/

import BotHost.Pattern.Meaning
import BotHost.Pattern.Matcher
import BotHost.Pattern.Size

namespace BotHost

namespace Pattern

/-- The pattern of a text. -/
def ofText? (text : String) : Option Pattern := do
  let tree ← PatternTree.read? text
  let (pattern, _) ← tree.meaning? .initial
  if pattern.isSmall then some pattern else none

/-- A character as a pattern: those with a meaning of their own behind a backslash. -/
def quoteChar (c : Char) : List Char := if PatternReader.isMeta c then ['\\', c] else [c]

/-- A text as a pattern that matches exactly this text. -/
def quote (text : String) : String := String.ofList (text.toList.flatMap quoteChar)

end Pattern

end BotHost
