/-
# Active commands

The template of an active command is cut into tokens.  A token that is a key of the
argument map is a placeholder and becomes a named group around the argument's
pattern; every other token is matched as it stands.  Tokens are separated by one
space, and an optional placeholder takes its separating space with it.  The whole is
anchored at both ends:

    roll $dice $mod     with $dice required and $mod optional
    ^roll (?P<a0>.+?)(?: (?P<a1>[+-]\d+))?$

The literal tokens before the first placeholder form a plain text that a message has
to start with.
-/

import BotHost.Command.Spec
import BotHost.Command.Error
import BotHost.Pattern.Text

namespace BotHost

/-- A compiled active command. -/
structure ActiveMatcher where
  /-- The template, which is also the command's id. -/
  template : String
  patternText : String
  pattern : Pattern
  startsWith : String
  /-- The placeholders in the order of their groups. -/
  placeholders : List String

/-- The active command that a message matched. -/
structure CommandMatch where
  /-- The template of the command. -/
  command : String
  /-- The text of each placeholder that is present. -/
  arguments : SortedMap String String
deriving BEq

namespace CommandMatch

/-- The text of a placeholder. -/
def argument? (found : CommandMatch) (key : String) : Option String :=
  found.arguments.find? key

end CommandMatch

namespace ActiveCommand

/-- What has been assembled of a command's pattern. -/
structure Draft where
  text : String
  placeholders : List String
  /-- The literal tokens before the first placeholder. -/
  leading : List String
  /-- Whether no placeholder has been met yet. -/
  inLeading : Bool
  /-- Whether the next token needs a space before it. -/
  pendingSpace : Bool

namespace Draft

/-- A draft without tokens. -/
def empty : Draft := ⟨"", [], [], true, false⟩

/-- The space that separates the next token, if it needs one. -/
def separator (draft : Draft) : String := if draft.pendingSpace then " " else ""

/-- Add a token that is matched as it stands. -/
def addLiteral (draft : Draft) (token : String) : Draft :=
  { draft with
    text := draft.text ++ draft.separator ++ Pattern.quote token
    leading := if draft.inLeading then draft.leading ++ [token] else draft.leading
    pendingSpace := true }

/-- The name of the group of the next placeholder. -/
def groupName (index : Nat) : String := "a" ++ toString index

/-- The group of the next placeholder. -/
def groupText (draft : Draft) (argument : Argument) : String :=
  "(?P<" ++ groupName draft.placeholders.length ++ ">" ++ argument.pattern ++ ")"

/-- Add a placeholder.  One that is required stands like any token.  An optional one
takes the space before it along, or behind leading optional ones the space behind
it, or none if it is the only token left. -/
def addPlaceholder (draft : Draft) (token : String) (argument : Argument) (isLast : Bool) :
    Draft :=
  let group := draft.groupText argument
  let added := { draft with
    placeholders := draft.placeholders ++ [token], inLeading := false }
  if argument.required then
    { added with text := draft.text ++ draft.separator ++ group, pendingSpace := true }
  else if draft.pendingSpace then
    { added with text := draft.text ++ "(?: " ++ group ++ ")?" }
  else if isLast then { added with text := draft.text ++ group ++ "?" }
  else { added with text := draft.text ++ "(?:" ++ group ++ " )?" }

/-- Add all tokens of a template. -/
def addAll (arguments : SortedMap String Argument) (draft : Draft) : List String → Draft
  | [] => draft
  | token :: rest =>
    let draft :=
      match arguments.find? token with
      | none => draft.addLiteral token
      | some argument => draft.addPlaceholder token argument rest.isEmpty
    addAll arguments draft rest

end Draft

/-- The draft of the whole command. -/
def draft (command : ActiveCommand) : Draft :=
  Draft.empty.addAll command.arguments (Text.words command.template)

/-- The text of the command's pattern. -/
def patternText (command : ActiveCommand) : String := "^" ++ command.draft.text ++ "$"

/-- Compile an active command. -/
def compile (command : ActiveCommand) : Except CompileError ActiveMatcher :=
  if (Text.words command.template).isEmpty then .error .emptyTemplate
  else
    match Pattern.ofText? command.patternText with
    | none => .error (.invalidPattern command.template)
    | some pattern =>
      .ok
        { template := command.template
          patternText := command.patternText
          pattern
          startsWith := " ".intercalate command.draft.leading
          placeholders := command.draft.placeholders }

end ActiveCommand

namespace ActiveMatcher

/-- The placeholders that a match fills, with their texts.  The argument is the number
of the first placeholder in the list. -/
def filled (matcher : ActiveMatcher) (found : Pattern.Match) :
    Nat → List String → List (String × String)
  | _, [] => []
  | index, key :: rest =>
    let text := (matcher.pattern.groupNamed? (ActiveCommand.Draft.groupName index)).bind
      found.group?
    match text with
    | some text => (key, String.ofList text) :: matcher.filled found (index + 1) rest
    | none => matcher.filled found (index + 1) rest

/-- Match a message text. -/
def matchText? (matcher : ActiveMatcher) (text : String) : Option CommandMatch :=
  if matcher.startsWith.toList.isPrefixOf text.toList then
    (matcher.pattern.find? text).map fun found =>
      { command := matcher.template
        arguments := .ofList (matcher.filled found 0 matcher.placeholders) }
  else none

end ActiveMatcher

end BotHost
