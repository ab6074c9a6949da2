/-
# Command specs

A plugin declares the commands it understands as a `CommandSpec`.  An active command
is a syntax template with placeholders that is compared with whole messages; a
passive command is a pattern that is looked for in a field of every message.

Specs are plain data: they are stored as JSON and compared structurally, so setting
an identical spec again can be recognised.
-/

import BotHost.Json.Decode

namespace BotHost

/-- One placeholder of an active command. -/
structure Argument where
  /-- The pattern that the argument's text must match in full. -/
  pattern : String
  required : Bool
  description : String
deriving DecidableEq

/-- An active command. -/
structure ActiveCommand where
  /-- The template, its tokens separated by blanks. -/
  template : String
  description : String
  /-- The tokens of the template that are placeholders. -/
  arguments : SortedMap String Argument
deriving BEq, ReflBEq, LawfulBEq

/-- A passive command. -/
structure PassiveCommand where
  name : String
  pattern : String
  /-- The dotted path of the field it is looked for in. -/
  field : String
  /-- A partial event that has to be a structural subset of the real one. -/
  template : Option Json
deriving BEq, ReflBEq

/-- All commands that one plugin declares on one account. -/
structure CommandSpec where
  /-- The active commands, in order of preference. -/
  active : List ActiveCommand
  passive : List PassiveCommand
deriving BEq, ReflBEq, Inhabited

namespace Argument

/-- Decode an argument. -/
def decode : Decoder Argument := fun document => do
  let fields ← document.fields? ["matches", "required", "description"]
  let pattern ← fields.required "matches" Decoder.text
  let required ← fields.orElse "required" Decoder.bool false
  let description ← fields.orElse "description" Decoder.text ""
  some { pattern, required, description }

/-- A description, left out when it is empty. -/
def descriptionMember (description : String) : List (String × Json) :=
  if description = "" then [] else [("description", .string description)]

/-- Encode an argument. -/
def toJson (argument : Argument) : Json :=
  Json.ofMembers
    ([("matches", .string argument.pattern), ("required", .bool argument.required)] ++
      descriptionMember argument.description)

end Argument

namespace ActiveCommand

/-- Decode an active command. -/
def decode : Decoder ActiveCommand := fun document => do
  let fields ← document.fields? ["syntax", "description", "arguments"]
  let template ← fields.required "syntax" Decoder.text
  let description ← fields.orElse "description" Decoder.text ""
  let arguments ← fields.orElse "arguments" (Decoder.map Argument.decode) .empty
  some { template, description, arguments }

/-- Encode an active command. -/
def toJson (command : ActiveCommand) : Json :=
  Json.ofMembers
    ([("syntax", .string command.template)] ++
      Argument.descriptionMember command.description ++
      [("arguments", .object (command.arguments.toList.map fun (key, argument) =>
        (key, argument.toJson)))])

end ActiveCommand

namespace PassiveCommand

/-- The field that patterns are looked for in unless a command says otherwise. -/
def defaultField : String := "body"

/-- Decode a passive command. -/
def decode : Decoder PassiveCommand := fun document => do
  let fields ← document.fields? ["name", "matches", "match_against", "match_event"]
  let name ← fields.required "name" Decoder.text
  let pattern ← fields.required "matches" Decoder.text
  let field ← fields.orElse "match_against" Decoder.text defaultField
  let template ← fields.optional "match_event" Decoder.json
  some { name, pattern, field, template }

/-- Encode a passive command. -/
def toJson (command : PassiveCommand) : Json :=
  Json.ofMembers
    ([("name", .string command.name), ("matches", .string command.pattern),
        ("match_against", .string command.field)] ++
      (command.template.map fun template => ("match_event", template)).toList)

end PassiveCommand

namespace CommandSpec

/-- The spec that declares nothing. -/
def empty : CommandSpec := ⟨[], []⟩

/-- Whether the spec declares nothing. -/
def isEmpty (spec : CommandSpec) : Bool := spec.active.isEmpty && spec.passive.isEmpty

/-- The commands of both specs, the first spec's before the second's. -/
def merge (first second : CommandSpec) : CommandSpec :=
  ⟨first.active ++ second.active, first.passive ++ second.passive⟩

/-- Decode a spec. -/
def decode : Decoder CommandSpec := fun document => do
  let fields ← document.fields? ["commands", "passive_commands"]
  let active ← fields.orElse "commands" (Decoder.list ActiveCommand.decode) []
  let passive ← fields.orElse "passive_commands" (Decoder.list PassiveCommand.decode) []
  some { active, passive }

/-- A list of commands, left out when it is empty. -/
def listMember (key : String) (items : List Json) : List (String × Json) :=
  if items.isEmpty then [] else [(key, .array items)]

/-- Encode a spec. -/
def toJson (spec : CommandSpec) : Json :=
  Json.ofMembers
    (listMember "commands" (spec.active.map ActiveCommand.toJson) ++
      listMember "passive_commands" (spec.passive.map PassiveCommand.toJson))

end CommandSpec

end BotHost
