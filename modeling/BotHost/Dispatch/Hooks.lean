/-
# Hooks

The handlers of an account, in two tables of chains: listeners by event type, and
command handlers by command id.  Each entry remembers its owner, so that everything an
owner registered can be withdrawn, and whether it hears the account's own events.

A chain keeps the order of registration, and no empty chain stays in a table.
-/

import BotHost.SortedMap

namespace BotHost

/-- A registered handler. -/
structure Entry (α : Type) where
  owner : String
  /-- Whether it hears events that the account sent itself. -/
  hearsOwn : Bool
  handler : α

/-- Chains of handlers by key. -/
abbrev Chains (α : Type) := SortedMap String (List (Entry α))

namespace Chains

variable {α : Type}

/-- The chain under a key. -/
def chain (chains : Chains α) (key : String) : List (Entry α) :=
  (SortedMap.find? chains key).getD []

/-- Append an entry to the chain under a key. -/
def add (chains : Chains α) (key : String) (entry : Entry α) : Chains α :=
  SortedMap.insert chains key (chains.chain key ++ [entry])

/-- What is left of a chain without an owner's entries, unless nothing is. -/
def without (owner : String) (chain : List (Entry α)) : Option (List (Entry α)) :=
  let rest := chain.filter fun entry => entry.owner != owner
  if rest.isEmpty then none else some rest

/-- Withdraw every entry of an owner. -/
def withdraw (chains : Chains α) (owner : String) : Chains α :=
  SortedMap.filterMap chains fun _ chain => without owner chain

/-- How many entries there are in all chains. -/
def count (chains : Chains α) : Nat := (SortedMap.values chains).flatten.length

/-- A registration shows in its own chain only. -/
theorem chain_add (chains : Chains α) (key : String) (entry : Entry α) (sought : String) :
    (chains.add key entry).chain sought =
      if key = sought then chains.chain sought ++ [entry] else chains.chain sought := by
  unfold add chain
  rw [SortedMap.find?_insert]
  by_cases h : key = sought
  · subst h; simp
  · simp [h]

end Chains

/-- The handlers of an account: the listeners and the command handlers. -/
structure Hooks (Listener Command : Type) where
  /-- Listeners by event type, or under the wildcard. -/
  listeners : Chains Listener
  /-- Command handlers by command id. -/
  commands : Chains Command

namespace Hooks

variable {Listener Command : Type}

/-- The event type under which listeners for all events are registered. -/
def wildcard : String := "*"

/-- No handlers. -/
def empty : Hooks Listener Command := ⟨.empty, .empty⟩

/-- Append a listener. -/
def addListener (hooks : Hooks Listener Command) (eventType : String)
    (entry : Entry Listener) : Hooks Listener Command :=
  { hooks with listeners := hooks.listeners.add eventType entry }

/-- Append a command handler. -/
def addCommand (hooks : Hooks Listener Command) (command : String)
    (entry : Entry Command) : Hooks Listener Command :=
  { hooks with commands := hooks.commands.add command entry }

/-- Withdraw everything an owner registered. -/
def withdraw (hooks : Hooks Listener Command) (owner : String) : Hooks Listener Command :=
  ⟨hooks.listeners.withdraw owner, hooks.commands.withdraw owner⟩

/-- How many handlers are registered. -/
def count (hooks : Hooks Listener Command) : Nat :=
  hooks.listeners.count + hooks.commands.count

/-- How many handlers a withdrawal removes. -/
def withdrawn (hooks : Hooks Listener Command) (owner : String) : Nat :=
  hooks.count - (hooks.withdraw owner).count

/-- The listeners for an event type, in the order in which they hear an event: those
for the type, and then those for all events. -/
def listenersFor (hooks : Hooks Listener Command) (eventType : String) :
    List (Entry Listener) :=
  hooks.listeners.chain eventType ++ hooks.listeners.chain wildcard

end Hooks

end BotHost
