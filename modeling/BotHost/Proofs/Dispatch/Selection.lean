/-
# Selecting hooks

`Hooks.keep` leaves in the tables only the entries that pass a test.  A chain of which nothing is
left goes with its key, so a table never has an empty chain.

Withdrawing an owner keeps the entries of all others, `Hooks.withdraw_eq_keep`.  Selecting commutes
with registering: an entry that fails the test might as well not have been registered.
-/

import BotHost.Dispatch

namespace BotHost

namespace Chains

variable {α : Type} {chains : Chains α}

/-- Keep the entries that pass a test. -/
def keep (chains : Chains α) (test : Entry α → Bool) : Chains α :=
  SortedMap.filterMap chains fun _ chain =>
    let rest := chain.filter test
    if rest.isEmpty then none else some rest

/-- Whether every key of a table has a handler. -/
def NoneEmpty (chains : Chains α) : Prop :=
  ∀ key chain, SortedMap.find? chains key = some chain → chain ≠ []

theorem find?_keep (chains : Chains α) (test : Entry α → Bool) (key : String) :
    SortedMap.find? (chains.keep test) key =
      if ((chains.chain key).filter test).isEmpty then none
      else some ((chains.chain key).filter test) := by
  unfold keep chain
  rw [SortedMap.find?_filterMap]
  cases SortedMap.find? chains key <;> rfl

@[simp] theorem chain_keep (chains : Chains α) (test : Entry α → Bool) (key : String) :
    (chains.keep test).chain key = (chains.chain key).filter test := by
  unfold chain
  rw [find?_keep, chain]
  cases h : ((SortedMap.find? chains key).getD []).filter test <;> simp

/-- A chain has the entries it had, and one that is registered under its key. -/
theorem mem_chain_add {key sought : String} {entry registered : Entry α} :
    registered ∈ (chains.add key entry).chain sought ↔
      registered ∈ chains.chain sought ∨ key = sought ∧ registered = entry := by
  rw [chain_add]
  by_cases hkey : key = sought <;> simp [hkey]

theorem find?_add (chains : Chains α) (key : String) (entry : Entry α) (sought : String) :
    SortedMap.find? (chains.add key entry) sought =
      if key = sought then some (chains.chain key ++ [entry]) else SortedMap.find? chains sought :=
  SortedMap.find?_insert chains key _ sought

/-- A selection from the selected entries. -/
theorem keep_keep (chains : Chains α) (first second : Entry α → Bool) :
    (chains.keep first).keep second = chains.keep fun entry => first entry && second entry := by
  refine SortedMap.ext_find? fun key => ?_
  simp only [find?_keep, chain_keep, List.filter_filter, Bool.and_comm]

/-- A registration shows in a selection if its entry passes the test. -/
theorem keep_add (chains : Chains α) (test : Entry α → Bool) (key : String) (entry : Entry α) :
    (chains.add key entry).keep test =
      if test entry then (chains.keep test).add key entry else chains.keep test := by
  refine SortedMap.ext_find? fun sought => ?_
  by_cases hpasses : test entry = true <;> by_cases hkey : key = sought
  · subst hkey
    simp [find?_keep, find?_add, chain_add, hpasses]
  · simp [find?_keep, find?_add, chain_add, hpasses, hkey]
  · subst hkey
    simp [find?_keep, chain_add, hpasses]
  · simp [find?_keep, chain_add, hpasses, hkey]

theorem noneEmpty_keep (chains : Chains α) (test : Entry α → Bool) :
    (chains.keep test).NoneEmpty := by
  intro key chain hfound
  rw [find?_keep] at hfound
  by_cases hempty : ((chains.chain key).filter test).isEmpty = true
  · simp [hempty] at hfound
  · simp only [hempty] at hfound
    cases hfound
    simpa using hempty

/-- All entries, chain by chain. -/
def entries (chains : Chains α) : List (Entry α) := (SortedMap.values chains).flatten

/-- A selection has the entries that pass the test. -/
theorem entries_keep (chains : Chains α) (test : Entry α → Bool) :
    (chains.keep test).entries = chains.entries.filter test := by
  obtain ⟨listed, h⟩ := chains
  simp only [entries, SortedMap.values, keep, SortedMap.filterMap]
  clear h
  induction listed with
  | nil => rfl
  | cons head rest ih =>
      obtain ⟨key, chain⟩ := head
      simp only [Entries.filterMap, List.filterMap_cons] at ih ⊢
      by_cases hempty : chain.filter test = []
      · simpa [hempty] using ih
      · simpa [hempty] using ih

/-- Entries are either of an owner or stay when the owner is withdrawn. -/
theorem count_eq_add (chains : Chains α) (owner : String) :
    chains.count =
      (chains.withdraw owner).count + chains.entries.countP fun entry => entry.owner == owner := by
  have hkept : (chains.withdraw owner).count =
      (chains.entries.filter fun entry => entry.owner != owner).length :=
    congrArg List.length (chains.entries_keep fun entry => entry.owner != owner)
  have hsplit := List.length_eq_countP_add_countP (fun entry : Entry α => entry.owner == owner)
    (l := chains.entries)
  simp only [decide_not, Bool.decide_eq_true] at hsplit
  rw [hkept, ← List.countP_eq_length_filter, Nat.add_comm]
  exact hsplit

end Chains

namespace Hooks

variable {Listener Command : Type} {hooks : Hooks Listener Command}

/-- Keep the listeners and the command handlers that pass a test each. -/
def keep (hooks : Hooks Listener Command) (listens : Entry Listener → Bool)
    (obeys : Entry Command → Bool) : Hooks Listener Command :=
  ⟨hooks.listeners.keep listens, hooks.commands.keep obeys⟩

/-- Whether every event type and every command id in the tables has a handler. -/
def NoneEmpty (hooks : Hooks Listener Command) : Prop :=
  hooks.listeners.NoneEmpty ∧ hooks.commands.NoneEmpty

/-- How many handlers an owner has registered. -/
def countOf (hooks : Hooks Listener Command) (owner : String) : Nat :=
  (hooks.listeners.entries.countP fun entry => entry.owner == owner) +
    hooks.commands.entries.countP fun entry => entry.owner == owner

/-- Withdrawing an owner keeps the entries of all others. -/
theorem withdraw_eq_keep (hooks : Hooks Listener Command) (owner : String) :
    hooks.withdraw owner =
      hooks.keep (fun entry => entry.owner != owner) (fun entry => entry.owner != owner) := rfl

/-- A withdrawal removes what the owner has registered and nothing else. -/
theorem count_withdraw (hooks : Hooks Listener Command) (owner : String) :
    hooks.count = (hooks.withdraw owner).count + hooks.countOf owner := by
  have hlisteners := hooks.listeners.count_eq_add owner
  have hcommands := hooks.commands.count_eq_add owner
  simp only [count, countOf, withdraw]
  omega

theorem withdrawn_eq_countOf (hooks : Hooks Listener Command) (owner : String) :
    hooks.withdrawn owner = hooks.countOf owner := by
  have hcount := hooks.count_withdraw owner
  unfold withdrawn
  omega

section Keeping

variable (listens : Entry Listener → Bool) (obeys : Entry Command → Bool)

theorem keep_addListener (hooks : Hooks Listener Command) (eventType : String)
    (entry : Entry Listener) :
    (hooks.addListener eventType entry).keep listens obeys =
      if listens entry then (hooks.keep listens obeys).addListener eventType entry
      else hooks.keep listens obeys := by
  simp only [keep, addListener, Chains.keep_add]
  by_cases hpasses : listens entry = true <;> simp [hpasses]

theorem keep_addCommand (hooks : Hooks Listener Command) (command : String)
    (entry : Entry Command) :
    (hooks.addCommand command entry).keep listens obeys =
      if obeys entry then (hooks.keep listens obeys).addCommand command entry
      else hooks.keep listens obeys := by
  simp only [keep, addCommand, Chains.keep_add]
  by_cases hpasses : obeys entry = true <;> simp [hpasses]

theorem listenersFor_keep (hooks : Hooks Listener Command) (eventType : String) :
    (hooks.keep listens obeys).listenersFor eventType =
      (hooks.listenersFor eventType).filter listens := by
  simp only [listenersFor, keep, Chains.chain_keep, List.filter_append]

/-- It does not matter whether an owner is withdrawn before or after a selection. -/
theorem keep_withdraw (hooks : Hooks Listener Command) (owner : String) :
    (hooks.withdraw owner).keep listens obeys = (hooks.keep listens obeys).withdraw owner := by
  simp only [withdraw_eq_keep, keep, Chains.keep_keep, Bool.and_comm]

end Keeping

/-- Withdrawing an owner once more changes nothing. -/
theorem withdraw_withdraw (hooks : Hooks Listener Command) (owner : String) :
    (hooks.withdraw owner).withdraw owner = hooks.withdraw owner := by
  simp only [withdraw_eq_keep, keep, Chains.keep_keep, Bool.and_self]

/-- It does not matter which of two owners is withdrawn first. -/
theorem withdraw_comm (hooks : Hooks Listener Command) (first second : String) :
    (hooks.withdraw first).withdraw second = (hooks.withdraw second).withdraw first :=
  keep_withdraw _ _ hooks first

theorem noneEmpty_withdraw (hooks : Hooks Listener Command) (owner : String) :
    (hooks.withdraw owner).NoneEmpty :=
  ⟨Chains.noneEmpty_keep _ _, Chains.noneEmpty_keep _ _⟩

end Hooks

end BotHost
