/-
# Who hears an event

An event concerns the listeners that are registered for its type and those that are registered for
all events.  `Hooks.concerned` reads them off the table, chain by chain, so a registration counts
once.  A dispatch puts its row of listeners together from two look-ups instead, one under the type
of the event and one under the wildcard.

`Stage.listeners_called` compares the two.  For every type but one the look-ups are of different
keys, so no registration is called twice, and none is left out unless a handler ends the dispatch.
But a type may also be spelled like the wildcard.  Then both look-ups find the same chain, and the
listeners for all events are called twice.
-/

import BotHost.Proofs.Account.Events
import BotHost.Proofs.Specs.Merging
import Mathlib.Data.List.Perm.Subperm

namespace BotHost

namespace InTurn

variable {σ ι β : Type} {deal : ι → σ → β → σ → Prop} {ends : β → Bool} {start after : σ}
  {items : List ι} {done : List (ι × β)}

/-- The items that are dealt with are the first ones of the row. -/
theorem map_fst_prefix (h : InTurn deal ends start items done after) :
    done.map Prod.fst <+: items := by
  induction items generalizing start done with
  | nil =>
      obtain ⟨rfl, -⟩ := inTurn_nil_iff.mp h
      exact List.nil_prefix
  | cons item rest ih =>
      obtain ⟨answer, between, others, rfl, -, hrest⟩ := inTurn_cons_iff.mp h
      refine List.cons_prefix_cons.mpr ⟨rfl, ?_⟩
      by_cases hends : ends answer = true
      · obtain ⟨rfl, -⟩ : others = [] ∧ after = between := by simpa [hends] using hrest
        exact List.nil_prefix
      · exact ih (by simpa [hends] using hrest)

/-- If no answer ends the row, all items are dealt with. -/
theorem map_fst_eq (h : InTurn deal ends start items done after)
    (hgoes : ∀ entry ∈ done, ends entry.2 = false) : done.map Prod.fst = items := by
  induction items generalizing start done with
  | nil =>
      obtain ⟨rfl, -⟩ := inTurn_nil_iff.mp h
      rfl
  | cons item rest ih =>
      obtain ⟨answer, between, others, rfl, -, hrest⟩ := inTurn_cons_iff.mp h
      obtain ⟨hfirst, hothers⟩ := List.forall_mem_cons.mp hgoes
      rw [List.map_cons, ih (by simpa [hfirst] using hrest) hothers]

end InTurn

/-! ### The listeners that an event concerns -/

/-- The entries under one key are the chain of the key. -/
theorem Chains.flatMap_filter_key {α : Type} (chains : Chains α) (key : String) :
    (chains.toList.filter fun chain => chain.1 = key).flatMap (·.2) = chains.chain key := by
  rw [SortedMap.filter_key, Chains.chain]
  cases SortedMap.find? chains key <;> simp

namespace Hooks

variable {Listener Command : Type} (hooks : Hooks Listener Command)

/-- The listeners in the table that are registered for an event type or for all events. -/
def concerned (eventType : String) : List (Entry Listener) :=
  (hooks.listeners.toList.filter fun chain => chain.1 = eventType ∨ chain.1 = wildcard).flatMap
    (·.2)

/-- If the type of an event differs from the wildcard, its listeners are those that it concerns. -/
theorem listenersFor_perm {eventType : String} (hne : eventType ≠ wildcard) :
    (hooks.listenersFor eventType).Perm (hooks.concerned eventType) := by
  have hsplit := List.filter_append_perm (fun chain => decide (chain.1 = eventType))
    (hooks.listeners.toList.filter fun chain => chain.1 = eventType ∨ chain.1 = wildcard)
  rw [List.filter_filter, List.filter_filter] at hsplit
  have htyped : ∀ chain ∈ hooks.listeners.toList,
      (decide (chain.1 = eventType) && decide (chain.1 = eventType ∨ chain.1 = wildcard)) =
        decide (chain.1 = eventType) := fun chain _ => by
    by_cases htype : chain.1 = eventType <;> simp [htype]
  have hall : ∀ chain ∈ hooks.listeners.toList,
      (!decide (chain.1 = eventType) && decide (chain.1 = eventType ∨ chain.1 = wildcard)) =
        decide (chain.1 = wildcard) := fun chain _ => by
    by_cases htype : chain.1 = eventType <;> simp [htype, hne]
  rw [List.filter_congr htyped, List.filter_congr hall] at hsplit
  have hlisteners := hsplit.flatMap_right (·.2)
  rwa [List.flatMap_append, Chains.flatMap_filter_key, Chains.flatMap_filter_key] at hlisteners

/-- If the type of an event is the wildcard, its listeners are those that it concerns, twice. -/
theorem listenersFor_wildcard :
    hooks.listenersFor wildcard = hooks.concerned wildcard ++ hooks.concerned wildcard := by
  have hconcerned : hooks.concerned wildcard = hooks.listeners.chain wildcard := by
    simp only [concerned, or_self, Chains.flatMap_filter_key]
  rw [hconcerned, listenersFor]

end Hooks

/-! ### The calls of a dispatch -/

/-- No handler that is called ends its phase for those after it. -/
structure DispatchRecord.Undisturbed {σ Listener Command : Type}
    (record : DispatchRecord σ Listener Command) : Prop where
  commands : ∀ call ∈ record.obeyed, CommandSignal.endsDispatch call.2 = false
  listeners : ∀ call ∈ record.heard, ListenerSignal.endsPhase call.2 = false

namespace DispatchRecord

variable {σ Listener Command : Type} {record : DispatchRecord σ Listener Command}
  {stage : Stage σ Listener Command} {context : EventContext} {start : σ}

/-- The listeners that are called are the first ones of their row. -/
theorem Follows.heard_prefix (h : record.Follows stage context start) :
    record.heard.map Prod.fst <+:
      (stage.hooks record.between).listenersFor context.event.eventType := by
  have hlisteners := h.listeners
  by_cases hlast : record.chains.any (fun chain => Stage.lastChain chain.2) = true
  · rw [if_pos hlast] at hlisteners
    rw [hlisteners.1]
    exact List.nil_prefix
  · rw [if_neg hlast] at hlisteners
    exact hlisteners.map_fst_prefix

/-- If nothing ends the dispatch, all listeners of the row are called. -/
theorem Follows.heard_eq (h : record.Follows stage context start) (hgoes : record.Undisturbed) :
    record.heard.map Prod.fst =
      (stage.hooks record.between).listenersFor context.event.eventType := by
  have hlast : ¬ record.chains.any (fun chain => Stage.lastChain chain.2) = true := by
    have hcommands :
        ¬ record.obeyed.any (fun call => CommandSignal.endsDispatch call.2) = true := by
      simpa using hgoes.commands
    rwa [obeyed, List.any_flatMap] at hcommands
  have hlisteners := h.listeners
  rw [if_neg hlast] at hlisteners
  exact hlisteners.map_fst_eq hgoes.listeners

end DispatchRecord

/-- Whatever the table of listeners and whatever the event, the dispatch calls no listener more
often than the event concerns it, and exactly as often if nothing ends the dispatch early.  That is
once for every registration, unless the type of the event is the wildcard: then the listeners for
all events are called one after the other, and then again. -/
theorem Stage.listeners_called {σ Listener Command : Type} (stage : Stage σ Listener Command)
    (context : EventContext) (start : σ) :
    (∃ record : DispatchRecord σ Listener Command, record.Follows stage context start) ∧
    ∀ record : DispatchRecord σ Listener Command, record.Follows stage context start →
      stage.dispatch context start = record.result ∧
      let concerned := (stage.hooks record.between).concerned context.event.eventType
      let called := record.heard.map Prod.fst
      (context.event.eventType ≠ Hooks.wildcard →
        called.Subperm concerned ∧ (record.Undisturbed → called.Perm concerned)) ∧
      (context.event.eventType = Hooks.wildcard →
        called <+: concerned ++ concerned ∧
          (record.Undisturbed → called = concerned ++ concerned)) := by
  refine ⟨exists_follows stage context start, fun record h => ⟨dispatch_of_follows h, ?_⟩⟩
  intro concerned called
  have hcalled : called <+: (stage.hooks record.between).listenersFor context.event.eventType :=
    h.heard_prefix
  constructor
  · intro hne
    have hrow := (stage.hooks record.between).listenersFor_perm hne
    exact ⟨hcalled.sublist.subperm.trans hrow.subperm,
      fun hgoes => (List.Perm.of_eq (h.heard_eq hgoes)).trans hrow⟩
  · intro htype
    have hrow : (stage.hooks record.between).listenersFor context.event.eventType =
        concerned ++ concerned := by
      simp only [concerned, htype, Hooks.listenersFor_wildcard]
    exact ⟨hrow ▸ hcalled, fun hgoes => (h.heard_eq hgoes).trans hrow⟩

/-! ### Two listeners

The scene of the concrete dispatches: a listener for room messages, one for all events, and events
of which no command is found. -/

namespace Audience

/-- The listener for room messages. -/
def typed : Entry Unit := ⟨"a", false, ()⟩

/-- The listener for all events. -/
def general : Entry Unit := ⟨"b", false, ()⟩

/-- The table. -/
def hooks : Hooks Unit Unit :=
  (Hooks.empty.addListener roomMessage typed).addListener Hooks.wildcard general

/-- Handlers that do nothing but go on. -/
def stage : Stage (Hooks Unit Unit) Unit Unit :=
  ⟨id, fun _ _ => pure .continue, fun _ _ => pure .continue⟩

/-- An event of some type. -/
def context (eventType : String) : EventContext :=
  ⟨"@bot:hs", { TwoOwners.message "hello" with eventType }, .none⟩

/-- Every listener of the row is called and goes on. -/
def record (row : List (Entry Unit)) : DispatchRecord (Hooks Unit Unit) Unit Unit :=
  ⟨[], hooks, row.map (·, .ok .continue), hooks⟩

theorem undisturbed (row : List (Entry Unit)) : (record row).Undisturbed where
  commands := by simp [record, DispatchRecord.obeyed]
  listeners := by simp [record, ListenerSignal.endsPhase]

theorem follows (eventType : String) :
    (record (hooks.listenersFor eventType)).Follows stage (context eventType) hooks where
  chains := inTurn_nil_iff.mpr ⟨rfl, rfl⟩
  listeners := by
    have hrow (row : List (Entry Unit)) :
        InTurn (Stage.Called (stage.callListener (context eventType))) ListenerSignal.endsPhase
          hooks row (row.map (·, .ok .continue)) hooks := by
      induction row with
      | nil => exact inTurn_nil_iff.mpr ⟨rfl, rfl⟩
      | cons entry rest ih =>
          refine inTurn_cons_iff.mpr ⟨_, _, _, rfl, ?_, ih⟩
          unfold Stage.Called Stage.callListener
          split <;> rfl
    exact hrow (hooks.listenersFor eventType)

end Audience

/-- A room message is heard once by each of the two listeners. -/
theorem Stage.listeners_called_message :
    roomMessage ≠ Hooks.wildcard ∧
      Audience.hooks.concerned roomMessage = [Audience.general, Audience.typed] ∧
      ∃ record : DispatchRecord (Hooks Unit Unit) Unit Unit,
        record.Follows Audience.stage (Audience.context roomMessage) Audience.hooks ∧
        record.Undisturbed ∧
        Audience.stage.dispatch (Audience.context roomMessage) Audience.hooks =
          .ok ⟨2, false⟩ Audience.hooks ∧
        (record.heard.map Prod.fst).Perm [Audience.general, Audience.typed] := by
  have hne : roomMessage ≠ Hooks.wildcard := by decide
  have hconcerned :
      Audience.hooks.concerned roomMessage = [Audience.general, Audience.typed] := rfl
  obtain ⟨-, hcalls⟩ := Stage.listeners_called Audience.stage (Audience.context roomMessage)
    Audience.hooks
  obtain ⟨hresult, honce, -⟩ := hcalls _ (Audience.follows roomMessage)
  have hperm := (honce hne).2 (Audience.undisturbed _)
  exact ⟨hne, hconcerned, _, Audience.follows roomMessage, Audience.undisturbed _, hresult,
    hperm.trans (List.Perm.of_eq hconcerned)⟩

/-- An event whose type is the wildcard is heard twice by the only listener for all events. -/
theorem Stage.listener_called_twice :
    Audience.hooks.concerned Hooks.wildcard = [Audience.general] ∧
      ∃ record : DispatchRecord (Hooks Unit Unit) Unit Unit,
        record.Follows Audience.stage (Audience.context Hooks.wildcard) Audience.hooks ∧
        record.Undisturbed ∧
        record.heard.map Prod.fst = [Audience.general, Audience.general] ∧
        ¬ (record.heard.map Prod.fst).Subperm (Audience.hooks.concerned Hooks.wildcard) ∧
        Audience.stage.dispatch (Audience.context Hooks.wildcard) Audience.hooks =
          .ok ⟨2, false⟩ Audience.hooks := by
  have htwice : (Audience.record (Audience.hooks.listenersFor Hooks.wildcard)).heard.map Prod.fst =
      [Audience.general, Audience.general] := rfl
  refine ⟨rfl, _, Audience.follows Hooks.wildcard, Audience.undisturbed _, htwice, ?_, rfl⟩
  intro hsub
  have hlength := hsub.length_le
  rw [htwice] at hlength
  exact absurd hlength (by decide)

end BotHost
