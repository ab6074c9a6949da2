/-
# The calls of a dispatch

Handlers may do anything while they run: register and withdraw handlers, end their chain or the
whole dispatch, and panic.  What a dispatch does is stated here as the list of the calls it
makes.  Each call is made in the state that the call before it left behind, and its answer is a
signal or a panic.

`InTurn` is the law of one row of items: an item is dealt with exactly if none before it gave an
answer that ends the row.  It is used twice, for the entries of a chain and for the chains of the
matched commands.  The entries of a chain are those in the tables when the chain begins, so what
its handlers register takes effect from the next chain on.

`Stage.dispatch_eq_iff` says that a dispatch comes to a result exactly if the law admits a record
of calls with that result.  A call runs the body of its handler unless the entry does not hear the
event, `Stage.Ran`, and `DispatchRecord.Follows.ran` says so of all the calls of a record.
-/

import BotHost.Dispatch
import BotHost.Proofs.Keeping

namespace BotHost

/-! ### Items in turn -/

section Turns

variable {σ ι β : Type}

/-- Items are dealt with one after the other, each in the state that the one before left. -/
inductive Linked (deal : ι → σ → β → σ → Prop) : σ → List (ι × β) → σ → Prop where
  | nil (state : σ) : Linked deal state [] state
  | cons {state between after : σ} {item : ι} {answer : β} {rest : List (ι × β)} :
      deal item state answer between → Linked deal between rest after →
      Linked deal state ((item, answer) :: rest) after

/-- What is dealt with of a row of items, if some answers end the row: an item is dealt with
exactly if no answer before it does. -/
def Reached (ends : β → Bool) (items : List ι) (done : List (ι × β)) : Prop :=
  ∀ index item, (∃ answer, done[index]? = some (item, answer)) ↔
    items[index]? = some item ∧ ∀ entry ∈ done.take index, ends entry.2 = false

/-- Items are dealt with in turn until an answer ends the row.  `done` lists those that are
dealt with, each with its answer. -/
structure InTurn (deal : ι → σ → β → σ → Prop) (ends : β → Bool) (start : σ) (items : List ι)
    (done : List (ι × β)) (after : σ) : Prop where
  linked : Linked deal start done after
  /-- An item is dealt with exactly if no answer before it ends the row. -/
  reached : Reached ends items done

variable {deal : ι → σ → β → σ → Prop} {ends : β → Bool} {start after : σ} {item : ι}
  {items : List ι} {done : List (ι × β)}

theorem reached_nil_iff : Reached ends ([] : List ι) done ↔ done = [] := by
  cases done with
  | nil => simp [Reached]
  | cons entry rest =>
      have hfirst : ¬ Reached ends ([] : List ι) (entry :: rest) := fun h => by
        simpa using (h 0 entry.1).mp ⟨entry.2, rfl⟩
      simp [hfirst]

theorem not_reached_cons_nil : ¬ Reached ends (item :: items) [] := fun h => by
  simpa using (h 0 item).mpr (by simp)

/-- The first item of a row is dealt with, and the others in turn if its answer does not end the
row. -/
theorem reached_cons_iff {first : ι} {answer : β} :
    Reached ends (item :: items) ((first, answer) :: done) ↔
      first = item ∧ if ends answer then done = [] else Reached ends items done := by
  -- Index zero is about the first item, and every other index about the rest of the row.
  rw [Reached, ← Nat.and_forall_add_one]
  refine and_congr ⟨fun h => ?_, ?_⟩ ?_
  · simpa using ((h first).mp ⟨answer, rfl⟩).1.symm
  · rintro rfl
    simp
  · by_cases hends : ends answer = true
    · cases done with
      | nil => simp [hends]
      | cons entry rest =>
          simp only [hends, if_true, reduceCtorEq, iff_false]
          intro h
          have hsecond := (h 0 entry.1).mp ⟨entry.2, rfl⟩
          simp [hends] at hsecond
    · simp [Reached, hends]

theorem inTurn_nil_iff : InTurn deal ends start [] done after ↔ done = [] ∧ after = start := by
  constructor
  · intro h
    obtain rfl := reached_nil_iff.mp h.reached
    cases h.linked
    exact ⟨rfl, rfl⟩
  · rintro ⟨rfl, rfl⟩
    exact ⟨.nil after, reached_nil_iff.mpr rfl⟩

/-- One item after the other: the first is dealt with, and then the others in the state it left,
unless its answer ends the row. -/
theorem inTurn_cons_iff :
    InTurn deal ends start (item :: items) done after ↔
      ∃ answer between rest, done = (item, answer) :: rest ∧ deal item start answer between ∧
        if ends answer then rest = [] ∧ after = between
        else InTurn deal ends between items rest after := by
  constructor
  · intro h
    cases hlinked : h.linked with
    | nil => exact absurd h.reached not_reached_cons_nil
    | @cons _ between _ first answer rest hdeal hrest =>
        obtain ⟨rfl, hreached⟩ := reached_cons_iff.mp h.reached
        refine ⟨answer, between, rest, rfl, hdeal, ?_⟩
        by_cases hends : ends answer = true
        · simp only [hends, if_true] at hreached ⊢
          subst hreached
          cases hrest
          exact ⟨rfl, rfl⟩
        · simp only [hends] at hreached ⊢
          exact ⟨hrest, hreached⟩
  · rintro ⟨answer, between, rest, rfl, hdeal, hrest⟩
    by_cases hends : ends answer = true
    · simp only [hends, if_true] at hrest
      obtain ⟨rfl, rfl⟩ := hrest
      exact ⟨.cons hdeal (.nil after), reached_cons_iff.mpr (by simp [hends])⟩
    · simp only [hends] at hrest
      exact ⟨.cons hdeal hrest.linked, reached_cons_iff.mpr (by simpa [hends] using hrest.reached)⟩

/-- If every item can be dealt with in every state, so can a row of items. -/
theorem exists_inTurn (hdeal : ∀ item state, ∃ answer after, deal item state answer after)
    (start : σ) (items : List ι) : ∃ done after, InTurn deal ends start items done after := by
  induction items generalizing start with
  | nil => exact ⟨[], start, inTurn_nil_iff.mpr ⟨rfl, rfl⟩⟩
  | cons item items ih =>
      obtain ⟨answer, between, hanswer⟩ := hdeal item start
      by_cases hends : ends answer = true
      · exact ⟨_, _, inTurn_cons_iff.mpr
          ⟨answer, between, [], rfl, hanswer, by rw [if_pos hends]; exact ⟨rfl, rfl⟩⟩⟩
      · obtain ⟨done, after, hrest⟩ := ih between
        exact ⟨_, _, inTurn_cons_iff.mpr
          ⟨answer, between, done, rfl, hanswer, by rw [if_neg hends]; exact hrest⟩⟩

end Turns

/-! ### The calls of one chain -/

/-- Calls of handlers in order, each with its answer: a signal, or a panic. -/
abbrev Calls (Handler Signal : Type) := List (Entry Handler × Except Panic Signal)

namespace Calls

variable {Handler Signal : Type}

/-- The panic among the answers, if there is one. -/
def panic? (calls : Calls Handler Signal) : Option Panic :=
  calls.findSome? fun call =>
    match call.2 with
    | .error panic => some panic
    | .ok _ => none

@[simp] theorem panic?_cons_ok (entry : Entry Handler) (signal : Signal)
    (rest : Calls Handler Signal) : panic? ((entry, .ok signal) :: rest) = rest.panic? := rfl

@[simp] theorem panic?_append (first second : Calls Handler Signal) :
    panic? (first ++ second) = first.panic?.or second.panic? :=
  List.findSome?_append

end Calls

namespace CommandSignal

/-- Whether an answer of a command handler ends the chain of the handler. -/
def endsChain : Except Panic CommandSignal → Bool
  | .ok .continue => false
  | _ => true

/-- Whether an answer of a command handler asks to skip everything that follows. -/
def stopsAll : Except Panic CommandSignal → Bool
  | .ok .stopAll => true
  | _ => false

/-- Whether nothing follows after an answer of a command handler. -/
def endsDispatch : Except Panic CommandSignal → Bool
  | .ok signal => stopsAll (.ok signal)
  | .error _ => true

end CommandSignal

namespace ListenerSignal

/-- Whether an answer of a listener ends the listener phase. -/
def endsPhase : Except Panic ListenerSignal → Bool
  | .ok .continue => false
  | _ => true

end ListenerSignal

namespace Stage

variable {σ Handler Signal α : Type}

/-- A handler is called in a state. -/
def Called (call : Entry Handler → Act σ Signal) (entry : Entry Handler) (state : σ)
    (answer : Except Panic Signal) (after : σ) : Prop :=
  (call entry).attempt state = .ok answer after

/-- What a row of calls comes to: the panic of one of them, or a result. -/
def comesTo (panic : Option Panic) (result : α) (after : σ) : EStateM.Result Panic σ α :=
  match panic with
  | some panic => .error panic after
  | none => .ok result after

/-- Every call comes to an answer. -/
theorem exists_called (call : Entry Handler → Act σ Signal) (entry : Entry Handler) (state : σ) :
    ∃ answer after, Called call entry state answer after := by
  obtain ⟨answer, hanswer⟩ := Act.attempt_eq_ok (call entry) state
  exact ⟨answer, _, hanswer⟩

/-- A call with a signal is an act that ends well, and a call with a panic one that panics. -/
theorem called_iff {call : Entry Handler → Act σ Signal} {entry : Entry Handler} {state after : σ}
    {answer : Except Panic Signal} :
    Called call entry state answer after ↔
      call entry state =
        match answer with
        | .ok signal => .ok signal after
        | .error panic => .error panic after := by
  unfold Called Act.attempt
  cases answer <;> cases call entry state <;> simp

variable {Listener Command : Type} {stage : Stage σ Listener Command} {context : EventContext}
  {start after : σ}

/-- A chain comes to the panic of one of its calls, or else it counts its calls and reports
whether one of them stopped everything. -/
theorem runChain_of_inTurn {chain : List (Entry Command)} {calls : Calls Command CommandSignal}
    (h : InTurn (Called (stage.callCommand context)) CommandSignal.endsChain start chain calls
      after)
    (invoked : Nat) :
    stage.runChain context invoked chain start =
      comesTo calls.panic?
        ⟨invoked + calls.length, calls.any fun call => CommandSignal.stopsAll call.2⟩ after := by
  induction chain generalizing start calls invoked with
  | nil =>
      obtain ⟨rfl, rfl⟩ := inTurn_nil_iff.mp h
      rfl
  | cons entry rest ih =>
      obtain ⟨answer, between, others, rfl, hcall, hrest⟩ := inTurn_cons_iff.mp h
      have hlast : CommandSignal.endsChain answer = true → others = [] ∧ after = between :=
        fun hends => by simpa [hends] using hrest
      -- Only `continue` goes on with the chain; a panic is the last answer like the other signals.
      rw [runChain, Act.bind_apply, called_iff.mp hcall]
      rcases answer with panic | _ | _ | _
      · obtain ⟨rfl, rfl⟩ := hlast rfl
        rfl
      · have hothers := ih (by simpa [CommandSignal.endsChain] using hrest) (invoked + 1)
        simp only [hothers, List.length_cons, List.any_cons, Calls.panic?_cons_ok,
          CommandSignal.stopsAll, Bool.false_or]
        rw [Nat.add_right_comm, Nat.add_assoc]
      · obtain ⟨rfl, rfl⟩ := hlast rfl
        rfl
      · obtain ⟨rfl, rfl⟩ := hlast rfl
        rfl

/-- The listener phase comes to the panic of one of its calls, or else it counts its calls. -/
theorem runListeners_of_inTurn {listeners : List (Entry Listener)}
    {heard : Calls Listener ListenerSignal}
    (h : InTurn (Called (stage.callListener context)) ListenerSignal.endsPhase start listeners
      heard after) (invoked : Nat) :
    stage.runListeners context invoked listeners start =
      comesTo heard.panic? (invoked + heard.length) after := by
  induction listeners generalizing start heard invoked with
  | nil =>
      obtain ⟨rfl, rfl⟩ := inTurn_nil_iff.mp h
      rfl
  | cons entry rest ih =>
      obtain ⟨answer, between, others, rfl, hcall, hrest⟩ := inTurn_cons_iff.mp h
      have hlast : ListenerSignal.endsPhase answer = true → others = [] ∧ after = between :=
        fun hends => by simpa [hends] using hrest
      rw [runListeners, Act.bind_apply, called_iff.mp hcall]
      rcases answer with panic | _ | _
      · obtain ⟨rfl, rfl⟩ := hlast rfl
        rfl
      · have hothers := ih (by simpa [ListenerSignal.endsPhase] using hrest) (invoked + 1)
        simp only [hothers, List.length_cons, Calls.panic?_cons_ok]
        rw [Nat.add_right_comm, Nat.add_assoc]
      · obtain ⟨rfl, rfl⟩ := hlast rfl
        rfl

/-! ### The chains of the matched commands -/

variable (stage context) in
/-- The chain of a command is run as it stands in a state. -/
def ChainRun (command : String) (state : σ) (calls : Calls Command CommandSignal) (after : σ) :
    Prop :=
  InTurn (Called (stage.callCommand context)) CommandSignal.endsChain state
    ((stage.hooks state).commands.chain command) calls after

/-- Whether nothing follows after the calls of a chain. -/
def lastChain (calls : Calls Command CommandSignal) : Bool :=
  calls.any fun call => CommandSignal.endsDispatch call.2

/-- The calls of a chain are the last ones if one of them panics or stops everything. -/
theorem lastChain_eq (calls : Calls Command CommandSignal) :
    lastChain calls =
      (calls.panic?.isSome || calls.any fun call => CommandSignal.stopsAll call.2) := by
  induction calls with
  | nil => rfl
  | cons call rest ih =>
      obtain ⟨entry, panic | signal⟩ := call
      · rfl
      · have hsignal :
            CommandSignal.endsDispatch (.ok signal) = CommandSignal.stopsAll (.ok signal) := rfl
        unfold lastChain at ih ⊢
        simp [ih, hsignal, Bool.or_left_comm]

theorem exists_chainRun (command : String) (state : σ) :
    ∃ calls after, stage.ChainRun context command state calls after :=
  exists_inTurn (exists_called _) state _

/-- The matched commands come to the panic of a call in one of their chains, or else the calls of
all chains are counted and it is reported whether one of them stopped everything. -/
theorem runCommands_of_inTurn {commands : List String}
    {chains : List (String × Calls Command CommandSignal)}
    (h : InTurn (stage.ChainRun context) lastChain start commands chains after) (invoked : Nat) :
    stage.runCommands context invoked commands start =
      comesTo (Calls.panic? (chains.flatMap (·.2)))
        ⟨invoked + (chains.flatMap (·.2)).length,
          (chains.flatMap (·.2)).any fun call => CommandSignal.stopsAll call.2⟩ after := by
  induction commands generalizing start chains invoked with
  | nil =>
      obtain ⟨rfl, rfl⟩ := inTurn_nil_iff.mp h
      rfl
  | cons command rest ih =>
      obtain ⟨calls, between, others, rfl, hchain, hrest⟩ := inTurn_cons_iff.mp h
      -- The chain is looked up in the state that the chains before it have left.
      rw [runCommands, Act.bind_apply, Act.get_apply]
      dsimp only
      rw [Act.bind_apply, runChain_of_inTurn hchain]
      rw [lastChain_eq] at hrest
      cases hpanic : calls.panic? with
      | some panic =>
          obtain ⟨rfl, rfl⟩ : others = [] ∧ after = between := by simpa [hpanic] using hrest
          simp [comesTo, hpanic]
      | none =>
          by_cases hstop : (calls.any fun call => CommandSignal.stopsAll call.2) = true
          · obtain ⟨rfl, rfl⟩ : others = [] ∧ after = between := by
              simpa [hpanic, hstop] using hrest
            simp [comesTo, hpanic, hstop]
            rfl
          · have hothers := ih (by simpa [hpanic, hstop] using hrest) (invoked + calls.length)
            simp [comesTo, hpanic, hstop, hothers, Nat.add_assoc]

end Stage

/-! ### The whole dispatch -/

/-- What a dispatch does: the calls it makes, and the states it passes through. -/
structure DispatchRecord (σ Listener Command : Type) where
  /-- The matched commands whose chains are run, each with the calls of its chain. -/
  chains : List (String × Calls Command CommandSignal)
  between : σ
  heard : Calls Listener ListenerSignal
  after : σ

namespace DispatchRecord

variable {σ Listener Command : Type} (record : DispatchRecord σ Listener Command)

/-- The calls of command handlers. -/
def obeyed : Calls Command CommandSignal := record.chains.flatMap (·.2)

/-- Whether a command handler stopped everything. -/
def stopped : Bool := record.obeyed.any fun call => CommandSignal.stopsAll call.2

/-- What the dispatch comes to: a panic if one of the calls panics, and otherwise the number of
calls and whether a command handler stopped everything. -/
def result : EStateM.Result Panic σ DispatchOutcome :=
  Stage.comesTo (record.obeyed.panic?.or record.heard.panic?)
    ⟨record.obeyed.length + record.heard.length, record.stopped⟩ record.after

/-- The calls are those that a stage owes to an event. -/
structure Follows (stage : Stage σ Listener Command) (context : EventContext) (start : σ) :
    Prop where
  /-- The chains of the active command and of the passive ones, in the order of the matches, are
  run in turn until a handler panics or stops everything. -/
  chains : InTurn (stage.ChainRun context) Stage.lastChain start
    ((context.found.command.map (·.command)).toList ++ context.found.passive.map (·.name))
    record.chains record.between
  /-- The listeners are called if no handler has panicked or stopped everything: those for the
  type of the event and then those for all events, as they stand by then, in turn until one
  panics or stops the others. -/
  listeners :
    if record.chains.any (fun chain => Stage.lastChain chain.2) then
      record.heard = [] ∧ record.after = record.between
    else
      InTurn (Stage.Called (stage.callListener context)) ListenerSignal.endsPhase record.between
        ((stage.hooks record.between).listeners.chain context.event.eventType ++
          (stage.hooks record.between).listeners.chain Hooks.wildcard)
        record.heard record.after

end DispatchRecord

namespace Stage

variable {σ Listener Command : Type} {stage : Stage σ Listener Command} {context : EventContext}
  {start : σ} {record : DispatchRecord σ Listener Command}

/-- Some chain is the last one if a call of a command handler panics or stops everything. -/
theorem any_lastChain_eq (record : DispatchRecord σ Listener Command) :
    record.chains.any (fun chain => lastChain chain.2) =
      (record.obeyed.panic?.isSome || record.stopped) := by
  rw [DispatchRecord.stopped, ← lastChain_eq, lastChain, DispatchRecord.obeyed, List.any_flatMap]
  rfl

/-- A dispatch comes to what its calls come to. -/
theorem dispatch_of_follows (h : record.Follows stage context start) :
    stage.dispatch context start = record.result := by
  have hcommands := runCommands_of_inTurn h.chains 0
  have hlisteners := h.listeners
  rw [any_lastChain_eq] at hlisteners
  rw [dispatch, Act.bind_apply, matchedIds, hcommands, DispatchRecord.result]
  cases hpanic : record.obeyed.panic? with
  | some panic =>
      obtain ⟨hheard, hafter⟩ : record.heard = [] ∧ record.after = record.between := by
        simpa [hpanic] using hlisteners
      rw [← DispatchRecord.obeyed, hpanic, hafter]
      rfl
  | none =>
      by_cases hstop : record.stopped = true
      · obtain ⟨hheard, hafter⟩ : record.heard = [] ∧ record.after = record.between := by
          simpa [hpanic, hstop] using hlisteners
        rw [← DispatchRecord.obeyed, hpanic, ← DispatchRecord.stopped, hstop, hheard, hafter]
        simp [comesTo]
        rfl
      · have hheard := runListeners_of_inTurn
          (by simpa [hpanic, hstop] using hlisteners) (0 + record.obeyed.length)
        rw [← DispatchRecord.obeyed, hpanic, ← DispatchRecord.stopped]
        simp only [comesTo, hstop, Bool.false_eq_true, if_false, Option.none_or]
        rw [Act.bind_apply, Act.get_apply]
        dsimp only
        rw [Act.bind_apply, Hooks.listenersFor, hheard, Nat.zero_add]
        cases record.heard.panic? <;> rfl

/-- From every state on there is a record of what a stage owes to an event. -/
theorem exists_follows (stage : Stage σ Listener Command) (context : EventContext) (start : σ) :
    ∃ record : DispatchRecord σ Listener Command, record.Follows stage context start := by
  let commands :=
    (context.found.command.map (·.command)).toList ++ context.found.passive.map (·.name)
  obtain ⟨chains, between, hchains⟩ :
      ∃ chains between, InTurn (stage.ChainRun context) lastChain start commands chains between :=
    exists_inTurn exists_chainRun start commands
  by_cases hlast : chains.any (fun chain => lastChain chain.2) = true
  · exact ⟨⟨chains, between, [], between⟩, hchains, by rw [if_pos hlast]; exact ⟨rfl, rfl⟩⟩
  · let listeners := (stage.hooks between).listeners.chain context.event.eventType ++
      (stage.hooks between).listeners.chain Hooks.wildcard
    obtain ⟨heard, after, hheard⟩ :
        ∃ heard after, InTurn (Called (stage.callListener context)) ListenerSignal.endsPhase between
          listeners heard after :=
      exists_inTurn (exists_called _) between listeners
    exact ⟨⟨chains, between, heard, after⟩, hchains, by rw [if_neg hlast]; exact hheard⟩

/-- A dispatch comes to a result exactly if there is a record of calls with that result. -/
theorem dispatch_eq_iff (result : EStateM.Result Panic σ DispatchOutcome) :
    stage.dispatch context start = result ↔
      ∃ record : DispatchRecord σ Listener Command,
        record.Follows stage context start ∧ record.result = result := by
  constructor
  · intro hresult
    obtain ⟨record, hrecord⟩ := exists_follows stage context start
    exact ⟨record, hrecord, (dispatch_of_follows hrecord).symm.trans hresult⟩
  · rintro ⟨record, hrecord, hresult⟩
    exact (dispatch_of_follows hrecord).trans hresult

end Stage

/-! ### The bodies of the handlers -/

section Turns

variable {σ ι κ β : Type} {deal : ι → σ → β → σ → Prop} {start between after : σ}

/-- Two rows that follow each other are one. -/
theorem Linked.append {first second : List (ι × β)} (h : Linked deal start first between)
    (hsecond : Linked deal between second after) : Linked deal start (first ++ second) after := by
  induction h with
  | nil => exact hsecond
  | cons hfirst _ ih => exact .cons hfirst (ih hsecond)

/-- Rows that are dealt with one after the other are dealt with item by item. -/
theorem Linked.flatMap {deals : κ → σ → List (ι × β) → σ → Prop}
    (hdeals : ∀ row state items next, deals row state items next → Linked deal state items next)
    {rows : List (κ × List (ι × β))} (h : Linked deals start rows after) :
    Linked deal start (rows.flatMap (·.2)) after := by
  induction h with
  | nil state => exact .nil state
  | cons hrow _ ih => exact (hdeals _ _ _ _ hrow).append ih

/-- Items that are dealt with in one way are dealt with in every way that it implies. -/
theorem Linked.imp {deal' : ι → σ → β → σ → Prop}
    (himp : ∀ item state answer next, deal item state answer next → deal' item state answer next)
    {done : List (ι × β)} (h : Linked deal start done after) : Linked deal' start done after := by
  induction h with
  | nil state => exact .nil state
  | cons hfirst _ ih => exact .cons (himp _ _ _ _ hfirst) ih

end Turns

/-- Whether an entry hears an event: only own events are kept from it. -/
def Entry.hears {Handler : Type} (context : EventContext) (entry : Entry Handler) : Bool :=
  entry.hearsOwn || !context.isOwn

namespace Stage

variable {σ Handler Signal Listener Command : Type} {stage : Stage σ Listener Command}
  {context : EventContext} {state after : σ}

/-- The body of a handler is run if its entry hears the event, and otherwise the entry passes. -/
def Ran (body : Handler → EventContext → Act σ Signal) (pass : Signal) (context : EventContext)
    (entry : Entry Handler) (state : σ) (answer : Except Panic Signal) (after : σ) : Prop :=
  if entry.hears context then (body entry.handler context).attempt state = .ok answer after
  else answer = .ok pass ∧ after = state

theorem ran_iff {body : Handler → EventContext → Act σ Signal} {pass : Signal}
    {entry : Entry Handler} {answer : Except Panic Signal} :
    (if !entry.hearsOwn && context.isOwn then pure pass
        else body entry.handler context : Act σ Signal).attempt state = .ok answer after ↔
      Ran body pass context entry state answer after := by
  have hpass : (!entry.hearsOwn && context.isOwn) = !entry.hears context := by
    simp [Entry.hears]
  rw [Ran, hpass]
  cases entry.hears context with
  | true => rfl
  | false =>
      simp only [Bool.not_false, if_true, Bool.false_eq_true, if_false]
      constructor
      · rintro ⟨⟩
        exact ⟨rfl, rfl⟩
      · rintro ⟨rfl, rfl⟩
        rfl

theorem called_callCommand_iff {entry : Entry Command} {answer : Except Panic CommandSignal} :
    Called (stage.callCommand context) entry state answer after ↔
      Ran stage.obey .continue context entry state answer after :=
  ran_iff

theorem called_callListener_iff {entry : Entry Listener} {answer : Except Panic ListenerSignal} :
    Called (stage.callListener context) entry state answer after ↔
      Ran stage.listen .continue context entry state answer after :=
  ran_iff

end Stage

/-- The calls of a record are runs of the handlers' bodies, one after the other: those of the
command handlers, and in the state that they leave those of the listeners. -/
theorem DispatchRecord.Follows.ran {σ Listener Command : Type}
    {stage : Stage σ Listener Command} {context : EventContext} {start : σ}
    {record : DispatchRecord σ Listener Command} (h : record.Follows stage context start) :
    Linked (Stage.Ran stage.obey .continue context) start record.obeyed record.between ∧
      Linked (Stage.Ran stage.listen .continue context) record.between record.heard
        record.after := by
  have hcommands : Linked (Stage.Called (stage.callCommand context)) start record.obeyed
      record.between :=
    h.chains.linked.flatMap fun _ _ _ _ hchain => hchain.linked
  have hlisteners : Linked (Stage.Called (stage.callListener context)) record.between record.heard
      record.after := by
    have hphase := h.listeners
    split at hphase
    · rw [hphase.1, hphase.2]
      exact .nil record.between
    · exact hphase.linked
  exact ⟨hcommands.imp fun _ _ _ _ => Stage.called_callCommand_iff.mp,
    hlisteners.imp fun _ _ _ _ => Stage.called_callListener_iff.mp⟩

end BotHost
