/-
# Owners beside each other

The chain of a command belongs to everyone who registers a handler under its id, and it is run once
for every match with that id, whoever has set the command.  So what one owner sets can be noticed by
another: its handlers are called once more for every command of the same name that matches, and a
handler that asks for the passive matches of a name sees those of the owner who comes first.

`World.callsOf_dispatched` counts the calls of an owner's handlers, and
`AccountHistory.calls_beside` compares two histories, one with another owner and one without it: the
matches of a name add up, and a name of which the other owner has no match is called and read as if
the other were not there.
-/

import BotHost.Proofs.Account.Events
import BotHost.Proofs.Account.Removal
import BotHost.Proofs.Specs.Merging

namespace BotHost

/-- If no item ends a row, all items are dealt with.  An invariant may be used and has to be
kept. -/
theorem InTurn.complete {σ ι β : Type} {deal : ι → σ → β → σ → Prop} {ends : β → Bool}
    {start after : σ} {items : List ι} {done : List (ι × β)} (invariant : σ → Prop)
    (holds : ι → β → Prop)
    (hdeal : ∀ item state answer next, invariant state → deal item state answer next →
      ends answer = false ∧ holds item answer ∧ invariant next)
    (h : InTurn deal ends start items done after) (hstart : invariant start) :
    done.map Prod.fst = items ∧ (∀ entry ∈ done, holds entry.1 entry.2) ∧ invariant after := by
  induction items generalizing start done with
  | nil =>
      obtain ⟨rfl, rfl⟩ := inTurn_nil_iff.mp h
      exact ⟨rfl, by simp, hstart⟩
  | cons item rest ih =>
      obtain ⟨answer, between, others, rfl, hfirst, hrest⟩ := inTurn_cons_iff.mp h
      obtain ⟨hlast, hholds, hbetween⟩ := hdeal _ _ _ _ hstart hfirst
      obtain ⟨hothers, hall, hafter⟩ := ih (by simpa [hlast] using hrest) hbetween
      exact ⟨by rw [List.map_cons, hothers], List.forall_mem_cons.mpr ⟨hholds, hall⟩, hafter⟩

/-! ### The calls of an owner -/

/-- The entries of an owner that are called for a command, in the order of the calls. -/
def DispatchRecord.callsOf {σ Listener Command : Type} (record : DispatchRecord σ Listener Command)
    (owner command : String) : List (Entry Command) :=
  (record.chains.filter fun chain => chain.1 == command).flatMap fun chain =>
    (chain.2.map Prod.fst).filter fun entry => entry.owner == owner

/-- The entries of an owner for each command. -/
def World.entriesOf {Handler : Type} (userId owner : String) (world : World Handler)
    (command : String) : List (Entry Handler) :=
  let hooks := ((world.account? userId).map fun account => account.hooks).getD .empty
  (hooks.commands.chain command).filter fun entry => entry.owner == owner

/-- Command handlers that always go on, and that leave the command handlers of an owner as they
are. -/
structure Behaviour.GoesOn {Handler : Type} (behaviour : Behaviour Handler)
    (userId owner : String) : Prop where
  continues : ∀ handler context world,
    ∃ after, behaviour.obey handler context world = .ok .continue after
  keeps : ∀ handler context, (behaviour.obey handler context).Keeps (World.entriesOf userId owner)

namespace World

variable {Handler : Type} {userId owner : String} {event : Event} {world : World Handler}
  {behaviour : Behaviour Handler} {context : EventContext}
  {record : DispatchRecord (World Handler) (Listener Handler) Handler}

/-- Every call of a command handler goes on. -/
theorem called_goesOn (hgoes : behaviour.GoesOn userId owner) {entry : Entry Handler}
    {state next : World Handler} {answer : Except Panic CommandSignal}
    (h : Stage.Called ((stage behaviour userId).callCommand context) entry state answer next) :
    answer = .ok .continue ∧ next.entriesOf userId owner = state.entriesOf userId owner := by
  rw [Stage.Called, Stage.callCommand] at h
  split at h
  · cases h
    exact ⟨rfl, rfl⟩
  · obtain ⟨after, hobey⟩ := hgoes.continues entry.handler context state
    have hmade := (Act.attempt_of_ok hobey).symm.trans h
    cases hmade
    exact ⟨rfl, (hgoes.keeps entry.handler context).eq_of_ok hobey⟩

/-- A chain whose handlers all go on is run to its end. -/
theorem chainRun_goesOn (hgoes : behaviour.GoesOn userId owner) {command : String}
    {state next : World Handler} {calls : Calls Handler CommandSignal}
    (h : (stage behaviour userId).ChainRun context command state calls next) :
    Stage.lastChain calls = false ∧
      (calls.map Prod.fst).filter (fun entry => entry.owner == owner) =
        state.entriesOf userId owner command ∧
      next.entriesOf userId owner = state.entriesOf userId owner := by
  obtain ⟨hcalls, hanswers, hkept⟩ := h.complete
    (fun between => between.entriesOf userId owner = state.entriesOf userId owner)
    (fun _ answer => answer = .ok .continue)
    (fun entry between answer next hbetween hcalled => by
      obtain ⟨rfl, hnext⟩ := called_goesOn hgoes hcalled
      exact ⟨rfl, rfl, hnext.trans hbetween⟩) rfl
  refine ⟨?_, ?_, hkept⟩
  · refine List.any_eq_false.mpr fun call hmem => ?_
    rw [hanswers call hmem]
    exact Bool.false_ne_true
  · rw [hcalls]
    rfl

/-- Announcing an event leaves the handlers as they are. -/
theorem entriesOf_announced (userId owner : String) (event : Event) (world : World Handler) :
    (world.announced userId event).entriesOf userId owner = world.entriesOf userId owner := by
  funext command
  cases hfound : world.account? userId with
  | none =>
      have hsame : (world.announced userId event).account? userId = none := by
        rw [announced, hfound]
        exact hfound
      rw [entriesOf, entriesOf, hsame, hfound]
  | some account => rw [entriesOf, entriesOf, account?_announced hfound, hfound]; rfl

/-- If every handler goes on, an owner's handlers for a command are called in their order, once for
every match of the command. -/
theorem callsOf_dispatched (hgoes : behaviour.GoesOn userId owner)
    (h : Dispatched (stage behaviour userId) userId event world record) (command : String) :
    record.callsOf owner command =
      (List.replicate ((Stage.matchedIds (world.found userId event)).count command)
        (world.entriesOf userId owner command)).flatten := by
  obtain ⟨hchains, hcalls, -⟩ := h.chains.complete
    (fun state => state.entriesOf userId owner = world.entriesOf userId owner)
    (fun command calls => (calls.map Prod.fst).filter (fun entry => entry.owner == owner) =
      world.entriesOf userId owner command)
    (fun command state calls next hstate hchain => by
      obtain ⟨hlast, hentries, hkept⟩ := chainRun_goesOn hgoes hchain
      exact ⟨hlast, hentries.trans (congrFun hstate command), hkept.trans hstate⟩)
    (entriesOf_announced userId owner event world)
  have hmatched : (record.chains.filter fun chain => chain.1 == command).map Prod.fst =
      List.replicate ((Stage.matchedIds (world.found userId event)).count command) command := by
    rw [Stage.matchedIds, ← hchains, ← List.filter_beq, List.filter_map]
    rfl
  rw [DispatchRecord.callsOf, ← List.flatMap_replicate, ← hmatched, List.flatMap_map,
    List.flatMap_def, List.flatMap_def]
  exact congrArg List.flatten
    (List.map_congr_left fun chain hmem => hcalls chain (List.mem_filter.mp hmem).1)

end World

/-! ### What the specs of others find -/

namespace SpecBook

variable {specs : SortedMap String CommandSpec} {owner name : String}

/-- What the spec of one owner finds in an event. -/
def foundBy (specs : SortedMap String CommandSpec) (owner : String) (event : Event) : Matches :=
  ((specs.find? owner).getD .empty).compile.matchEvent event

/-- The passive commands that match are those of the owners, one owner after the other. -/
theorem passive_matchEvent (specs : SortedMap String CommandSpec) (event : Event) :
    ((compile specs).matchEvent event).passive =
      specs.toList.flatMap fun entry => (entry.2.compile.matchEvent event).passive := by
  unfold Composite.matchEvent
  split
  · simp only [compile, SortedMap.values, List.flatMap_map, List.filterMap_flatMap]
  · simp [Matches.none]

/-- The matches of a name are those of an owner and those that there are without it. -/
theorem count_passive (specs : SortedMap String CommandSpec) (owner : String) (event : Event)
    (name : String) :
    (((compile specs).matchEvent event).passive.map (·.name)).count name =
      (((compile (specs.erase owner)).matchEvent event).passive.map (·.name)).count name +
        ((foundBy specs owner event).passive.map (·.name)).count name := by
  cases hspec : specs.find? owner with
  | none =>
      have hnothing : (foundBy specs owner event).passive = [] := by
        rw [foundBy, hspec, Composite.matchEvent]
        split <;> rfl
      rw [SortedMap.erase_eq_self hspec, hnothing]
      rfl
  | some spec =>
      have hperm := ((SortedMap.perm_cons_erase hspec).flatMap_right fun entry =>
        (entry.2.compile.matchEvent event).passive).map (·.name)
      rw [← passive_matchEvent, List.flatMap_cons, ← passive_matchEvent, List.map_append] at hperm
      rw [hperm.count_eq, List.count_append, foundBy, hspec, Nat.add_comm]
      rfl

/-- If an owner has no match of a name, the name is looked up as if the owner were not there. -/
theorem passive?_matchEvent {event : Event}
    (h : ((foundBy specs owner event).passive.map (·.name)).count name = 0) :
    ((compile specs).matchEvent event).passive? name =
      ((compile (specs.erase owner)).matchEvent event).passive? name := by
  have hskip : ∀ entry ∈ specs.toList, entry.1 = owner →
      (entry.2.compile.matchEvent event).passive? name = none := by
    rintro ⟨key, spec⟩ hmem rfl
    rw [foundBy, SortedMap.mem_toList_iff.mp hmem, List.count_eq_zero] at h
    refine List.find?_eq_none.mpr fun found hfound hname => h ?_
    exact List.mem_map.mpr ⟨found, hfound, by simpa using hname⟩
  rw [Matches.passive?, Matches.passive?, passive_matchEvent, passive_matchEvent,
    List.find?_flatMap, List.find?_flatMap]
  exact (SortedMap.findSome?_erase hskip).symm

end SpecBook

namespace AccountHistory

variable {Handler : Type} {userId owner neighbour : String}
  {changes : List (AccountChange Handler)} {world alone : World Handler}

/-- The composite of an account finds what the specs find to which the changes lead. -/
theorem found_eq (h : AccountHistory userId changes world) (event : Event) :
    world.found userId event =
      (SpecBook.compile (AccountChange.specsAfter userId changes)).matchEvent event := by
  obtain ⟨account, hfound, -, hcurrent⟩ := h.account
  rw [World.found_of_account hfound, hcurrent.composite_fst]

theorem entriesOf_eq (h : AccountHistory userId changes world) (owner command : String) :
    world.entriesOf userId owner command =
      ((AccountChange.hooksAfter changes).commands.chain command).filter
        fun entry => entry.owner == owner := by
  obtain ⟨account, hfound, hhooks, -⟩ := h.account
  rw [World.entriesOf, hfound, ← hhooks]
  rfl

/-- Whatever others do on an account, the handlers of an owner are registered all the same. -/
theorem entriesOf_without (h : AccountHistory userId changes world)
    (halone : AccountHistory userId (changes.filterMap (AccountChange.without neighbour)) alone)
    (hne : owner ≠ neighbour) (command : String) :
    alone.entriesOf userId owner command = world.entriesOf userId owner command := by
  rw [h.entriesOf_eq, halone.entriesOf_eq, AccountChange.hooksAfter_without,
    Hooks.withdraw_eq_keep, Hooks.keep, Chains.chain_keep, List.filter_filter]
  refine List.filter_congr fun entry _ => ?_
  by_cases howner : entry.owner = owner
  · simp [howner, hne]
  · simp [howner]

/-- An owner on an account with another one beside it, in a history with the other and in one
without it.  If all command handlers go on, the owner's handlers for a command are called once for
every match of the command, be it the owner's or not.  So with the other owner they are called once
more for each passive command of the same name that the other has and that matches, and they are
called as often and read the same matches if there is none, unless the active command that wins is
another one. -/
theorem calls_beside (h : AccountHistory userId changes world)
    (halone : AccountHistory userId (changes.filterMap (AccountChange.without neighbour)) alone)
    (hne : owner ≠ neighbour) {behaviour : Behaviour Handler}
    (hgoes : behaviour.GoesOn userId owner) (event : Event) :
    ∃ record lone,
      World.Dispatched (World.stage behaviour userId) userId event world record ∧
      World.dispatchEvent behaviour userId event world = record.result ∧
      World.Dispatched (World.stage behaviour userId) userId event alone lone ∧
      World.dispatchEvent behaviour userId event alone = lone.result ∧
      ∀ command,
        let found := world.found userId event
        let foundAlone := alone.found userId event
        let own := world.entriesOf userId owner command
        let theirs := ((SpecBook.foundBy (AccountChange.specsAfter userId changes) neighbour
          event).passive.map (·.name)).count command
        record.callsOf owner command =
          (List.replicate ((Stage.matchedIds found).count command) own).flatten ∧
        lone.callsOf owner command =
          (List.replicate ((Stage.matchedIds foundAlone).count command) own).flatten ∧
        (found.passive.map (·.name)).count command =
          (foundAlone.passive.map (·.name)).count command + theirs ∧
        (theirs = 0 → found.passive? command = foundAlone.passive? command ∧
          (found.command.map (·.command) = foundAlone.command.map (·.command) →
            record.callsOf owner command = lone.callsOf owner command)) := by
  obtain ⟨record, hrecord⟩ :=
    World.exists_dispatched (World.stage behaviour userId) userId event world
  obtain ⟨lone, hlone⟩ := World.exists_dispatched (World.stage behaviour userId) userId event alone
  refine ⟨record, lone, hrecord, World.dispatchEvent_of_dispatched hrecord, hlone,
    World.dispatchEvent_of_dispatched hlone, fun command => ?_⟩
  intro found foundAlone own theirs
  have hfound : found = _ := h.found_eq event
  have hfoundAlone : foundAlone = _ := halone.found_eq event
  rw [AccountChange.specsAfter_without] at hfoundAlone
  have hcalls := World.callsOf_dispatched hgoes hrecord command
  have hcallsAlone := World.callsOf_dispatched hgoes hlone command
  rw [h.entriesOf_without halone hne] at hcallsAlone
  have hcount := SpecBook.count_passive (AccountChange.specsAfter userId changes) neighbour event
    command
  rw [← hfound, ← hfoundAlone] at hcount
  refine ⟨hcalls, hcallsAlone, hcount, fun hnone => ⟨?_, fun hactive => ?_⟩⟩
  · rw [hfound, hfoundAlone]
    exact SpecBook.passive?_matchEvent hnone
  · have hsame : (Stage.matchedIds found).count command =
        (Stage.matchedIds foundAlone).count command := by
      rw [Stage.matchedIds, Stage.matchedIds, hactive, List.count_append, List.count_append,
        hcount]
      omega
    rw [hcalls, hcallsAlone, hsame]

end AccountHistory

/-! ### A greeting

The scene of the concrete histories: an owner has a passive command and a handler for it, and
another owner, who comes before it in the composite, sets a passive command of some name. -/

namespace Greeting

/-- A spec with one passive command. -/
def spec (name pattern : String) : CommandSpec :=
  ⟨[], [⟨name, pattern, PassiveCommand.defaultField, none⟩]⟩

/-- The handler of the one owner. -/
def handler : Entry Unit := ⟨"b", false, ()⟩

/-- What is asked of the account, with a name for the command of the other owner. -/
def changes (name : String) : List (AccountChange Unit) :=
  [.load [], .setSpec "b" (spec "greeting" "l+") none, .addCommand "greeting" handler,
    .setSpec "a" (spec name "h") none]

theorem beside (name : String) :
    ∃ after : World Unit, AccountHistory "@bot:hs" (changes name) after := by
  have hstart : AccountHistory "@bot:hs" ((changes name).take 1) _ :=
    @AccountHistory.connect _ TwoOwners.world TwoOwners.record _ rfl
  have hset : AccountHistory "@bot:hs" ((changes name).take 2) _ := .setSpec hstart rfl rfl
  have hadded : AccountHistory "@bot:hs" ((changes name).take 3) _ := .addCommand hset rfl
  exact ⟨_, .setSpec hadded rfl rfl⟩

theorem alone (name : String) : ∃ after : World Unit, AccountHistory "@bot:hs"
    ((changes name).filterMap (AccountChange.without "a")) after := by
  have hstart : AccountHistory "@bot:hs" [.load []] _ :=
    @AccountHistory.connect _ TwoOwners.world TwoOwners.record _ rfl
  have hset : AccountHistory "@bot:hs" [.load [], .setSpec "b" (spec "greeting" "l+") none] _ :=
    .setSpec hstart rfl rfl
  exact ⟨_, .addCommand hset rfl⟩

/-- Handlers that do nothing but go on. -/
def behaviour : Behaviour Unit := ⟨fun _ _ => pure .continue, fun _ _ => pure .continue⟩

theorem goesOn (owner : String) : behaviour.GoesOn "@bot:hs" owner where
  continues _ _ world := ⟨world, rfl⟩
  keeps _ _ := Act.keeps_pure _

/-- The greeting. -/
def hello : Event := TwoOwners.message "hello"

end Greeting

/-- An owner whose passive command has another name changes nothing for the handler. -/
theorem AccountHistory.calls_beside_stranger :
    ∃ world alone : World Unit, ∃ record lone,
      AccountHistory "@bot:hs" (Greeting.changes "salute") world ∧
      AccountHistory "@bot:hs"
        ((Greeting.changes "salute").filterMap (AccountChange.without "a")) alone ∧
      World.Dispatched (World.stage Greeting.behaviour "@bot:hs") "@bot:hs" Greeting.hello world
        record ∧
      World.Dispatched (World.stage Greeting.behaviour "@bot:hs") "@bot:hs" Greeting.hello alone
        lone ∧
      record.callsOf "b" "greeting" = lone.callsOf "b" "greeting" ∧
      (world.found "@bot:hs" Greeting.hello).passive? "greeting" =
        (alone.found "@bot:hs" Greeting.hello).passive? "greeting" := by
  obtain ⟨world, hworld⟩ := Greeting.beside "salute"
  obtain ⟨alone, halone⟩ := Greeting.alone "salute"
  obtain ⟨record, lone, hrecord, -, hlone, -, hcalls⟩ :=
    hworld.calls_beside halone (by decide : "b" ≠ "a") (Greeting.goesOn "b") Greeting.hello
  obtain ⟨-, -, -, hsame⟩ := hcalls "greeting"
  obtain ⟨hread, hcalled⟩ := hsame (by decide +kernel)
  have hactive : (world.found "@bot:hs" Greeting.hello).command.map (·.command) =
      (alone.found "@bot:hs" Greeting.hello).command.map (·.command) := by
    rw [hworld.found_eq, halone.found_eq]
    decide +kernel
  exact ⟨world, alone, record, lone, hworld, halone, hrecord, hlone, hcalled hactive, hread⟩

/-- An owner who comes first with a passive command of the same name has the handler called twice,
and both times the handler reads what the command of the other has matched. -/
theorem AccountHistory.calls_beside_namesake :
    ∃ world alone : World Unit, ∃ record lone,
      AccountHistory "@bot:hs" (Greeting.changes "greeting") world ∧
      AccountHistory "@bot:hs"
        ((Greeting.changes "greeting").filterMap (AccountChange.without "a")) alone ∧
      World.Dispatched (World.stage Greeting.behaviour "@bot:hs") "@bot:hs" Greeting.hello world
        record ∧
      World.Dispatched (World.stage Greeting.behaviour "@bot:hs") "@bot:hs" Greeting.hello alone
        lone ∧
      record.callsOf "b" "greeting" = [Greeting.handler, Greeting.handler] ∧
      lone.callsOf "b" "greeting" = [Greeting.handler] ∧
      ((world.found "@bot:hs" Greeting.hello).passive? "greeting").map (·.captures) =
        some [["h"]] ∧
      ((alone.found "@bot:hs" Greeting.hello).passive? "greeting").map (·.captures) =
        some [["ll"]] := by
  obtain ⟨world, hworld⟩ := Greeting.beside "greeting"
  obtain ⟨alone, halone⟩ := Greeting.alone "greeting"
  obtain ⟨record, hrecord⟩ := World.exists_dispatched
    (World.stage Greeting.behaviour "@bot:hs") "@bot:hs" Greeting.hello world
  obtain ⟨lone, hlone⟩ := World.exists_dispatched
    (World.stage Greeting.behaviour "@bot:hs") "@bot:hs" Greeting.hello alone
  refine ⟨world, alone, record, lone, hworld, halone, hrecord, hlone, ?_, ?_, ?_, ?_⟩
  · have htwice :
        (Stage.matchedIds (world.found "@bot:hs" Greeting.hello)).count "greeting" = 2 := by
      rw [hworld.found_eq]
      decide +kernel
    rw [World.callsOf_dispatched (Greeting.goesOn "b") hrecord, htwice, hworld.entriesOf_eq]
    rfl
  · have honce :
        (Stage.matchedIds (alone.found "@bot:hs" Greeting.hello)).count "greeting" = 1 := by
      rw [halone.found_eq]
      decide +kernel
    rw [World.callsOf_dispatched (Greeting.goesOn "b") hlone, honce, halone.entriesOf_eq]
    rfl
  · rw [hworld.found_eq]
    decide +kernel
  · rw [halone.found_eq]
    decide +kernel

end BotHost
