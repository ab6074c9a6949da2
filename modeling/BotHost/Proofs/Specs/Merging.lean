/-
# Merged specs

The specs of all owners can be compiled owner by owner, or merged into one spec and compiled at
once.  The two composites list the same commands in different orders: the first has the passive
commands of an owner before the active ones of the next.

Matching is one pass over a composite, `Composite.matchEvent_eq_foldl`.  What an active command
does in it depends on the active ones before it alone, and a passive one only adds to the passive
ones before it, so what a composite finds depends on its active commands in order and its passive
ones in order, `Composite.foldl_look`.  The two composites agree in both, whichever commands do not
compile.
-/

import BotHost.Proofs.Specs.History

namespace BotHost

/-- What one more command of a composite adds to what the commands before it have found: an active
one counts if none before it has matched, and a passive one is reported behind the others. -/
def ParsedCommand.look (event : Event) (found : Matches) : ParsedCommand → Matches
  | active matcher =>
    if found.command.isNone then { found with command := event.body?.bind matcher.matchText? }
    else found
  | passive matcher => { found with passive := found.passive ++ (matcher.matchEvent? event).toList }

namespace Composite

variable {event : Event}

/-- The active commands of a composite, in order. -/
def actives (composite : Composite) : List ActiveMatcher :=
  composite.filterMap ParsedCommand.active?

/-- The passive commands of a composite, in order. -/
def passives (composite : Composite) : List PassiveMatcher :=
  composite.filterMap ParsedCommand.passive?

@[simp] theorem actives_active (matcher : ActiveMatcher) (rest : Composite) :
    actives (.active matcher :: rest) = matcher :: rest.actives := rfl

@[simp] theorem actives_passive (matcher : PassiveMatcher) (rest : Composite) :
    actives (.passive matcher :: rest) = rest.actives := rfl

@[simp] theorem passives_active (matcher : ActiveMatcher) (rest : Composite) :
    passives (.active matcher :: rest) = rest.passives := rfl

@[simp] theorem passives_passive (matcher : PassiveMatcher) (rest : Composite) :
    passives (.passive matcher :: rest) = matcher :: rest.passives := rfl

/-- One pass over a composite finds the first active command that matches and all passive ones,
behind what was found before. -/
theorem foldl_look (composite : Composite) (found : Matches) :
    composite.foldl (ParsedCommand.look event) found =
      ⟨found.command.or
          (event.body?.bind fun body => composite.actives.findSome? (·.matchText? body)),
        found.passive ++ composite.passives.filterMap (·.matchEvent? event)⟩ := by
  -- What was found before stays general: the first match of the rest only counts behind it.
  induction composite generalizing found with
  | nil => cases event.body? <;> simp [actives, passives]
  | cons parsed rest ih =>
      rw [List.foldl_cons, ih]
      cases parsed with
      | active matcher =>
          by_cases hcommand : found.command = none
          · cases hbody : event.body? with
            | none => simp [ParsedCommand.look, hcommand, hbody]
            | some body =>
                cases hmatch : matcher.matchText? body <;>
                  simp [ParsedCommand.look, hcommand, hbody, hmatch]
          · obtain ⟨command, hcommand⟩ := Option.ne_none_iff_exists'.mp hcommand
            simp [ParsedCommand.look, hcommand]
      | passive matcher =>
          cases hmatch : matcher.matchEvent? event <;> simp [ParsedCommand.look, hmatch]

/-- Matching a room message is one pass over the composite. -/
theorem matchEvent_eq_foldl (composite : Composite) (h : event.eventType = roomMessage) :
    composite.matchEvent event = composite.foldl (ParsedCommand.look event) .none := by
  rw [foldl_look, matchEvent, if_pos h]
  rfl

/-- What a composite finds depends on its active commands and on its passive ones, but not on how
they are mixed. -/
theorem matchEvent_congr {first second : Composite} (hactives : first.actives = second.actives)
    (hpassives : first.passives = second.passives) (event : Event) :
    first.matchEvent event = second.matchEvent event := by
  by_cases hmessage : event.eventType = roomMessage
  · rw [matchEvent_eq_foldl first hmessage, matchEvent_eq_foldl second hmessage, foldl_look,
      foldl_look, hactives, hpassives]
  · rw [matchEvent, matchEvent, if_neg hmessage, if_neg hmessage]

end Composite

namespace CommandSpec

/-- The active commands of a compiled spec are those that compile. -/
theorem actives_compile (spec : CommandSpec) :
    spec.compile.actives = spec.active.filterMap (·.compile.toOption) := by
  have hactive (compiled : Option ActiveMatcher) :
      (compiled.map ParsedCommand.active).bind ParsedCommand.active? = compiled := by
    cases compiled <;> rfl
  have hpassive (compiled : Option PassiveMatcher) :
      (compiled.map ParsedCommand.passive).bind ParsedCommand.active? = none := by
    cases compiled <;> rfl
  simp [compile, Composite.actives, List.filterMap_filterMap, hactive, hpassive]

/-- The passive commands of a compiled spec are those that compile. -/
theorem passives_compile (spec : CommandSpec) :
    spec.compile.passives = spec.passive.filterMap (·.compile.toOption) := by
  have hactive (compiled : Option ActiveMatcher) :
      (compiled.map ParsedCommand.active).bind ParsedCommand.passive? = none := by
    cases compiled <;> rfl
  have hpassive (compiled : Option PassiveMatcher) :
      (compiled.map ParsedCommand.passive).bind ParsedCommand.passive? = compiled := by
    cases compiled <;> rfl
  simp [compile, Composite.passives, List.filterMap_filterMap, hactive, hpassive]

/-- Merged specs have the active commands of all and the passive commands of all. -/
theorem foldl_merge (specs : List CommandSpec) (first : CommandSpec) :
    specs.foldl merge first =
      ⟨first.active ++ specs.flatMap (·.active), first.passive ++ specs.flatMap (·.passive)⟩ := by
  induction specs generalizing first with
  | nil => simp
  | cons spec rest ih => simp [ih, merge]

end CommandSpec

namespace SpecBook

variable {specs : SortedMap String CommandSpec} {book : SpecBook}

theorem actives_compile (specs : SortedMap String CommandSpec) :
    (compile specs).actives =
      (specs.values.flatMap (·.active)).filterMap (·.compile.toOption) := by
  simp only [compile, Composite.actives, List.filterMap_flatMap]
  exact congrArg specs.values.flatMap (funext CommandSpec.actives_compile)

theorem passives_compile (specs : SortedMap String CommandSpec) :
    (compile specs).passives =
      (specs.values.flatMap (·.passive)).filterMap (·.compile.toOption) := by
  simp only [compile, Composite.passives, List.filterMap_flatMap]
  exact congrArg specs.values.flatMap (funext CommandSpec.passives_compile)

theorem merged_eq (book : SpecBook) :
    book.merged =
      ⟨book.specs.values.flatMap (·.active), book.specs.values.flatMap (·.passive)⟩ := by
  simp [merged, CommandSpec.foldl_merge, CommandSpec.empty]

/-- A book that is up to date hands out a composite that finds what the merged spec would. -/
theorem Current.matchEvent_merged (h : Current specs book) (event : Event) :
    book.composite.1.matchEvent event = book.merged.compile.matchEvent event := by
  rw [h.composite_fst, ← h.specs_eq]
  refine Composite.matchEvent_congr ?_ ?_ event
  · rw [actives_compile, CommandSpec.actives_compile, merged_eq]
  · rw [passives_compile, CommandSpec.passives_compile, merged_eq]

end SpecBook

namespace SpecHistory

variable {Handler : Type} {userId : String} {specs : SortedMap String CommandSpec}
  {world : World Handler}

/-- Whatever the history, the composite of an account finds in every event what all its specs,
merged into one, would find if they were compiled at once. -/
theorem matchEvent_eq_merged (h : SpecHistory userId specs world) (event : Event) :
    ∃ book composite after,
      World.composite userId world = .ok composite after ∧
      world.specBook? userId = some book ∧
      book.merged = ⟨specs.values.flatMap (·.active), specs.values.flatMap (·.passive)⟩ ∧
      composite.matchEvent event = book.merged.compile.matchEvent event := by
  obtain ⟨book, hbook, hcurrent⟩ := h.current
  obtain ⟨after, hread, -⟩ := World.composite_apply hbook
  refine ⟨book, book.composite.1, after, hread, hbook, ?_, hcurrent.matchEvent_merged event⟩
  rw [SpecBook.merged_eq, hcurrent.specs_eq]

end SpecHistory

/-- A room message. -/
def TwoOwners.message (body : String) : Event where
  eventId := "$1"
  eventType := roomMessage
  sender := "@user:hs"
  roomId := "!room:hs"
  stateKey := none
  originServerTs := 0
  content := .message (.text body)
  redacts := none
  unsigned := .empty

/-- A message finds the commands of the second owner, in the composite behind those of the first
and in the merged spec between them. -/
theorem SpecHistory.second_owner_found :
    ∃ world : World Unit, SpecHistory "@bot:hs" TwoOwners.specs world ∧
      ∃ composite after, World.composite "@bot:hs" world = .ok composite after ∧
        let found := composite.matchEvent (TwoOwners.message "pong")
        found.command.map (·.command) = some "pong" ∧
          found.passive.map (·.name) = ["pong-seen"] := by
  obtain ⟨world, hworld⟩ := TwoOwners.first_before_second
  obtain ⟨book, composite, after, hread, -, hmerged, hfound⟩ :=
    SpecHistory.matchEvent_eq_merged hworld (TwoOwners.message "pong")
  refine ⟨world, hworld, composite, after, hread, ?_⟩
  rw [hfound, hmerged]
  decide +kernel

end BotHost
