/-
# The history of a spec book

The spec book of an account is set, loaded, withdrawn from and read in any order, and the store
may refuse any write of a spec.  `SpecHistory` follows this from outside: it keeps its own map of
specs, which changes only by what the calls report, and it never looks at the composite that the
book remembers.

The invariant is `SpecBook.Current`: the book holds the map, and a composite that it remembers
is compiled from the map.  So the composite that is handed out depends on the map alone, not on the
order in which it came about nor on earlier readings.
-/

import BotHost.Proofs.Keeping

namespace BotHost

namespace SpecBook

variable {specs : SortedMap String CommandSpec} {book : SpecBook}

/-- The book holds the given specs, and the composite that it remembers is up to date. -/
structure Current (specs : SortedMap String CommandSpec) (book : SpecBook) : Prop where
  specs_eq : book.specs = specs
  /-- A remembered composite is compiled from them. -/
  compiled_eq : ∀ compiled, book.compiled = some compiled → compiled = compile specs

/-- The specs with those of an account's records stored over them. -/
def withRecords (account : String) (records : List SpecRecord)
    (specs : SortedMap String CommandSpec) : SortedMap String CommandSpec :=
  (records.filter fun record => record.account == account).foldl
    (fun specs record => specs.insert record.owner record.spec) specs

theorem current_empty : Current .empty .empty := ⟨rfl, by simp [empty]⟩

/-- A change forgets the composite. -/
theorem current_change (book : SpecBook) (specs : SortedMap String CommandSpec) :
    Current specs (book.change specs) := ⟨rfl, by simp [change]⟩

theorem Current.install (h : Current specs book) (owner : String) (spec : CommandSpec) :
    Current (specs.insert owner spec) (book.install owner spec) := by
  rw [SpecBook.install, h.specs_eq]
  exact current_change book _

/-- Loading changes the book unless no record is meant for the account. -/
theorem Current.load (h : Current specs book) (account : String) (records : List SpecRecord) :
    Current (withRecords account records specs) (book.load account records) := by
  unfold SpecBook.load withRecords
  by_cases hnone : (records.filter fun record => record.account == account) = []
  · simpa [hnone] using h
  · simp only [List.isEmpty_iff, hnone, if_false, h.specs_eq]
    exact current_change book _

/-- Withdrawing changes the book unless the owner has no spec. -/
theorem Current.remove (h : Current specs book) (owner : String) :
    Current (specs.erase owner) (book.remove owner) := by
  unfold SpecBook.remove spec?
  rw [h.specs_eq]
  cases hfound : specs.find? owner with
  | none => simpa [SortedMap.erase_eq_self hfound] using h
  | some spec => exact current_change book _

/-- Reading hands out the composite of the specs, whether or not it was remembered. -/
theorem Current.composite_fst (h : Current specs book) : book.composite.1 = compile specs := by
  unfold composite
  cases hcompiled : book.compiled with
  | none => simp [h.specs_eq]
  | some compiled => exact h.compiled_eq compiled hcompiled

theorem Current.composite_snd (h : Current specs book) : Current specs book.composite.2 := by
  have hfirst := h.composite_fst
  unfold composite at hfirst ⊢
  cases hcompiled : book.compiled with
  | none => exact ⟨h.specs_eq, by simp [h.specs_eq]⟩
  | some compiled => exact h

end SpecBook

namespace World

variable {Handler : Type} {userId owner : String} {spec : CommandSpec} {world after : World Handler}
  {account : Account Handler}

/-- The spec book of a connected account. -/
def specBook? (userId : String) (world : World Handler) : Option SpecBook :=
  (world.account? userId).map (·.specs)

theorem specBook?_insert (userId : String) (account : Account Handler)
    (world : World Handler) :
    ({ world with accounts := world.accounts.insert userId account } :
      World Handler).specBook? userId = some account.specs := by
  simp [specBook?, account?]

/-- Changing a connected account changes nothing else. -/
theorem changeAccount_apply {change : Account Handler → Account Handler}
    (hfound : world.account? userId = some account) :
    changeAccount userId change world =
      .ok () { world with accounts := world.accounts.insert userId (change account) } := by
  simp only [changeAccount, Act.bind_apply, Act.get_apply, hfound]
  rfl

/-- What setting a spec on a connected account comes to.  Nothing happens if the spec is set
already, and only the trace grows if the store refuses it; otherwise it is stored and
installed. -/
theorem setSpec_apply (hfound : world.account? userId = some account) :
    setSpec userId owner spec world =
      let consulted :=
        { world with trace := .store (.putCommandSpec owner userId spec) :: world.trace }
      if account.specs.holds owner spec then .ok (.ok .unchanged) world
      else
        match world.environment.refuse world.trace (.putCommandSpec owner userId spec) with
        | some error => .ok (.error error) consulted
        | none =>
          .ok (.ok .changed)
            { consulted with
              store := world.store.putSpec owner userId spec
              accounts := world.accounts.insert userId
                { account with specs := account.specs.install owner spec } } := by
  simp only [setSpec, Act.bind_apply, Act.get_apply, hfound, Option.any_some]
  by_cases hheld : account.specs.holds owner spec = true
  · simp [hheld]
    rfl
  · simp only [hheld]
    rw [if_neg (by simp), Act.bind_apply, putSpec_apply]
    cases world.environment.refuse world.trace (.putCommandSpec owner userId spec) with
    | some error => rfl
    | none =>
        refine Act.bind_eq_ok.mpr ⟨(), _, changeAccount_apply ?_, rfl⟩
        exact hfound

/-- Setting a spec installs it if a change is reported, and leaves the book alone otherwise. -/
theorem specBook?_setSpec {book : SpecBook} {result : Except StoreError SpecUpdate}
    (hbook : world.specBook? userId = some book)
    (h : setSpec userId owner spec world = .ok result after) :
    (result = .ok .changed ∧ after.specBook? userId = some (book.install owner spec)) ∨
      (result ≠ .ok .changed ∧ after.specBook? userId = some book) := by
  obtain ⟨account, hfound, rfl⟩ := Option.map_eq_some_iff.mp hbook
  rw [setSpec_apply hfound] at h
  by_cases hheld : account.specs.holds owner spec = true
  · simp only [hheld, if_true] at h
    cases h
    exact .inr ⟨by simp, hbook⟩
  · simp only [hheld] at h
    cases hrefuse : world.environment.refuse world.trace (.putCommandSpec owner userId spec) with
    | some error =>
        simp only [hrefuse] at h
        cases h
        exact .inr ⟨by simp, hbook⟩
    | none =>
        simp only [hrefuse] at h
        cases h
        exact .inl ⟨rfl, specBook?_insert userId _ _⟩

/-- Reading a composite hands out the one of the book, and the book remembers it. -/
theorem composite_apply {book : SpecBook} (hbook : world.specBook? userId = some book) :
    ∃ after, composite userId world = .ok book.composite.1 after ∧
      after.specBook? userId = some book.composite.2 := by
  obtain ⟨account, hfound, rfl⟩ := Option.map_eq_some_iff.mp hbook
  refine ⟨_, ?_, specBook?_insert userId { account with specs := account.specs.composite.2 } world⟩
  simp only [composite, Act.bind_apply, Act.get_apply, hfound]
  rfl

end World

/-- The specs of an account after some history, and the world it has led to.  The specs follow
from what the calls report: the history knows nothing of composites. -/
inductive SpecHistory {Handler : Type} (userId : String) :
    SortedMap String CommandSpec → World Handler → Prop where
  | new {world : World Handler} : world.specBook? userId = some .empty →
      SpecHistory userId .empty world
  /-- A spec is set, and the change is reported. -/
  | set {specs : SortedMap String CommandSpec} {world after : World Handler} {owner : String}
      {spec : CommandSpec} : SpecHistory userId specs world →
      World.setSpec userId owner spec world = .ok (.ok .changed) after →
      SpecHistory userId (specs.insert owner spec) after
  /-- A spec is to be set, but it is set already or the store refuses it. -/
  | kept {specs : SortedMap String CommandSpec} {world after : World Handler} {owner : String}
      {spec : CommandSpec} {result : Except StoreError SpecUpdate} :
      SpecHistory userId specs world → World.setSpec userId owner spec world = .ok result after →
      result ≠ .ok .changed → SpecHistory userId specs after
  /-- Records are loaded, be they of this account or of others. -/
  | load {specs : SortedMap String CommandSpec} {world after : World Handler}
      (records : List SpecRecord) : SpecHistory userId specs world →
      after.specBook? userId = (world.specBook? userId).map (·.load userId records) →
      SpecHistory userId (SpecBook.withRecords userId records specs) after
  | remove {specs : SortedMap String CommandSpec} {world after : World Handler} (owner : String) :
      SpecHistory userId specs world →
      after.specBook? userId = (world.specBook? userId).map (·.remove owner) →
      SpecHistory userId (specs.erase owner) after
  | read {specs : SortedMap String CommandSpec} {world after : World Handler}
      {composite : Composite} : SpecHistory userId specs world →
      World.composite userId world = .ok composite after → SpecHistory userId specs after
  | meanwhile {specs : SortedMap String CommandSpec} {world other : World Handler} :
      SpecHistory userId specs world → other.specBook? userId = world.specBook? userId →
      SpecHistory userId specs other

namespace SpecHistory

variable {Handler : Type} {userId : String} {specs : SortedMap String CommandSpec}
  {world after : World Handler}

/-- Whatever the history, the book of the account holds its specs and is up to date. -/
theorem current (h : SpecHistory userId specs world) :
    ∃ book, world.specBook? userId = some book ∧ book.Current specs := by
  induction h with
  | new hbook => exact ⟨_, hbook, SpecBook.current_empty⟩
  | set _ hset ih =>
      obtain ⟨book, hbook, hcurrent⟩ := ih
      rcases World.specBook?_setSpec hbook hset with ⟨-, hinstalled⟩ | ⟨hkept, -⟩
      · exact ⟨_, hinstalled, hcurrent.install _ _⟩
      -- The step reports a change, so the book is not one that was left alone.
      · exact absurd rfl hkept
  | kept _ hset hresult ih =>
      obtain ⟨book, hbook, hcurrent⟩ := ih
      rcases World.specBook?_setSpec hbook hset with ⟨hchanged, -⟩ | ⟨-, hkept⟩
      · exact absurd hchanged hresult
      · exact ⟨book, hkept, hcurrent⟩
  | load records _ hload ih =>
      obtain ⟨book, hbook, hcurrent⟩ := ih
      exact ⟨_, by rw [hload, hbook]; rfl, hcurrent.load userId records⟩
  | remove owner _ hremove ih =>
      obtain ⟨book, hbook, hcurrent⟩ := ih
      exact ⟨_, by rw [hremove, hbook]; rfl, hcurrent.remove owner⟩
  | read _ hread ih =>
      obtain ⟨book, hbook, hcurrent⟩ := ih
      obtain ⟨read, hcomposite, hread'⟩ := World.composite_apply hbook
      rw [hread] at hcomposite
      cases hcomposite
      exact ⟨_, hread', hcurrent.composite_snd⟩
  | meanwhile _ hsame ih =>
      obtain ⟨book, hbook, hcurrent⟩ := ih
      exact ⟨book, hsame.trans hbook, hcurrent⟩

/-- A history begins when the account is connected, with the specs that are stored for it. -/
theorem connect {record : AccountRecord}
    (hconnect : World.connectAccount record world = .ok (.ok ()) after) :
    SpecHistory record.userId
      (SpecBook.withRecords record.userId (world.store.listSpecs record.userId) .empty) after := by
  obtain ⟨listed, consulted, hlist, hconnect⟩ := Act.bind_eq_ok.mp hconnect
  rw [World.listSpecs, World.consult_apply] at hlist
  cases hrefuse : world.environment.refuse world.trace (.commandSpecs record.userId) with
  | some error =>
      rw [hrefuse] at hlist
      cases hlist
      cases hconnect
  | none =>
      rw [hrefuse] at hlist
      cases hlist
      cases hconnect
      let blank : World Handler := { world with
        accounts := world.accounts.insert record.userId
          { record, specs := .empty, hooks := Account.initialHooks record } }
      have hblank : blank.specBook? record.userId = some .empty := World.specBook?_insert _ _ _
      refine (SpecHistory.new hblank).load (world.store.listSpecs record.userId) ?_
      rw [hblank, World.specBook?_insert]
      rfl

/-- Reading the composite of an account gives the commands of all its owners in ascending order,
each owner's active commands before its passive ones, and leaves out those that cannot be
compiled.  So after two histories with the same specs, the composites are the same, and one that is
remembered is never out of date. -/
theorem composite_of_specs {Handler' : Type} {otherId : String} {other : World Handler'}
    (h : SpecHistory userId specs world) (hother : SpecHistory otherId specs other) :
    ∃ book composite after afterOther,
      World.composite userId world = .ok composite after ∧
      World.composite otherId other = .ok composite afterOther ∧
      Entries.Ascending specs.toList ∧
      composite = specs.toList.flatMap (fun entry =>
        (entry.2.active.filterMap fun command =>
          command.compile.toOption.map ParsedCommand.active) ++
        entry.2.passive.filterMap fun command =>
          command.compile.toOption.map ParsedCommand.passive) ∧
      world.specBook? userId = some book ∧ book.specs = specs ∧
      ∀ remembered, book.compiled = some remembered → remembered = composite := by
  obtain ⟨book, hbook, hcurrent⟩ := h.current
  obtain ⟨otherBook, hotherBook, hotherCurrent⟩ := hother.current
  obtain ⟨after, hread, -⟩ := World.composite_apply hbook
  obtain ⟨afterOther, hreadOther, -⟩ := World.composite_apply hotherBook
  rw [hcurrent.composite_fst] at hread
  rw [hotherCurrent.composite_fst] at hreadOther
  refine ⟨book, _, after, afterOther, hread, hreadOther, specs.ascending, ?_, hbook,
    hcurrent.specs_eq, hcurrent.compiled_eq⟩
  simp only [SpecBook.compile, SortedMap.values, List.flatMap_map, CommandSpec.compile]

end SpecHistory

/-! ### Two owners

The scene of the concrete histories: an account that is connected without stored specs, two owners
with two commands each, and a store that refuses the specs of a third. -/

namespace TwoOwners

/-- Surroundings in which the specs of one owner cannot be stored. -/
def surroundings : Environment where
  decline _ _ := none
  respond _ _ _ := .failure (.connectionFailed "https://hs" "reset")
  refuse
    | _, .putCommandSpec owner _ _ => if owner = "c" then some (.backend "disk full") else none
    | _, _ => none

/-- The account as it is stored. -/
def record : AccountRecord := .new "@bot:hs" "https://hs" "token"

/-- The world before the account is connected. -/
def world : World Unit := .initial surroundings .empty

/-- A spec with an active and a passive command, and one that cannot be compiled between them. -/
def spec (word : String) : CommandSpec :=
  ⟨[⟨word, "", .empty⟩, ⟨" ", "", .empty⟩],
    [⟨word ++ "-seen", word, PassiveCommand.defaultField, none⟩]⟩

/-- The specs of both owners. -/
def specs : SortedMap String CommandSpec :=
  (SortedMap.empty.insert "a" (spec "ping")).insert "b" (spec "pong")

/-- The first owner sets its spec before the second. -/
theorem first_before_second : ∃ after : World Unit, SpecHistory "@bot:hs" specs after := by
  have hstart := @SpecHistory.connect _ world _ record rfl
  have hfirst := @SpecHistory.set _ _ _ _ _ "a" (spec "ping") hstart rfl
  exact ⟨_, @SpecHistory.set _ _ _ _ _ "b" (spec "pong") hfirst rfl⟩

/-- The second owner sets its spec first; the composite is read, and a spec is refused. -/
theorem second_before_first : ∃ after : World Unit, SpecHistory "@bot:hs" specs after := by
  have hstart := @SpecHistory.connect _ world _ record rfl
  have hsecond := (@SpecHistory.set _ _ _ _ _ "b" (spec "pong") hstart rfl).read rfl
  have hkept := @SpecHistory.kept _ _ _ _ _ "c" (spec "ping") _ hsecond rfl (by simp)
  exact ⟨_, @SpecHistory.set _ _ _ _ _ "a" (spec "ping") hkept rfl⟩

end TwoOwners

/-- Whichever owner comes first, the composite lists the commands of both in the order of the
owners. -/
theorem SpecHistory.composite_of_two_owners :
    ∃ first second : World Unit,
      SpecHistory "@bot:hs" TwoOwners.specs first ∧ SpecHistory "@bot:hs" TwoOwners.specs second ∧
      ∃ composite after afterOther, World.composite "@bot:hs" first = .ok composite after ∧
        World.composite "@bot:hs" second = .ok composite afterOther ∧
        composite.map ParsedCommand.id = ["ping", "ping-seen", "pong", "pong-seen"] := by
  obtain ⟨first, hfirst⟩ := TwoOwners.first_before_second
  obtain ⟨second, hsecond⟩ := TwoOwners.second_before_first
  obtain ⟨book, composite, after, afterOther, hread, hother, -, hcomposite, -⟩ :=
    SpecHistory.composite_of_specs hfirst hsecond
  refine ⟨first, second, hfirst, hsecond, composite, after, afterOther, hread, hother, ?_⟩
  rw [hcomposite]
  decide +kernel

end BotHost
