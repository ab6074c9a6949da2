/-
# Specs in memory and in the store

The specs of an account are held twice: in its spec book, and in a table of the store that all
accounts share, keyed by owner and account.  Setting a spec writes the table first and the book
afterwards, and the store may refuse the write.

Calls on different accounts may overlap, so between the two writes of one call anything can happen
on the other accounts.  `SpecSharing` follows the moves of such calls one by one.  A call locks its
account from the comparison to the installation, so an account has at most one call under way.

The invariant is `SpecSharing.InStep`: the book of every account holds what the table holds for it,
apart from the one spec that a call under way has written and not installed yet.
-/

import BotHost.Proofs.Specs.History

namespace BotHost

/-! ### The table of an account -/

namespace Store

/-- Specs of one account are listed in ascending order of their owners. -/
theorem ascending_listSpecs (store : Store) (userId : String) :
    Entries.Ascending
      ((store.listSpecs userId).map fun record => (record.owner, record.spec)) := by
  unfold Entries.Ascending listSpecs
  rw [List.map_map, List.pairwise_map]
  refine (store.specs.ascending.filter _).imp_of_mem ?_
  intro first second hfirst hsecond hordered
  have hfirst : first.1.2 = userId := by simpa using (List.mem_filter.mp hfirst).2
  have hsecond : second.1.2 = userId := by simpa using (List.mem_filter.mp hsecond).2
  -- The accounts of both entries are the same, so the owners decide.
  simpa [KeyOrder.precedes, hfirst, hsecond, codePointsPrecede_irrefl] using hordered

/-- What the store holds for an account: the spec of each owner. -/
def specsOf (store : Store) (userId : String) : SortedMap String CommandSpec :=
  ⟨(store.listSpecs userId).map fun record => (record.owner, record.spec),
    store.ascending_listSpecs userId⟩

theorem find?_specsOf (store : Store) (userId owner : String) :
    (store.specsOf userId).find? owner = store.specs.find? (owner, userId) := by
  ext spec
  rw [← SortedMap.mem_toList_iff, ← SortedMap.mem_toList_iff]
  simp [specsOf, listSpecs]

/-- Writing a spec shows on its account and on no other. -/
theorem specsOf_putSpec (store : Store) (owner userId : String) (spec : CommandSpec)
    (other : String) :
    (store.putSpec owner userId spec).specsOf other =
      if userId = other then (store.specsOf other).insert owner spec else store.specsOf other := by
  ext sought : 1
  rw [find?_specsOf, putSpec, SortedMap.find?_insert]
  by_cases huser : userId = other
  · subst huser
    rw [if_pos rfl, SortedMap.find?_insert, find?_specsOf]
    simp [Prod.ext_iff]
  · rw [if_neg huser, find?_specsOf]
    simp [huser]

/-- Loading what is listed for an account into an empty book gives what the store holds for it. -/
theorem withRecords_listSpecs (store : Store) (userId : String) :
    SpecBook.withRecords userId (store.listSpecs userId) .empty = store.specsOf userId := by
  have hown : ((store.listSpecs userId).filter fun record => record.account == userId) =
      store.listSpecs userId := by
    refine List.filter_eq_self.mpr fun record hrecord => ?_
    obtain ⟨entry, hentry, rfl⟩ := List.mem_map.mp hrecord
    exact (List.mem_filter.mp hentry).2
  have hnodup : ((store.specsOf userId).toList.map Prod.fst).Nodup := by
    refine List.pairwise_map.mpr ((store.specsOf userId).ascending.imp fun hordered hsame => ?_)
    rw [hsame, KeyOrder.irrefl] at hordered
    cases hordered
  have hloaded : SpecBook.withRecords userId (store.listSpecs userId) .empty =
      .ofList (store.specsOf userId).toList := by
    rw [SpecBook.withRecords, hown, SortedMap.ofList, specsOf, List.foldl_map]
  rw [hloaded]
  ext sought spec
  rw [SortedMap.find?_ofList hnodup, SortedMap.mem_toList_iff]

end Store

/-! ### Overlapping calls -/

/-- A move of one of several calls that overlap. -/
inductive SpecMove where
  /-- An account is connected, with the specs that are stored for it. -/
  | connect (record : AccountRecord)
  /-- A call compares the spec of an owner on an account, and writes it if it differs. -/
  | write (userId owner : String) (spec : CommandSpec)
  /-- The call that has written for an account installs what it has written. -/
  | install (userId : String)

/-- A world in which calls on different accounts overlap. -/
structure SpecSharing (Handler : Type) where
  world : World Handler
  /-- The spec of a call that has written for an account and not installed yet, and its owner. -/
  underway : SortedMap String (String × CommandSpec)

namespace SpecSharing

variable {Handler : Type}

/-- Carry out a move.  A move on an account that is locked by another call has to wait, so it does
nothing yet. -/
def perform (sharing : SpecSharing Handler) : SpecMove → SpecSharing Handler
  | .connect record =>
    if (sharing.underway.find? record.userId).isSome then sharing
    else { sharing with world := (World.connectAccount record).stateAfter sharing.world }
  | .write userId owner spec =>
    match sharing.world.account? userId, sharing.underway.find? userId with
    | some account, none =>
      if account.specs.holds owner spec then sharing
      else
        match World.putSpec owner userId spec sharing.world with
        | .ok (.ok _) world => ⟨world, sharing.underway.insert userId (owner, spec)⟩
        | .ok (.error _) world => { sharing with world }
        | .error _ world => { sharing with world }
    | _, _ => sharing
  | .install userId =>
    match sharing.underway.find? userId with
    | none => sharing
    | some (owner, spec) =>
      ⟨(World.installSpec userId owner spec).stateAfter sharing.world,
        sharing.underway.erase userId⟩

/-- Where a sequence of moves leads from a world without accounts. -/
def after (environment : Environment) (store : Store) (moves : List SpecMove) :
    SpecSharing Handler :=
  moves.foldl perform ⟨.initial environment store, .empty⟩

/-- The specs of an account with the one that a call under way has written. -/
def withCall (call : Option (String × CommandSpec)) (specs : SortedMap String CommandSpec) :
    SortedMap String CommandSpec :=
  match call with
  | none => specs
  | some (owner, spec) => specs.insert owner spec

/-- The table holds what the book of every account holds, with the spec that a call under way has
written; and no book remembers a composite that is out of date. -/
def InStep (sharing : SpecSharing Handler) : Prop :=
  ∀ userId account, sharing.world.account? userId = some account →
    account.specs.Current account.specs.specs ∧
      sharing.world.store.specsOf userId =
        withCall (sharing.underway.find? userId) account.specs.specs

variable {sharing : SpecSharing Handler} {userId : String} {account : Account Handler}

/-- Only the store, the accounts and the calls under way matter. -/
theorem InStep.congr {other : SpecSharing Handler} (h : sharing.InStep)
    (hstore : other.world.store = sharing.world.store)
    (haccounts : other.world.accounts = sharing.world.accounts)
    (hunderway : other.underway = sharing.underway) : other.InStep := by
  intro userId account hfound
  rw [hstore, hunderway]
  refine h userId account ?_
  rwa [World.account?, haccounts] at hfound

/-- An account that is connected from the store has the specs that are stored for it. -/
theorem current_connect (record : AccountRecord) (store : Store) :
    (Account.connect record (store.listSpecs record.userId) :
      Account Handler).specs.Current (store.specsOf record.userId) := by
  rw [← Store.withRecords_listSpecs]
  exact SpecBook.current_empty.load record.userId (store.listSpecs record.userId)

theorem InStep.connect (h : sharing.InStep) (record : AccountRecord) :
    (sharing.perform (.connect record)).InStep := by
  rw [perform]
  by_cases hlocked : (sharing.underway.find? record.userId).isSome = true
  · rwa [if_pos hlocked]
  rw [if_neg hlocked, Act.stateAfter, World.connectAccount_apply]
  cases sharing.world.environment.refuse sharing.world.trace (.commandSpecs record.userId) with
  | some error => exact h.congr rfl rfl rfl
  | none =>
      intro userId account hfound
      simp only [World.account?, SortedMap.find?_insert] at hfound
      by_cases huser : record.userId = userId
      · subst huser
        rw [if_pos rfl] at hfound
        cases hfound
        have hcurrent := @current_connect Handler record sharing.world.store
        have hidle : sharing.underway.find? record.userId = none := by simpa using hlocked
        refine ⟨?_, ?_⟩
        · exact hcurrent.specs_eq ▸ hcurrent
        · rw [hidle]
          exact hcurrent.specs_eq.symm
      · rw [if_neg huser] at hfound
        exact h userId account hfound

/-- What the first half of a call comes to on an account that is not locked. -/
theorem perform_write (hfound : sharing.world.account? userId = some account)
    (hidle : sharing.underway.find? userId = none) (owner : String) (spec : CommandSpec) :
    sharing.perform (.write userId owner spec) =
      let consulted :=
        { sharing.world with
          trace := .store (.putCommandSpec owner userId spec) :: sharing.world.trace }
      if account.specs.holds owner spec then sharing
      else
        match sharing.world.environment.refuse sharing.world.trace
            (.putCommandSpec owner userId spec) with
        | some _ => { sharing with world := consulted }
        | none =>
          ⟨{ consulted with store := sharing.world.store.putSpec owner userId spec },
            sharing.underway.insert userId (owner, spec)⟩ := by
  simp only [perform, hfound, hidle, World.putSpec_apply]
  cases sharing.world.environment.refuse sharing.world.trace
    (.putCommandSpec owner userId spec) <;> rfl

/-- What the second half of a call comes to. -/
theorem perform_install {owner : String} {spec : CommandSpec}
    (hfound : sharing.world.account? userId = some account)
    (hcall : sharing.underway.find? userId = some (owner, spec)) :
    sharing.perform (.install userId) =
      ⟨{ sharing.world with
          accounts := sharing.world.accounts.insert userId
            { account with specs := account.specs.install owner spec } },
        sharing.underway.erase userId⟩ := by
  simp only [perform, hcall, Act.stateAfter, World.installSpec, World.changeAccount_apply hfound]

theorem InStep.write (h : sharing.InStep) (userId owner : String) (spec : CommandSpec) :
    (sharing.perform (.write userId owner spec)).InStep := by
  cases hfound : sharing.world.account? userId with
  | none => simpa only [perform, hfound] using h
  | some account =>
      cases hcall : sharing.underway.find? userId with
      | some call => simpa only [perform, hfound, hcall] using h
      | none =>
          rw [perform_write hfound hcall]
          by_cases hheld : account.specs.holds owner spec = true
          · simpa only [hheld, if_true] using h
          simp only [if_neg hheld]
          cases sharing.world.environment.refuse sharing.world.trace
            (.putCommandSpec owner userId spec) with
          | some error => exact h.congr rfl rfl rfl
          | none =>
              intro other otherAccount hother
              have hbefore := h other otherAccount hother
              rw [Store.specsOf_putSpec, SortedMap.find?_insert]
              by_cases huser : userId = other
              · subst huser
                rw [hcall] at hbefore
                rw [if_pos rfl, if_pos rfl, hbefore.2]
                exact ⟨hbefore.1, rfl⟩
              · rwa [if_neg huser, if_neg huser]

theorem InStep.install (h : sharing.InStep) (userId : String) :
    (sharing.perform (.install userId)).InStep := by
  cases hcall : sharing.underway.find? userId with
  | none => simpa only [perform, hcall] using h
  | some call =>
      cases hfound : sharing.world.account? userId with
      | none =>
          -- Nobody is connected, so there is nothing to install.
          have hworld : (World.installSpec userId call.1 call.2).stateAfter sharing.world =
              sharing.world := by
            simp only [Act.stateAfter, World.installSpec, World.changeAccount, Act.bind_apply,
              Act.get_apply, hfound]
            rfl
          simp only [perform, hcall, hworld]
          intro other account hother
          have huser : userId ≠ other := by
            intro hsame
            rw [hsame, hother] at hfound
            cases hfound
          rw [SortedMap.find?_erase, if_neg huser]
          exact h other account hother
      | some account =>
          rw [perform_install hfound hcall]
          intro other otherAccount hother
          simp only [World.account?, SortedMap.find?_insert] at hother
          rw [SortedMap.find?_erase]
          by_cases huser : userId = other
          · subst huser
            rw [if_pos rfl] at hother
            cases hother
            obtain ⟨hcurrent, hrows⟩ := h userId account hfound
            rw [hcall] at hrows
            rw [if_pos rfl, hrows]
            exact ⟨hcurrent.install call.1 call.2, rfl⟩
          · rw [if_neg huser] at hother
            rw [if_neg huser]
            exact h other otherAccount hother

/-- Every move keeps the table and the books in step. -/
theorem InStep.perform (h : sharing.InStep) (move : SpecMove) : (sharing.perform move).InStep := by
  cases move with
  | connect record => exact h.connect record
  | write userId owner spec => exact h.write userId owner spec
  | install userId => exact h.install userId

/-- So they are in step after any sequence of moves. -/
theorem inStep_after (environment : Environment) (store : Store) (moves : List SpecMove) :
    (after environment store moves : SpecSharing Handler).InStep := by
  have hrun (start : SpecSharing Handler) (hstart : start.InStep) :
      (moves.foldl SpecSharing.perform start).InStep := by
    induction moves generalizing start with
    | nil => exact hstart
    | cons move rest ih => exact ih (start.perform move) (hstart.perform move)
  refine hrun _ fun userId account hfound => ?_
  cases hfound

/-! ### What a call finds -/

/-- The two sides of an account on which no call is under way. -/
structure Settled (sharing : SpecSharing Handler) (userId : String) (account : Account Handler) :
    Prop where
  /-- The table holds for the account what its book holds. -/
  rows : (sharing.world.store.listSpecs userId).map (fun record => (record.owner, record.spec)) =
    account.specs.specs.toList
  /-- A call with the spec that is stored does nothing, and does not ask the store. -/
  same : ∀ owner spec, (sharing.world.store.specs.find? (owner, userId) == some spec) = true →
    sharing.perform (.write userId owner spec) = sharing ∧
      World.setSpec userId owner spec sharing.world = .ok (.ok .unchanged) sharing.world
  /-- A call with another spec asks the store once.  If the store refuses, both sides stay. -/
  refused : ∀ owner spec error,
    (sharing.world.store.specs.find? (owner, userId) == some spec) = false →
    sharing.world.environment.refuse sharing.world.trace (.putCommandSpec owner userId spec) =
      some error →
    sharing.perform (.write userId owner spec) =
        { sharing with
          world.trace := .store (.putCommandSpec owner userId spec) :: sharing.world.trace } ∧
      World.setSpec userId owner spec sharing.world =
        .ok (.error error) (sharing.perform (.write userId owner spec)).world
  /-- If the store does not refuse, the table has the spec first and the book afterwards. -/
  accepted : ∀ owner spec,
    (sharing.world.store.specs.find? (owner, userId) == some spec) = false →
    sharing.world.environment.refuse sharing.world.trace (.putCommandSpec owner userId spec) =
      none →
    ∃ written installed, sharing.perform (.write userId owner spec) = written ∧
      written.perform (.install userId) = installed ∧
      written.world =
        { sharing.world with
          store := sharing.world.store.putSpec owner userId spec
          trace := .store (.putCommandSpec owner userId spec) :: sharing.world.trace } ∧
      installed.world =
        { written.world with
          accounts := sharing.world.accounts.insert userId
            { account with specs := account.specs.install owner spec } } ∧
      World.setSpec userId owner spec sharing.world = .ok (.ok .changed) installed.world
  /-- Setting the spec of an owner again does nothing. -/
  again : ∀ owner spec, account.specs.spec? owner = some spec →
    World.setSpec userId owner spec sharing.world = .ok (.ok .unchanged) sharing.world
  /-- The account can be connected anew from the store unless the store refuses.  It then has the
  same specs and the same composite, and setting the spec of an owner again does nothing. -/
  rebuilt : ∀ record : AccountRecord, record.userId = userId →
    sharing.world.environment.refuse sharing.world.trace (.commandSpecs userId) = none →
    ∃ world fresh, World.connectAccount record sharing.world = .ok (.ok ()) world ∧
      world.account? userId = some fresh ∧ fresh.specs.specs = account.specs.specs ∧
      fresh.specs.composite.1 = account.specs.composite.1 ∧
      ∀ owner spec, fresh.specs.spec? owner = some spec →
        World.setSpec userId owner spec world = .ok (.ok .unchanged) world

/-- A spec that the book has is held, as it is the same as itself. -/
theorem setSpec_again {world : World Handler} (hfound : world.account? userId = some account)
    {owner : String} {spec : CommandSpec} (hspec : account.specs.spec? owner = some spec) :
    World.setSpec userId owner spec world = .ok (.ok .unchanged) world := by
  have hheld : account.specs.holds owner spec = true := by
    rw [SpecBook.holds, hspec]
    exact BEq.rfl
  simp only [World.setSpec_apply hfound, hheld, if_true]

section Idle

variable (h : sharing.InStep) (hfound : sharing.world.account? userId = some account)
  (hidle : sharing.underway.find? userId = none)
include h hfound hidle

theorem InStep.specsOf_eq : sharing.world.store.specsOf userId = account.specs.specs := by
  have hrows := (h userId account hfound).2
  rwa [hidle] at hrows

/-- A spec is held by the book if and only if it is the stored one. -/
theorem InStep.stored_eq_holds (owner : String) (spec : CommandSpec) :
    (sharing.world.store.specs.find? (owner, userId) == some spec) =
      account.specs.holds owner spec := by
  rw [← Store.find?_specsOf, h.specsOf_eq hfound hidle, SpecBook.holds, SpecBook.spec?]

/-- An account on which no call is under way is settled. -/
theorem InStep.settled : sharing.Settled userId account := by
  have hcurrent := (h userId account hfound).1
  have hheld := h.stored_eq_holds hfound hidle
  have hwrite := perform_write hfound hidle
  constructor
  case rows => exact congrArg SortedMap.toList (h.specsOf_eq hfound hidle)
  case same =>
    intro owner spec hstored
    rw [hheld] at hstored
    rw [World.setSpec_apply hfound, hwrite, if_pos hstored, if_pos hstored]
    exact ⟨rfl, rfl⟩
  case refused =>
    intro owner spec error hstored hrefuse
    rw [hheld] at hstored
    rw [World.setSpec_apply hfound, hwrite]
    simp only [hstored, hrefuse, Bool.false_eq_true, if_false]
    exact ⟨trivial, trivial⟩
  case accepted =>
    intro owner spec hstored hrefuse
    rw [hheld] at hstored
    have hwritten := hwrite owner spec
    simp only [hstored, hrefuse, Bool.false_eq_true, if_false] at hwritten
    -- Writing leaves the account alone, and marks the call as the one that may install.
    have hcall : (sharing.underway.insert userId (owner, spec)).find? userId =
        some (owner, spec) := by
      rw [SortedMap.find?_insert, if_pos rfl]
    have hinstalled := @perform_install Handler ⟨{ sharing.world with
        store := sharing.world.store.putSpec owner userId spec
        trace := .store (.putCommandSpec owner userId spec) :: sharing.world.trace },
      sharing.underway.insert userId (owner, spec)⟩ userId account owner spec hfound hcall
    refine ⟨_, _, hwritten, hinstalled, rfl, rfl, ?_⟩
    rw [World.setSpec_apply hfound]
    simp only [hstored, hrefuse, Bool.false_eq_true, if_false]
  case again => exact fun owner spec hspec => setSpec_again hfound hspec
  case rebuilt =>
    intro record huser hlisted
    subst huser
    have hfresh := @current_connect Handler record sharing.world.store
    rw [h.specsOf_eq hfound hidle] at hfresh
    have hconnect := World.connectAccount_apply record sharing.world
    simp only [hlisted] at hconnect
    refine ⟨_, _, hconnect, ?_, hfresh.specs_eq, ?_, fun owner spec => setSpec_again ?_⟩
    · rw [World.account?, SortedMap.find?_insert, if_pos rfl]
    · rw [hfresh.composite_fst, hcurrent.composite_fst]
    · rw [World.account?, SortedMap.find?_insert, if_pos rfl]

end Idle

/-- However calls on any accounts overlap, and whichever writes the store refuses: the table and the
books are in step after every move, and each account on which no call is under way has the same
specs on both sides, also for the calls that follow. -/
theorem settled_after (environment : Environment) (store : Store) (moves : List SpecMove) :
    let sharing : SpecSharing Handler := after environment store moves
    sharing.InStep ∧
      ∀ userId account, sharing.world.account? userId = some account →
        sharing.underway.find? userId = none → sharing.Settled userId account := by
  intro sharing
  have hstep : sharing.InStep := inStep_after environment store moves
  exact ⟨hstep, fun userId account hfound hidle => hstep.settled hfound hidle⟩

end SpecSharing

/-- A call for one account is overtaken by one for another, and by one that the store refuses. -/
def TwoOwners.moves : List SpecMove :=
  [.connect record, .connect (.new "@ops:hs" "https://hs" "token"),
    .write "@bot:hs" "a" (spec "ping"), .write "@ops:hs" "b" (spec "pong"),
    .write "@bot:hs" "b" (spec "pong"), .install "@ops:hs", .write "@ops:hs" "c" (spec "ping"),
    .install "@bot:hs"]

/-- The account has the spec of the first owner on both sides.  It is not written again, and the
spec of the third owner is refused once more. -/
theorem SpecSharing.settled_after_overlap :
    let sharing : SpecSharing Unit := .after TwoOwners.surroundings .empty TwoOwners.moves
    ∃ account, sharing.world.account? "@bot:hs" = some account ∧
      account.specs.specs.keys = ["a"] ∧
      (sharing.world.store.listSpecs "@bot:hs").map (·.owner) = ["a"] ∧
      World.setSpec "@bot:hs" "a" (TwoOwners.spec "ping") sharing.world =
        .ok (.ok .unchanged) sharing.world ∧
      ∃ refused : SpecSharing Unit, refused.world.store = sharing.world.store ∧
        refused.world.accounts = sharing.world.accounts ∧
        World.setSpec "@bot:hs" "c" (TwoOwners.spec "ping") sharing.world =
          .ok (.error (.backend "disk full")) refused.world := by
  intro sharing
  cases hfound : sharing.world.account? "@bot:hs" with
  | none => exact absurd hfound (by decide +kernel)
  | some account =>
      have hsettled := (SpecSharing.settled_after TwoOwners.surroundings .empty TwoOwners.moves).2
        "@bot:hs" account hfound (by decide +kernel)
      have howners : (sharing.world.store.listSpecs "@bot:hs").map (·.owner) = ["a"] := by
        decide +kernel
      have hrefused := hsettled.refused "c" (TwoOwners.spec "ping") (.backend "disk full")
        (by decide +kernel) rfl
      refine ⟨account, rfl, ?_, howners, (hsettled.same "a" _ (by decide +kernel)).2, _, ?_, ?_,
        hrefused.2⟩
      · rw [SortedMap.keys, ← hsettled.rows, ← howners, List.map_map]
        rfl
      · rw [hrefused.1]
      · rw [hrefused.1]

end BotHost
