/-
# The history of an account

Owners set specs on an account, register listeners and command handlers and are removed again, and
stored specs are loaded.  `AccountHistory` follows a connected account from its beginning and lists
what was asked of it, whatever else goes on in the world meanwhile.

The hooks and the specs that the account ends up with follow from the list alone:
`AccountHistory.account`.  Each change acts on the hooks by `AccountChange.onHooks` and on the specs
by `AccountChange.onSpecs`, so laws about histories are inductions over lists of changes.
-/

import BotHost.Proofs.Dispatch.Selection
import BotHost.Proofs.Specs.History

namespace BotHost

/-- Something that is asked of an account. -/
inductive AccountChange (Handler : Type) where
  /-- An owner sets a spec.  If the store is asked to write it, it refuses or it does not. -/
  | setSpec (owner : String) (spec : CommandSpec) (refusal : Option StoreError)
  | load (records : List SpecRecord)
  | addListener (eventType : String) (entry : Entry (Listener Handler))
  | addCommand (command : String) (entry : Entry Handler)
  | removeOwner (owner : String)

namespace AccountChange

variable {Handler : Type}

/-- What a change does to the hooks. -/
def onHooks (hooks : Hooks (Listener Handler) Handler) :
    AccountChange Handler → Hooks (Listener Handler) Handler
  | setSpec _ _ _ => hooks
  | load _ => hooks
  | addListener eventType entry => hooks.addListener eventType entry
  | addCommand command entry => hooks.addCommand command entry
  | removeOwner owner => hooks.withdraw owner

/-- What a change does to the specs of an account.  A spec that is set already stays as it is, and
so does one in whose place another cannot be stored. -/
def onSpecs (userId : String) (specs : SortedMap String CommandSpec) :
    AccountChange Handler → SortedMap String CommandSpec
  | setSpec owner spec refusal =>
    if specs.find? owner == some spec || refusal.isSome then specs else specs.insert owner spec
  | load records => SpecBook.withRecords userId records specs
  | addListener _ _ => specs
  | addCommand _ _ => specs
  | removeOwner owner => specs.erase owner

/-- The hooks to which changes lead. -/
def hooksAfter (changes : List (AccountChange Handler)) : Hooks (Listener Handler) Handler :=
  changes.foldl onHooks .empty

/-- The specs to which changes lead. -/
def specsAfter (userId : String) (changes : List (AccountChange Handler)) :
    SortedMap String CommandSpec :=
  changes.foldl (onSpecs userId) .empty

@[simp] theorem hooksAfter_append (changes : List (AccountChange Handler))
    (change : AccountChange Handler) :
    hooksAfter (changes ++ [change]) = onHooks (hooksAfter changes) change := by
  simp [hooksAfter]

@[simp] theorem specsAfter_append (userId : String) (changes : List (AccountChange Handler))
    (change : AccountChange Handler) :
    specsAfter userId (changes ++ [change]) =
      onSpecs userId (specsAfter userId changes) change := by
  simp [specsAfter]

/-- If what is left of each change does to a selection of the hooks what the change does to all of
them, then what is left of all changes leads to the selection. -/
theorem hooksAfter_filterMap {listens : Entry (Listener Handler) → Bool}
    {obeys : Entry Handler → Bool} {left : AccountChange Handler → Option (AccountChange Handler)}
    (hleft : ∀ hooks change, (onHooks hooks change).keep listens obeys =
      (left change).toList.foldl onHooks (hooks.keep listens obeys))
    (changes : List (AccountChange Handler)) :
    hooksAfter (changes.filterMap left) = (hooksAfter changes).keep listens obeys := by
  have hfrom (hooks : Hooks (Listener Handler) Handler) :
      (changes.foldl onHooks hooks).keep listens obeys =
        (changes.filterMap left).foldl onHooks (hooks.keep listens obeys) := by
    induction changes generalizing hooks with
    | nil => rfl
    | cons change rest ih =>
        rw [List.foldl_cons, ih, hleft]
        cases hchange : left change <;> simp [hchange]
  exact (hfrom .empty).symm

/-- Every listener in the tables was registered by one of the changes. -/
theorem registered_of_mem_listeners {changes : List (AccountChange Handler)} {eventType : String}
    {entry : Entry (Listener Handler)}
    (h : entry ∈ (hooksAfter changes).listeners.chain eventType) :
    addListener eventType entry ∈ changes := by
  refine List.foldlRecOn changes onHooks
    (motive := fun hooks => entry ∈ hooks.listeners.chain eventType →
      addListener eventType entry ∈ changes)
    (by rintro ⟨⟩) (fun hooks ih change hchange hmem => ?_) h
  cases change with
  | setSpec owner spec refusal => exact ih hmem
  | load records => exact ih hmem
  | addListener added new =>
      rcases Chains.mem_chain_add.mp hmem with hbefore | ⟨rfl, rfl⟩
      · exact ih hbefore
      · exact hchange
  | addCommand command new => exact ih hmem
  | removeOwner owner =>
      rw [onHooks, Hooks.withdraw_eq_keep, Hooks.keep, Chains.chain_keep] at hmem
      exact ih (List.mem_filter.mp hmem).1

/-- Every command handler in the tables was registered by one of the changes. -/
theorem registered_of_mem_commands {changes : List (AccountChange Handler)} {command : String}
    {entry : Entry Handler} (h : entry ∈ (hooksAfter changes).commands.chain command) :
    addCommand command entry ∈ changes := by
  refine List.foldlRecOn changes onHooks
    (motive := fun hooks => entry ∈ hooks.commands.chain command →
      addCommand command entry ∈ changes)
    (by rintro ⟨⟩) (fun hooks ih change hchange hmem => ?_) h
  cases change with
  | setSpec owner spec refusal => exact ih hmem
  | load records => exact ih hmem
  | addListener eventType new => exact ih hmem
  | addCommand added new =>
      rcases Chains.mem_chain_add.mp hmem with hbefore | ⟨rfl, rfl⟩
      · exact ih hbefore
      · exact hchange
  | removeOwner owner =>
      rw [onHooks, Hooks.withdraw_eq_keep, Hooks.keep, Chains.chain_keep] at hmem
      exact ih (List.mem_filter.mp hmem).1

end AccountChange

/-- Whether setting a spec reports what the store has answered, if the store was asked at all. -/
def AccountChange.Reported (refusal : Option StoreError) : Except StoreError SpecUpdate → Prop
  | .ok .changed => refusal = none
  | .ok .unchanged => True
  | .error error => refusal = some error

/-- What was asked of the account of a user since it was new, and the world it has led to. -/
inductive AccountHistory {Handler : Type} (userId : String) :
    List (AccountChange Handler) → World Handler → Prop where
  | new {world : World Handler} {account : Account Handler} :
      world.account? userId = some account → account.specs = .empty → account.hooks = .empty →
      AccountHistory userId [] world
  | setSpec {changes : List (AccountChange Handler)} {world after : World Handler}
      {owner : String} {spec : CommandSpec} {refusal : Option StoreError}
      {result : Except StoreError SpecUpdate} : AccountHistory userId changes world →
      World.setSpec userId owner spec world = .ok result after →
      AccountChange.Reported refusal result →
      AccountHistory userId (changes ++ [.setSpec owner spec refusal]) after
  /-- Records are loaded, be they of this account or of others. -/
  | load {changes : List (AccountChange Handler)} {world after : World Handler}
      (records : List SpecRecord) : AccountHistory userId changes world →
      after.account? userId = (world.account? userId).map (fun account =>
        { account with specs := account.specs.load userId records }) →
      AccountHistory userId (changes ++ [.load records]) after
  | addListener {changes : List (AccountChange Handler)} {world after : World Handler}
      {eventType : String} {entry : Entry (Listener Handler)} :
      AccountHistory userId changes world →
      World.changeAccount userId (fun account =>
        { account with hooks := account.hooks.addListener eventType entry }) world = .ok () after →
      AccountHistory userId (changes ++ [.addListener eventType entry]) after
  | addCommand {changes : List (AccountChange Handler)} {world after : World Handler}
      {command : String} {entry : Entry Handler} : AccountHistory userId changes world →
      World.changeAccount userId (fun account =>
        { account with hooks := account.hooks.addCommand command entry }) world = .ok () after →
      AccountHistory userId (changes ++ [.addCommand command entry]) after
  | removeOwner {changes : List (AccountChange Handler)} {world after : World Handler}
      {owner : String} : AccountHistory userId changes world →
      World.removeOwner userId owner world = .ok () after →
      AccountHistory userId (changes ++ [.removeOwner owner]) after
  | read {changes : List (AccountChange Handler)} {world after : World Handler}
      {composite : Composite} : AccountHistory userId changes world →
      World.composite userId world = .ok composite after → AccountHistory userId changes after
  | meanwhile {changes : List (AccountChange Handler)} {world other : World Handler} :
      AccountHistory userId changes world → other.account? userId = world.account? userId →
      AccountHistory userId changes other

namespace World

variable {Handler : Type} {userId : String} {world : World Handler} {account : Account Handler}

@[simp] theorem account?_insert (userId : String) (account : Account Handler)
    (world : World Handler) :
    ({ world with accounts := world.accounts.insert userId account } :
      World Handler).account? userId = some account := by
  simp [account?]

/-- Reading a composite changes nothing but what the spec book remembers. -/
theorem composite_of_account (hfound : world.account? userId = some account) :
    composite userId world =
      .ok account.specs.composite.1
        { world with
          accounts := world.accounts.insert userId
            { account with specs := account.specs.composite.2 } } := by
  simp only [composite, Act.bind_apply, Act.get_apply, hfound]
  rfl

/-- Setting a spec leaves the hooks alone, and the specs are those to which it leads. -/
theorem account?_setSpec {owner : String} {spec : CommandSpec} {refusal : Option StoreError}
    {specs : SortedMap String CommandSpec} {result : Except StoreError SpecUpdate}
    {after : World Handler} (hfound : world.account? userId = some account)
    (hcurrent : account.specs.Current specs)
    (h : setSpec userId owner spec world = .ok result after)
    (hreported : AccountChange.Reported refusal result) :
    ∃ changed, after.account? userId = some changed ∧ changed.hooks = account.hooks ∧
      changed.specs.Current (AccountChange.onSpecs userId specs
        (.setSpec owner spec refusal : AccountChange Handler)) := by
  have hholds : account.specs.holds owner spec = (specs.find? owner == some spec) := by
    rw [SpecBook.holds, SpecBook.spec?, hcurrent.specs_eq]
  rw [setSpec_apply hfound, hholds] at h
  by_cases hheld : (specs.find? owner == some spec) = true
  · simp only [hheld, if_true] at h
    cases h
    exact ⟨account, hfound, rfl, by simpa [AccountChange.onSpecs, hheld] using hcurrent⟩
  · simp only [hheld] at h
    cases hrefuse : world.environment.refuse world.trace (.putCommandSpec owner userId spec) with
    | some error =>
        simp only [hrefuse] at h
        cases h
        obtain rfl : refusal = some error := hreported
        exact ⟨account, hfound, rfl, by simpa [AccountChange.onSpecs] using hcurrent⟩
    | none =>
        simp only [hrefuse] at h
        cases h
        obtain rfl : refusal = none := hreported
        exact ⟨_, account?_insert _ _ _, rfl,
          by simpa [AccountChange.onSpecs, hheld] using hcurrent.install owner spec⟩

end World

namespace AccountHistory

variable {Handler : Type} {userId : String} {changes : List (AccountChange Handler)}
  {world : World Handler}

/-- Whatever the history, the account has the hooks and the specs to which the changes lead. -/
theorem account (h : AccountHistory userId changes world) :
    ∃ account, world.account? userId = some account ∧
      account.hooks = AccountChange.hooksAfter changes ∧
      account.specs.Current (AccountChange.specsAfter userId changes) := by
  induction h with
  | new hfound hspecs hhooks =>
      exact ⟨_, hfound, hhooks, hspecs ▸ SpecBook.current_empty⟩
  | setSpec _ hset hreported ih =>
      obtain ⟨account, hfound, hhooks, hcurrent⟩ := ih
      obtain ⟨changed, hchanged, hsame, hspecs⟩ :=
        World.account?_setSpec hfound hcurrent hset hreported
      rw [AccountChange.hooksAfter_append, AccountChange.specsAfter_append]
      exact ⟨changed, hchanged, hsame.trans hhooks, hspecs⟩
  | load records _ hload ih =>
      obtain ⟨account, hfound, hhooks, hcurrent⟩ := ih
      rw [AccountChange.hooksAfter_append, AccountChange.specsAfter_append]
      rw [hfound] at hload
      exact ⟨_, hload, hhooks, hcurrent.load userId records⟩
  | addListener _ hadd ih =>
      obtain ⟨account, hfound, hhooks, hcurrent⟩ := ih
      rw [AccountChange.hooksAfter_append, AccountChange.specsAfter_append, ← hhooks]
      rw [World.changeAccount_apply hfound] at hadd
      cases hadd
      exact ⟨_, World.account?_insert _ _ _, rfl, hcurrent⟩
  | addCommand _ hadd ih =>
      obtain ⟨account, hfound, hhooks, hcurrent⟩ := ih
      rw [AccountChange.hooksAfter_append, AccountChange.specsAfter_append, ← hhooks]
      rw [World.changeAccount_apply hfound] at hadd
      cases hadd
      exact ⟨_, World.account?_insert _ _ _, rfl, hcurrent⟩
  | @removeOwner _ _ _ owner _ hremove ih =>
      obtain ⟨account, hfound, hhooks, hcurrent⟩ := ih
      rw [AccountChange.hooksAfter_append, AccountChange.specsAfter_append, ← hhooks]
      rw [World.removeOwner, World.changeAccount_apply hfound] at hremove
      cases hremove
      exact ⟨_, World.account?_insert _ _ _, rfl, hcurrent.remove owner⟩
  | read _ hread ih =>
      obtain ⟨account, hfound, hhooks, hcurrent⟩ := ih
      rw [World.composite_of_account hfound] at hread
      cases hread
      exact ⟨{ account with specs := account.specs.composite.2 }, World.account?_insert _ _ _,
        hhooks, hcurrent.composite_snd⟩
  | meanwhile _ hsame ih =>
      obtain ⟨account, hfound, hhooks, hcurrent⟩ := ih
      exact ⟨account, hsame.trans hfound, hhooks, hcurrent⟩

/-- The host's own listener, on an account that accepts every invitation. -/
def ownListener (record : AccountRecord) : List (AccountChange Handler) :=
  if record.autojoin then [.addListener roomMember ⟨Account.autojoinOwner, true, .autojoin⟩] else []

/-- A history begins when the account is connected: the specs that are stored for it are loaded, and
the host registers its own listener. -/
theorem connect {record : AccountRecord} {after : World Handler}
    (hconnect : World.connectAccount record world = .ok (.ok ()) after) :
    AccountHistory record.userId
      ([.load (world.store.listSpecs record.userId)] ++ ownListener record) after := by
  obtain ⟨listed, consulted, hlist, hconnect⟩ := Act.bind_eq_ok.mp hconnect
  rw [World.listSpecs, World.consult_apply] at hlist
  cases hrefuse : world.environment.refuse world.trace (.commandSpecs record.userId) with
  | some error =>
      rw [hrefuse] at hlist
      cases hlist
      cases hconnect
  | none =>
      rw [hrefuse] at hlist
      cases hlist
      cases hconnect
      let stored := world.store.listSpecs record.userId
      let blank : World Handler := { world with
        accounts := world.accounts.insert record.userId
          { record, specs := .empty, hooks := .empty } }
      let filled : World Handler := { world with
        accounts := world.accounts.insert record.userId
          { record, specs := SpecBook.empty.load record.userId stored, hooks := .empty } }
      have hblank : AccountHistory record.userId [] blank :=
        .new (World.account?_insert _ _ _) rfl rfl
      have hfilled : AccountHistory record.userId [.load stored] filled := by
        refine hblank.load stored ?_
        rw [World.account?_insert, World.account?_insert]
        rfl
      by_cases hautojoin : record.autojoin = true
      · rw [ownListener, if_pos hautojoin]
        refine (hfilled.addListener
          (World.changeAccount_apply (World.account?_insert _ _ _))).meanwhile ?_
        rw [World.account?_insert, World.account?_insert, Account.connect, Account.initialHooks,
          if_pos hautojoin]
      · rw [ownListener, if_neg hautojoin, List.append_nil]
        refine hfilled.meanwhile ?_
        rw [World.account?_insert, World.account?_insert, Account.connect, Account.initialHooks,
          if_neg hautojoin]

end AccountHistory

end BotHost
