/-
# Removing an owner

Removing an owner from an account takes back everything the owner did on it.  This is a statement
about two histories of any length: one with the owner in it, at whose end the owner is removed, and
one in which every change of the owner is left out, `AccountChange.without`.

Owners share chains under common keys, may have been removed before and come back, and are loaded
together.  Still each change of another owner does the same in both histories, because registering
and withdrawing commute with selecting the entries of the others, and setting a spec commutes with
forgetting the spec of somebody else.
-/

import BotHost.Proofs.Account.History

namespace BotHost

namespace AccountChange

variable {Handler : Type}

/-- What is left of a change if an owner does nothing. -/
def without (owner : String) : AccountChange Handler → Option (AccountChange Handler)
  | setSpec other spec refusal =>
    if other = owner then none else some (setSpec other spec refusal)
  | load records => some (load (records.filter fun record => record.owner != owner))
  | addListener eventType entry =>
    if entry.owner = owner then none else some (addListener eventType entry)
  | addCommand command entry =>
    if entry.owner = owner then none else some (addCommand command entry)
  | removeOwner other => if other = owner then none else some (removeOwner other)

/-! ### Hooks -/

/-- Once an owner is withdrawn, what it did does not show in the hooks. -/
theorem withdraw_onHooks (owner : String) (hooks : Hooks (Listener Handler) Handler)
    (change : AccountChange Handler) :
    (onHooks hooks change).withdraw owner =
      (without owner change).toList.foldl onHooks (hooks.withdraw owner) := by
  cases change with
  | setSpec other spec refusal =>
      by_cases hother : other = owner <;> simp [without, onHooks, hother]
  | load records => rfl
  | addListener eventType entry =>
      have hadd := Hooks.keep_addListener (fun entry => entry.owner != owner)
        (fun entry => entry.owner != owner) hooks eventType entry
      by_cases howner : entry.owner = owner <;>
        simpa [without, onHooks, howner, Hooks.withdraw_eq_keep] using hadd
  | addCommand command entry =>
      have hadd := Hooks.keep_addCommand (fun entry => entry.owner != owner)
        (fun entry => entry.owner != owner) hooks command entry
      by_cases howner : entry.owner = owner <;>
        simpa [without, onHooks, howner, Hooks.withdraw_eq_keep] using hadd
  | removeOwner other =>
      by_cases hother : other = owner
      · subst hother
        simp [without, onHooks, Hooks.withdraw_withdraw]
      · simpa [without, onHooks, hother] using hooks.withdraw_comm other owner

/-- Changes without an owner lead to the hooks without the owner. -/
theorem hooksAfter_without (owner : String) (changes : List (AccountChange Handler)) :
    hooksAfter (changes.filterMap (without owner)) = (hooksAfter changes).withdraw owner :=
  hooksAfter_filterMap (withdraw_onHooks owner) changes

/-! ### Specs -/

/-- Loading records and forgetting an owner comes to loading the records of the others. -/
theorem erase_withRecords (userId owner : String) (records : List SpecRecord)
    (specs : SortedMap String CommandSpec) :
    (SpecBook.withRecords userId records specs).erase owner =
      SpecBook.withRecords userId (records.filter fun record => record.owner != owner)
        (specs.erase owner) := by
  unfold SpecBook.withRecords
  induction records generalizing specs with
  | nil => rfl
  | cons record rest ih =>
      by_cases haccount : record.account = userId
      · by_cases howner : record.owner = owner
        · simpa [haccount, howner, SortedMap.erase_insert]
            using ih (specs.insert record.owner record.spec)
        · simpa [haccount, howner, SortedMap.erase_insert]
            using ih (specs.insert record.owner record.spec)
      · by_cases howner : record.owner = owner <;> simpa [haccount, howner] using ih specs

/-- Once the spec of an owner is forgotten, what the owner did does not show in the specs. -/
theorem erase_onSpecs (userId owner : String) (specs : SortedMap String CommandSpec)
    (change : AccountChange Handler) :
    (onSpecs userId specs change).erase owner =
      (without owner change).toList.foldl (onSpecs userId) (specs.erase owner) := by
  cases change with
  | setSpec other spec refusal =>
      by_cases hother : other = owner
      · subst hother
        rw [without, if_pos rfl, onSpecs]
        split <;> simp [SortedMap.erase_insert]
      · have hfind : (specs.erase owner).find? other = specs.find? other := by
          simp [Ne.symm hother]
        rw [without, if_neg hother, Option.toList_some, List.foldl_cons, List.foldl_nil, onSpecs,
          onSpecs, hfind]
        -- Another owner finds its own spec as it would without the first one.
        split <;> simp [SortedMap.erase_insert, hother]
  | load records => exact erase_withRecords userId owner records specs
  | addListener eventType entry =>
      by_cases howner : entry.owner = owner <;> simp [without, onSpecs, howner]
  | addCommand command entry =>
      by_cases howner : entry.owner = owner <;> simp [without, onSpecs, howner]
  | removeOwner other =>
      by_cases hother : other = owner
      · subst hother
        have hgone : (specs.erase other).find? other = none := by simp
        simp [without, onSpecs, SortedMap.erase_eq_self hgone]
      · simpa [without, onSpecs, hother] using specs.erase_erase other owner

/-- Changes without an owner lead to the specs without the owner. -/
theorem specsAfter_without (userId owner : String) (changes : List (AccountChange Handler)) :
    specsAfter userId (changes.filterMap (without owner)) =
      (specsAfter userId changes).erase owner := by
  have hfrom (specs : SortedMap String CommandSpec) :
      (changes.foldl (onSpecs userId) specs).erase owner =
        (changes.filterMap (without owner)).foldl (onSpecs userId) (specs.erase owner) := by
    induction changes generalizing specs with
    | nil => rfl
    | cons change rest ih =>
        rw [List.foldl_cons, ih, erase_onSpecs]
        cases hleft : without owner change <;> simp [hleft]
  exact (hfrom .empty).symm

end AccountChange

namespace AccountHistory

variable {Handler : Type} {userId : String} {changes : List (AccountChange Handler)}
  {world other : World Handler}

/-- A removal comes to a good end, and the owner's entries are withdrawn and its spec forgotten. -/
theorem removeOwner_account (h : AccountHistory userId changes world) (owner : String) :
    ∃ before account after,
      world.account? userId = some before ∧ before.hooks = AccountChange.hooksAfter changes ∧
      World.removeOwner userId owner world = .ok () after ∧ after.account? userId = some account ∧
      account.hooks = before.hooks.withdraw owner ∧
      account.specs.Current ((AccountChange.specsAfter userId changes).erase owner) := by
  obtain ⟨before, hfound, hhooks, hcurrent⟩ := h.account
  exact ⟨before, before.removeOwner owner, _, hfound, hhooks, World.changeAccount_apply hfound,
    World.account?_insert _ _ _, rfl, hcurrent.remove owner⟩

/-- Removing an owner at the end of any history leaves the account with the hooks, the specs and
the composite of the history in which the owner does nothing.  The chains keep the entries of all
others in their order, no chain is left empty, and the number of entries that are withdrawn is
that of the entries the owner had. -/
theorem removeOwner_forgets (h : AccountHistory userId changes world) (owner : String)
    (hother : AccountHistory userId (changes.filterMap (AccountChange.without owner)) other) :
    ∃ before account spared after,
      world.account? userId = some before ∧
      World.removeOwner userId owner world = .ok () after ∧
      after.account? userId = some account ∧
      other.account? userId = some spared ∧
      account.hooks = spared.hooks ∧
      account.specs.specs = spared.specs.specs ∧
      (∃ composite read readOther, World.composite userId after = .ok composite read ∧
        World.composite userId other = .ok composite readOther) ∧
      (∀ eventType, account.hooks.listeners.chain eventType =
        (before.hooks.listeners.chain eventType).filter fun entry => entry.owner != owner) ∧
      (∀ command, account.hooks.commands.chain command =
        (before.hooks.commands.chain command).filter fun entry => entry.owner != owner) ∧
      account.hooks.NoneEmpty ∧
      before.hooks.withdrawn owner = before.hooks.countOf owner ∧
      before.hooks.count = account.hooks.count + before.hooks.withdrawn owner := by
  obtain ⟨before, account, after, hfound, hbefore, hremove, haccount, hhooks, hcurrent⟩ :=
    h.removeOwner_account owner
  obtain ⟨spared, hspared, hsparedHooks, hsparedCurrent⟩ := hother.account
  rw [AccountChange.hooksAfter_without, ← hbefore] at hsparedHooks
  rw [AccountChange.specsAfter_without] at hsparedCurrent
  have hread := World.composite_of_account haccount
  have hreadOther := World.composite_of_account hspared
  rw [hcurrent.composite_fst] at hread
  rw [hsparedCurrent.composite_fst] at hreadOther
  refine ⟨before, account, spared, after, hfound, hremove, haccount, hspared,
    hhooks.trans hsparedHooks.symm, hcurrent.specs_eq.trans hsparedCurrent.specs_eq.symm,
    ⟨_, _, _, hread, hreadOther⟩, fun eventType => ?_, fun command => ?_, ?_,
    before.hooks.withdrawn_eq_countOf owner, ?_⟩
  · rw [hhooks]
    exact before.hooks.listeners.chain_keep _ eventType
  · rw [hhooks]
    exact before.hooks.commands.chain_keep _ command
  · rw [hhooks]
    exact Hooks.noneEmpty_withdraw before.hooks owner
  · rw [hhooks, Hooks.withdrawn_eq_countOf]
    exact before.hooks.count_withdraw owner

end AccountHistory

/-! ### An owner that comes back

The scene of the concrete histories: two owners share a command, and the first is removed, comes
back with another spec, and registers its handler behind that of the second. -/

namespace ReturningOwner

/-- What is asked of the account. -/
def changes : List (AccountChange Unit) :=
  [.load [], .setSpec "a" (TwoOwners.spec "ping") none, .addCommand "ping" ⟨"a", false, ()⟩,
    .setSpec "b" (TwoOwners.spec "pong") none, .addCommand "ping" ⟨"b", false, ()⟩,
    .removeOwner "a", .setSpec "a" (TwoOwners.spec "pang") none,
    .addCommand "ping" ⟨"a", false, ()⟩, .addListener Hooks.wildcard ⟨"a", false, .custom ()⟩]

theorem come_back : ∃ after : World Unit, AccountHistory "@bot:hs" changes after := by
  have hstart : AccountHistory "@bot:hs" (changes.take 1) _ :=
    @AccountHistory.connect _ TwoOwners.world TwoOwners.record _ rfl
  have hfirst : AccountHistory "@bot:hs" (changes.take 2) _ := .setSpec hstart rfl rfl
  have hadded : AccountHistory "@bot:hs" (changes.take 3) _ := .addCommand hfirst rfl
  have hsecond : AccountHistory "@bot:hs" (changes.take 4) _ := .setSpec hadded rfl rfl
  have hbehind : AccountHistory "@bot:hs" (changes.take 5) _ := .addCommand hsecond rfl
  have hremoved : AccountHistory "@bot:hs" (changes.take 6) _ := .removeOwner hbehind rfl
  have hback : AccountHistory "@bot:hs" (changes.take 7) _ := .setSpec hremoved rfl rfl
  have hagain : AccountHistory "@bot:hs" (changes.take 8) _ := .addCommand hback rfl
  exact ⟨_, .addListener hagain rfl⟩

theorem never_there : ∃ after : World Unit, AccountHistory "@bot:hs"
    (changes.filterMap (AccountChange.without "a")) after := by
  have hstart : AccountHistory "@bot:hs" [.load []] _ :=
    @AccountHistory.connect _ TwoOwners.world TwoOwners.record _ rfl
  have hsecond :
      AccountHistory "@bot:hs" [.load [], .setSpec "b" (TwoOwners.spec "pong") none] _ :=
    .setSpec hstart rfl rfl
  exact ⟨_, .addCommand hsecond rfl⟩

end ReturningOwner

/-- Removing an owner that has come back takes away its handler and its listener; the handler and
the composite of the other owner are as if the first had never been there. -/
theorem AccountHistory.removeOwner_forgets_returning :
    ∃ world other after : World Unit, ∃ before account spared composite read readOther,
      AccountHistory "@bot:hs" ReturningOwner.changes world ∧
      AccountHistory "@bot:hs" (ReturningOwner.changes.filterMap (AccountChange.without "a"))
        other ∧
      world.account? "@bot:hs" = some before ∧
      World.removeOwner "@bot:hs" "a" world = .ok () after ∧
      after.account? "@bot:hs" = some account ∧ other.account? "@bot:hs" = some spared ∧
      account.hooks = spared.hooks ∧
      account.hooks.commands.chain "ping" = [⟨"b", false, ()⟩] ∧
      before.hooks.withdrawn "a" = 2 ∧
      World.composite "@bot:hs" after = .ok composite read ∧
      World.composite "@bot:hs" other = .ok composite readOther := by
  obtain ⟨world, hworld⟩ := ReturningOwner.come_back
  obtain ⟨other, hother⟩ := ReturningOwner.never_there
  obtain ⟨before, account, spared, after, hbefore, hremove, haccount, hspared, hhooks, -,
    ⟨composite, read, readOther, hread, hreadOther⟩, -, hchain, -, -, -⟩ :=
    hworld.removeOwner_forgets "a" hother
  obtain ⟨_, hsame, hlisted, -⟩ := hworld.account
  obtain rfl : before = _ := Option.some.inj (hbefore.symm.trans hsame)
  refine ⟨world, other, after, _, account, spared, composite, read, readOther, hworld, hother,
    hbefore, hremove, haccount, hspared, hhooks, ?_, ?_, hread, hreadOther⟩
  · rw [hchain, hlisted]
    rfl
  · rw [hlisted]
    rfl

end BotHost
