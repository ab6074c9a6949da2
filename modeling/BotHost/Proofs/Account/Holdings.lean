/-
# What an owner holds

An owner holds handlers and a spec on each account separately, `World.holdings`.  Removing an owner
from an account takes away everything it holds there, and nothing of what another owner holds there
or of what the same owner holds on another account.

Of everything the host does by itself, nothing but such a removal shows in what an owner holds.
-/

import BotHost.Proofs.Dispatch.Selection
import BotHost.Proofs.Keeping
import BotHost.Proofs.Specs.History

namespace BotHost

namespace Hooks

variable {Listener Command : Type}

/-- What an owner has registered, as hooks of their own. -/
def ofOwner (hooks : Hooks Listener Command) (owner : String) : Hooks Listener Command :=
  hooks.keep (fun entry => entry.owner == owner) (fun entry => entry.owner == owner)

/-- No entry is of an owner who has been withdrawn. -/
theorem ofOwner_withdraw_self (hooks : Hooks Listener Command) (owner : String) :
    (hooks.withdraw owner).ofOwner owner = empty := by
  have hnone {α : Type} (chains : Chains α) :
      (chains.withdraw owner).keep (fun entry => entry.owner == owner) = .empty := by
    refine SortedMap.ext_find? fun key => ?_
    change SortedMap.find? ((chains.keep fun entry => entry.owner != owner).keep _) key = _
    rw [Chains.keep_keep, Chains.find?_keep]
    simp [bne]
  simp only [ofOwner, keep, withdraw, hnone]
  rfl

/-- Withdrawing an owner leaves alone what another one has registered. -/
theorem ofOwner_withdraw_of_ne (hooks : Hooks Listener Command) {owner other : String}
    (hother : other ≠ owner) : (hooks.withdraw other).ofOwner owner = hooks.ofOwner owner := by
  have hsame {α : Type} (chains : Chains α) :
      (chains.withdraw other).keep (fun entry => entry.owner == owner) =
        chains.keep fun entry => entry.owner == owner := by
    change (chains.keep fun entry => entry.owner != other).keep _ = _
    rw [Chains.keep_keep]
    congr 1
    funext entry
    by_cases howner : entry.owner = owner
    · simp [howner, Ne.symm hother]
    · simp [howner]
  simp only [ofOwner, keep, withdraw, hsame]

/-- An owner without hooks of its own has registered nothing. -/
theorem countOf_eq_zero {hooks : Hooks Listener Command} {owner : String}
    (h : hooks.ofOwner owner = empty) : hooks.countOf owner = 0 := by
  have hnone {α : Type} {chains : Chains α}
      (hkept : chains.keep (fun entry => entry.owner == owner) = .empty) :
      (chains.entries.countP fun entry => entry.owner == owner) = 0 := by
    rw [List.countP_eq_length_filter, ← Chains.entries_keep, hkept]
    rfl
  rw [countOf, hnone (congrArg Hooks.listeners h), hnone (congrArg Hooks.commands h)]

end Hooks

/-- What an owner holds on an account: its handlers and its spec. -/
abbrev Holdings (Handler : Type) : Type := Hooks (Listener Handler) Handler × Option CommandSpec

namespace Account

variable {Handler : Type}

/-- What an owner holds on an account. -/
def holdings (account : Account Handler) (owner : String) : Holdings Handler :=
  (account.hooks.ofOwner owner, account.specs.spec? owner)

theorem holdings_removeOwner_self (account : Account Handler) (owner : String) :
    (account.removeOwner owner).holdings owner = (.empty, none) := by
  have hspec : (account.specs.remove owner).spec? owner = none := by
    unfold SpecBook.remove
    by_cases hset : (account.specs.spec? owner).isSome = true
    · rw [if_pos hset]
      simp [SpecBook.change, SpecBook.spec?]
    · rw [if_neg hset]
      simpa using hset
  exact Prod.ext (account.hooks.ofOwner_withdraw_self owner) hspec

theorem holdings_removeOwner_of_ne (account : Account Handler) {owner other : String}
    (hother : other ≠ owner) :
    (account.removeOwner other).holdings owner = account.holdings owner := by
  have hspec : (account.specs.remove other).spec? owner = account.specs.spec? owner := by
    unfold SpecBook.remove
    split
    · simp [SpecBook.change, SpecBook.spec?, hother]
    · rfl
  exact Prod.ext (account.hooks.ofOwner_withdraw_of_ne hother) hspec

/-- An owner who holds nothing has no handler and no spec. -/
theorem holds_nothing {account : Account Handler} {owner : String}
    (h : account.holdings owner = (.empty, none)) :
    account.hooks.countOf owner = 0 ∧ account.specs.spec? owner = none :=
  ⟨Hooks.countOf_eq_zero (congrArg Prod.fst h), congrArg Prod.snd h⟩

end Account

namespace World

variable {Handler : Type}

/-- What an owner holds on the account of a user, if it is connected. -/
def holdings (userId owner : String) (world : World Handler) : Option (Holdings Handler) :=
  (world.account? userId).map (·.holdings owner)

/-- On the account of a user, an owner holds nothing. -/
def HoldsNothing (userId owner : String) (world : World Handler) : Prop :=
  ∀ held, world.holdings userId owner = some held → held = (.empty, none)

theorem holdings_insert {world : World Handler} {userId changedUser owner : String}
    {account changed : Account Handler} (hfound : world.account? changedUser = some account)
    (hsame : changedUser = userId → changed.holdings owner = account.holdings owner) :
    holdings userId owner { world with accounts := world.accounts.insert changedUser changed } =
      world.holdings userId owner := by
  rw [holdings, holdings, account?, account?, SortedMap.find?_insert]
  by_cases huser : changedUser = userId
  · subst huser
    rw [if_pos rfl, ← account?, hfound, Option.map_some, Option.map_some, hsame rfl]
  · rw [if_neg huser]

/-- What the host does apart from removing owners does not show in what an owner holds. -/
theorem detached_holdings (userId owner : String) :
    Detached (holdings userId owner : World Handler → _) where
  trace _ _ _ := rfl
  rooms _ _ := rfl
  compiled _ _ _ _ hfound := holdings_insert hfound fun _ => rfl
  store _ _ := rfl
  clock _ _ := rfl

/-- Removing an owner leaves alone what another owner holds, or the same on another account. -/
theorem removeOwner_keeps_holdings {userId owner sought other : String}
    (hother : (sought, other) ≠ (userId, owner)) :
    (removeOwner sought other : Act (World Handler) Unit).Keeps (holdings userId owner) := by
  refine changeAccount_keeps sought fun world account hfound => holdings_insert hfound ?_
  rintro rfl
  exact account.holdings_removeOwner_of_ne fun hsame => hother (by rw [hsame])

/-- Setting a spec leaves alone what another owner holds, or the same on another account. -/
theorem setSpec_keeps_holdings {userId owner sought other : String}
    (hother : (sought, other) ≠ (userId, owner)) (spec : CommandSpec) :
    (setSpec sought other spec : Act (World Handler) _).Keeps (holdings userId owner) := by
  have hview := @detached_holdings Handler userId owner
  refine setSpec_keeps (consult_keeps hview.toUndisturbed _
    (Act.keeps_modify fun world => hview.store world _)) ?_
  refine changeAccount_keeps sought fun world account hfound => holdings_insert hfound ?_
  rintro rfl
  have howner : other ≠ owner := fun hsame => hother (by rw [hsame])
  exact Prod.ext rfl (by simp [Account.holdings, SpecBook.install, SpecBook.change,
    SpecBook.spec?, howner])

/-- Registering a listener leaves alone what another owner holds, or the same on another account. -/
theorem addListener_keeps_holdings {userId owner sought other : String}
    (hother : (sought, other) ≠ (userId, owner)) (eventType : String) (hearsOwn : Bool)
    (handler : Handler) :
    (changeAccount sought (fun account => account.addListener other eventType hearsOwn handler)
      ).Keeps (holdings userId owner) := by
  refine changeAccount_keeps sought fun world account hfound => holdings_insert hfound ?_
  rintro rfl
  have howner : (other == owner) = false := by simpa using fun hsame => hother (by rw [hsame])
  refine Prod.ext ?_ rfl
  simp [Account.holdings, Account.addListener, Hooks.ofOwner, Hooks.keep_addListener, howner]

/-- An owner who is removed holds nothing. -/
theorem holdsNothing_removeOwner {userId owner : String} {world after : World Handler}
    (h : removeOwner userId owner world = .ok () after) : after.HoldsNothing userId owner := by
  intro held hheld
  cases hfound : world.account? userId with
  | none =>
      simp only [removeOwner, changeAccount, Act.bind_apply, Act.get_apply, hfound] at h
      cases h
      rw [holdings, hfound] at hheld
      cases hheld
  | some account =>
      rw [removeOwner, changeAccount_apply hfound] at h
      cases h
      rw [holdings, account?, SortedMap.find?_insert, if_pos rfl, Option.map_some,
        account.holdings_removeOwner_self] at hheld
      exact (Option.some.inj hheld).symm

/-- An owner who is removed, or whose holdings do not show a change, still holds nothing. -/
theorem HoldsNothing.of_keeps {α : Type} {userId owner : String} {world after : World Handler}
    {act : Act (World Handler) α} {value : α} (h : world.HoldsNothing userId owner)
    (hkeeps : act.Keeps (holdings userId owner)) (hact : act world = .ok value after) :
    after.HoldsNothing userId owner := by
  intro held hheld
  rw [hkeeps.eq_of_ok hact] at hheld
  exact h held hheld

end World

end BotHost
