/-
# Generations of a spec book

The generation of a spec book is meant to count the changes of its specs, and a compiled composite
is meant to be kept until the next one.  Setting and removing a spec compare before they change
anything, and they keep to this.  Loading does not compare.  It counts as a change as soon as one of
the records is meant for the account, even if the records hold what is installed already.

`SpecCalls` lists the calls that are made on an account, each with the book before and after it.
`SpecCall.Advances` says what one call does to the book, and `SpecCalls.generation_counts` what this
comes to over all of them.
-/

import BotHost.Proofs.Specs.History

namespace BotHost

/-! ### One call -/

/-- A call that may change the specs of an account. -/
inductive SpecCall where
  | set (owner : String) (spec : CommandSpec)
  | load (records : List SpecRecord)
  | remove (owner : String)

namespace SpecCall

variable {Handler : Type} {userId : String} {call : SpecCall} {world after : World Handler}
  {book before changed : SpecBook}

/-- Make a call on an account. -/
def make (userId : String) : SpecCall → Act (World Handler) Unit
  | set owner spec => do
    let _ ← World.setSpec userId owner spec
  | load records =>
    World.changeAccount userId fun account =>
      { account with specs := account.specs.load userId records }
  | remove owner =>
    World.changeAccount userId fun account => { account with specs := account.specs.remove owner }

/-- Whether a call installs records of the account, whatever they hold. -/
def installs (userId : String) : SpecCall → Bool
  | load records => records.any fun record => record.account == userId
  | _ => false

/-- What a call does to a book.  Either it leaves the book alone and has no reason to do otherwise,
or the book has other specs, a new generation and no composite, and there was a reason: the specs
differ, or records of the account were installed. -/
inductive Advances (userId : String) (call : SpecCall) (before : SpecBook) : SpecBook → Prop where
  | kept : call.installs userId = false → Advances userId call before before
  | changed {specs : SortedMap String CommandSpec} :
      (before.specs == specs) = false ∨ call.installs userId = true →
      Advances userId call before (before.change specs)

/-- A spec that is installed differs from what the book held. -/
theorem beq_insert_of_not_holds {owner : String} {spec : CommandSpec}
    (h : book.holds owner spec = false) :
    (book.specs == book.specs.insert owner spec) = false := by
  refine Bool.eq_false_iff.mpr fun hequal => ?_
  have hfound := SortedMap.find?_beq hequal owner
  rw [SortedMap.find?_insert, if_pos rfl] at hfound
  rw [SpecBook.holds, SpecBook.spec?, hfound] at h
  cases h

/-- A spec that is dropped was there. -/
theorem beq_erase_of_some {owner : String} (h : (book.spec? owner).isSome = true) :
    (book.specs == book.specs.erase owner) = false := by
  refine Bool.eq_false_iff.mpr fun hequal => ?_
  have hfound := SortedMap.find?_beq hequal owner
  obtain ⟨spec, hspec⟩ := Option.isSome_iff_exists.mp h
  rw [SortedMap.find?_erase, if_pos rfl, ← SpecBook.spec?, hspec] at hfound
  cases hfound

/-- Every call on a connected account comes to an end, whether or not the store refuses a spec, and
the book is left alone or changed for a reason. -/
theorem make_advances (hbook : world.specBook? userId = some book) (call : SpecCall) :
    ∃ after changed, call.make userId world = .ok () after ∧
      after.specBook? userId = some changed ∧ call.Advances userId book changed := by
  obtain ⟨account, hfound, rfl⟩ := Option.map_eq_some_iff.mp hbook
  cases call with
  | set owner spec =>
      rw [make, Act.bind_apply, World.setSpec_apply hfound]
      by_cases hheld : account.specs.holds owner spec = true
      · exact ⟨world, account.specs, by simp [hheld]; rfl, hbook, .kept rfl⟩
      · simp only [hheld]
        cases world.environment.refuse world.trace (.putCommandSpec owner userId spec) with
        | some error => exact ⟨_, account.specs, rfl, hbook, .kept rfl⟩
        | none =>
            exact ⟨_, _, rfl, World.specBook?_insert userId _ _,
              .changed (.inl (beq_insert_of_not_holds (by simpa using hheld)))⟩
  | load records =>
      refine ⟨_, _, World.changeAccount_apply hfound, World.specBook?_insert userId _ _, ?_⟩
      dsimp only [SpecBook.load]
      by_cases hnone : (records.filter fun record => record.account == userId).isEmpty = true
      · rw [if_pos hnone]
        refine .kept ?_
        simpa [installs] using hnone
      · rw [if_neg hnone]
        refine .changed (.inr ?_)
        simpa [installs] using hnone
  | remove owner =>
      refine ⟨_, _, World.changeAccount_apply hfound, World.specBook?_insert userId _ _, ?_⟩
      dsimp only [SpecBook.remove]
      by_cases hsome : (account.specs.spec? owner).isSome = true
      · rw [if_pos hsome]
        exact .changed (.inl (beq_erase_of_some hsome))
      · rw [if_neg hsome]
        exact .kept rfl

theorem advances_of_make (hbook : world.specBook? userId = some book)
    (hmake : call.make userId world = .ok () after)
    (hafter : after.specBook? userId = some changed) :
    call.Advances userId book changed := by
  obtain ⟨next, made, hnext, hmade, hadvances⟩ := make_advances hbook call
  rw [hmake] at hnext
  cases hnext
  rw [hafter] at hmade
  cases hmade
  exact hadvances

/-- If there is a reason, the book is changed. -/
theorem Advances.eq_change (h : call.Advances userId before changed)
    (hreason : (before.specs == changed.specs) = false ∨ call.installs userId = true) :
    changed = before.change changed.specs := by
  cases h with
  | kept hinstalls =>
      rcases hreason with hdiffers | hinstalls'
      · simp at hdiffers
      · simp [hinstalls] at hinstalls'
  | changed => rfl

/-- If there is no reason, the book is left alone. -/
theorem Advances.eq_self (h : call.Advances userId before changed)
    (hequal : (before.specs == changed.specs) = true) (hinstalls : call.installs userId = false) :
    changed = before := by
  cases h with
  | kept => rfl
  | changed hreason =>
      rcases hreason with hdiffers | hinstalls'
      · exact absurd hequal (by simpa [SpecBook.change] using hdiffers)
      · simp [hinstalls] at hinstalls'

end SpecCall

/-- Reading the composite is no change. -/
theorem SpecBook.generation_composite (book : SpecBook) :
    book.composite.2.generation = book.generation := by
  unfold composite
  cases book.compiled <;> rfl

/-! ### Calls in any order -/

/-- A call with the book before and after it. -/
structure MadeCall where
  before : SpecBook
  call : SpecCall
  after : SpecBook

namespace MadeCall

/-- Whether a call counts as a change: the specs differ, or records of the account were
installed. -/
def counts (userId : String) (made : MadeCall) : Bool :=
  !(made.before.specs == made.after.specs) || made.call.installs userId

/-- A call that counts as a change advances the generation by one, and no other call does. -/
theorem generation_eq {userId : String} {made : MadeCall}
    (h : made.call.Advances userId made.before made.after) :
    made.after.generation = made.before.generation + if made.counts userId then 1 else 0 := by
  by_cases hcounts : made.counts userId = true
  · rw [if_pos hcounts, h.eq_change (by simpa [counts] using hcounts), SpecBook.change]
  · have hnone : (made.before.specs == made.after.specs) = true ∧
        made.call.installs userId = false := by simpa [counts] using hcounts
    rw [if_neg hcounts, h.eq_self hnone.1 hnone.2, Nat.add_zero]

end MadeCall

/-- The calls that are made on an account between two worlds, in their order. -/
inductive SpecCalls {Handler : Type} (userId : String) :
    World Handler → List MadeCall → World Handler → Prop where
  | nil (world : World Handler) : SpecCalls userId world [] world
  | call {world next after : World Handler} {made : MadeCall} {log : List MadeCall} :
      world.specBook? userId = some made.before → made.call.make userId world = .ok () next →
      next.specBook? userId = some made.after → SpecCalls userId next log after →
      SpecCalls userId world (made :: log) after
  | read {world next after : World Handler} {composite : Composite} {log : List MadeCall} :
      World.composite userId world = .ok composite next → SpecCalls userId next log after →
      SpecCalls userId world log after
  | meanwhile {world next after : World Handler} {log : List MadeCall} :
      next.specBook? userId = world.specBook? userId → SpecCalls userId next log after →
      SpecCalls userId world log after

namespace SpecCalls

variable {Handler : Type} {userId : String} {world after : World Handler} {log : List MadeCall}
  {book : SpecBook}

/-- Any calls can be made on a connected account. -/
theorem exists_of_calls (hbook : world.specBook? userId = some book) (calls : List SpecCall) :
    ∃ log after, SpecCalls userId world log after ∧ log.map (·.call) = calls := by
  induction calls generalizing world book with
  | nil => exact ⟨[], world, .nil world, rfl⟩
  | cons call rest ih =>
      obtain ⟨next, changed, hmake, hchanged, -⟩ := SpecCall.make_advances hbook call
      obtain ⟨log, after, hrest, hcalls⟩ := ih hchanged
      exact ⟨⟨book, call, changed⟩ :: log, after, .call hbook hmake hchanged hrest,
        by rw [List.map_cons, hcalls]⟩

/-- Each call leaves the book alone or changes it for a reason. -/
theorem advances (h : SpecCalls userId world log after) :
    ∀ made ∈ log, made.call.Advances userId made.before made.after := by
  induction h with
  | nil => simp
  | call hbefore hmake hafter _ ih =>
      exact List.forall_mem_cons.mpr ⟨SpecCall.advances_of_make hbefore hmake hafter, ih⟩
  | read _ _ ih => exact ih
  | meanwhile _ _ ih => exact ih

/-- The generation of the book counts the calls that count as changes. -/
theorem generation_eq (h : SpecCalls userId world log after)
    (hbook : world.specBook? userId = some book) :
    ∃ last, after.specBook? userId = some last ∧
      last.generation = book.generation + log.countP (MadeCall.counts userId) := by
  induction h generalizing book with
  | nil => exact ⟨book, hbook, rfl⟩
  | @call _ _ _ made _ hbefore hmake hafter _ ih =>
      obtain rfl : made.before = book := Option.some.inj (hbefore.symm.trans hbook)
      obtain ⟨last, hlast, hcount⟩ := ih hafter
      refine ⟨last, hlast, ?_⟩
      have hadvances := SpecCall.advances_of_make hbefore hmake hafter
      rw [hcount, MadeCall.generation_eq hadvances, List.countP_cons, Nat.add_right_comm,
        Nat.add_assoc]
  | read hread _ ih =>
      obtain ⟨next, hcomposite, hnext⟩ := World.composite_apply hbook
      rw [hread] at hcomposite
      cases hcomposite
      obtain ⟨last, hlast, hcount⟩ := ih hnext
      exact ⟨last, hlast, by rw [hcount, SpecBook.generation_composite]⟩
  | meanwhile hsame _ ih => exact ih (hsame.trans hbook)

/-- Whatever is called on an account, whether or not the store refuses a spec: a call that changes
the specs advances the generation by one and forgets the composite, and a call that does not leaves
the book alone, with one exception.  Loading records of the account counts as a change even if the
specs are the same as before.  So the generation counts the changes and these reloads. -/
theorem generation_counts (hbook : world.specBook? userId = some book) :
    (∀ calls : List SpecCall, ∃ log after,
      SpecCalls userId world log after ∧ log.map (·.call) = calls) ∧
    ∀ log after, SpecCalls userId world log after →
      (∀ made ∈ log,
        ((made.before.specs == made.after.specs) = false →
          made.after.generation = made.before.generation + 1 ∧ made.after.compiled = none) ∧
        ((made.before.specs == made.after.specs) = true →
          made.call.installs userId = false → made.after = made.before) ∧
        ((made.before.specs == made.after.specs) = true →
          made.call.installs userId = true →
            made.after.generation = made.before.generation + 1 ∧
              made.after.compiled = none)) ∧
      ∃ last, after.specBook? userId = some last ∧
        last.generation = book.generation + log.countP (MadeCall.counts userId) := by
  refine ⟨exists_of_calls hbook, fun log after h => ⟨fun made hmem => ?_, h.generation_eq hbook⟩⟩
  have hadvances := h.advances made hmem
  have hchange : (made.before.specs == made.after.specs) = false ∨
      made.call.installs userId = true →
      made.after.generation = made.before.generation + 1 ∧ made.after.compiled = none :=
    fun hreason => by
      rw [hadvances.eq_change hreason]
      exact ⟨rfl, rfl⟩
  exact ⟨fun hdiffers => hchange (.inl hdiffers), hadvances.eq_self,
    fun _ hinstalls => hchange (.inr hinstalls)⟩

end SpecCalls

/-! ### One owner

The scene of the concrete calls: an account without specs, in surroundings in which the specs of one
owner cannot be stored. -/

namespace OneOwner

/-- The account is connected. -/
def world : World Unit :=
  { TwoOwners.world with
    accounts := SortedMap.empty.insert "@bot:hs" (Account.connect TwoOwners.record []) }

/-- The spec of the owner. -/
def spec : CommandSpec := TwoOwners.spec "ping"

/-- The book that holds it. -/
def book : SpecBook := SpecBook.empty.install "a" spec

/-- The spec is set and dropped again.  In between, a spec of somebody else is refused, a record of
another account is loaded, and an owner without a spec is removed. -/
def log : List MadeCall :=
  [⟨.empty, .set "a" spec, book⟩, ⟨book, .set "c" spec, book⟩,
    ⟨book, .load [⟨"a", "@other:hs", spec⟩], book⟩, ⟨book, .remove "b", book⟩,
    ⟨book, .remove "a", book.remove "a"⟩]

theorem made : ∃ after : World Unit, SpecCalls "@bot:hs" world log after :=
  ⟨_, .call rfl rfl rfl (.call rfl rfl rfl (.call rfl rfl rfl (.call rfl rfl rfl
    (.call rfl rfl rfl (.nil _)))))⟩

/-- The spec is set, the composite is read, and the spec is loaded as it is. -/
def reloaded : List MadeCall :=
  [⟨.empty, .set "a" spec, book⟩,
    ⟨book.composite.2, .load [⟨"a", "@bot:hs", spec⟩], book.install "a" spec⟩]

theorem made_reloaded : ∃ after : World Unit, SpecCalls "@bot:hs" world reloaded after :=
  ⟨_, .call rfl rfl rfl (.read rfl (.call rfl rfl rfl (.nil _)))⟩

end OneOwner

/-- Of five calls, two change the specs, and the generation is two. -/
theorem SpecCalls.generation_counts_two :
    OneOwner.world.specBook? "@bot:hs" = some .empty ∧
      ∃ after, SpecCalls "@bot:hs" OneOwner.world OneOwner.log after ∧
        ∃ last, after.specBook? "@bot:hs" = some last ∧ last.generation = 2 := by
  have hbook : OneOwner.world.specBook? "@bot:hs" = some .empty := rfl
  obtain ⟨after, hmade⟩ := OneOwner.made
  obtain ⟨-, hcounts⟩ := SpecCalls.generation_counts hbook
  obtain ⟨-, last, hlast, hgeneration⟩ := hcounts _ _ hmade
  have htwo : OneOwner.log.countP (MadeCall.counts "@bot:hs") = 2 := by decide +kernel
  exact ⟨hbook, after, hmade, last, hlast, by rw [hgeneration, htwo]; rfl⟩

/-- Loading a record that holds what is installed leaves the specs as they are, but it advances the
generation and forgets the composite. -/
theorem SpecCalls.generation_reloaded :
    ∃ after made, SpecCalls "@bot:hs" OneOwner.world OneOwner.reloaded after ∧
      made ∈ OneOwner.reloaded ∧ (made.before.specs == made.after.specs) = true ∧
      made.before.generation = 1 ∧ made.before.compiled.isSome = true ∧
      made.after.generation = 2 ∧ made.after.compiled = none := by
  obtain ⟨after, hmade⟩ := OneOwner.made_reloaded
  refine ⟨after, _, hmade, List.mem_cons_of_mem _ List.mem_cons_self, ?_, rfl, rfl, rfl, rfl⟩
  decide +kernel

end BotHost
