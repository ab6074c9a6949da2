/-
# Whether a new filter is stored

A processor that prepares makes sure that the feed has a filter.  It takes a new filter into its
record first and writes the record afterwards, and whether there is anything left to do it reads off
the record.  So if the store refuses the record, the filter is in use from then on but never
written: the next preparation finds a filter and is content.

`SyncProcessor.Preparations` follows a sequence of preparations and what can be watched behind each
of them: what it reported, with which filter the next poll asks, and which account is stored.  As
long as the store has refused no new filter, a preparation that goes well leaves the filter in use
in the store; and once it has, every further preparation that goes well leaves both as they are.
-/

import BotHost.Proofs.Sync.Identity

namespace BotHost

/-! ### Watching preparations -/

/-- A preparation as it can be watched. -/
structure Preparation where
  result : Except SyncError Unit
  /-- The filter with which a poll behind it asks. -/
  filter : Option String
  /-- The account as it is stored behind it. -/
  stored : Option AccountRecord

namespace Preparation

/-- The stored account has the filter that is in use. -/
def Saved (preparation : Preparation) : Prop :=
  ∃ record, preparation.stored = some record ∧ record.filter? = preparation.filter

/-- The preparation got a new filter, and the store refused to take it. -/
def Loses (preparation : Preparation) : Prop :=
  preparation.filter ≠ none ∧ ∃ error, preparation.result = .error (.store error)

end Preparation

namespace SyncProcessor

variable {Handler : Type}

/-- The filter with which the latest request asks for the feed. -/
def askedFilter (trace : List Occurrence) : Option String :=
  match trace with
  | .request _ _ (.sync _ filter _) :: _ => filter
  | _ => none

/-- What can be watched behind a preparation that has reported a result. -/
def watched (processor : SyncProcessor) (result : Except SyncError Unit) (world : World Handler) :
    Preparation where
  result := result
  filter := askedFilter (processor.poll.stateAfter world).trace
  stored := world.store.account? processor.record.userId

/-- A processor prepares again and again.  In between anything may happen to the world, but nobody
else writes the account. -/
inductive Preparations (first : SyncProcessor) (start : World Handler) :
    List Preparation → SyncProcessor → World Handler → Prop where
  | refl : Preparations first start [] first start
  | meanwhile {done : List Preparation} {processor : SyncProcessor} {world : World Handler}
      (other : World Handler) : Preparations first start done processor world →
      other.store.account? processor.record.userId =
        world.store.account? processor.record.userId →
      Preparations first start done processor other
  | prepare {done : List Preparation} {processor next : SyncProcessor} {world after : World Handler}
      {result : Except SyncError Unit} : Preparations first start done processor world →
      processor.prepare world = .ok (result, next) after →
      Preparations first start (done ++ [next.watched result after]) next after

end SyncProcessor

/-! ### One preparation -/

/-- An account that the store takes is stored, and nothing changes if the store refuses it. -/
theorem World.store_of_updateAccount {Handler : Type} {record : AccountRecord}
    {world after : World Handler} {result : Except StoreError Unit}
    (h : updateAccount record world = .ok result after) :
    after.store =
      match result with
      | .ok _ => world.store.putAccount record
      | .error _ => world.store := by
  obtain ⟨_, _, hwrite, hstore⟩ := updateAccount_cases record world
  rw [h] at hwrite
  cases hwrite
  rcases hstore with ⟨error, rfl, hstore⟩ | ⟨rfl, hstore⟩ <;> exact hstore

namespace SyncProcessor

variable {Handler : Type} {processor next : SyncProcessor} {world after : World Handler}
  {result : Except SyncError Unit}

/-- A poll asks with the filter of the record. -/
theorem watched_filter (processor : SyncProcessor) (result : Except SyncError Unit)
    (world : World Handler) :
    (processor.watched result world).filter = processor.record.filter? := by
  rw [watched, poll_trace]
  rfl

/-- What a preparation that reports a result comes to, as far as the record and the store go. -/
inductive Prepares (processor next : SyncProcessor) (before after : Store) :
    Except SyncError Unit → Prop where
  /-- Nothing changes: there is a filter already, or something failed before there was a new one. -/
  | kept {result : Except SyncError Unit} : next = processor → after = before →
      (∀ error, result ≠ .error (.store error)) →
      (result = .ok () → processor.record.filter? ≠ none) →
      Prepares processor next before after result
  /-- There is a new filter, and the record is written with it. -/
  | stored {filterId : String} : processor.record.filter? = none →
      next.record = { processor.record with filterId } → after = before.putAccount next.record →
      Prepares processor next before after (.ok ())
  /-- There is a new filter, but the store refuses the record. -/
  | refused {filterId : String} {error : StoreError} : processor.record.filter? = none →
      next.record = { processor.record with filterId } → after = before →
      Prepares processor next before after (.error (.store error))

theorem ensureFilter_prepares (h : processor.ensureFilter world = .ok (result, next) after) :
    Prepares processor next world.store after.store result := by
  rw [ensureFilter_apply] at h
  split_ifs at h with hfilter
  · cases h
    refine .kept rfl rfl nofun fun _ => ?_
    rw [AccountRecord.filter?, if_neg (by simpa using hfilter)]
    exact Option.some_ne_none _
  · have hnone : processor.record.filter? = none := by
      rw [AccountRecord.filter?, if_pos (by simpa using hfilter)]
    cases hanswer : (world.environment.respond world.trace processor.record.userId
        (.createFilter processor.record.userId (syncFilter processor.settings.timelineLimit)) :
          Reply String) with
    | panic panic =>
        simp only [hanswer] at h
        cases h
    | failure error =>
        simp only [hanswer] at h
        cases h
        exact .kept rfl rfl nofun nofun
    | answer filterId =>
        simp only [hanswer] at h
        -- The record has the filter by now; what is left to tell is whether it is written.
        split at h
        · rename_i hwrite
          cases h
          exact .refused hnone rfl (World.store_of_updateAccount hwrite)
        · rename_i hwrite
          cases h
          exact .stored hnone rfl (World.store_of_updateAccount hwrite)
        · cases h

theorem prepare_prepares (h : processor.prepare world = .ok (result, next) after) :
    Prepares processor next world.store after.store result := by
  rw [prepare_apply] at h
  cases hwho : (world.environment.respond world.trace processor.record.userId .whoAmI :
      Reply String) with
  | panic panic =>
      simp only [hwho] at h
      cases h
  | failure error =>
      simp only [hwho] at h
      cases h
      exact .kept rfl rfl nofun nofun
  | answer actual =>
      simp only [hwho] at h
      split_ifs at h
      · cases h
        exact .kept rfl rfl nofun nofun
      · have hensured := ensureFilter_prepares h
        exact hensured

/-! ### A sequence of preparations -/

/-- The stored account of a user has a filter. -/
def StoresFilter (world : World Handler) (userId filter : String) : Prop :=
  ∃ record, world.store.account? userId = some record ∧ record.filter? = some filter

/-- What holds between the preparations of an account. -/
structure Bookkeeping (userId : String) (done : List Preparation) (processor : SyncProcessor)
    (world : World Handler) : Prop where
  user : processor.record.userId = userId
  /-- As long as no filter is lost, the filter in use is stored. -/
  saved : (∀ lost ∈ done, ¬ lost.Loses) → ∀ filter, processor.record.filter? = some filter →
    StoresFilter world userId filter
  /-- Once a filter is lost, neither the filter in use nor the stored account changes. -/
  lost : ∀ lost ∈ done, lost.Loses →
    processor.record.filter? = lost.filter ∧ world.store.account? userId = lost.stored

namespace Bookkeeping

variable {userId : String} {done : List Preparation}

/-- Without a filter, none is lost. -/
theorem none_lost (h : Bookkeeping userId done processor world)
    (hnone : processor.record.filter? = none) : ∀ lost ∈ done, ¬ lost.Loses := by
  intro lost hmem hlost
  exact hlost.1 ((h.lost lost hmem hlost).1.symm.trans hnone)

/-- What holds behind some preparations holds behind one more, if it holds of that one. -/
theorem append {call : Preparation} (huser : processor.record.userId = userId)
    (hsaved : (∀ lost ∈ done, ¬ lost.Loses) → ¬ call.Loses →
      ∀ filter, processor.record.filter? = some filter → StoresFilter world userId filter)
    (hdone : ∀ lost ∈ done, lost.Loses →
      processor.record.filter? = lost.filter ∧ world.store.account? userId = lost.stored)
    (hcall : call.Loses →
      processor.record.filter? = call.filter ∧ world.store.account? userId = call.stored) :
    Bookkeeping userId (done ++ [call]) processor world where
  user := huser
  saved hnone := by
    rw [List.forall_mem_append, List.forall_mem_singleton] at hnone
    exact hsaved hnone.1 hnone.2
  lost := List.forall_mem_append.mpr ⟨hdone, List.forall_mem_singleton.mpr hcall⟩

theorem prepare (h : Bookkeeping userId done processor world)
    (hprepare : Prepares processor next world.store after.store result) :
    Bookkeeping userId (done ++ [next.watched result after]) next after := by
  cases hprepare with
  | kept hnext hstore hresult _ =>
      subst hnext
      refine append h.user (fun hnone _ filter hfilter => ?_) (fun lost hmem hlost => ?_) ?_
      · have hsaved := h.saved hnone filter hfilter
        rwa [StoresFilter, ← hstore] at hsaved
      · rw [hstore]
        exact h.lost lost hmem hlost
      · rintro ⟨-, error, herror⟩
        exact absurd herror (hresult error)
  | @stored filterId hnone hrecord hstore =>
      have huser : next.record.userId = userId := by rw [hrecord, ← h.user]
      refine append huser (fun _ _ filter hfilter => ⟨next.record, ?_, hfilter⟩)
        (fun lost hmem hlost => absurd hlost (h.none_lost hnone lost hmem)) ?_
      · rw [hstore, Store.putAccount, Store.account?, huser, SortedMap.find?_insert, if_pos rfl]
      · rintro ⟨-, error, herror⟩
        cases herror
  | @refused filterId error hnone hrecord hstore =>
      have huser : next.record.userId = userId := by rw [hrecord, ← h.user]
      refine append huser (fun _ hkept filter hfilter => ?_)
        (fun lost hmem hlost => absurd hlost (h.none_lost hnone lost hmem)) (fun _ => ?_)
      · -- A filter in use behind a refusal is one that this preparation loses.
        refine absurd ⟨?_, error, rfl⟩ hkept
        rw [watched_filter, hfilter]
        exact Option.some_ne_none _
      · exact ⟨(watched_filter _ _ _).symm, by rw [← huser, watched]⟩

end Bookkeeping

namespace Preparations

variable {first : SyncProcessor} {start : World Handler} {done : List Preparation}
  {call : Preparation}

theorem bookkeeping (h : Preparations first start done processor world)
    (hstart : ∀ filter, first.record.filter? = some filter →
      StoresFilter start first.record.userId filter) :
    Bookkeeping first.record.userId done processor world := by
  induction h with
  | refl =>
      exact ⟨rfl, fun _ => hstart, fun lost hmem => absurd hmem List.not_mem_nil⟩
  | meanwhile other _ hsame ih =>
      rw [ih.user] at hsame
      refine ⟨ih.user, fun hnone filter hfilter => ?_, fun lost hmem hlost => ?_⟩
      · have hsaved := ih.saved hnone filter hfilter
        rwa [StoresFilter, ← hsame] at hsaved
      · rw [hsame]
        exact ih.lost lost hmem hlost
  | prepare _ hprepare ih => exact ih.prepare (prepare_prepares hprepare)

/-- The last of some preparations comes after the others. -/
theorem exists_prepare (h : Preparations first start (done ++ [call]) processor world) :
    ∃ before between after result, Preparations first start done before between ∧
      before.prepare between = .ok (result, processor) after ∧
      call = processor.watched result after := by
  generalize hall : done ++ [call] = all at h
  induction h with
  | refl => simp at hall
  | meanwhile other _ _ ih => exact ih hall
  | @prepare others before _ between after result hothers hprepare _ =>
      obtain ⟨rfl, hlast⟩ := List.append_inj' hall rfl
      exact ⟨before, between, after, result, hothers, hprepare, (List.cons.inj hlast).1⟩

/-- Whatever fails in a sequence of preparations, a preparation that goes well leaves the filter in
use in the store, provided that the store has refused no new filter before.  Once it has refused
one, every further preparation that goes well leaves the refused filter in use and the account as
it is stored. -/
theorem keeps_filter (h : Preparations first start (done ++ [call]) processor world)
    (hstart : ∀ filter, first.record.filter? = some filter →
      StoresFilter start first.record.userId filter)
    (hok : call.result = .ok ()) :
    ((∀ lost ∈ done, ¬ lost.Loses) → call.Saved) ∧
      ∀ lost ∈ done, lost.Loses → call.filter = lost.filter ∧ call.stored = lost.stored := by
  obtain ⟨before, between, after, result, hbefore, hprepare, rfl⟩ := h.exists_prepare
  have hbooks := hbefore.bookkeeping hstart
  obtain rfl : result = .ok () := hok
  rw [watched_filter]
  cases prepare_prepares hprepare with
  | kept hnext hstore _ hfilter =>
      subst hnext
      have hstored : (processor.watched (.ok ()) after).stored =
          between.store.account? first.record.userId := by rw [watched, hstore, hbooks.user]
      refine ⟨fun hnone => ?_, fun lost hmem hlost => ?_⟩
      · obtain ⟨filter, hfilter⟩ := Option.ne_none_iff_exists'.mp (hfilter rfl)
        obtain ⟨record, hrecord, hsame⟩ := hbooks.saved hnone filter hfilter
        exact ⟨record, hstored.trans hrecord, by rw [watched_filter, hfilter, hsame]⟩
      · rw [hstored]
        exact hbooks.lost lost hmem hlost
  | stored hnone _ hstore =>
      refine ⟨fun _ => ⟨processor.record, ?_, (watched_filter _ _ _).symm⟩,
        fun lost hmem hlost => ?_⟩
      · rw [watched, hstore, Store.putAccount, Store.account?, SortedMap.find?_insert, if_pos rfl]
      · exact absurd hlost (hbooks.none_lost hnone lost hmem)

section Scene

open SecondBatch

/-- Surroundings in which no homeserver can be reached. -/
def cutOff : Environment :=
  { surroundings true with
    respond := fun _ _ _ => .failure (.connectionFailed "https://hs" "reset") }

/-- A preparation that nobody answers is followed by one that goes well.  It leaves its filter in
the store. -/
theorem keeps_filter_once_answered :
    ∃ failed call processor world,
      Preparations SecondBatch.processor (SecondBatch.world cutOff) [failed, call] processor world ∧
      failed.result = .error (.transport (.connectionFailed "https://hs" "reset")) ∧
      call.result = .ok () ∧ call.filter = some "f1" ∧ call.Saved := by
  have h : Preparations SecondBatch.processor (SecondBatch.world cutOff) ([_] ++ [_]) _ _ :=
    .prepare (.meanwhile (SecondBatch.world (surroundings true)) (.prepare .refl rfl) rfl) rfl
  refine ⟨_, _, _, _, h, rfl, rfl, rfl, (keeps_filter h nofun rfl).1 ?_⟩
  rintro lost hmem ⟨-, error, herror⟩
  obtain rfl := List.mem_singleton.mp hmem
  cases herror

/-- The store refuses the account with its new filter and works again afterwards.  The second
preparation goes well, the polls behind it ask with the filter, and the stored account has none. -/
theorem forgets_refused_filter :
    ∃ lost call processor world,
      Preparations SecondBatch.processor (SecondBatch.world (surroundings false)) [lost, call]
        processor world ∧
      (SecondBatch.world (surroundings false)).store.account? "@bot:hs" =
        some SecondBatch.processor.record ∧
      lost.result = .error (.store (.backend "update_account failed")) ∧
      call.result = .ok () ∧ call.filter = some "f1" ∧ call.stored = some SecondBatch.record ∧
      ¬ call.Saved := by
  have h : Preparations SecondBatch.processor (SecondBatch.world (surroundings false))
      ([_] ++ [_]) _ _ :=
    .prepare (.meanwhile (SecondBatch.world (surroundings true)) (.prepare .refl rfl) rfl) rfl
  refine ⟨_, _, _, _, h, rfl, rfl, rfl, rfl, rfl, ?_⟩
  rintro ⟨record, hstored, hfilter⟩
  cases hstored
  cases hfilter

end Scene

end Preparations

end SyncProcessor

end BotHost
