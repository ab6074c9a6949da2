/-
# Discarded batches

A batch that is processed without a cursor is discarded: it is taken for the first one of the
account.  Whether there is a cursor is told by a text that the server supplies, and an empty text is
none, so a batch that brings an empty one is followed by a batch that counts as the first once more.

`SyncProcessor.Batches` is a processor that is given batches one after the other, whatever happens
to the world in between.  `SyncProcessor.Batches.discards_iff` says which of the batches are
discarded: those for which no cursor is in force, be it the initial one or that of the latest batch
that was settled.  If every batch brings a cursor, that is the first batch of an account without
one, and of every other batch all ordered events are dispatched.
-/

import BotHost.Proofs.Sync.History

namespace BotHost

namespace Poll

/-- The batch was reported as discarded. -/
def Discards (poll : Poll) : Prop :=
  ∃ report, poll.result = some (.ok report) ∧ report.discarded = true

end Poll

namespace SyncProcessor

variable {Handler : Type} {behaviour : Behaviour Handler}

/-- What can be watched of a batch that a processor is given. -/
def processed (processor : SyncProcessor) (behaviour : Behaviour Handler) (batch : Batch)
    (world : World Handler) (result : Except SyncError BatchReport) : Poll :=
  ⟨processor.record.cursor?, some batch, processor.deliveredOf behaviour batch world, some result⟩

/-- A processor is given batches one after the other, and in between anything may happen to the
world. -/
inductive Batches (behaviour : Behaviour Handler) (first : SyncProcessor) :
    List Poll → SyncProcessor → Prop where
  | nil : Batches behaviour first [] first
  | snoc {polls : List Poll} {processor next : SyncProcessor} {after : World Handler}
      {result : Except SyncError BatchReport} (batch : Batch) (world : World Handler) :
      Batches behaviour first polls processor →
      processor.processBatch behaviour batch world = .ok (result, next) after →
      Batches behaviour first (polls ++ [processor.processed behaviour batch world result]) next

/-! ### One batch -/

section Step

variable {processor next : SyncProcessor} {batch : Batch} {world after : World Handler}
  {result : Except SyncError BatchReport}

/-- A batch is settled exactly if it could be applied. -/
theorem processed_settles_iff : (processor.processed behaviour batch world result).Settles
      processor.record.userId batch ↔
    ∃ report applied, processor.applyBatch behaviour batch world = .ok (.ok report) applied := by
  rw [applyBatch_eq_ok_iff, Poll.Settles, processed]
  simp

/-- The cursor moves behind a batch that is settled, and only behind such a batch. -/
theorem processBatch_moves
    (h : processor.processBatch behaviour batch world = .ok (result, next) after) :
    next.record.userId = processor.record.userId ∧
      (((processor.processed behaviour batch world result).Settles processor.record.userId batch ∧
          next.record.cursor? = batch.cursor?) ∨
        ((processor.processed behaviour batch world result).SettlesNone processor.record.userId ∧
          next.record.cursor? = processor.record.cursor?)) := by
  rcases processor.processBatch_cases behaviour batch world with
    ⟨error, reached, happly, hprocess⟩ | ⟨report, applied, _, reached, happly, hprocess, -⟩
  · rw [hprocess] at h
    cases h
    refine ⟨rfl, .inr ⟨fun other hother => ?_, rfl⟩⟩
    obtain rfl : batch = other := Option.some.inj hother.1
    obtain ⟨report, applied, hagain⟩ := processed_settles_iff.mp hother
    rw [happly] at hagain
    cases hagain
  · rw [hprocess] at h
    cases h
    exact ⟨rfl, .inl ⟨processed_settles_iff.mpr ⟨report, applied, happly⟩, rfl⟩⟩

/-- If no failure is reported of a batch, what is reported is what applying it came to. -/
theorem applyBatch_of_processBatch {report : BatchReport}
    (h : processor.processBatch behaviour batch world = .ok (.ok report, next) after) :
    ∃ applied, processor.applyBatch behaviour batch world = .ok (.ok report) applied := by
  rcases processor.processBatch_cases behaviour batch world with
    ⟨error, reached, -, hprocess⟩ | ⟨found, applied, result, reached, happly, hprocess, hresult⟩
  · rw [hprocess] at h
    cases h
  · rw [hprocess] at h
    cases h
    rcases hresult with ⟨error, herror, -⟩ | ⟨hreport, -⟩
    · cases herror
    · cases hreport
      exact ⟨applied, happly⟩

/-- A batch is reported as discarded exactly if there is no cursor and no failure is reported. -/
theorem processed_discards_iff
    (h : processor.processBatch behaviour batch world = .ok (result, next) after) :
    (processor.processed behaviour batch world result).Discards ↔
      processor.record.cursor? = none ∧
        (processor.processed behaviour batch world result).WentWell := by
  cases result with
  | error error =>
      refine iff_of_false ?_ fun hwell => hwell.2 error rfl
      rintro ⟨report, hreport, -⟩
      cases hreport
  | ok report =>
      have hwell : (processor.processed behaviour batch world (.ok report)).WentWell := nofun
      obtain ⟨applied, happly⟩ := applyBatch_of_processBatch h
      rw [Poll.Discards, and_iff_left hwell]
      by_cases hcursor : processor.record.cursor? = none
      · rw [processor.applyBatch_of_no_cursor batch world hcursor] at happly
        cases happly
        exact iff_of_true ⟨_, rfl, rfl⟩ hcursor
      · refine iff_of_false ?_ hcursor
        rintro ⟨other, hother, hdiscarded⟩
        obtain rfl : report = other := by cases hother; rfl
        rw [processor.applyBatch_of_cursor batch world hcursor] at happly
        split at happly
        · cases happly
        · cases happly
        · cases happly
          cases hdiscarded

/-- With a cursor, a beginning of the ordered events is dispatched, and all of them unless a failure
is reported. -/
theorem processed_dispatched
    (h : processor.processBatch behaviour batch world = .ok (result, next) after) :
    (processor.processed behaviour batch world result).dispatched <+:
        (processor.processed behaviour batch world result).due processor.record.userId ∧
      ((processor.processed behaviour batch world result).WentWell →
        (processor.processed behaviour batch world result).dispatched =
          (processor.processed behaviour batch world result).due processor.record.userId) := by
  cases hcursor : processor.record.cursor? with
  | none => simp [processed, Poll.due, deliveredOf, hcursor]
  | some cursor =>
      simp only [processed, Poll.due, hcursor]
      constructor
      · simpa [deliveredOf, hcursor] using delivered_isPrefix _ _
      · intro hwell
        cases result with
        | error error => exact absurd rfl (hwell error)
        | ok report =>
            obtain ⟨applied, happly⟩ := applyBatch_of_processBatch h
            have hwhole := (processor.applyBatch_eq_ok_iff batch world).mp ⟨_, _, happly⟩
            exact hwhole.resolve_left (hcursor ▸ Option.some_ne_none cursor)

end Step

namespace Batches

variable {first processor last : SyncProcessor} {polls earlier later : List Poll} {poll : Poll}

/-- The processor holds the cursor that follows the batches it was given. -/
theorem cursorAfter (h : Batches behaviour first polls processor) :
    processor.record.userId = first.record.userId ∧
      CursorAfter first.record.userId first.record.cursor? polls processor.record.cursor? := by
  induction h with
  | nil => exact ⟨rfl, .nil⟩
  | snoc batch world _ hprocess ih =>
      obtain ⟨huser, hcursor⟩ := ih
      obtain ⟨hnext, hmoved⟩ := processBatch_moves hprocess
      refine ⟨hnext.trans huser, CursorAfter.append_singleton_iff.mpr ?_⟩
      rw [← huser]
      rcases hmoved with ⟨hsettles, hmoved⟩ | ⟨hnone, hkept⟩
      · exact .inl ⟨_, hsettles, hmoved⟩
      · rw [hkept, huser]
        exact .inr ⟨huser ▸ hnone, hcursor⟩

/-- Every batch was processed behind the earlier ones. -/
theorem exists_processBatch (h : Batches behaviour first (earlier ++ poll :: later) last) :
    ∃ (processor next : SyncProcessor) (batch : Batch) (world after : World Handler)
      (result : Except SyncError BatchReport), Batches behaviour first earlier processor ∧
      processor.processBatch behaviour batch world = .ok (result, next) after ∧
      poll = processor.processed behaviour batch world result := by
  generalize hpolls : earlier ++ poll :: later = polls at h
  induction h generalizing later with
  | nil => simp at hpolls
  | snoc batch world batches hprocess ih =>
      rcases List.eq_nil_or_concat later with rfl | ⟨shorter, final, rfl⟩
      · obtain ⟨rfl, hpoll⟩ := List.append_inj' hpolls rfl
        exact ⟨_, _, _, _, _, _, batches, hprocess, (List.cons.inj hpoll).1⟩
      · rw [List.concat_eq_append, ← List.cons_append, ← List.append_assoc] at hpolls
        exact ih (List.append_inj' hpolls rfl).1

/-- The cursor of a batch is the one in force behind the earlier ones. -/
theorem since_follows (h : Batches behaviour first (earlier ++ poll :: later) last) :
    CursorAfter first.record.userId first.record.cursor? earlier poll.since := by
  obtain ⟨processor, next, batch, world, after, result, batches, -, rfl⟩ := h.exists_processBatch
  exact batches.cursorAfter.2

/-- If the earlier batches bring cursors, there is a cursor for every batch but the first one of an
account without. -/
theorem since_ne_none (h : Batches behaviour first (earlier ++ poll :: later) last)
    (hcursors : ∀ poll ∈ earlier, ∀ batch, poll.batch = some batch → batch.nextBatch ≠ "")
    (hprior : earlier ≠ [] ∨ first.record.cursor? ≠ none) : poll.since ≠ none := by
  rcases h.since_follows with ⟨before, settling, behind, batch, rfl, hsettles, -, hsince⟩ |
    ⟨hnone, hsince⟩
  · rw [hsince, Batch.cursor?, if_neg (hcursors settling (by simp) batch hsettles.1)]
    exact Option.some_ne_none _
  · rw [hsince]
    rcases hprior with hearlier | hinitial
    · -- The first batch has the initial cursor, and without one it is settled.
      obtain ⟨head, rest, rfl⟩ := List.exists_cons_of_ne_nil hearlier
      replace h : Batches behaviour first ([] ++ head :: (rest ++ poll :: later)) last := h
      have hhead := h.since_follows
      obtain ⟨_, _, batch, _, _, _, -, -, rfl⟩ := h.exists_processBatch
      intro hinitial
      refine hnone _ List.mem_cons_self batch ⟨rfl, .inl ?_⟩
      exact (hhead.unique .nil).trans hinitial
    · exact hinitial

/-- A batch is reported as discarded exactly if no cursor is in force for it and no failure is
reported; of every other batch a beginning of the ordered events is dispatched, and all of them
unless a failure is reported.  So if every batch brings a cursor, only the first one of an account
without a cursor is discarded, and of all others the ordered events are dispatched. -/
theorem discards_iff (h : Batches behaviour first polls last) :
    (∀ earlier poll later, polls = earlier ++ poll :: later →
      CursorAfter first.record.userId first.record.cursor? earlier poll.since ∧
      (poll.Discards ↔ poll.since = none ∧ poll.WentWell) ∧
      poll.dispatched <+: poll.due first.record.userId ∧
      (poll.WentWell → poll.dispatched = poll.due first.record.userId)) ∧
    ((∀ poll ∈ polls, ∀ batch, poll.batch = some batch → batch.nextBatch ≠ "") →
      ∀ earlier poll later, polls = earlier ++ poll :: later →
        (poll.Discards → earlier = [] ∧ first.record.cursor? = none) ∧
        ((earlier ≠ [] ∨ first.record.cursor? ≠ none) → poll.WentWell →
          ∃ batch, poll.batch = some batch ∧
            poll.dispatched = batch.orderedFor first.record.userId)) := by
  constructor
  · rintro earlier poll later rfl
    refine ⟨h.since_follows, ?_⟩
    obtain ⟨processor, next, batch, world, after, result, batches, hprocess, rfl⟩ :=
      h.exists_processBatch
    rw [← batches.cursorAfter.1]
    exact ⟨processed_discards_iff hprocess, processed_dispatched hprocess⟩
  · rintro hcursors earlier poll later rfl
    have hsince := h.since_ne_none fun poll hmem => hcursors poll (by simp [hmem])
    obtain ⟨processor, next, batch, world, after, result, batches, hprocess, rfl⟩ :=
      h.exists_processBatch
    constructor
    · intro hdiscards
      have hnone := ((processed_discards_iff hprocess).mp hdiscards).1
      by_contra hprior
      refine hsince ?_ hnone
      by_cases hearlier : earlier = []
      · exact .inr fun hinitial => hprior ⟨hearlier, hinitial⟩
      · exact .inl hearlier
    · intro hprior hwell
      refine ⟨batch, rfl, ?_⟩
      obtain ⟨cursor, hcursor⟩ := Option.ne_none_iff_exists'.mp (hsince hprior)
      rw [(processed_dispatched hprocess).2 hwell, batches.cursorAfter.1, Poll.due, hcursor]
      rfl

section Scene

open SecondBatch

/-- What follows the feed of an account that has no cursor yet. -/
def newcomer : SyncProcessor := ⟨{ SecondBatch.record with nextBatch := "" }, ⟨10, 30000, 50⟩⟩

/-- The first batch of the account is discarded, and the message in the second is dispatched. -/
theorem discards_first :
    ∃ one two last, Batches quiet newcomer [one, two] last ∧ one.Discards ∧ ¬ two.Discards ∧
      two.dispatched = [(message "$new").inRoom "!room:hs"] := by
  obtain ⟨one, two, last, batches, hone, hreport, hfirst, hsecond⟩ : ∃ one two last,
      Batches quiet newcomer [one, two] last ∧ one.Discards ∧
        two.result = some (.ok ⟨false, 0, 1⟩) ∧ one.batch = some (batch "s1" [message "$old"]) ∧
        two.batch = some (batch "s2" [message "$new"]) := by
    have batches : Batches quiet newcomer _ _ :=
      .snoc (batch "s2" [message "$new"]) (world (surroundings true))
        (.snoc (batch "s1" [message "$old"]) (world (surroundings true)) .nil rfl) rfl
    exact ⟨_, _, _, batches, ⟨_, rfl, rfl⟩, rfl, rfl, rfl⟩
  have hcursors : ∀ poll ∈ [one, two], ∀ batch, poll.batch = some batch → batch.nextBatch ≠ "" := by
    simp [hfirst, hsecond, batch]
  obtain ⟨hdiscards, hdispatched⟩ := (discards_iff batches).2 hcursors [one] two [] rfl
  refine ⟨one, two, last, batches, hone, fun h => absurd (hdiscards h).1 nofun, ?_⟩
  obtain ⟨found, hfound, hwhole⟩ := hdispatched (.inl nofun) (by simp [Poll.WentWell, hreport])
  obtain rfl := Option.some.inj (hsecond.symm.trans hfound)
  exact hwhole

/-- If the first batch brings an empty text, the second batch is discarded as well, and its message
is dispatched to nobody. -/
theorem discards_twice :
    ∃ one two last, Batches quiet newcomer [one, two] last ∧ one.Discards ∧ two.Discards ∧
      two.batch = some (batch "s2" [message "$new"]) ∧ two.dispatched = [] ∧
      (batch "s2" [message "$new"]).orderedFor newcomer.record.userId =
        [(message "$new").inRoom "!room:hs"] := by
  have batches : Batches quiet newcomer _ _ :=
    .snoc (batch "s2" [message "$new"]) (world (surroundings true))
      (.snoc (batch "" [message "$old"]) (world (surroundings true)) .nil rfl) rfl
  exact ⟨_, _, _, batches, ⟨_, rfl, rfl⟩, ⟨_, rfl, rfl⟩, rfl, rfl, rfl⟩

end Scene

end Batches

end SyncProcessor

end BotHost
