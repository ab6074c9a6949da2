/-
# What becomes of a batch

Applying a batch can be cut short at every event: the store may refuse a room projection,
or a handler may panic.  `delivered` lists the events whose dispatch came to its end by
then.  It is always a beginning of the list, and it is the whole list exactly if applying
it went well.

The rest of the module says what processing a batch does to the two copies of an account's
record.  The processor's own copy moves to the batch's cursor as soon as all events are
applied, before it is written, so a refused write leaves the processor ahead of the store;
every other failure leaves both copies where they were.
-/

import BotHost.Proofs.Keeping
import BotHost.Sync.Processor

namespace BotHost

namespace World

variable {Handler : Type}

/-- Writing an account never panics: it is refused and the store stays as it is, or the
record is stored. -/
theorem updateAccount_cases (record : AccountRecord) (world : World Handler) :
    ∃ result after, updateAccount record world = .ok result after ∧
      ((∃ error, result = .error error ∧ after.store = world.store) ∨
        (result = .ok () ∧ after.store = world.store.putAccount record)) := by
  rw [updateAccount_apply]
  cases world.environment.refuse world.trace (.updateAccount record) with
  | some error => exact ⟨_, _, rfl, .inl ⟨error, rfl, rfl⟩⟩
  | none => exact ⟨_, _, rfl, .inr ⟨rfl, rfl⟩⟩

end World

namespace Batch

/-- The events of a batch in the order in which they are applied for a user. -/
def orderedFor (userId : String) (batch : Batch) : List Event :=
  (batch.fillRoomIds.order userId).events

end Batch

namespace SyncProcessor

variable {Handler : Type}

/-! ### Delivered events -/

/-- The events of a list whose dispatch comes to its end when the list is applied. -/
def delivered (behaviour : Behaviour Handler) (userId : String) :
    List Event → World Handler → List Event
  | [], _ => []
  | event :: rest, world =>
    match project event world with
    | .ok (.ok _) projected =>
      match World.dispatchEvent behaviour userId event projected with
      | .ok _ after => event :: delivered behaviour userId rest after
      | .error _ _ => []
    | _ => []

variable {behaviour : Behaviour Handler} {userId : String}

/-- Nothing is delivered out of order or from elsewhere. -/
theorem delivered_isPrefix (events : List Event) (world : World Handler) :
    delivered behaviour userId events world <+: events := by
  induction events generalizing world with
  | nil => exact List.nil_prefix
  | cons event rest ih =>
      rw [delivered]
      split
      · split
        · exact (List.cons_prefix_cons).mpr ⟨rfl, ih _⟩
        · exact List.nil_prefix
      · exact List.nil_prefix

/-- If applying events goes well, all of them are delivered and counted. -/
theorem delivered_of_applyEvents_ok {count total : Nat} {events : List Event}
    {world after : World Handler}
    (h : applyEvents behaviour userId count events world = .ok (.ok total) after) :
    delivered behaviour userId events world = events ∧ total = count + events.length := by
  induction events generalizing count world with
  | nil =>
      cases h
      exact ⟨rfl, rfl⟩
  | cons event rest ih =>
      obtain ⟨projection, projected, hproject, h⟩ := Act.bind_eq_ok.mp h
      cases projection with
      | error error => cases h
      | ok value =>
          obtain ⟨outcome, dispatched, hdispatch, h⟩ := Act.bind_eq_ok.mp h
          obtain ⟨hrest, htotal⟩ := ih h
          refine ⟨?_, ?_⟩
          · simp only [delivered, hproject, hdispatch, hrest]
          · rw [List.length_cons]
            omega

/-- If all events are delivered, applying them goes well. -/
theorem applyEvents_ok_of_delivered {events : List Event} {world : World Handler}
    (h : delivered behaviour userId events world = events) (count : Nat) :
    ∃ after, applyEvents behaviour userId count events world =
      .ok (.ok (count + events.length)) after := by
  induction events generalizing count world with
  | nil => exact ⟨world, rfl⟩
  | cons event rest ih =>
      rw [delivered] at h
      split at h
      · rename_i hproject
        split at h
        · rename_i hdispatch
          obtain ⟨after, hrest⟩ := ih (List.cons.inj h).2 (count + 1)
          refine ⟨after, ?_⟩
          rw [applyEvents, Act.bind_apply, hproject]
          dsimp only
          rw [Act.bind_apply, hdispatch, List.length_cons]
          dsimp only
          rw [hrest, Nat.add_right_comm, Nat.add_assoc]
        · cases h
      · cases h

/-! ### Applying a batch -/

/-- The events that applying a batch delivers: none without a cursor. -/
def deliveredOf (processor : SyncProcessor) (behaviour : Behaviour Handler) (batch : Batch)
    (world : World Handler) : List Event :=
  if processor.record.cursor?.isNone then []
  else delivered behaviour processor.record.userId (batch.orderedFor processor.record.userId) world

/-- The processor with its record moved behind a batch. -/
def moved (processor : SyncProcessor) (batch : Batch) : SyncProcessor :=
  { processor with record := { processor.record with nextBatch := batch.nextBatch } }

variable (processor : SyncProcessor) (batch : Batch) (world : World Handler)

/-- With a cursor, the events of a batch are applied in order and a panic becomes an
error. -/
theorem applyBatch_of_cursor (hcursor : processor.record.cursor? ≠ none) :
    processor.applyBatch behaviour batch world =
      match applyEvents behaviour processor.record.userId 0
          (batch.orderedFor processor.record.userId) world with
      | .error panic after => .ok (.error (.batchPanicked panic)) after
      | .ok (.error error) after => .ok (.error (.store error)) after
      | .ok (.ok dispatched) after =>
        .ok (.ok ⟨false, (batch.fillRoomIds.order processor.record.userId).skippedRooms.length,
          dispatched⟩) after := by
  have hsome : processor.record.cursor?.isNone = false :=
    Option.isNone_eq_false_iff.mpr (Option.isSome_iff_ne_none.mpr hcursor)
  rw [applyBatch, hsome, if_neg Bool.false_ne_true]
  change ((applyEvents behaviour processor.record.userId 0
    (batch.orderedFor processor.record.userId)).attempt >>= _) world = _
  cases hact : applyEvents behaviour processor.record.userId 0
    (batch.orderedFor processor.record.userId) world with
  | ok value after =>
      rw [Act.bind_apply, Act.attempt_of_ok hact]
      cases value <;> rfl
  | error panic after =>
      rw [Act.bind_apply, Act.attempt_of_panic hact]
      rfl

/-- Without a cursor, a batch is dropped. -/
theorem applyBatch_of_no_cursor (hcursor : processor.record.cursor? = none) :
    processor.applyBatch behaviour batch world = .ok (.ok ⟨true, 0, 0⟩) world := by
  rw [applyBatch, hcursor]
  rfl

variable (behaviour) in
/-- Applying a batch never panics: a handler's panic becomes an error. -/
theorem applyBatch_total :
    ∃ result after, processor.applyBatch behaviour batch world = .ok result after := by
  by_cases hcursor : processor.record.cursor? = none
  · exact ⟨_, _, processor.applyBatch_of_no_cursor batch world hcursor⟩
  · rw [processor.applyBatch_of_cursor batch world hcursor]
    rcases applyEvents behaviour processor.record.userId 0
      (batch.orderedFor processor.record.userId) world with
      ⟨error | dispatched, after⟩ | ⟨panic, after⟩
    · exact ⟨_, _, rfl⟩
    · exact ⟨_, _, rfl⟩
    · exact ⟨_, _, rfl⟩

/-- A batch is applied exactly if there is no cursor or all of its events are
delivered. -/
theorem applyBatch_eq_ok_iff :
    (∃ report after, processor.applyBatch behaviour batch world = .ok (.ok report) after) ↔
      processor.record.cursor? = none ∨
        processor.deliveredOf behaviour batch world = batch.orderedFor processor.record.userId := by
  by_cases hcursor : processor.record.cursor? = none
  · simp only [hcursor, true_or, iff_true]
    exact ⟨_, _, processor.applyBatch_of_no_cursor batch world hcursor⟩
  · have hsome : processor.record.cursor?.isNone = false :=
      Option.isNone_eq_false_iff.mpr (Option.isSome_iff_ne_none.mpr hcursor)
    simp only [hcursor, false_or, deliveredOf, hsome, Bool.false_eq_true, if_false]
    rw [processor.applyBatch_of_cursor batch world hcursor]
    constructor
    · rintro ⟨report, after, h⟩
      split at h
      · cases h
      · cases h
      · rename_i hact
        exact (delivered_of_applyEvents_ok hact).1
    · intro hdelivered
      obtain ⟨after, hact⟩ := applyEvents_ok_of_delivered hdelivered 0
      rw [hact]
      exact ⟨_, _, rfl⟩

variable (behaviour) in
/-- What processing a batch can come to: the batch is not applied and the processor stays as
it is, or it is applied and the processor moves, whether or not its record can be
written. -/
theorem processBatch_cases :
    (∃ error after, processor.applyBatch behaviour batch world = .ok (.error error) after ∧
      processor.processBatch behaviour batch world = .ok (.error error, processor) after) ∨
    (∃ report applied result after,
      processor.applyBatch behaviour batch world = .ok (.ok report) applied ∧
      processor.processBatch behaviour batch world =
        .ok (result, processor.moved batch) after ∧
      ((∃ error, result = .error (.store error) ∧ after.store = applied.store) ∨
        (result = .ok report ∧
          after.store = applied.store.putAccount (processor.moved batch).record))) := by
  obtain ⟨result, applied, happly⟩ := processor.applyBatch_total behaviour batch world
  cases result with
  | error error =>
      refine .inl ⟨error, applied, happly, ?_⟩
      rw [processBatch, Act.bind_apply, happly]
      rfl
  | ok report =>
      obtain ⟨written, after, hwrite, hstore⟩ :=
        World.updateAccount_cases (processor.moved batch).record applied
      right
      rcases hstore with ⟨error, rfl, hstore⟩ | ⟨rfl, hstore⟩
      · refine ⟨report, applied, .error (.store error), after, happly, ?_, .inl ⟨error, rfl, ?_⟩⟩
        · rw [processBatch, Act.bind_apply, happly]
          exact Act.bind_eq_ok.mpr ⟨_, _, hwrite, rfl⟩
        · exact hstore
      · refine ⟨report, applied, .ok report, after, happly, ?_, .inr ⟨rfl, hstore⟩⟩
        rw [processBatch, Act.bind_apply, happly]
        exact Act.bind_eq_ok.mpr ⟨_, _, hwrite, rfl⟩

/-! ### What a failing batch leaves behind -/

section Failing

variable {γ : Type} {view : World Handler → γ} (hview : Undisturbed view)
  (hbehaviour : behaviour.Keeps view)

theorem project_keeps_of_applyToRoom {event : Event}
    (happly : (World.applyToRoom event : Act (World Handler) _).Keeps view) :
    (project event : Act (World Handler) (Except StoreError Unit)).Keeps view := by
  unfold project
  split
  · exact happly
  · exact Act.keeps_pure _

include hview in
theorem project_keeps (event : Event) :
    (project event : Act (World Handler) (Except StoreError Unit)).Keeps view :=
  project_keeps_of_applyToRoom (World.applyToRoom_keeps hview event)

include hview hbehaviour in
theorem applyEvents_keeps (count : Nat) (events : List Event) :
    (applyEvents behaviour userId count events).Keeps view := by
  induction events generalizing count with
  | nil => exact Act.keeps_pure _
  | cons event rest ih =>
      apply (project_keeps hview event).bind
      intro projection
      cases projection with
      | error error => exact Act.keeps_pure _
      | ok value =>
          exact (World.dispatchEvent_keeps hview hbehaviour userId event).bind fun _ => ih _

include hview hbehaviour in
/-- Applying a batch touches nothing that the handlers do not touch. -/
theorem applyBatch_keeps : (processor.applyBatch behaviour batch).Keeps view := by
  unfold applyBatch
  split
  · exact Act.keeps_pure _
  · apply (applyEvents_keeps hview hbehaviour 0 _).attempt.bind
    intro result
    rcases result with panic | error | dispatched
    · exact Act.keeps_pure _
    · exact Act.keeps_pure _
    · exact Act.keeps_pure _

end Failing

/-- Processing a batch always comes to a result.  If that is an error, the stored accounts
are as they were.  The processor's own record is as it was exactly if the batch could not be
applied; if only the write behind it was refused, the record has moved to the batch's cursor
(and is unchanged only in case it was there already). -/
theorem processBatch_error_keeps (hbehaviour : behaviour.Keeps World.storedAccounts) :
    ∃ result next after, processor.processBatch behaviour batch world = .ok (result, next) after ∧
      ∀ error, result = .error error →
        after.storedAccounts = world.storedAccounts ∧
        (next.record = processor.record ↔
          (∃ reached, processor.applyBatch behaviour batch world = .ok (.error error) reached) ∨
            batch.nextBatch = processor.record.nextBatch) ∧
        (next = processor ∨ next = processor.moved batch) := by
  have hkeeps := processor.applyBatch_keeps batch World.undisturbed_storedAccounts hbehaviour
  rcases processor.processBatch_cases behaviour batch world with
    ⟨cause, after, happly, hprocess⟩ |
    ⟨report, applied, result, after, happly, hprocess, hstore⟩
  · refine ⟨_, _, after, hprocess, ?_⟩
    rintro error ⟨⟩
    refine ⟨hkeeps.eq_of_ok happly, ?_, .inl rfl⟩
    exact iff_of_true rfl (.inl ⟨after, happly⟩)
  · refine ⟨_, _, after, hprocess, ?_⟩
    intro error herror
    rcases hstore with ⟨cause, hcause, hstore⟩ | ⟨hok, -⟩
    · refine ⟨?_, ?_, .inr rfl⟩
      · rw [World.storedAccounts, hstore]
        exact hkeeps.eq_of_ok happly
      · constructor
        · intro hrecord
          exact .inr (congrArg AccountRecord.nextBatch hrecord)
        · rintro (⟨reached, hfailed⟩ | hsame)
          · rw [happly] at hfailed
            cases hfailed
          · rw [moved, hsame]
    · rw [hok] at herror
      cases herror

end SyncProcessor

/-! ### A feed at its second batch

The scene of the concrete runs: an account whose cursor is `s1`, a message from somebody else,
and one handler that is registered for all events. -/

namespace SecondBatch

/-- An account in the middle of its feed. -/
def record : AccountRecord :=
  { AccountRecord.new "@bot:hs" "https://hs" "token" with nextBatch := "s1" }

/-- What follows the account's feed. -/
def processor : SyncProcessor := ⟨record, ⟨10, 30000, 50⟩⟩

/-- A message that somebody else has sent. -/
def message (eventId : String) : Event :=
  { eventId, eventType := roomMessage, sender := "@alice:hs", roomId := "", stateKey := none
    originServerTs := 0, content := .message (.text "hello"), redacts := none
    unsigned := .empty }

/-- A batch with messages in one joined room. -/
def batch (nextBatch : String) (events : List Event) : Batch :=
  ⟨nextBatch, [("!room:hs", ⟨[], ⟨events, false, none⟩⟩)], [], []⟩

/-- Surroundings in which the feed brings one batch behind `s1` and then stays silent, and in
which accounts may or may not be written. -/
def surroundings (writable : Bool) : Environment where
  decline _ _ := none
  respond
    | _, userId, .whoAmI => .answer userId
    | _, _, .createFilter _ _ => .answer "f1"
    | _, _, .sync since _ _ =>
      .answer (if since = some "s1" then some (batch "s2" [message "$first"]) else none)
    | _, _, _ => .failure (.connectionFailed "https://hs" "reset")
  refuse
    | _, .updateAccount _ => if writable then none else some (.backend "update_account failed")
    | _, _ => none

/-- The world with the account stored, connected and listened to. -/
def world (environment : Environment) : World Unit :=
  { (World.initial environment (.ofRecords [record] []) : World Unit) with
    accounts := SortedMap.empty.insert record.userId
      ((Account.connect record []).addListener "plugin" Hooks.wildcard false ()) }

/-- Handlers that let every event pass. -/
def quiet : Behaviour Unit where
  listen _ _ := pure .continue
  obey _ _ := pure .continue

/-- Handlers that panic. -/
def panicking : Behaviour Unit where
  listen _ _ := throw (.text "listener exploded")
  obey _ _ := throw (.text "command exploded")

theorem panicking_keeps {γ : Type} (view : World Unit → γ) : panicking.Keeps view where
  listen _ _ := Act.keeps_throw _
  obey _ _ := Act.keeps_throw _

end SecondBatch

namespace SyncProcessor

open SecondBatch

/-- A panic at the only event of a batch leaves the stored account and the cursor alone. -/
theorem processBatch_panicking_keeps :
    panicking.Keeps World.storedAccounts ∧
      ∃ next after,
        processor.processBatch panicking (batch "s2" [message "$boom"])
            (world (surroundings true)) =
          .ok (.error (.batchPanicked (.text "listener exploded")), next) after ∧
        after.storedAccounts = (world (surroundings true)).storedAccounts ∧
        next.record = SecondBatch.record := by
  refine ⟨panicking_keeps _, ?_⟩
  obtain ⟨result, next, after, hprocess, hkeeps⟩ :=
    processBatch_error_keeps processor (batch "s2" [message "$boom"])
      (world (surroundings true)) (panicking_keeps World.storedAccounts)
  obtain ⟨reached, hrun⟩ : ∃ reached, processor.processBatch panicking
      (batch "s2" [message "$boom"]) (world (surroundings true)) =
        .ok (.error (.batchPanicked (.text "listener exploded")), processor) reached := ⟨_, rfl⟩
  rw [hrun] at hprocess
  cases hprocess
  obtain ⟨hstored, hrecord, -⟩ := hkeeps _ rfl
  exact ⟨_, _, hrun, hstored, hrecord.mpr (.inl ⟨_, rfl⟩)⟩

/-- When only the write of the account is refused, processing the batch fails and the
processor's cursor has moved ahead of the stored one all the same. -/
theorem processBatch_refused_write_moves_cursor :
    ∃ error next after,
      processor.processBatch quiet (batch "s2" []) (world (surroundings false)) =
        .ok (.error error, next) after ∧
      processor.record.cursor? = some "s1" ∧ next.record.cursor? = some "s2" ∧
      (after.store.account? "@bot:hs").bind AccountRecord.cursor? = some "s1" :=
  ⟨_, _, _, rfl, rfl, rfl, rfl⟩

end SyncProcessor

end BotHost
