/-
# Following a feed

A `SyncProcessor` follows the feed of one account.  It holds its own copy of the account's
record, whose cursor says where the next poll begins.

Applying a batch dispatches its events in order, each state event after the projection of
its room has taken it in.  The cursor moves only once every event of the batch has been
dispatched; a first batch, for which there is no cursor yet, is dropped unseen.
-/

import BotHost.Account.Acts
import BotHost.Configuration
import BotHost.Sync.Order

namespace BotHost

/-- Why an attempt to follow a feed failed. -/
inductive SyncError where
  | transport (error : TransportError)
  | store (error : StoreError)
  | batchPanicked (panic : Panic)
  /-- The access token belongs to somebody else. -/
  | identityMismatch (expected actual : String)
deriving DecidableEq

namespace SyncError

/-- The wording of a sync error. -/
def message : SyncError → String
  | transport error => "transport error: " ++ error.message
  | store error => "store error: " ++ error.message
  | batchPanicked panic => "batch processing panicked: " ++ panic.message
  | identityMismatch expected actual =>
    "access token belongs to " ++ actual ++ ", expected " ++ expected

end SyncError

/-- What became of a batch. -/
structure BatchReport where
  /-- It was the account's first and was dropped unseen. -/
  discarded : Bool
  /-- How many joined rooms were skipped. -/
  skipped : Nat
  dispatched : Nat
deriving DecidableEq

/-- What follows the feed of one account. -/
structure SyncProcessor where
  /-- The account's record as this processor knows it. -/
  record : AccountRecord
  settings : SyncSettings

namespace SyncProcessor

variable {Handler : Type}

/-- Make sure that there is a feed filter. -/
def ensureFilter (processor : SyncProcessor) :
    Act (World Handler) (Except SyncError Unit × SyncProcessor) :=
  if processor.record.filterId != "" then pure (.ok (), processor)
  else do
    let filter := syncFilter processor.settings.timelineLimit
    match ← World.createFilter processor.record.userId filter with
    | .error error => pure (.error (.transport error), processor)
    | .ok filterId =>
      let processor := { processor with record := { processor.record with filterId } }
      match ← World.updateAccount processor.record with
      | .error error => pure (.error (.store error), processor)
      | .ok _ => pure (.ok (), processor)

/-- Check whose token the account has, and make sure that there is a feed filter. -/
def prepare (processor : SyncProcessor) :
    Act (World Handler) (Except SyncError Unit × SyncProcessor) := do
  match ← World.whoAmI processor.record.userId with
  | .error error => pure (.error (.transport error), processor)
  | .ok actual =>
    if actual != processor.record.userId then
      pure (.error (.identityMismatch processor.record.userId actual), processor)
    else processor.ensureFilter

/-- Poll the next batch from the cursor. -/
def poll (processor : SyncProcessor) :
    Act (World Handler) (Except TransportError (Option Batch)) :=
  World.pollFeed processor.record.userId processor.record.cursor? processor.record.filter?
    processor.settings.timeout

/-- Let the projection of an event's room take it in if it is a state event. -/
def project (event : Event) : Act (World Handler) (Except StoreError Unit) :=
  if event.isState then World.applyToRoom event else pure (.ok ())

/-- Dispatch events in order, each after its room's projection has taken it in; count
those that were dispatched. -/
def applyEvents (behaviour : Behaviour Handler) (userId : String) :
    Nat → List Event → Act (World Handler) (Except StoreError Nat)
  | dispatched, [] => pure (.ok dispatched)
  | dispatched, event :: rest => do
    match ← project event with
    | .error error => pure (.error error)
    | .ok _ =>
      let _ ← World.dispatchEvent behaviour userId event
      applyEvents behaviour userId (dispatched + 1) rest

/-- Apply the events of a batch and report on it; without a cursor the batch is
dropped. -/
def applyBatch (processor : SyncProcessor) (behaviour : Behaviour Handler) (batch : Batch) :
    Act (World Handler) (Except SyncError BatchReport) :=
  if processor.record.cursor?.isNone then pure (.ok ⟨true, 0, 0⟩)
  else do
    let ordered := batch.fillRoomIds.order processor.record.userId
    match ← (applyEvents behaviour processor.record.userId 0 ordered.events).attempt with
    | .error panic => pure (.error (.batchPanicked panic))
    | .ok (.error error) => pure (.error (.store error))
    | .ok (.ok dispatched) => pure (.ok ⟨false, ordered.skippedRooms.length, dispatched⟩)

/-- Apply a batch and move the cursor behind it. -/
def processBatch (processor : SyncProcessor) (behaviour : Behaviour Handler) (batch : Batch) :
    Act (World Handler) (Except SyncError BatchReport × SyncProcessor) := do
  match ← processor.applyBatch behaviour batch with
  | .error error => pure (.error error, processor)
  | .ok report =>
    let processor :=
      { processor with record := { processor.record with nextBatch := batch.nextBatch } }
    match ← World.updateAccount processor.record with
    | .error error => pure (.error (.store error), processor)
    | .ok _ => pure (.ok report, processor)

/-- Poll and apply one batch; nothing if the feed stays silent. -/
def step (processor : SyncProcessor) (behaviour : Behaviour Handler) :
    Act (World Handler) (Option (Except SyncError BatchReport) × SyncProcessor) := do
  match ← processor.poll with
  | .error error => pure (some (.error (.transport error)), processor)
  | .ok none => pure (none, processor)
  | .ok (some batch) =>
    let (result, processor) ← processor.processBatch behaviour batch
    pure (some result, processor)

end SyncProcessor

end BotHost
