/-
# Whose token a loop has

A loop asks whose token it has before anything else, and again whenever its preparation has failed.
This module watches the calls that a loop makes by itself, not those that handlers make while it
dispatches: the question whose token it has, new filters, polls, and attempts to write the account.
They are read off the trace, together with the answers that the environment gave.

`SyncLoop.Course` relates a loop to its calls, like `SyncLoop.Run` to its polls.  Its law is
`SyncLoop.Course.identity`: every new filter and every poll comes after the answer that the token is
the account's own, and if a token turns out to be somebody else's, the course ends with one attempt
to write that the feed is switched off and has no poll in it.  A loop that is cancelled has made a
beginning of the calls of its course, and the law is about every beginning.
-/

import BotHost.Proofs.Sync.History

namespace BotHost

/-! ### Calls -/

/-- Something that a loop asks for by itself. -/
inductive LoopCall where
  /-- Whose token it has; nothing if there was no answer. -/
  | whoAmI (answer : Option String)
  /-- A new feed filter; nothing if there was no answer. -/
  | createFilter (answer : Option String)
  | sync
  /-- That the account's record is written, whether or not it was. -/
  | write (record : AccountRecord)
deriving DecidableEq

/-- What a reply answers, if it does. -/
def Reply.answer? {α : Type} : Reply α → Option α
  | answer value => some value
  | _ => none

namespace LoopCall

/-- The call that an occurrence is, after all that happened earlier. -/
def of (environment : Environment) (earlier : List Occurrence) : Occurrence → Option LoopCall
  | .request userId _ .whoAmI =>
    some (whoAmI (environment.respond earlier userId .whoAmI).answer?)
  | .request userId _ (.createFilter owner filter) =>
    some (createFilter (environment.respond earlier userId (.createFilter owner filter)).answer?)
  | .request _ _ (.sync ..) => some sync
  | .store (.updateAccount record) => some (write record)
  | _ => none

/-- The calls among some occurrences after all that happened earlier.  As on a trace, the latest
occurrence is the first; the earliest call is the first. -/
def among (environment : Environment) (earlier : List Occurrence) :
    List Occurrence → List LoopCall
  | [] => []
  | occurrence :: added =>
    among environment earlier added ++ (of environment (added ++ earlier) occurrence).toList

theorem of_whoAmI {environment : Environment} {earlier : List Occurrence} {userId : String}
    {time : Nat} {reply : Reply String}
    (h : environment.respond earlier userId .whoAmI = reply) :
    of environment earlier (.request userId time .whoAmI) = some (whoAmI reply.answer?) := by
  subst h
  rfl

theorem of_createFilter {environment : Environment} {earlier : List Occurrence}
    {userId owner : String} {time : Nat} {filter : Json} {reply : Reply String}
    (h : environment.respond earlier userId (.createFilter owner filter) = reply) :
    of environment earlier (.request userId time (.createFilter owner filter)) =
      some (createFilter reply.answer?) := by
  subst h
  rfl

/-- Whether a call is made for the account's feed, so that the token has to be the account's own. -/
def needsIdentity : LoopCall → Bool
  | createFilter _ => true
  | sync => true
  | _ => false

/-- Whose token it is after a call, as far as that is known. -/
def identify (known : Option String) : LoopCall → Option String
  | whoAmI answer => answer
  | _ => known

/-- The record that is held after a call: a new filter is remembered. -/
def hold (record : AccountRecord) : LoopCall → AccountRecord
  | createFilter (some filterId) => { record with filterId }
  | _ => record

end LoopCall

/-- What the latest answer said whose token it is. -/
def identityAfter (calls : List LoopCall) : Option String := calls.foldl LoopCall.identify none

/-- The record that is held after some calls. -/
def heldAfter (record : AccountRecord) (calls : List LoopCall) : AccountRecord :=
  calls.foldl LoopCall.hold record

/-- The calls between two worlds. -/
def World.callsUntil {Handler : Type} (world after : World Handler) : List LoopCall :=
  LoopCall.among world.environment world.trace
    (after.trace.take (after.trace.length - world.trace.length))

/-- The errand that a loop does next, if any; a poll that is held open is not over. -/
def LoopState.errand? : LoopState → Option Errand
  | ready errand => some errand
  | resting errand _ => some errand
  | listening => some .poll
  | ended => none

namespace SyncLoop

variable {Handler : Type}

/-- The calls that a turn of a loop makes, without those of the handlers: all of a preparation, and
of a poll the poll itself and the write behind a batch that was applied. -/
def callsOf (loop : SyncLoop) (behaviour : Behaviour Handler) (world : World Handler) :
    List LoopCall :=
  match loop.state with
  | .ready .prepare => world.callsUntil (loop.turnPrepare.stateAfter world)
  | .ready .poll =>
    world.callsUntil (loop.processor.poll.stateAfter world) ++
      match loop.processor.poll world with
      | .ok (.ok (some batch)) answered =>
        match loop.processor.applyBatch behaviour batch answered with
        | .ok (.ok _) applied =>
          applied.callsUntil ((loop.processor.processBatch behaviour batch).stateAfter answered)
        | _ => []
      | _ => []
  | _ => []

/-- A loop goes from one state in one world to another by its calls.  It takes turns of its own, and
in between anything may happen to the world. -/
inductive Course (behaviour : Behaviour Handler) (first : SyncLoop) (start : World Handler) :
    List LoopCall → SyncLoop → World Handler → Prop where
  | refl : Course behaviour first start [] first start
  | meanwhile {calls : List LoopCall} {loop : SyncLoop} {world : World Handler}
      (other : World Handler) : Course behaviour first start calls loop world →
      Course behaviour first start calls loop other
  | turn {calls : List LoopCall} {loop next : SyncLoop} {world after : World Handler} :
      Course behaviour first start calls loop world →
      loop.turnSafely behaviour world = .ok next after →
      Course behaviour first start (calls ++ loop.callsOf behaviour world) next after

end SyncLoop

/-! ### Reading calls off the trace -/

namespace World

variable {Handler : Type} {world after : World Handler}

/-- Writing an account never panics, and it is the latest occurrence behind it. -/
theorem updateAccount_trace (record : AccountRecord) (world : World Handler) :
    ∃ result after, updateAccount record world = .ok result after ∧
      after.trace = .store (.updateAccount record) :: world.trace := by
  rw [updateAccount_apply]
  cases world.environment.refuse world.trace (.updateAccount record) with
  | some error => exact ⟨_, _, rfl, rfl⟩
  | none => exact ⟨_, _, rfl, rfl⟩

theorem callsUntil_of_trace (added : List Occurrence) (h : after.trace = added ++ world.trace) :
    world.callsUntil after = LoopCall.among world.environment world.trace added := by
  rw [callsUntil, h, List.length_append, Nat.add_sub_cancel, List.take_left]

end World

namespace SyncProcessor

variable {Handler : Type} (processor : SyncProcessor) (world : World Handler)

/-- What making sure of a filter comes to. -/
theorem ensureFilter_apply :
    processor.ensureFilter world =
      if processor.record.filterId != "" then .ok (.ok (), processor) world
      else
        let filter := syncFilter processor.settings.timelineLimit
        let request := Request.createFilter processor.record.userId filter
        let asked :=
          { world with
            trace := .request processor.record.userId world.clock request :: world.trace }
        let reply : Reply String :=
          world.environment.respond world.trace processor.record.userId request
        match reply with
        | .panic panic => .error panic asked
        | .failure error => .ok (.error (.transport error), processor) asked
        | .answer filterId =>
          let processor := { processor with record := { processor.record with filterId } }
          match World.updateAccount processor.record asked with
          | .ok (.error error) after => .ok (.error (.store error), processor) after
          | .ok (.ok _) after => .ok (.ok (), processor) after
          | .error panic after => .error panic after := by
  unfold ensureFilter
  split
  · rfl
  · dsimp only
    rw [Act.bind_apply, World.createFilter, World.ask_apply]
    cases world.environment.respond world.trace processor.record.userId
      (.createFilter processor.record.userId (syncFilter processor.settings.timelineLimit)) with
    | panic panic => rfl
    | failure error => rfl
    | answer filterId =>
        dsimp only
        rw [Act.bind_apply]
        rcases World.updateAccount { processor.record with filterId } _ with
          ⟨_ | _, _⟩ | ⟨_, _⟩ <;> rfl

/-- What preparing comes to. -/
theorem prepare_apply :
    processor.prepare world =
      let asked :=
        { world with
          trace := .request processor.record.userId world.clock .whoAmI :: world.trace }
      let reply : Reply String :=
        world.environment.respond world.trace processor.record.userId .whoAmI
      match reply with
      | .panic panic => .error panic asked
      | .failure error => .ok (.error (.transport error), processor) asked
      | .answer actual =>
        if actual != processor.record.userId then
          .ok (.error (.identityMismatch processor.record.userId actual), processor) asked
        else processor.ensureFilter asked := by
  rw [prepare, Act.bind_apply, World.whoAmI, World.ask_apply]
  cases world.environment.respond world.trace processor.record.userId .whoAmI with
  | panic panic => rfl
  | failure error => rfl
  | answer actual =>
      dsimp only
      split <;> rfl

/-- Behind a batch that was applied, the record is written. -/
theorem processBatch_trace (behaviour : Behaviour Handler) (batch : Batch)
    {report : BatchReport} {applied : World Handler}
    (happly : processor.applyBatch behaviour batch world = .ok (.ok report) applied) :
    ((processor.processBatch behaviour batch).stateAfter world).trace =
      .store (.updateAccount (processor.moved batch).record) :: applied.trace := by
  obtain ⟨result, written, hwrite, htrace⟩ :=
    World.updateAccount_trace (processor.moved batch).record applied
  have hprocess : ∃ outcome,
      processor.processBatch behaviour batch world = .ok outcome written := by
    rw [processBatch, Act.bind_apply, happly]
    cases result with
    | error error => exact ⟨_, Act.bind_eq_ok.mpr ⟨_, _, hwrite, rfl⟩⟩
    | ok _ => exact ⟨_, Act.bind_eq_ok.mpr ⟨_, _, hwrite, rfl⟩⟩
  obtain ⟨outcome, hprocess⟩ := hprocess
  rw [Act.stateAfter, hprocess]
  exact htrace

end SyncProcessor

namespace SyncLoop

variable {Handler : Type} {behaviour : Behaviour Handler} {loop next : SyncLoop}
  {world after : World Handler}

/-- Resting is a matter of the loop's state alone. -/
theorem rest_apply (loop : SyncLoop) (errand : Errand) (world : World Handler) :
    ∃ state : LoopState, state.errand? = some errand ∧
      loop.rest errand world = .ok { loop with state } world := by
  have hrest : loop.rest errand world = .ok { loop with
      state := if loop.retryDelay = 0 then .ready errand
        else .resting errand (world.clock + loop.retryDelay) } world := rfl
  by_cases hdelay : loop.retryDelay = 0
  · exact ⟨.ready errand, rfl, by rw [hrest, if_pos hdelay]⟩
  · exact ⟨.resting errand (world.clock + loop.retryDelay), rfl, by rw [hrest, if_neg hdelay]⟩

/-- What a preparation can come to: the calls that it makes, the record that is held behind it, and
the errand that comes next. -/
inductive Prepared (record : AccountRecord) :
    List LoopCall → AccountRecord → Option Errand → Prop where
  | unanswered {errand : Option Errand} : errand ≠ some .poll →
      Prepared record [.whoAmI none] record errand
  | mismatched {actual : String} : actual ≠ record.userId →
      Prepared record [.whoAmI (some actual), .write { record with sync := false }]
        { record with sync := false } none
  | confirmed : Prepared record [.whoAmI (some record.userId)] record (some .poll)
  | unfiltered {errand : Option Errand} : errand ≠ some .poll →
      Prepared record [.whoAmI (some record.userId), .createFilter none] record errand
  | filtered {filterId : String} {errand : Option Errand} : errand ≠ none →
      Prepared record [.whoAmI (some record.userId), .createFilter (some filterId),
        .write { record with filterId }] { record with filterId } errand

/-- What a turn that prepares makes of its preparation. -/
theorem turnPrepare_apply (loop : SyncLoop) (world : World Handler) :
    loop.turnPrepare world =
      match loop.processor.prepare world with
      | .error panic after => .error panic after
      | .ok (.ok _, processor) after => .ok ⟨processor, .ready .poll⟩ after
      | .ok (.error (.identityMismatch ..), processor) after =>
        switchOff ⟨processor, loop.state⟩ after
      | .ok (.error _, processor) after => rest ⟨processor, loop.state⟩ .prepare after := by
  rw [turnPrepare, Act.bind_apply]
  rcases loop.processor.prepare world with ⟨⟨(_ | _ | _ | _) | _, _⟩, _⟩ | _ <;> rfl

/-- A preparation that panics ends the loop. -/
theorem prepare_turn_of_panic {panic : Panic} {reached : World Handler}
    (hstate : loop.state = .ready .prepare)
    (hprepare : loop.processor.prepare world = .error panic reached)
    (h : loop.turnSafely behaviour world = .ok next after) :
    next.processor = loop.processor ∧ next.state.errand? = none ∧
      loop.callsOf behaviour world = world.callsUntil reached := by
  have hact : loop.turnPrepare world = .error panic reached := by
    rw [turnPrepare_apply, hprepare]
  have hturn : loop.turn behaviour world = .error panic reached := by
    rw [turn, hstate]
    exact hact
  rw [turnSafely_of_panic hturn] at h
  cases h
  exact ⟨rfl, rfl, by rw [callsOf, hstate, Act.stateAfter, hact]⟩

theorem prepare_turn_of_ok {reached : SyncLoop} {between : World Handler}
    (hstate : loop.state = .ready .prepare) (hact : loop.turnPrepare world = .ok reached between)
    (h : loop.turnSafely behaviour world = .ok next after) :
    next = reached ∧ loop.callsOf behaviour world = world.callsUntil between := by
  have hturn : loop.turn behaviour world = .ok reached between := by
    rw [turn, hstate]
    exact hact
  rw [turnSafely_of_ok hturn] at h
  cases h
  exact ⟨rfl, by rw [callsOf, hstate, Act.stateAfter, hact]⟩

/-- A preparation that succeeds is followed by polls. -/
theorem prepare_turn_of_success {processor : SyncProcessor} {reached : World Handler}
    (hstate : loop.state = .ready .prepare)
    (hprepare : loop.processor.prepare world = .ok (.ok (), processor) reached)
    (h : loop.turnSafely behaviour world = .ok next after) :
    next.processor = processor ∧ next.state.errand? = some .poll ∧
      loop.callsOf behaviour world = world.callsUntil reached := by
  have hact : loop.turnPrepare world = .ok ⟨processor, .ready .poll⟩ reached := by
    rw [turnPrepare_apply, hprepare]
  obtain ⟨rfl, hcalls⟩ := prepare_turn_of_ok hstate hact h
  exact ⟨rfl, rfl, hcalls⟩

/-- A preparation that fails is tried again, unless the token is somebody else's. -/
theorem prepare_turn_of_failure {processor : SyncProcessor} {error : SyncError}
    {reached : World Handler} (hstate : loop.state = .ready .prepare)
    (hprepare : loop.processor.prepare world = .ok (.error error, processor) reached)
    (herror : ∀ expected actual, error ≠ .identityMismatch expected actual)
    (h : loop.turnSafely behaviour world = .ok next after) :
    next.processor = processor ∧ next.state.errand? = some .prepare ∧
      loop.callsOf behaviour world = world.callsUntil reached := by
  obtain ⟨state, herrand, hrest⟩ := rest_apply ⟨processor, loop.state⟩ .prepare reached
  have hact : loop.turnPrepare world = .ok ⟨processor, state⟩ reached := by
    rw [turnPrepare_apply, hprepare]
    cases error with
    | identityMismatch expected actual => exact absurd rfl (herror expected actual)
    | _ => exact hrest
  obtain ⟨rfl, hcalls⟩ := prepare_turn_of_ok hstate hact h
  exact ⟨rfl, herrand, hcalls⟩

/-- If the token is somebody else's, the feed is switched off and the loop ends, whether or not the
record can be written. -/
theorem prepare_turn_of_mismatch {processor : SyncProcessor} {expected actual : String}
    {reached : World Handler} (hstate : loop.state = .ready .prepare)
    (hprepare : loop.processor.prepare world =
      .ok (.error (.identityMismatch expected actual), processor) reached)
    (h : loop.turnSafely behaviour world = .ok next after) :
    next.processor.record = { processor.record with sync := false } ∧ next.state.errand? = none ∧
      ∃ written : World Handler,
        written.trace =
          .store (.updateAccount { processor.record with sync := false }) :: reached.trace ∧
        loop.callsOf behaviour world = world.callsUntil written := by
  have hact : ∃ written : World Handler, written.trace =
        .store (.updateAccount { processor.record with sync := false }) :: reached.trace ∧
      loop.turnPrepare world =
        .ok ⟨{ processor with record := { processor.record with sync := false } }, .ended⟩
          written := by
    obtain ⟨result, written, hwrite, htrace⟩ :=
      World.updateAccount_trace { processor.record with sync := false } reached
    refine ⟨written, htrace, ?_⟩
    rw [turnPrepare_apply, hprepare]
    exact Act.bind_eq_ok.mpr ⟨_, _, hwrite, rfl⟩
  obtain ⟨written, htrace, hact⟩ := hact
  obtain ⟨rfl, hcalls⟩ := prepare_turn_of_ok hstate hact h
  exact ⟨rfl, rfl, written, htrace, hcalls⟩

/-- If the token is somebody else's, there is nothing to prepare. -/
theorem prepared_of_other {actual : String} (hstate : loop.state = .ready .prepare)
    (hwho : world.environment.respond world.trace loop.processor.record.userId .whoAmI =
      Reply.answer actual) (hother : actual ≠ loop.processor.record.userId)
    (h : loop.turnSafely behaviour world = .ok next after) :
    Prepared loop.processor.record (loop.callsOf behaviour world) next.processor.record
      next.state.errand? := by
  have hprepare := loop.processor.prepare_apply world
  simp only [hwho, bne_iff_ne.mpr hother, if_true] at hprepare
  obtain ⟨hrecord, herrand, written, htrace, hcalls⟩ := prepare_turn_of_mismatch hstate hprepare h
  rw [hcalls, hrecord, herrand, World.callsUntil_of_trace [_, _] htrace]
  simp only [LoopCall.among, List.nil_append, LoopCall.of_whoAmI hwho]
  exact .mismatched hother

/-- If the token is the account's own, the rest of the preparation is a matter of the filter. -/
theorem prepared_of_own (hstate : loop.state = .ready .prepare)
    (hwho : world.environment.respond world.trace loop.processor.record.userId .whoAmI =
      Reply.answer loop.processor.record.userId)
    (h : loop.turnSafely behaviour world = .ok next after) :
    Prepared loop.processor.record (loop.callsOf behaviour world) next.processor.record
      next.state.errand? := by
  have hprepare := loop.processor.prepare_apply world
  simp only [hwho, bne_self_eq_false, Bool.false_eq_true, if_false,
    SyncProcessor.ensureFilter_apply] at hprepare
  split at hprepare
  · obtain ⟨hprocessor, herrand, hcalls⟩ := prepare_turn_of_success hstate hprepare h
    rw [hcalls, hprocessor, herrand, World.callsUntil_of_trace [_] rfl]
    simp only [LoopCall.among, List.nil_append, LoopCall.of_whoAmI hwho]
    exact .confirmed
  -- There is no filter yet; the second request follows the first.
  cases hfilter : world.environment.respond
      (.request loop.processor.record.userId world.clock .whoAmI :: world.trace)
      loop.processor.record.userId (.createFilter loop.processor.record.userId
        (syncFilter loop.processor.settings.timelineLimit)) with
  | panic panic =>
      simp only [hfilter] at hprepare
      obtain ⟨hprocessor, herrand, hcalls⟩ := prepare_turn_of_panic hstate hprepare h
      rw [hcalls, hprocessor, herrand, World.callsUntil_of_trace [_, _] rfl]
      simp only [LoopCall.among, List.nil_append, List.cons_append, LoopCall.of_whoAmI hwho,
        LoopCall.of_createFilter hfilter]
      exact .unfiltered nofun
  | failure error =>
      simp only [hfilter] at hprepare
      obtain ⟨hprocessor, herrand, hcalls⟩ := prepare_turn_of_failure hstate hprepare nofun h
      rw [hcalls, hprocessor, herrand, World.callsUntil_of_trace [_, _] rfl]
      simp only [LoopCall.among, List.nil_append, List.cons_append, LoopCall.of_whoAmI hwho,
        LoopCall.of_createFilter hfilter]
      exact .unfiltered nofun
  | answer filterId =>
      simp only [hfilter] at hprepare
      obtain ⟨result, written, hwrite, htrace⟩ := World.updateAccount_trace
        { loop.processor.record with filterId }
        { world with
          trace := .request loop.processor.record.userId world.clock
              (.createFilter loop.processor.record.userId
                (syncFilter loop.processor.settings.timelineLimit)) ::
            .request loop.processor.record.userId world.clock .whoAmI :: world.trace }
      rw [hwrite] at hprepare
      have hmade : world.callsUntil written = [.whoAmI (some loop.processor.record.userId),
          .createFilter (some filterId), .write { loop.processor.record with filterId }] := by
        rw [World.callsUntil_of_trace [_, _, _] htrace]
        simp only [LoopCall.among, List.nil_append, List.cons_append, LoopCall.of_whoAmI hwho,
          LoopCall.of_createFilter hfilter]
        rfl
      cases result with
      | error error =>
          obtain ⟨hprocessor, herrand, hcalls⟩ := prepare_turn_of_failure hstate hprepare nofun h
          rw [hcalls, hprocessor, herrand, hmade]
          exact .filtered nofun
      | ok _ =>
          obtain ⟨hprocessor, herrand, hcalls⟩ := prepare_turn_of_success hstate hprepare h
          rw [hcalls, hprocessor, herrand, hmade]
          exact .filtered nofun

theorem prepared_of_turnSafely (hstate : loop.state = .ready .prepare)
    (h : loop.turnSafely behaviour world = .ok next after) :
    Prepared loop.processor.record (loop.callsOf behaviour world) next.processor.record
      next.state.errand? := by
  have hprepare := loop.processor.prepare_apply world
  cases hwho : world.environment.respond world.trace loop.processor.record.userId .whoAmI with
  | panic panic =>
      simp only [hwho] at hprepare
      obtain ⟨hprocessor, herrand, hcalls⟩ := prepare_turn_of_panic hstate hprepare h
      rw [hcalls, hprocessor, World.callsUntil_of_trace [_] rfl]
      simp only [LoopCall.among, List.nil_append, LoopCall.of_whoAmI hwho]
      exact .unanswered (by rw [herrand]; exact nofun)
  | failure error =>
      simp only [hwho] at hprepare
      obtain ⟨hprocessor, herrand, hcalls⟩ := prepare_turn_of_failure hstate hprepare nofun h
      rw [hcalls, hprocessor, World.callsUntil_of_trace [_] rfl]
      simp only [LoopCall.among, List.nil_append, LoopCall.of_whoAmI hwho]
      exact .unanswered (by rw [herrand]; exact nofun)
  | answer actual =>
      by_cases hown : actual = loop.processor.record.userId
      · exact prepared_of_own hstate (hown ▸ hwho) h
      · exact prepared_of_other hstate hwho hown h

/-- A turn that polls makes one poll, and may write the record behind it. -/
theorem polled_of_turnSafely (hstate : loop.state = .ready .poll)
    (h : loop.turnSafely behaviour world = .ok next after) :
    next.state.errand? ≠ some .prepare ∧
      ∃ writes, loop.callsOf behaviour world = .sync :: writes ∧
        ∀ call ∈ writes, ∃ record, call = .write record := by
  constructor
  · rcases turn_cases_of_turnSafely h with hturn | ⟨-, rfl⟩
    · rw [turn_ready_poll hstate] at hturn
      obtain ⟨⟨result, processor⟩, reached, -, hturn⟩ := Act.bind_eq_ok.mp hturn
      rcases result with _ | error | report
      · cases hturn
        exact nofun
      · obtain ⟨state, herrand, hrest⟩ := rest_apply ⟨processor, loop.state⟩ .poll reached
        obtain ⟨rfl, -⟩ : ⟨processor, state⟩ = next ∧ reached = after := by
          have := hrest.symm.trans hturn
          exact EStateM.Result.ok.inj this
        rw [herrand]
        exact nofun
      · cases hturn
        rw [hstate]
        exact nofun
    · exact nofun
  · have hpoll : world.callsUntil (loop.processor.poll.stateAfter world) = [.sync] := by
      rw [World.callsUntil_of_trace [_] (loop.processor.poll_trace world)]
      rfl
    rw [callsOf, hstate]
    dsimp only
    rw [hpoll]
    refine ⟨_, rfl, ?_⟩
    split
    · split
      · rename_i batch answered _ _ report applied happly
        have htrace := loop.processor.processBatch_trace answered behaviour batch happly
        rw [World.callsUntil_of_trace [_] htrace]
        exact fun call hmem => ⟨_, List.mem_singleton.mp hmem⟩
      · exact fun _ hmem => absurd hmem List.not_mem_nil
    · exact fun _ hmem => absurd hmem List.not_mem_nil

/-- A turn without an errand to do makes no call. -/
theorem idle_of_turnSafely (hstate : ∀ errand, loop.state ≠ .ready errand)
    (h : loop.turnSafely behaviour world = .ok next after) :
    loop.callsOf behaviour world = [] ∧ next.processor = loop.processor ∧
      next.state.errand? = loop.state.errand? := by
  have hturn : ∃ state, state.errand? = loop.state.errand? ∧
      loop.turn behaviour world = .ok { loop with state } world := by
    rcases hloop : loop.state with errand | ⟨errand, wake⟩ | _ | _
    · exact absurd hloop (hstate errand)
    · by_cases hclock : wake ≤ world.clock
      · refine ⟨.ready errand, rfl, ?_⟩
        rw [turn, hloop]
        exact congrFun (if_pos hclock) world
      · have hturn : loop.turn behaviour world = .ok loop world := by
          rw [turn, hloop]
          exact congrFun (if_neg hclock) world
        exact ⟨loop.state, by rw [hloop], hturn⟩
    · have hturn : loop.turn behaviour = pure loop := by rw [turn, hloop]
      exact ⟨loop.state, by rw [hloop], by rw [hturn]; rfl⟩
    · have hturn : loop.turn behaviour = pure loop := by rw [turn, hloop]
      exact ⟨loop.state, by rw [hloop], by rw [hturn]; rfl⟩
  obtain ⟨state, herrand, hturn⟩ := hturn
  rw [turnSafely_of_ok hturn] at h
  cases h
  refine ⟨?_, rfl, herrand⟩
  rcases hloop : loop.state with errand | ⟨errand, wake⟩ | _ | _
  · exact absurd hloop (hstate errand)
  all_goals rw [callsOf, hloop]

end SyncLoop

/-! ### Guarded calls -/

/-- Whether each call for the feed comes after the answer that the token is a user's, given whose
token it was known to be before. -/
def Guarded (userId : String) (known : Option String) : List LoopCall → Prop
  | [] => True
  | call :: rest =>
    (call.needsIdentity = true → known = some userId) ∧ Guarded userId (call.identify known) rest

/-- Writes do not tell whose token it is. -/
theorem identify_of_writes {calls : List LoopCall} {known : Option String}
    (hcalls : ∀ call ∈ calls, ∃ record, call = .write record) :
    calls.foldl LoopCall.identify known = known := by
  induction calls with
  | nil => rfl
  | cons call rest ih =>
      obtain ⟨⟨record, rfl⟩, hrest⟩ := List.forall_mem_cons.mp hcalls
      exact ih hrest

namespace Guarded

variable {userId : String} {known : Option String} {calls more : List LoopCall}

theorem append_iff : Guarded userId known (calls ++ more) ↔
    Guarded userId known calls ∧ Guarded userId (calls.foldl LoopCall.identify known) more := by
  induction calls generalizing known with
  | nil => simp [Guarded]
  | cons call rest ih => simp [Guarded, ih, and_assoc]

/-- What comes before a call for the feed says whose token it is. -/
theorem identityAfter_eq {earlier later : List LoopCall} {call : LoopCall}
    (h : Guarded userId none (earlier ++ call :: later)) (hcall : call.needsIdentity = true) :
    identityAfter earlier = some userId :=
  (append_iff.mp h).2.1 hcall

/-- Writes need nobody's token. -/
theorem of_writes (hcalls : ∀ call ∈ calls, ∃ record, call = .write record) :
    Guarded userId known calls := by
  induction calls generalizing known with
  | nil => trivial
  | cons call rest ih =>
      obtain ⟨⟨record, rfl⟩, hrest⟩ := List.forall_mem_cons.mp hcalls
      exact ⟨nofun, ih hrest⟩

end Guarded

namespace SyncLoop

variable {Handler : Type} {behaviour : Behaviour Handler} {record : AccountRecord}
  {calls more : List LoopCall} {loop next : SyncLoop} {world after start : World Handler}

/-- Where a loop stands behind its calls, for the record that it began with. -/
structure Standing (record : AccountRecord) (calls : List LoopCall) (loop : SyncLoop) : Prop where
  userId_eq : loop.processor.record.userId = record.userId
  guarded : Guarded record.userId none calls
  /-- A loop that is about to prepare has not polled, and remembers the latest filter. -/
  preparing : loop.state.errand? = some .prepare →
    .sync ∉ calls ∧ loop.processor.record = heldAfter record calls
  /-- A loop that is about to poll has the user's token. -/
  polling : loop.state.errand? = some .poll → identityAfter calls = some record.userId
  /-- A loop with somebody else's token has ended, and has not polled. -/
  disputed : ∀ other, .whoAmI (some other) ∈ calls → other ≠ record.userId →
    loop.state.errand? = none ∧ .sync ∉ calls ∧ ∃ earlier, calls = earlier ++
      [.whoAmI (some other), .write { heldAfter record earlier with sync := false }]

namespace Standing

/-- A loop with an errand to do has not met with somebody else's token. -/
theorem undisputed (h : Standing record calls loop) (hready : loop.state.errand? ≠ none)
    {other : String} (hmem : .whoAmI (some other) ∈ calls) : other = record.userId :=
  Classical.byContradiction fun hother => hready (h.disputed other hmem hother).1

/-- A loop with an errand to do is left standing by calls in which nobody disputes the token. -/
theorem extend (h : Standing record calls loop) (hready : loop.state.errand? ≠ none)
    (huser : next.processor.record.userId = record.userId)
    (hguarded : Guarded record.userId (identityAfter calls) more)
    (hpreparing : next.state.errand? = some .prepare →
      .sync ∉ calls ++ more ∧ next.processor.record = heldAfter record (calls ++ more))
    (hpolling : next.state.errand? = some .poll →
      more.foldl LoopCall.identify (identityAfter calls) = some record.userId)
    (hmore : ∀ other, .whoAmI (some other) ∈ more → other = record.userId) :
    Standing record (calls ++ more) next where
  userId_eq := huser
  guarded := Guarded.append_iff.mpr ⟨h.guarded, hguarded⟩
  preparing := hpreparing
  polling hpoll := by
    rw [identityAfter, List.foldl_append]
    exact hpolling hpoll
  disputed other hmem hother := by
    rcases List.mem_append.mp hmem with hmem | hmem
    · exact absurd (h.undisputed hready hmem) hother
    · exact absurd (hmore other hmem) hother

/-- A preparation leaves a loop standing. -/
theorem prepared (h : Standing record calls loop) (hstate : loop.state.errand? = some .prepare)
    (hprepared : Prepared loop.processor.record more next.processor.record next.state.errand?) :
    Standing record (calls ++ more) next := by
  obtain ⟨hsync, hheld⟩ := h.preparing hstate
  have hready : loop.state.errand? ≠ none := by rw [hstate]; exact nofun
  have hheldAfter (later : List LoopCall) : heldAfter record (calls ++ later) =
      later.foldl LoopCall.hold loop.processor.record := by
    rw [hheld, heldAfter, heldAfter, List.foldl_append]
  have huser := h.userId_eq
  generalize hrecord : next.processor.record = held at hprepared
  generalize herrand : next.state.errand? = errand at hprepared
  cases hprepared with
  | unanswered hnext =>
      refine h.extend hready (by rw [hrecord, huser]) ⟨nofun, trivial⟩ (fun _ => ⟨?_, ?_⟩)
        (fun hpoll => absurd (herrand.symm.trans hpoll) hnext) (by simp)
      · simp [hsync]
      · rw [hheldAfter, hrecord]
        rfl
  | @mismatched actual hother =>
      constructor
      case userId_eq => rw [hrecord, ← huser]
      case guarded => exact Guarded.append_iff.mpr ⟨h.guarded, nofun, nofun, trivial⟩
      case preparing => rw [herrand]; exact nofun
      case polling => rw [herrand]; exact nofun
      case disputed =>
        intro other hmem hdiffers
        rcases List.mem_append.mp hmem with hmem | hmem
        · exact absurd (h.undisputed hready hmem) hdiffers
        · obtain rfl : other = actual := by simpa using hmem
          exact ⟨herrand, by simp [hsync], calls, by rw [hheld]⟩
  | confirmed =>
      refine h.extend hready (by rw [hrecord, huser]) ⟨nofun, trivial⟩
        (fun hprepare => ?_) (fun _ => ?_) (by simp [huser])
      · rw [herrand] at hprepare
        cases hprepare
      · simp [LoopCall.identify, huser]
  | unfiltered hnext =>
      refine h.extend hready (by rw [hrecord, huser]) ?_ (fun _ => ⟨?_, ?_⟩)
        (fun hpoll => absurd (herrand.symm.trans hpoll) hnext) (by simp [huser])
      · simp [Guarded, LoopCall.needsIdentity, LoopCall.identify, huser]
      · simp [hsync]
      · rw [hheldAfter, hrecord]
        rfl
  | filtered hnext =>
      refine h.extend hready (by rw [hrecord]; exact huser) ?_ (fun _ => ⟨?_, ?_⟩) (fun _ => ?_)
        (by simp [huser])
      · simp [Guarded, LoopCall.needsIdentity, LoopCall.identify, huser]
      · simp [hsync]
      · rw [hheldAfter, hrecord]
        rfl
      · simp [LoopCall.identify, huser]

/-- A poll leaves a loop standing. -/
theorem polled (h : Standing record calls loop) (hstate : loop.state.errand? = some .poll)
    (hrecord : next.processor.record.userId = loop.processor.record.userId)
    (herrand : next.state.errand? ≠ some .prepare)
    (hmore : ∀ call ∈ more, ∃ record, call = .write record) :
    Standing record (calls ++ .sync :: more) next := by
  have hready : loop.state.errand? ≠ none := by rw [hstate]; exact nofun
  refine h.extend hready (hrecord.trans h.userId_eq)
    ⟨fun _ => h.polling hstate, .of_writes hmore⟩ (fun hprepare => absurd hprepare herrand)
    (fun _ => ?_) fun other hmem => ?_
  · exact (identify_of_writes hmore).trans (h.polling hstate)
  · obtain ⟨record, hwrite⟩ := hmore _ ((List.mem_cons.mp hmem).resolve_left nofun)
    cases hwrite

/-- A turn without an errand leaves a loop standing. -/
theorem idle (h : Standing record calls loop) (hrecord : next.processor = loop.processor)
    (herrand : next.state.errand? = loop.state.errand?) : Standing record calls next where
  userId_eq := by rw [hrecord, h.userId_eq]
  guarded := h.guarded
  preparing := by rw [hrecord, herrand]; exact h.preparing
  polling := by rw [herrand]; exact h.polling
  disputed := by rw [herrand]; exact h.disputed

/-- A turn leaves a loop standing behind the calls that it makes. -/
theorem turn (h : Standing record calls loop)
    (hturn : loop.turnSafely behaviour world = .ok next after) :
    Standing record (calls ++ loop.callsOf behaviour world) next := by
  by_cases hready : ∃ errand, loop.state = .ready errand
  · obtain ⟨errand, hstate⟩ := hready
    cases errand with
    | prepare =>
        exact h.prepared (by rw [hstate]; rfl) (prepared_of_turnSafely hstate hturn)
    | poll =>
        obtain ⟨herrand, writes, hcalls, hwrites⟩ := polled_of_turnSafely hstate hturn
        rw [hcalls]
        exact h.polled (by rw [hstate]; rfl) (turnSafely_cases hturn).1 herrand hwrites
  · obtain ⟨hcalls, hprocessor, herrand⟩ :=
      idle_of_turnSafely (fun errand hstate => hready ⟨errand, hstate⟩) hturn
    rw [hcalls, List.append_nil]
    exact h.idle hprocessor herrand

end Standing

/-! ### The law -/

/-- Every run is the course of some calls. -/
theorem Run.exists_course {polls : List Poll} {first : SyncLoop}
    (run : Run behaviour first start polls loop world) :
    ∃ calls, Course behaviour first start calls loop world := by
  induction run with
  | refl => exact ⟨[], .refl⟩
  | meanwhile other run ih =>
      obtain ⟨calls, course⟩ := ih
      exact ⟨calls, course.meanwhile other⟩
  | turn run hturn ih =>
      obtain ⟨calls, course⟩ := ih
      exact ⟨_, course.turn hturn⟩

/-- The program runs a loop along a course. -/
theorem exists_course_of_run {first : SyncLoop} {deadline : Option Nat} {turns : Nat}
    {ending : RunEnd} (h : first.run behaviour deadline turns start = .ok (ending, next) after) :
    ∃ calls, Course behaviour first start calls next after := by
  obtain ⟨polls, run⟩ := Run.persists.run .refl h
  exact run.exists_course

namespace Course

variable {processor : SyncProcessor}

theorem standing (course : Course behaviour (.new processor) start calls loop world) :
    Standing processor.record calls loop := by
  induction course with
  | refl =>
      exact ⟨rfl, trivial, fun _ => ⟨List.not_mem_nil, rfl⟩, nofun,
        fun other hmem => absurd hmem List.not_mem_nil⟩
  | meanwhile other course ih => exact ih
  | turn course hturn ih => exact ih.turn hturn

/-- Whatever is answered and refused, every poll of a loop and every new filter comes after an
answer, the latest so far, that the token is the account's own.  If an answer says that it is
somebody else's, the loop has ended without a poll, and its last calls are that question and one
attempt to write the record: as it was held until then, with its feed switched off. -/
theorem identity (course : Course behaviour (.new processor) start calls loop world) :
    (∀ earlier call later, calls = earlier ++ call :: later → call.needsIdentity = true →
      identityAfter earlier = some processor.record.userId) ∧
    (∀ other, .whoAmI (some other) ∈ calls → other ≠ processor.record.userId →
      loop.state = .ended ∧ .sync ∉ calls ∧
        ∃ earlier, calls = earlier ++ [.whoAmI (some other),
          .write { heldAfter processor.record earlier with sync := false }]) := by
  have hstanding := course.standing
  constructor
  · rintro earlier call later rfl hcall
    exact hstanding.guarded.identityAfter_eq hcall
  · intro other hmem hother
    obtain ⟨herrand, hsync, hlast⟩ := hstanding.disputed other hmem hother
    refine ⟨?_, hsync, hlast⟩
    cases hstate : loop.state with
    | ended => rfl
    | _ => rw [hstate] at herrand; cases herrand

section Scene

open SecondBatch

/-- Surroundings in which the token is the account's own at first and then somebody else's, and in
which accounts cannot be written. -/
def revoked : Environment :=
  { surroundings false with
    respond
      | trace, userId, .whoAmI => .answer (if trace.isEmpty then userId else "@other:hs")
      | trace, userId, request => (surroundings false).respond trace userId request }

/-- What follows the account's feed, without a pause after a failure. -/
def hasty : SyncProcessor := ⟨SecondBatch.record, ⟨0, 30000, 50⟩⟩

-- Whether there is a pause is decided by counting its milliseconds.
set_option maxRecDepth 8000 in
/-- The first preparation gets a filter that cannot be written, and the second one meets with
somebody else's token.  The record that is to be written has the filter. -/
theorem identity_of_revoked :
    ∃ calls loop world,
      Course quiet (.new hasty) (SecondBatch.world revoked) calls loop world ∧
      calls = [.whoAmI (some "@bot:hs"), .createFilter (some "f1"),
        .write { SecondBatch.record with filterId := "f1" }, .whoAmI (some "@other:hs"),
        .write { SecondBatch.record with filterId := "f1", sync := false }] ∧
      loop.state = .ended := by
  obtain ⟨calls, loop, world, course, hcalls⟩ : ∃ calls loop world,
      Course quiet (.new hasty) (SecondBatch.world revoked) calls loop world ∧
        calls = [.whoAmI (some "@bot:hs"), .createFilter (some "f1"),
          .write { SecondBatch.record with filterId := "f1" }, .whoAmI (some "@other:hs"),
          .write { SecondBatch.record with filterId := "f1", sync := false }] :=
    ⟨_, _, _, .turn (.turn .refl rfl) rfl, rfl⟩
  have hasked : .whoAmI (some "@other:hs") ∈ calls := by simp [hcalls]
  exact ⟨calls, loop, world, course, hcalls, (course.identity.2 _ hasked (by decide)).1⟩

end Scene

end Course

end SyncLoop

end BotHost
