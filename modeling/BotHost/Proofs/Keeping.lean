/-
# What acts leave alone

An act keeps a view of the state if the view is the same in whatever state the act leaves
off, be it that the act ends well or that it panics.  Keeping is closed under doing one act
after the other, so what a long act keeps is read off its parts.

The second half lists what the acts on the world keep.  An act that puts something on the trace
keeps what that alone keeps; lemmas that end in `of_note` say so of any view.  Two views matter
later on: the accounts that are stored, and the records with which accounts are connected.
Handlers and plugins are somebody else's code, so that they keep a view is an assumption about
them, `Behaviour.Keeps`.
-/

import BotHost.Account.Acts

namespace BotHost

namespace Act

variable {σ α β γ : Type}

/-- One act after the other, from a given state on. -/
theorem bind_apply (act : Act σ α) (next : α → Act σ β) (state : σ) :
    (act >>= next) state =
      match act state with
      | .ok value after => next value after
      | .error panic after => .error panic after := by
  change EStateM.bind act next state = _
  unfold EStateM.bind
  cases act state <;> rfl

theorem get_apply (state : σ) : (get : Act σ σ) state = .ok state state := rfl

theorem modify_apply (change : σ → σ) (state : σ) :
    (modify change : Act σ Unit) state = .ok () (change state) := rfl

/-- Two acts one after the other end well when both do. -/
theorem bind_eq_ok {act : Act σ α} {next : α → Act σ β} {state after : σ} {result : β} :
    (act >>= next) state = .ok result after ↔
      ∃ value between, act state = .ok value between ∧ next value between = .ok result after := by
  rw [bind_apply]
  cases act state with
  | ok value between =>
      constructor
      · intro h
        exact ⟨value, between, rfl, h⟩
      · rintro ⟨_, _, hact, hnext⟩
        cases hact
        exact hnext
  | error panic between => simp

/-- The state in which an act leaves off, whether or not it panics. -/
def stateAfter (act : Act σ α) (state : σ) : σ :=
  match act state with
  | .ok _ after => after
  | .error _ after => after

/-- Whether the view of the state is the same before and after an act. -/
def Keeps (view : σ → γ) (act : Act σ α) : Prop :=
  ∀ state, view (act.stateAfter state) = view state

variable {view : σ → γ}

theorem Keeps.eq_of_ok {act : Act σ α} (h : act.Keeps view) {state after : σ} {value : α}
    (hok : act state = .ok value after) : view after = view state := by
  have := h state
  rwa [stateAfter, hok] at this

theorem Keeps.eq_of_panic {act : Act σ α} (h : act.Keeps view) {state after : σ}
    {panic : Panic} (hpanic : act state = .error panic after) : view after = view state := by
  have := h state
  rwa [stateAfter, hpanic] at this

theorem keeps_pure (value : α) : Keeps view (pure value : Act σ α) := fun _ => rfl

theorem keeps_throw (panic : Panic) : Keeps view (throw panic : Act σ α) := fun _ => rfl

theorem keeps_get : Keeps view (get : Act σ σ) := fun _ => rfl

theorem keeps_modify {change : σ → σ} (h : ∀ state, view (change state) = view state) :
    Keeps view (modify change : Act σ PUnit) := h

theorem Keeps.bind {act : Act σ α} {next : α → Act σ β} (h : act.Keeps view)
    (hnext : ∀ value, (next value).Keeps view) : (act >>= next).Keeps view := by
  intro state
  rw [stateAfter, bind_apply]
  cases hact : act state with
  | ok value after =>
      exact (hnext value after).trans (h.eq_of_ok hact)
  | error panic after => exact h.eq_of_panic hact

theorem Keeps.map {act : Act σ α} (f : α → β) (h : act.Keeps view) :
    (f <$> act).Keeps view :=
  h.bind fun value => keeps_pure (f value)

theorem Keeps.attempt {act : Act σ α} (h : act.Keeps view) : act.attempt.Keeps view := by
  intro state
  cases hact : act state with
  | ok value after =>
      rw [stateAfter, attempt_of_ok hact]
      exact h.eq_of_ok hact
  | error panic after =>
      rw [stateAfter, attempt_of_panic hact]
      exact h.eq_of_panic hact

/-- An attempt never panics. -/
theorem attempt_eq_ok (act : Act σ α) (state : σ) :
    ∃ result, act.attempt state = .ok result (act.stateAfter state) := by
  cases hact : act state with
  | ok value after =>
      exact ⟨.ok value, by rw [attempt_of_ok hact, stateAfter, hact]⟩
  | error panic after =>
      exact ⟨.error panic, by rw [attempt_of_panic hact, stateAfter, hact]⟩

end Act

/-! ### Requests and the store -/

namespace World

variable {Handler : Type}

/-- What a request comes to: it is put on the trace, and the environment ends it. -/
theorem ask_apply (userId : String) (request : Request) (world : World Handler) :
    ask userId request world =
      let asked := { world with trace := .request userId world.clock request :: world.trace }
      match world.environment.respond world.trace userId request with
      | .answer value => .ok (.ok value) asked
      | .failure error => .ok (.error error) asked
      | .panic panic => .error panic asked := by
  simp only [ask, note, Act.bind_apply, Act.get_apply, Act.modify_apply]
  cases world.environment.respond world.trace userId request <;> rfl

/-- What consulting the store comes to. -/
theorem consult_apply {α : Type} (call : StoreCall) (act : Act (World Handler) α)
    (world : World Handler) :
    consult call act world =
      match world.environment.refuse world.trace call with
      | some error => .ok (.error error) { world with trace := .store call :: world.trace }
      | none => (.ok <$> act : Act (World Handler) (Except StoreError α))
          { world with trace := .store call :: world.trace } := by
  simp only [consult, note, Act.bind_apply, Act.get_apply, Act.modify_apply]
  cases world.environment.refuse world.trace call <;> rfl

/-- What reading the store comes to. -/
theorem read_apply {α : Type} (call : StoreCall) (look : Store → α) (world : World Handler) :
    consult call (do return look (← get).store) world =
      let consulted := { world with trace := .store call :: world.trace }
      match world.environment.refuse world.trace call with
      | some error => .ok (.error error) consulted
      | none => .ok (.ok (look world.store)) consulted := by
  rw [consult_apply]
  cases world.environment.refuse world.trace call <;> rfl

/-- What writing to the store comes to. -/
theorem write_apply (call : StoreCall) (change : Store → Store) (world : World Handler) :
    consult call (changeStore change) world =
      let consulted := { world with trace := .store call :: world.trace }
      match world.environment.refuse world.trace call with
      | some error => .ok (.error error) consulted
      | none => .ok (.ok ()) { consulted with store := change world.store } := by
  rw [consult_apply]
  cases world.environment.refuse world.trace call <;> rfl

/-- What reading the projection of a room comes to. -/
theorem loadRoom_apply (roomId : String) (world : World Handler) :
    loadRoom roomId world =
      let consulted := { world with trace := .store (.loadRoom roomId) :: world.trace }
      match world.environment.refuse world.trace (.loadRoom roomId) with
      | some error => .ok (.error error) consulted
      | none => .ok (.ok (world.rooms.load roomId)) consulted := by
  rw [loadRoom, consult_apply]
  cases world.environment.refuse world.trace (.loadRoom roomId) <;> rfl

/-- What writing the projection of a room comes to. -/
theorem saveRoom_apply (state : RoomState) (world : World Handler) :
    saveRoom state world =
      let consulted := { world with trace := .store (.saveRoom state.roomId) :: world.trace }
      match world.environment.refuse world.trace (.saveRoom state.roomId) with
      | some error => .ok (.error error) consulted
      | none => .ok (.ok ()) { consulted with rooms := world.rooms.save state } := by
  rw [saveRoom, consult_apply]
  cases world.environment.refuse world.trace (.saveRoom state.roomId) <;> rfl

/-- What listing the accounts comes to. -/
theorem listAccounts_apply (world : World Handler) :
    listAccounts world =
      let consulted := { world with trace := .store .accounts :: world.trace }
      match world.environment.refuse world.trace .accounts with
      | some error => .ok (.error error) consulted
      | none => .ok (.ok world.store.listAccounts) consulted :=
  read_apply .accounts Store.listAccounts world

/-- What listing the plugin instances comes to. -/
theorem listPlugins_apply (world : World Handler) :
    listPlugins world =
      let consulted := { world with trace := .store .plugins :: world.trace }
      match world.environment.refuse world.trace .plugins with
      | some error => .ok (.error error) consulted
      | none => .ok (.ok world.store.listPlugins) consulted :=
  read_apply .plugins Store.listPlugins world

/-- What writing an account comes to. -/
theorem updateAccount_apply (record : AccountRecord) (world : World Handler) :
    updateAccount record world =
      let consulted := { world with trace := .store (.updateAccount record) :: world.trace }
      match world.environment.refuse world.trace (.updateAccount record) with
      | some error => .ok (.error error) consulted
      | none => .ok (.ok ()) { consulted with store := world.store.putAccount record } :=
  write_apply _ _ world

/-- What writing a plugin instance comes to. -/
theorem updatePlugin_apply (record : PluginRecord) (world : World Handler) :
    updatePlugin record world =
      let consulted := { world with trace := .store (.updatePlugin record) :: world.trace }
      match world.environment.refuse world.trace (.updatePlugin record) with
      | some error => .ok (.error error) consulted
      | none => .ok (.ok ()) { consulted with store := world.store.putPlugin record } :=
  write_apply _ _ world

/-- What writing a spec comes to. -/
theorem putSpec_apply (owner userId : String) (spec : CommandSpec) (world : World Handler) :
    putSpec owner userId spec world =
      let consulted :=
        { world with trace := .store (.putCommandSpec owner userId spec) :: world.trace }
      match world.environment.refuse world.trace (.putCommandSpec owner userId spec) with
      | some error => .ok (.error error) consulted
      | none => .ok (.ok ()) { consulted with store := world.store.putSpec owner userId spec } :=
  write_apply _ _ world

/-- What opening a connection comes to. -/
theorem openConnection_apply (record : AccountRecord) (world : World Handler) :
    openConnection record world =
      let tried := { world with trace := .connect record.userId :: world.trace }
      match world.environment.decline world.trace record with
      | some error => .ok (.error error) tried
      | none => .ok (.ok ()) tried := by
  simp only [openConnection, note, Act.bind_apply, Act.get_apply, Act.modify_apply]
  cases world.environment.decline world.trace record <;> rfl

/-- What connecting an account comes to: the store may refuse to list its specs. -/
theorem connectAccount_apply (record : AccountRecord) (world : World Handler) :
    connectAccount record world =
      let consulted :=
        { world with trace := .store (.commandSpecs record.userId) :: world.trace }
      match world.environment.refuse world.trace (.commandSpecs record.userId) with
      | some error => .ok (.error error) consulted
      | none =>
        .ok (.ok ())
          { consulted with
            accounts := world.accounts.insert record.userId
              (.connect record (world.store.listSpecs record.userId)) } := by
  rw [connectAccount, Act.bind_apply, listSpecs, consult_apply]
  cases world.environment.refuse world.trace (.commandSpecs record.userId) <;> rfl

end World

/-! ### Views of the world -/

/-- The poll that an occurrence is, if it is one: whose feed was asked for, and from which
cursor. -/
def Occurrence.poll? : Occurrence → Option (String × Option String)
  | .request userId _ (.sync since _ _) => some (userId, since)
  | _ => none

/-- Whether an occurrence is routine: neither a poll nor something that a handler or a plugin puts
on record. -/
def Occurrence.isRoutine : Occurrence → Bool
  | .request _ _ (.sync ..) => false
  | .remark _ => false
  | _ => true

theorem Occurrence.poll?_of_isRoutine {occurrence : Occurrence}
    (hroutine : occurrence.isRoutine = true) : occurrence.poll? = none := by
  cases occurrence with
  | request userId time request =>
      cases request with
      | sync => cases hroutine
      | _ => rfl
  | _ => rfl

/-- A view that the host's bookkeeping does not touch: neither what it puts on the trace as a
routine, nor the room projections, nor that the composite of an account has been compiled. -/
structure Undisturbed {Handler γ : Type} (view : World Handler → γ) : Prop where
  /-- Of the trace, nothing shows but polls and what handlers and plugins put on record. -/
  trace : ∀ (world : World Handler) occurrence, occurrence.isRoutine = true →
    view { world with trace := occurrence :: world.trace } = view world
  rooms : ∀ (world : World Handler) rooms, view { world with rooms } = view world
  compiled : ∀ (world : World Handler) userId account compiled,
    world.account? userId = some account →
    view { world with
      accounts := world.accounts.insert userId
        { account with specs := { account.specs with compiled } } } = view world

/-- A view that neither the store nor the clock touches either. -/
structure Detached {Handler γ : Type} (view : World Handler → γ) : Prop
    extends Undisturbed view where
  store : ∀ (world : World Handler) store, view { world with store } = view world
  clock : ∀ (world : World Handler) clock, view { world with clock } = view world

/-- A view in which of a connected account only the record shows. -/
structure OfRecords {Handler γ : Type} (view : World Handler → γ) : Prop
    extends Detached view where
  /-- A change of an account that leaves its record alone does not show. -/
  account : ∀ (world : World Handler) userId account changed,
    world.account? userId = some account → changed.record = account.record →
    view { world with accounts := world.accounts.insert userId changed } = view world

namespace World

variable {Handler : Type}

/-- The accounts that are stored. -/
def storedAccounts (world : World Handler) : SortedMap String AccountRecord :=
  world.store.accounts

/-- The record with which the account of a user is connected. -/
def recordOf (world : World Handler) (userId : String) : Option AccountRecord :=
  (world.account? userId).map (·.record)

/-- The cursors from which the feed of a user has been polled, in order. -/
def sincesOf (world : World Handler) (userId : String) : List (Option String) :=
  (world.trace.filterMap fun occurrence =>
    occurrence.poll?.bind fun poll => if poll.1 = userId then some poll.2 else none).reverse

theorem undisturbed_storedAccounts : Undisturbed (@storedAccounts Handler) where
  trace _ _ _ := rfl
  rooms _ _ := rfl
  compiled _ _ _ _ _ := rfl

theorem recordOf_insert {world : World Handler} {userId : String}
    {account changed : Account Handler} (hfound : world.account? userId = some account)
    (hrecord : changed.record = account.record) :
    recordOf { world with accounts := world.accounts.insert userId changed } = world.recordOf := by
  funext sought
  simp only [recordOf, account?, SortedMap.find?_insert]
  by_cases hsought : userId = sought
  · subst hsought
    rw [if_pos rfl, ← account?, hfound]
    simp [hrecord]
  · rw [if_neg hsought]

theorem ofRecords_recordOf : OfRecords (@recordOf Handler) where
  trace _ _ _ := rfl
  rooms _ _ := rfl
  compiled _ _ _ _ hfound := recordOf_insert hfound rfl
  store _ _ := rfl
  clock _ _ := rfl
  account _ _ _ _ hfound hrecord := recordOf_insert hfound hrecord

theorem ofRecords_sincesOf : OfRecords (@sincesOf Handler) where
  trace world occurrence hroutine := by
    funext userId
    simp [sincesOf, occurrence.poll?_of_isRoutine hroutine]
  rooms _ _ := rfl
  compiled _ _ _ _ _ := rfl
  store _ _ := rfl
  clock _ _ := rfl
  account _ _ _ _ _ _ := rfl

end World

/-- Handlers that keep a view of the world, however they are called. -/
structure Behaviour.Keeps {Handler γ : Type} (behaviour : Behaviour Handler)
    (view : World Handler → γ) : Prop where
  listen : ∀ handler context, (behaviour.listen handler context).Keeps view
  obey : ∀ handler context, (behaviour.obey handler context).Keeps view

/-! ### Dispatching -/

namespace Stage

variable {σ Listener Command γ : Type} {stage : Stage σ Listener Command} {view : σ → γ}

theorem callCommand_keeps {context : EventContext} {entry : Entry Command}
    (hobey : (stage.obey entry.handler context).Keeps view) :
    (stage.callCommand context entry).Keeps view := by
  unfold callCommand
  split
  · exact Act.keeps_pure _
  · exact hobey

theorem callListener_keeps {context : EventContext} {entry : Entry Listener}
    (hlisten : (stage.listen entry.handler context).Keeps view) :
    (stage.callListener context entry).Keeps view := by
  unfold callListener
  split
  · exact Act.keeps_pure _
  · exact hlisten

theorem runChain_keeps {context : EventContext} {chain : List (Entry Command)}
    (hcall : ∀ entry ∈ chain, (stage.callCommand context entry).Keeps view) (invoked : Nat) :
    (stage.runChain context invoked chain).Keeps view := by
  induction chain generalizing invoked with
  | nil => exact Act.keeps_pure _
  | cons entry rest ih =>
      obtain ⟨hentry, hrest⟩ := List.forall_mem_cons.mp hcall
      apply hentry.bind
      intro signal
      cases signal with
      | «continue» => exact ih hrest (invoked + 1)
      | stopCommand => exact Act.keeps_pure _
      | stopAll => exact Act.keeps_pure _

theorem runCommands_keeps (hobey : ∀ handler context, (stage.obey handler context).Keeps view)
    (context : EventContext) (invoked : Nat) (commands : List String) :
    (stage.runCommands context invoked commands).Keeps view := by
  induction commands generalizing invoked with
  | nil => exact Act.keeps_pure _
  | cons command rest ih =>
      apply Act.keeps_get.bind
      intro state
      apply (runChain_keeps (fun entry _ => callCommand_keeps (hobey _ _)) invoked).bind
      intro outcome
      split
      · exact Act.keeps_pure _
      · exact ih outcome.invoked

theorem runListeners_keeps {context : EventContext} {listeners : List (Entry Listener)}
    (hcall : ∀ entry ∈ listeners, (stage.callListener context entry).Keeps view)
    (invoked : Nat) : (stage.runListeners context invoked listeners).Keeps view := by
  induction listeners generalizing invoked with
  | nil => exact Act.keeps_pure _
  | cons entry rest ih =>
      obtain ⟨hentry, hrest⟩ := List.forall_mem_cons.mp hcall
      apply hentry.bind
      intro signal
      cases signal with
      | «continue» => exact ih hrest (invoked + 1)
      | stop => exact Act.keeps_pure _

/-- A dispatch keeps what every handler on the stage keeps. -/
theorem dispatch_keeps (hlisten : ∀ handler context, (stage.listen handler context).Keeps view)
    (hobey : ∀ handler context, (stage.obey handler context).Keeps view)
    (context : EventContext) : (stage.dispatch context).Keeps view := by
  apply (runCommands_keeps hobey context 0 _).bind
  intro outcome
  split
  · exact Act.keeps_pure _
  · apply Act.keeps_get.bind
    intro state
    exact (runListeners_keeps (fun entry _ => callListener_keeps (hlisten _ _)) _).bind
      fun _ => Act.keeps_pure _

end Stage

/-- Asking for the composite changes nothing in a book but what it remembers. -/
theorem SpecBook.composite_snd (book : SpecBook) :
    book.composite.2 = { book with compiled := some book.composite.1 } := by
  unfold SpecBook.composite
  cases hcompiled : book.compiled with
  | none => rfl
  | some compiled => simp [← hcompiled]

namespace World

variable {Handler γ : Type} {view : World Handler → γ}

theorem note_keeps (hview : Undisturbed view) (occurrence : Occurrence)
    (hroutine : occurrence.isRoutine = true) :
    (note occurrence : Act (World Handler) Unit).Keeps view :=
  Act.keeps_modify fun world => hview.trace world _ hroutine

/-- A request keeps what putting it on the trace keeps. -/
theorem ask_keeps_of_note {userId : String} {request : Request}
    (hnote : ∀ time, (note (.request userId time request) : Act (World Handler) Unit).Keeps view) :
    (ask userId request : Act (World Handler) _).Keeps view := by
  refine Act.keeps_get.bind fun world => (hnote _).bind fun _ => ?_
  split
  · exact Act.keeps_pure _
  · exact Act.keeps_pure _
  · exact Act.keeps_throw _

/-- A call of the store keeps what putting it on the trace and carrying it out keep. -/
theorem consult_keeps_of_note {α : Type} {call : StoreCall}
    (hnote : (note (.store call) : Act (World Handler) Unit).Keeps view)
    {act : Act (World Handler) α} (hact : act.Keeps view) : (consult call act).Keeps view := by
  refine Act.keeps_get.bind fun world => hnote.bind fun _ => ?_
  split
  · exact Act.keeps_pure _
  · exact hact.map _

theorem consult_keeps {α : Type} (hview : Undisturbed view) (call : StoreCall)
    {act : Act (World Handler) α} (hact : act.Keeps view) : (consult call act).Keeps view :=
  consult_keeps_of_note (note_keeps hview _ rfl) hact

theorem changeAccount_keeps (userId : String) {change : Account Handler → Account Handler}
    (hchange : ∀ world account, account? userId world = some account →
      view { world with accounts := world.accounts.insert userId (change account) } = view world) :
    (changeAccount userId change).Keeps view := by
  intro world
  cases hfound : world.account? userId with
  | none =>
      simp only [changeAccount, Act.stateAfter, Act.bind_apply, Act.get_apply, hfound]
      rfl
  | some account =>
      simp only [changeAccount, Act.stateAfter, Act.bind_apply, Act.get_apply, hfound]
      exact hchange world account hfound

/-- Setting a spec keeps what writing it and installing it keep. -/
theorem setSpec_keeps {userId owner : String} {spec : CommandSpec}
    (hput : (putSpec owner userId spec : Act (World Handler) _).Keeps view)
    (hinstall : (installSpec userId owner spec : Act (World Handler) Unit).Keeps view) :
    (setSpec userId owner spec : Act (World Handler) _).Keeps view := by
  refine Act.keeps_get.bind fun world => ?_
  dsimp only
  split
  · exact Act.keeps_pure _
  · refine hput.bind fun outcome => ?_
    cases outcome with
    | error error => exact Act.keeps_pure _
    | ok _ => exact hinstall.bind fun _ => Act.keeps_pure _

theorem composite_keeps (hview : Undisturbed view) (userId : String) :
    (composite userId : Act (World Handler) Composite).Keeps view := by
  intro world
  cases hfound : world.account? userId with
  | none =>
      simp only [composite, Act.stateAfter, Act.bind_apply, Act.get_apply, hfound]
      rfl
  | some account =>
      simp only [composite, Act.stateAfter, Act.bind_apply, Act.get_apply, hfound]
      change view { world with
        accounts := world.accounts.insert userId
          { account with specs := account.specs.composite.2 } } = view world
      rw [account.specs.composite_snd]
      exact hview.compiled world userId account _ hfound

/-- Calling a listener keeps what the handlers keep, unless it shows that a room is joined. -/
theorem listen_keeps {behaviour : Behaviour Handler} (hkeeps : behaviour.Keeps view)
    (hnote : ∀ userId time roomId,
      (note (.request userId time (.join roomId)) : Act (World Handler) Unit).Keeps view)
    (listener : Listener Handler) (context : EventContext) :
    (listen behaviour listener context).Keeps view := by
  cases listener with
  | custom handler => exact hkeeps.listen handler context
  | autojoin =>
      rw [listen, autojoin]
      split
      · exact (ask_keeps_of_note fun _ => hnote _ _ _).bind fun _ => Act.keeps_pure _
      · exact Act.keeps_pure _

/-- Dispatching an event touches nothing that the handlers do not touch. -/
theorem dispatchEvent_keeps (hview : Undisturbed view) {behaviour : Behaviour Handler}
    (hkeeps : behaviour.Keeps view) (userId : String) (event : Event) :
    (dispatchEvent behaviour userId event).Keeps view := by
  apply (composite_keeps hview userId).bind
  intro composite
  apply (note_keeps hview _ rfl).bind
  intro _
  exact Stage.dispatch_keeps (listen_keeps hkeeps fun _ _ _ => note_keeps hview _ rfl) hkeeps.obey _

/-- Applying an event to its room keeps everything but the trace and the rooms. -/
theorem applyToRoom_keeps_of_note
    (hnote : ∀ call, (note (.store call) : Act (World Handler) Unit).Keeps view)
    (hrooms : ∀ (world : World Handler) rooms, view { world with rooms } = view world)
    (event : Event) : (applyToRoom event : Act (World Handler) _).Keeps view := by
  refine Act.Keeps.bind (consult_keeps_of_note (hnote _) ?_) fun loaded => ?_
  · exact Act.keeps_get.bind fun _ => Act.keeps_pure _
  · cases loaded with
    | error error => exact Act.keeps_pure _
    | ok state =>
        dsimp only
        split
        · exact consult_keeps_of_note (hnote _) (Act.keeps_modify fun world => hrooms world _)
        · exact Act.keeps_pure _

theorem applyToRoom_keeps (hview : Undisturbed view) (event : Event) :
    (applyToRoom event : Act (World Handler) _).Keeps view :=
  applyToRoom_keeps_of_note (fun _ => note_keeps hview _ rfl) hview.rooms event

end World

end BotHost
