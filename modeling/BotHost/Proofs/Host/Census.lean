/-
# The census of an initialisation

The first initialisation of a host that succeeds sorts what is stored.  An account is connected
unless its connection is declined.  A plugin record that is disabled is left alone, one that is
enabled and has its type and its account gets one instance, and any other enabled record gets none
and is written as disabled.

Connecting the accounts and writing the records have one shape: something is tried for one record
after the other, at a moment of its own, and whether it fails shows under the key of that record and
nowhere else.  `Effort` is this shape, and `Effort.Made.append` takes it through a list of records.
-/

import BotHost.Echo.Program
import BotHost.Proofs.Host.Instances
import BotHost.Proofs.Store.Tables

namespace BotHost

/-! ### Moments -/

/-- Whether an occurrence is a connection for an account. -/
def Occurrence.isConnect : Occurrence → Bool
  | .connect _ => true
  | _ => false

/-- Whether an occurrence writes a plugin record. -/
def Occurrence.isPluginWrite : Occurrence → Bool
  | .store (.updatePlugin _) => true
  | _ => false

namespace World

variable {Handler : Type} {world between after : World Handler} {occurrence : Occurrence}
  {past : List Occurrence}

/-- The connections that were tried, latest first. -/
def connects (world : World Handler) : List Occurrence := world.trace.filter Occurrence.isConnect

/-- How plugin records were written or were to be written, latest first. -/
def pluginWrites (world : World Handler) : List Occurrence :=
  world.trace.filter Occurrence.isPluginWrite

/-- A later world in the same surroundings. -/
structure LeadsTo (world after : World Handler) : Prop where
  environment : after.environment = world.environment
  trace : world.trace <:+ after.trace

theorem LeadsTo.refl (world : World Handler) : world.LeadsTo world := ⟨rfl, List.suffix_refl _⟩

theorem LeadsTo.trans (h : world.LeadsTo between) (hafter : between.LeadsTo after) :
    world.LeadsTo after :=
  ⟨hafter.environment.trans h.environment, h.trace.trans hafter.trace⟩

theorem leadsTo_note (occurrence : Occurrence) (world : World Handler) :
    world.LeadsTo { world with trace := occurrence :: world.trace } :=
  ⟨rfl, List.suffix_cons _ _⟩

/-- On the way from one world to a later one, something happened after a certain past. -/
structure Happens (world after : World Handler) (occurrence : Occurrence)
    (past : List Occurrence) : Prop where
  since : world.trace <:+ past
  noted : occurrence :: past <:+ after.trace

theorem Happens.earlier (h : between.Happens after occurrence past)
    (hbefore : world.LeadsTo between) : world.Happens after occurrence past :=
  ⟨hbefore.trace.trans h.since, h.noted⟩

theorem Happens.later (h : world.Happens between occurrence past)
    (hafter : between.LeadsTo after) : world.Happens after occurrence past :=
  ⟨h.since, h.noted.trans hafter.trace⟩

end World

/-! ### Efforts -/

/-- Something that a host tries for a record. -/
structure Effort (Handler Record : Type) where
  keyOf : Record → String
  find? : World Handler → String → Option Record
  occurrence : Record → Occurrence
  /-- All efforts of this kind on the trace, latest first. -/
  log : World Handler → List Occurrence
  /-- Whether it fails after what has happened. -/
  fails : Environment → List Occurrence → Record → Bool
  /-- What is found under the key if it succeeds. -/
  outcome : Record → Record

namespace Effort

variable {Handler Record : Type} {effort : Effort Handler Record} {record : Record}
  {records : List Record} {origin world between after : World Handler}

/-- On the way from one world to a later one, the effort was made once for each of the given
records.  Nothing changes under any other key, nor under the key of a record for which it failed. -/
structure Made (effort : Effort Handler Record) (records : List Record)
    (world after : World Handler) : Prop where
  leadsTo : world.LeadsTo after
  /-- Each effort has its moment, and succeeds or fails at that moment. -/
  each : ∀ record ∈ records, ∃ past, world.Happens after (effort.occurrence record) past ∧
    effort.find? after (effort.keyOf record) =
      if effort.fails world.environment past record then
        effort.find? world (effort.keyOf record)
      else some (effort.outcome record)
  others : ∀ key, key ∉ records.map effort.keyOf →
    effort.find? after key = effort.find? world key
  log : effort.log after = (records.map effort.occurrence).reverse ++ effort.log world

theorem made_nil (hleads : world.LeadsTo after) (hfind : effort.find? after = effort.find? world)
    (hlog : effort.log after = effort.log world) : effort.Made [] world after :=
  ⟨hleads, fun _ hmem => absurd hmem List.not_mem_nil, fun key _ => congrFun hfind key, hlog⟩

/-- An effort for one record. -/
theorem made_singleton {past : List Occurrence} (hleads : world.LeadsTo after)
    (hhappens : world.Happens after (effort.occurrence record) past)
    (hfound : effort.find? after (effort.keyOf record) =
      if effort.fails world.environment past record then
        effort.find? world (effort.keyOf record)
      else some (effort.outcome record))
    (hothers : ∀ key, effort.keyOf record ≠ key →
      effort.find? after key = effort.find? world key)
    (hlog : effort.log after = effort.occurrence record :: effort.log world) :
    effort.Made [record] world after where
  leadsTo := hleads
  each other hmem := by
    obtain rfl := List.mem_singleton.mp hmem
    exact ⟨past, hhappens, hfound⟩
  others key hkey := hothers key fun hsame => hkey (by simp [hsame])
  log := hlog

/-- Efforts for records of different keys do not get in each other's way. -/
theorem Made.append {first second : List Record} (hfirst : effort.Made first world between)
    (hsecond : effort.Made second between after)
    (hapart : (first.map effort.keyOf).Disjoint (second.map effort.keyOf)) :
    effort.Made (first ++ second) world after where
  leadsTo := hfirst.leadsTo.trans hsecond.leadsTo
  each record hmem := by
    rcases List.mem_append.mp hmem with hmem | hmem
    · obtain ⟨past, hhappens, hfound⟩ := hfirst.each record hmem
      refine ⟨past, hhappens.later hsecond.leadsTo, ?_⟩
      rw [hsecond.others _ (hapart (List.mem_map_of_mem hmem)), hfound]
    · obtain ⟨past, hhappens, hfound⟩ := hsecond.each record hmem
      refine ⟨past, hhappens.earlier hfirst.leadsTo, ?_⟩
      rw [hfound, hfirst.leadsTo.environment,
        hfirst.others _ fun hkey => hapart hkey (List.mem_map_of_mem hmem)]
  others key hkey := by
    rw [List.map_append, List.mem_append, not_or] at hkey
    rw [hsecond.others key hkey.2, hfirst.others key hkey.1]
  log := by
    rw [hsecond.log, hfirst.log, List.map_append, List.reverse_append, List.append_assoc]

/-- No effort need be made before. -/
theorem Made.before (h : effort.Made records world after) (hleads : origin.LeadsTo world)
    (hfind : effort.find? world = effort.find? origin)
    (hlog : effort.log world = effort.log origin) : effort.Made records origin after :=
  (made_nil hleads hfind hlog).append h (List.disjoint_nil_left _)

/-- Nor afterwards. -/
theorem Made.afterwards (h : effort.Made records origin world) (hleads : world.LeadsTo after)
    (hfind : effort.find? after = effort.find? world)
    (hlog : effort.log after = effort.log world) : effort.Made records origin after := by
  have hmade := h.append (made_nil hleads hfind hlog) (List.disjoint_nil_right _)
  rwa [List.append_nil] at hmade

end Effort

/-- Making an instance leaves the stored plugin records alone, and the records of the connected
accounts.  A plugin type is given a proxy of one account, through which it reaches neither. -/
structure PluginBehaviour.Spares {Handler Factory Plugin : Type}
    (behaviour : PluginBehaviour Handler Factory Plugin) : Prop where
  leadsTo : ∀ {plugin record settings made} {world after : World Handler},
    behaviour.create plugin record settings world = .ok made after → world.LeadsTo after
  recordOf : ∀ {plugin record settings made} {world after : World Handler},
    behaviour.create plugin record settings world = .ok made after →
      after.recordOf = world.recordOf
  plugins : ∀ {plugin record settings made} {world after : World Handler},
    behaviour.create plugin record settings world = .ok made after →
      after.store.plugins = world.store.plugins
  connects : ∀ {plugin record settings made} {world after : World Handler},
    behaviour.create plugin record settings world = .ok made after →
      after.connects = world.connects
  pluginWrites : ∀ {plugin record settings made} {world after : World Handler},
    behaviour.create plugin record settings world = .ok made after →
      after.pluginWrites = world.pluginWrites

namespace Host

variable {Handler Factory Plugin : Type} {performers : Performers Handler Factory Plugin}
  {host ready : Host Factory Plugin} {world between after : World Handler}

/-! ### Connecting the accounts -/

/-- An account is connected unless its connection is declined. -/
def connecting (Handler : Type) : Effort Handler AccountRecord where
  keyOf := AccountRecord.userId
  find? := World.recordOf
  occurrence record := .connect record.userId
  log := World.connects
  fails environment past record := (environment.decline past record).isSome
  outcome record := record

/-- The first of the accounts is tried, and then the others. -/
theorem connectAll_cons_ok {record : AccountRecord} {rest : List AccountRecord}
    (h : connectAll (record :: rest) world = .ok (.ok ()) after) :
    ∃ between, (connecting Handler).Made [record] world between ∧
      between.pluginWrites = world.pluginWrites ∧
      connectAll rest between = .ok (.ok ()) after := by
  have htried := World.leadsTo_note (.connect record.userId) world
  rw [connectAll, Act.bind_apply, World.openConnection_apply] at h
  cases hdecline : world.environment.decline world.trace record with
  | some error =>
      simp only [hdecline] at h
      refine ⟨_, Effort.made_singleton htried ⟨List.suffix_refl _, List.suffix_refl _⟩ ?_ ?_ rfl,
        rfl, h⟩
      · exact (if_pos (by simp [connecting, hdecline])).symm
      · exact fun _ _ => rfl
  | none =>
      simp only [hdecline] at h
      rw [Act.bind_apply, World.connectAccount_apply] at h
      cases hrefuse : world.environment.refuse (.connect record.userId :: world.trace)
          (.commandSpecs record.userId) with
      | some error =>
          simp only [hrefuse] at h
          cases h
      | none =>
          simp only [hrefuse] at h
          let joined : World Handler :=
            { world with
              accounts := world.accounts.insert record.userId
                (.connect record (world.store.listSpecs record.userId))
              sessions := world.sessions.insert record.userId ()
              trace := .store (.commandSpecs record.userId) :: .connect record.userId ::
                world.trace }
          have hmoment : world.Happens joined (.connect record.userId) world.trace :=
            ⟨List.suffix_refl _, List.suffix_cons _ _⟩
          have hleads : world.LeadsTo joined := ⟨rfl, htried.trace.trans (List.suffix_cons _ _)⟩
          refine ⟨joined, Effort.made_singleton hleads hmoment ?_ ?_ rfl, rfl, h⟩
          · rw [if_neg (by simp [connecting, hdecline])]
            simp [connecting, joined, World.recordOf, World.account?, Account.connect]
          · intro key hkey
            simp only [connecting] at hkey
            simp [connecting, joined, World.recordOf, World.account?, hkey]

/-- Connecting the accounts of different users. -/
theorem connectAll_made {records : List AccountRecord}
    (hdistinct : (records.map AccountRecord.userId).Nodup)
    (h : connectAll records world = .ok (.ok ()) after) :
    (connecting Handler).Made records world after ∧ after.pluginWrites = world.pluginWrites := by
  induction records generalizing world with
  | nil =>
      cases h
      exact ⟨Effort.made_nil (.refl _) rfl rfl, rfl⟩
  | cons record rest ih =>
      obtain ⟨hnew, hrest⟩ := List.nodup_cons.mp hdistinct
      obtain ⟨between, hfirst, hwrites, h⟩ := connectAll_cons_ok h
      obtain ⟨hothers, hsame⟩ := ih hrest h
      exact ⟨hfirst.append hothers (List.singleton_disjoint.mpr hnew), hsame.trans hwrites⟩

section Vacant

variable {records : List AccountRecord} (h : (connecting Handler).Made records world after)
  (hvacant : ∀ userId, world.recordOf userId = none)
include h hvacant

/-- Where nobody was connected before, an account is connected unless its connection is declined. -/
theorem connecting_vacant {record : AccountRecord} (hmem : record ∈ records) :
    ∃ past, world.Happens after (.connect record.userId) past ∧
      after.recordOf record.userId =
        if (world.environment.decline past record).isSome then none else some record := by
  obtain ⟨past, hhappens, hfound⟩ := h.each record hmem
  refine ⟨past, hhappens, hfound.trans ?_⟩
  rw [← hvacant record.userId]
  rfl

/-- And no other account is. -/
theorem connects_of_vacant : Connects after records := by
  intro userId account haccount
  by_cases hkey : userId ∈ records.map AccountRecord.userId
  · obtain ⟨record, hmem, rfl⟩ := List.mem_map.mp hkey
    obtain ⟨past, -, hfound⟩ := connecting_vacant h hvacant hmem
    rw [hfound, Option.ite_none_left_eq_some] at haccount
    obtain rfl := Option.some.inj haccount.2
    exact ⟨rfl, hmem⟩
  · have hfound : after.recordOf userId = none := (h.others userId hkey).trans (hvacant userId)
    rw [haccount] at hfound
    cases hfound

end Vacant

/-! ### Making the instances -/

/-- An enabled record whose type or account is missing. -/
def Lacks (host : Host Factory Plugin) (world : World Handler) (record : PluginRecord) : Prop :=
  record.enabled = true ∧ ¬host.Ready world record

theorem ready_iff {record : PluginRecord} : host.Ready world record ↔ record.enabled = true ∧
    (host.registry.find? record.pluginType).isSome = true ∧
      (world.recordOf record.userId).isSome = true := by
  rw [World.recordOf, Option.isSome_map]
  exact ⟨fun h => ⟨h.enabled, h.registered, h.connected⟩, fun h => ⟨h.1, h.2.1, h.2.2⟩⟩

instance (host : Host Factory Plugin) (world : World Handler) :
    DecidablePred (host.Ready world) :=
  fun _ => decidable_of_iff _ ready_iff.symm

instance (host : Host Factory Plugin) (world : World Handler) :
    DecidablePred (host.Lacks world) :=
  fun record => inferInstanceAs (Decidable (record.enabled = true ∧ ¬host.Ready world record))

/-- Of the world, only the connected accounts matter. -/
theorem ready_congr (h : after.recordOf = world.recordOf) :
    host.Ready after = host.Ready world := by
  funext record
  rw [eq_iff_iff, ready_iff, ready_iff, h]

theorem lacks_congr (h : after.recordOf = world.recordOf) :
    host.Lacks after = host.Lacks world := by
  funext record
  rw [Lacks, Lacks, ready_congr h]

/-- A record is written as disabled unless the store refuses. -/
def retiring (Handler : Type) : Effort Handler PluginRecord where
  keyOf := PluginRecord.id
  find? world := world.store.plugins.find?
  occurrence record := .store (.updatePlugin { record with enabled := false })
  log := World.pluginWrites
  fails environment past record :=
    (environment.refuse past (.updatePlugin { record with enabled := false })).isSome
  outcome record := { record with enabled := false }

/-- Everything that can come of one record. -/
inductive LoadStep (performers : Performers Handler Factory Plugin) (host : Host Factory Plugin)
    (record : PluginRecord) (world : World Handler) :
    Option (LoadedPlugin Plugin) → World Handler → Prop where
  | passed : record.enabled = false → LoadStep performers host record world none world
  | made {plugin : PluginType Factory} {made : Plugin} {after : World Handler} :
      host.Ready world record → host.registry.find? record.pluginType = some plugin →
      performers.plugins.create plugin record (host.sectionOf record.id) world = .ok made after →
      LoadStep performers host record world (some ⟨record, made, false, none⟩) after
  | retired {after : World Handler} :
      host.Lacks world record → disable record world = .ok () after →
      LoadStep performers host record world none after

theorem loadPlugin_step {record : PluginRecord} {loaded : Option (LoadedPlugin Plugin)}
    (h : host.loadPlugin performers record world = .ok loaded after) :
    LoadStep performers host record world loaded after := by
  unfold loadPlugin at h
  cases henabled : record.enabled with
  | false =>
      simp only [henabled] at h
      cases h
      exact .passed henabled
  | true =>
      simp only [henabled] at h
      obtain ⟨seen, same, hget, h⟩ := Act.bind_eq_ok.mp h
      cases hget
      cases hplugin : host.registry.find? record.pluginType with
      | none =>
          simp only [hplugin] at h
          obtain ⟨⟨⟩, reached, hdisable, h⟩ := Act.bind_eq_ok.mp h
          cases h
          refine .retired ⟨henabled, fun hready => ?_⟩ hdisable
          simpa [hplugin] using hready.registered
      | some plugin =>
          simp only [hplugin] at h
          split at h
          · rename_i hconnected
            obtain ⟨made, reached, hcreate, h⟩ := Act.bind_eq_ok.mp h
            cases h
            exact .made ⟨henabled, by rw [hplugin]; rfl, hconnected⟩ hplugin hcreate
          · rename_i hmissing
            obtain ⟨⟨⟩, reached, hdisable, h⟩ := Act.bind_eq_ok.mp h
            cases h
            exact .retired ⟨henabled, fun hready => hmissing hready.connected⟩ hdisable

/-- What making instances for the listed records comes to. -/
structure Sorts (performers : Performers Handler Factory Plugin) (host : Host Factory Plugin)
    (records : List PluginRecord) (loaded : List (LoadedPlugin Plugin))
    (world after : World Handler) : Prop where
  retired : (retiring Handler).Made (records.filter (host.Lacks world ·)) world after
  recordOf : after.recordOf = world.recordOf
  connects : after.connects = world.connects
  instances : loaded.map (·.record) = records.filter (host.Ready world ·)
  made : ∀ entry ∈ loaded, host.MadeFor performers entry.record entry

theorem sorts_nil (world : World Handler) : Sorts performers host [] [] world world where
  retired := Effort.made_nil (.refl world) rfl rfl
  recordOf := rfl
  connects := rfl
  instances := rfl
  made _ hmem := absurd hmem List.not_mem_nil

/-- What comes of a record has no influence on records with other ids. -/
theorem Sorts.append {first second : List PluginRecord} {made more : List (LoadedPlugin Plugin)}
    (hfirst : Sorts performers host first made world between)
    (hsecond : Sorts performers host second more between after)
    (hapart : (first.map PluginRecord.id).Disjoint (second.map PluginRecord.id)) :
    Sorts performers host (first ++ second) (made ++ more) world after where
  retired := by
    rw [List.filter_append]
    have hretired := hsecond.retired
    simp only [lacks_congr hfirst.recordOf] at hretired
    refine hfirst.retired.append hretired ?_
    exact List.disjoint_of_subset_left (List.filter_sublist.map _).subset
      (List.disjoint_of_subset_right (List.filter_sublist.map _).subset hapart)
  recordOf := hsecond.recordOf.trans hfirst.recordOf
  connects := hsecond.connects.trans hfirst.connects
  instances := by
    rw [List.map_append, List.filter_append, hfirst.instances, hsecond.instances]
    simp only [ready_congr hfirst.recordOf]
  made := List.forall_mem_append.mpr ⟨hfirst.made, hsecond.made⟩

/-- Disabling a record is an effort for it. -/
theorem disable_made {record : PluginRecord} (h : disable record world = .ok () after) :
    (retiring Handler).Made [record] world after ∧ after.recordOf = world.recordOf ∧
      after.connects = world.connects := by
  have hmoment := List.suffix_refl world.trace
  rw [disable, Act.bind_apply, World.updatePlugin_apply] at h
  cases hrefuse : world.environment.refuse world.trace
      (.updatePlugin { record with enabled := false }) with
  | some error =>
      simp only [hrefuse] at h
      cases h
      refine ⟨Effort.made_singleton ⟨rfl, List.suffix_cons _ _⟩ ⟨hmoment, List.suffix_refl _⟩
        ?_ ?_ rfl, rfl, rfl⟩
      · exact (if_pos (by simp [retiring, hrefuse])).symm
      · exact fun _ _ => rfl
  | none =>
      simp only [hrefuse] at h
      cases h
      refine ⟨Effort.made_singleton ⟨rfl, List.suffix_cons _ _⟩ ⟨hmoment, List.suffix_refl _⟩
        ?_ ?_ rfl, rfl, rfl⟩
      · rw [if_neg (by simp [retiring, hrefuse])]
        exact (SortedMap.find?_insert _ _ _ _).trans (if_pos rfl)
      · intro key hkey
        exact (SortedMap.find?_insert _ _ _ _).trans (if_neg hkey)

/-- What comes of one record. -/
theorem LoadStep.sorts (hspares : performers.plugins.Spares) {record : PluginRecord}
    {loaded : Option (LoadedPlugin Plugin)}
    (h : LoadStep performers host record world loaded after) :
    Sorts performers host [record] loaded.toList world after := by
  cases h with
  | passed hdisabled =>
      have hready : ¬host.Ready world record := fun hready => by simp [hready.enabled] at hdisabled
      have hlacks : ¬host.Lacks world record := fun hlacks => by simp [hlacks.1] at hdisabled
      have hnone : Sorts performers host [] [] world world := sorts_nil world
      exact { hnone with
        retired := by simpa [hlacks] using hnone.retired
        instances := by simp [hready] }
  | @made plugin made _ hready hplugin hcreate =>
      have hlacks : ¬host.Lacks world record := fun hlacks => hlacks.2 hready
      constructor
      case retired =>
        rw [List.filter_cons_of_neg (by simpa using hlacks)]
        refine Effort.made_nil (hspares.leadsTo hcreate) ?_ (hspares.pluginWrites hcreate)
        simp only [retiring, hspares.plugins hcreate]
      case recordOf => exact hspares.recordOf hcreate
      case connects => exact hspares.connects hcreate
      case instances => simp [hready]
      case made =>
        intro entry hentry
        obtain rfl := List.mem_singleton.mp hentry
        exact ⟨rfl, plugin, world, after, hplugin, hcreate⟩
  | retired hlacks hdisable =>
      obtain ⟨hmade, hrecordOf, hconnects⟩ := disable_made hdisable
      constructor
      case retired =>
        rw [List.filter_cons_of_pos (by simpa using hlacks)]
        exact hmade
      case recordOf => exact hrecordOf
      case connects => exact hconnects
      case instances => simp [hlacks.2]
      case made => exact fun entry hentry => absurd hentry List.not_mem_nil

/-- Making instances for records with different ids. -/
theorem loadPlugins_sorts (hspares : performers.plugins.Spares) {records : List PluginRecord}
    {loaded : List (LoadedPlugin Plugin)} (hdistinct : (records.map PluginRecord.id).Nodup)
    (h : host.loadPlugins performers records world = .ok loaded after) :
    Sorts performers host records loaded world after := by
  induction records generalizing world loaded with
  | nil =>
      cases h
      exact sorts_nil _
  | cons record rest ih =>
      obtain ⟨hnew, hrest⟩ := List.nodup_cons.mp hdistinct
      obtain ⟨first, between, hfirst, h⟩ := Act.bind_eq_ok.mp h
      obtain ⟨others, ended, hothers, h⟩ := Act.bind_eq_ok.mp h
      cases h
      exact ((loadPlugin_step hfirst).sorts hspares).append (ih hrest hothers)
        (List.singleton_disjoint.mpr hnew)

/-! ### One initialisation -/

/-- A first initialisation that succeeds connects the accounts and makes the instances. -/
theorem init_ok {next : Host Factory Plugin} (hnone : world.accounts.isEmpty = true)
    (h : host.init performers world = .ok (.ok (), next) after) :
    ∃ reached loaded,
      connectAll world.store.listAccounts
          { world with trace := .store .accounts :: world.trace } = .ok (.ok ()) reached ∧
        host.loadPlugins performers reached.store.listPlugins
          { reached with trace := .store .plugins :: reached.trace } = .ok loaded after ∧
        next = { host with plugins := host.plugins ++ loaded } := by
  obtain ⟨seen, same, hget, h⟩ := Act.bind_eq_ok.mp h
  cases hget
  rw [hnone, Bool.not_true, if_neg Bool.false_ne_true, Act.bind_apply,
    World.listAccounts_apply] at h
  cases hrefuse : world.environment.refuse world.trace .accounts with
  | some error =>
      simp only [hrefuse] at h
      cases h
  | none =>
      simp only [hrefuse] at h
      obtain ⟨joined, reached, hjoin, h⟩ := Act.bind_eq_ok.mp h
      rcases joined with error | ⟨⟩
      · cases h
      dsimp only at h
      rw [Act.bind_apply, World.listPlugins_apply] at h
      cases hrefuse : reached.environment.refuse reached.trace .plugins with
      | some error =>
          simp only [hrefuse] at h
          cases h
      | none =>
          simp only [hrefuse] at h
          obtain ⟨loaded, ended, hload, h⟩ := Act.bind_eq_ok.mp h
          cases h
          exact ⟨reached, loaded, hjoin, hload, rfl⟩

/-- The instances that go by an id. -/
def instancesOf (host : Host Factory Plugin) (id : String) : List (LoadedPlugin Plugin) :=
  host.plugins.filter (·.record.id = id)

/-- What an initialisation makes of what is stored. -/
structure Census (performers : Performers Handler Factory Plugin) (host next : Host Factory Plugin)
    (world after : World Handler) : Prop where
  /-- A connection is tried once for every stored account. -/
  connects : after.connects =
    (world.store.listAccounts.map fun record => .connect record.userId).reverse ++ world.connects
  /-- The account is connected with its record unless the connection is declined. -/
  accounts : ∀ record ∈ world.store.listAccounts, ∃ past,
    world.Happens after (.connect record.userId) past ∧
      after.recordOf record.userId =
        if (world.environment.decline past record).isSome then none else some record
  strangers : Connects after world.store.listAccounts
  disabled : ∀ record ∈ world.store.listPlugins, record.enabled = false →
    next.instancesOf record.id = [] ∧ after.store.plugins.find? record.id = some record ∧
      ∃ since, after.pluginWrites = since ++ world.pluginWrites ∧
        ∀ written, .store (.updatePlugin written) ∈ since → written.id ≠ record.id
  /-- A record that is enabled and has its type and its account gets one instance, which works on
  that account under the id of the record, and which was made from the section of that id. -/
  instantiated : ∀ record ∈ world.store.listPlugins, host.Ready after record →
    ∃ loaded account, next.instancesOf record.id = [loaded] ∧
      host.MadeFor performers record loaded ∧
      after.recordOf record.userId = some account ∧
      loaded.record.scope = (account.userId, record.id) ∧
      after.store.plugins.find? record.id = some record
  /-- Any other enabled record gets no instance, and it is stored as disabled and else as it was
  unless the store refuses to write it. -/
  retired : ∀ record ∈ world.store.listPlugins, host.Lacks after record →
    next.instancesOf record.id = [] ∧
      ∃ past, world.Happens after (.store (.updatePlugin { record with enabled := false })) past ∧
        after.store.plugins.find? record.id =
          if (world.environment.refuse past
            (.updatePlugin { record with enabled := false })).isSome then some record
          else some { record with enabled := false }
  /-- These records are written once each, and no other record is. -/
  writes : after.pluginWrites =
    ((world.store.listPlugins.filter (host.Lacks after ·)).map fun record =>
      .store (.updatePlugin { record with enabled := false })).reverse ++ world.pluginWrites
  others : ∀ loaded ∈ next.plugins, loaded.record ∈ world.store.listPlugins

section Sorted

variable {next : Host Factory Plugin} (hkeyed : world.store.Keyed)
  (hinstances : next.plugins.map (·.record) = world.store.listPlugins.filter (host.Ready after ·))
include hkeyed hinstances

/-- Under the id of a stored record, there is one instance if the record is ready, and else none. -/
theorem instancesOf_record {record : PluginRecord} (hmem : record ∈ world.store.listPlugins) :
    (next.instancesOf record.id).map (·.record) = [record].filter (host.Ready after ·) := by
  have hfound : world.store.listPlugins.filter (·.id = record.id) = [record] := by
    rw [Store.listPlugins, hkeyed.plugins.filter_values, hkeyed.plugins.find?_of_mem hmem,
      Option.toList_some]
  calc (next.instancesOf record.id).map (·.record)
    _ = (next.plugins.map (·.record)).filter (·.id = record.id) := by
      rw [instancesOf, List.filter_map]
      rfl
    _ = (world.store.listPlugins.filter (·.id = record.id)).filter (host.Ready after ·) := by
      rw [hinstances, List.filter_comm]
    _ = [record].filter (host.Ready after ·) := by rw [hfound]

theorem instancesOf_of_not_ready {record : PluginRecord}
    (hmem : record ∈ world.store.listPlugins) (hnot : ¬host.Ready after record) :
    next.instancesOf record.id = [] := by
  have hrecords := instancesOf_record hkeyed hinstances hmem
  rw [List.filter_cons_of_neg (by simpa using hnot)] at hrecords
  exact List.map_eq_nil_iff.mp hrecords

theorem instancesOf_of_ready {record : PluginRecord} (hmem : record ∈ world.store.listPlugins)
    (hready : host.Ready after record) :
    ∃ loaded, next.instancesOf record.id = [loaded] ∧ loaded.record = record ∧
      loaded ∈ next.plugins := by
  have hrecords := instancesOf_record hkeyed hinstances hmem
  rw [List.filter_cons_of_pos (by simpa using hready)] at hrecords
  obtain ⟨loaded, hloaded, hrecord⟩ := List.map_eq_singleton_iff.mp hrecords
  have hfound : loaded ∈ next.instancesOf record.id := by simp [hloaded]
  exact ⟨loaded, hloaded, hrecord, (List.mem_filter.mp hfound).1⟩

end Sorted

section Spared

variable {record : PluginRecord} (hkeyed : world.store.Keyed)
  (hmem : record ∈ world.store.listPlugins) (hnot : ¬host.Lacks after record)
include hkeyed hmem hnot

/-- The records that lack something have other ids than one that does not. -/
theorem id_ne_of_lacks :
    ∀ other ∈ world.store.listPlugins.filter (host.Lacks after ·), other.id ≠ record.id := by
  intro other hother hid
  obtain ⟨hother, hlacks⟩ := List.mem_filter.mp hother
  obtain rfl := hkeyed.plugins.eq_of_key_eq hother hmem hid
  exact hnot (by simpa using hlacks)

variable (hretired :
  (retiring Handler).Made (world.store.listPlugins.filter (host.Lacks after ·)) world after)
include hretired

/-- So a record that lacks nothing is stored as before. -/
theorem stored_of_not_lacks : after.store.plugins.find? record.id = some record := by
  refine (hretired.others record.id fun hkey => ?_).trans (hkeyed.plugins.find?_of_mem hmem)
  obtain ⟨other, hother, hid⟩ := List.mem_map.mp hkey
  exact id_ne_of_lacks hkeyed hmem hnot other hother hid

/-- And it has not been written. -/
theorem unwritten_of_not_lacks :
    ∃ since, after.pluginWrites = since ++ world.pluginWrites ∧
      ∀ written, .store (.updatePlugin written) ∈ since → written.id ≠ record.id := by
  refine ⟨_, hretired.log, fun written hwritten => ?_⟩
  obtain ⟨other, hother, hsame⟩ := List.mem_map.mp (List.mem_reverse.mp hwritten)
  cases hsame
  exact id_ne_of_lacks hkeyed hmem hnot other hother

end Spared

/-- A first initialisation that succeeds makes both efforts, and the instances of the records that
are ready in the end. -/
theorem init_made {next : Host Factory Plugin} (hspares : performers.plugins.Spares)
    (hkeyed : world.store.Keyed) (hfresh : host.plugins = [])
    (hnone : world.accounts.isEmpty = true)
    (h : host.init performers world = .ok (.ok (), next) after) :
    (connecting Handler).Made world.store.listAccounts world after ∧
      (retiring Handler).Made (world.store.listPlugins.filter (host.Lacks after ·)) world after ∧
      next.plugins.map (·.record) = world.store.listPlugins.filter (host.Ready after ·) ∧
      ∀ entry ∈ next.plugins, host.MadeFor performers entry.record entry := by
  obtain ⟨reached, loaded, hconnect, hload, rfl⟩ := init_ok hnone h
  have hstore : reached.store = world.store := (connectAll_store hconnect).trans rfl
  have hplugins : reached.store.listPlugins = world.store.listPlugins := by rw [hstore]
  rw [hplugins] at hload
  -- The way leads over listing the accounts, connecting them, and listing the instances.
  have hlisted := World.leadsTo_note (.store .accounts) world
  obtain ⟨hjoined, hunwritten⟩ := connectAll_made hkeyed.accounts.nodup hconnect
  have hfound := World.leadsTo_note (.store .plugins) reached
  have hsorts := loadPlugins_sorts hspares hkeyed.plugins.nodup hload
  have hrecordOf := hsorts.recordOf
  rw [hfresh, List.nil_append]
  refine ⟨?_, ?_, ?_, hsorts.made⟩
  · exact (hjoined.before hlisted rfl rfl).afterwards (hfound.trans hsorts.retired.leadsTo)
      hrecordOf hsorts.connects
  · have hretired := hsorts.retired
    simp only [← lacks_congr hrecordOf] at hretired
    refine hretired.before ((hlisted.trans hjoined.leadsTo).trans hfound) ?_ hunwritten
    simp only [retiring, hstore]
  · simp only [ready_congr hrecordOf]
    exact hsorts.instances

/-- Whatever is stored, whatever plugin types are registered and whichever connections are declined:
the first initialisation that succeeds connects every stored account whose connection is not
declined, leaves the disabled plugin records alone, makes one instance for every enabled record that
has its type and its account, and writes all others as disabled. -/
theorem init_census {next : Host Factory Plugin} (hspares : performers.plugins.Spares)
    (hkeyed : world.store.Keyed) (hfresh : host.plugins = [])
    (hnone : world.accounts.isEmpty = true)
    (h : host.init performers world = .ok (.ok (), next) after) :
    Census performers host next world after := by
  obtain ⟨hconnected, hretired, hinstances, hmade⟩ := init_made hspares hkeyed hfresh hnone h
  have hvacant (userId : String) : world.recordOf userId = none := by
    rw [World.recordOf, Option.map_eq_none_iff, ← Option.not_isSome_iff_eq_none]
    exact World.not_hasAccount_of_isEmpty hnone userId
  have hconnects := connects_of_vacant hconnected hvacant
  constructor
  case connects => exact hconnected.log
  case accounts => exact fun record hmem => connecting_vacant hconnected hvacant hmem
  case strangers => exact hconnects
  case disabled =>
    intro record hmem hdisabled
    have hnot : ¬host.Ready after record := fun hready => by simp [hready.enabled] at hdisabled
    have hlacks : ¬host.Lacks after record := fun hlacks => by simp [hlacks.1] at hdisabled
    exact ⟨instancesOf_of_not_ready hkeyed hinstances hmem hnot,
      stored_of_not_lacks hkeyed hmem hlacks hretired,
      unwritten_of_not_lacks hkeyed hmem hlacks hretired⟩
  case instantiated =>
    intro record hmem hready
    obtain ⟨loaded, hloaded, rfl, hentry⟩ := instancesOf_of_ready hkeyed hinstances hmem hready
    obtain ⟨account, haccount⟩ := Option.isSome_iff_exists.mp (ready_iff.mp hready).2.2
    have hlacks : ¬host.Lacks after loaded.record := fun hlacks => hlacks.2 hready
    refine ⟨loaded, account, hloaded, hmade loaded hentry, haccount, ?_,
      stored_of_not_lacks hkeyed hmem hlacks hretired⟩
    rw [(hconnects _ account haccount).1]
    rfl
  case retired =>
    intro record hmem hlacks
    obtain ⟨past, hhappens, hfound⟩ := hretired.each record (by simpa using ⟨hmem, hlacks⟩)
    refine ⟨instancesOf_of_not_ready hkeyed hinstances hmem hlacks.2, past, hhappens, ?_⟩
    rw [← hkeyed.plugins.find?_of_mem hmem]
    exact hfound
  case writes => exact hretired.log
  case others =>
    intro loaded hloaded
    have hrecord : loaded.record ∈ next.plugins.map (·.record) := List.mem_map_of_mem hloaded
    rw [hinstances] at hrecord
    exact (List.mem_filter.mp hrecord).1

end Host

/-! ### Echo bots -/

/-- Plugin types that at most put something on record when they make an instance. -/
theorem PluginBehaviour.spares_of_remarks {Handler Factory Plugin : Type}
    {behaviour : PluginBehaviour Handler Factory Plugin}
    (h : ∀ {plugin record settings made} {world after : World Handler},
      behaviour.create plugin record settings world = .ok made after →
        ∃ remarks : List Json,
          after = { world with trace := remarks.map .remark ++ world.trace }) :
    behaviour.Spares where
  leadsTo hcreate := by
    obtain ⟨remarks, rfl⟩ := h hcreate
    exact ⟨rfl, List.suffix_append _ _⟩
  recordOf hcreate := by
    obtain ⟨remarks, rfl⟩ := h hcreate
    rfl
  plugins hcreate := by
    obtain ⟨remarks, rfl⟩ := h hcreate
    rfl
  connects hcreate := by
    obtain ⟨remarks, rfl⟩ := h hcreate
    rw [World.connects, List.filter_append,
      List.filter_eq_nil_iff.mpr (by simp [Occurrence.isConnect])]
    rfl
  pluginWrites hcreate := by
    obtain ⟨remarks, rfl⟩ := h hcreate
    rw [World.pluginWrites, List.filter_append,
      List.filter_eq_nil_iff.mpr (by simp [Occurrence.isPluginWrite])]
    rfl

namespace Echo

/-- Making an echo bot at most puts on record that its section is unfit. -/
theorem performers_spares : performers.plugins.Spares := by
  refine PluginBehaviour.spares_of_remarks fun {_ record settings made world after} hcreate => ?_
  change create record settings world = .ok made after at hcreate
  unfold create at hcreate
  cases hmark : markOf? settings with
  | some mark =>
      simp only [hmark] at hcreate
      cases hcreate
      exact ⟨[], rfl⟩
  | none =>
      simp only [hmark] at hcreate
      obtain ⟨_, told, htell, hcreate⟩ := Act.bind_eq_ok.mp hcreate
      cases htell
      cases hcreate
      exact ⟨[_], rfl⟩

/-- Surroundings in which one account cannot be connected and one plugin record not written. -/
def grudging : Environment where
  decline _ record :=
    if record.userId = "@away:hs" then some (.connectionFailed "https://hs" "reset") else none
  respond _ _ _ := .failure (.connectionFailed "https://hs" "reset")
  refuse _ call :=
    match call with
    | .updatePlugin record => if record.id = "stuck" then some (.backend "busy") else none
    | _ => none

/-- Two accounts, and plugin records for every case. -/
def enrolled : World EchoHandler :=
  .initial grudging (.ofRecords
    [.new "@away:hs" "https://hs" "token", .new "@bot:hs" "https://hs" "token"]
    [⟨"bell", "echo", true, "@bot:hs"⟩, ⟨"echo", "echo", true, "@bot:hs"⟩,
      ⟨"idle", "echo", false, "@bot:hs"⟩, ⟨"lost", "unknown", true, "@bot:hs"⟩,
      ⟨"remote", "echo", true, "@away:hs"⟩, ⟨"stuck", "unknown", true, "@bot:hs"⟩])

/-- A configuration with a section for one of the bots. -/
def marked : Configuration :=
  { Configuration.default with
    pluginSections := SortedMap.empty.insert "bell" (.object [("prefix", .string "?")]) }

/-- Two of the records get instances, one of them with the mark of its section.  Of the others, one
is stored as disabled as before, two are stored as disabled from now on, and the last one cannot be
written. -/
theorem init_census_of_enrolled :
    ∃ host next after, Echo.host marked = .ok host ∧
      host.init performers enrolled = .ok (.ok (), next) after ∧
      next.plugins.map (·.plugin) = [⟨"bell", "@bot:hs", "?"⟩, ⟨"echo", "@bot:hs", "!"⟩] ∧
      after.store.listPlugins.map (fun record => (record.id, record.enabled)) =
        [("bell", true), ("echo", true), ("idle", false), ("lost", false), ("remote", false),
          ("stuck", true)] ∧
      Host.Census performers host next enrolled after :=
  ⟨_, _, _, rfl, rfl, rfl, by decide +kernel,
    Host.init_census performers_spares (Store.keyed_ofRecords _ _) rfl rfl rfl⟩

end Echo

end BotHost
