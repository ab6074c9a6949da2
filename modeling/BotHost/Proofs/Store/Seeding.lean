/-
# What a host begins with

The accounts and plugin instances of a configuration are put into an empty store one after the
other.  The rules for a configuration go through the same lists with the keys they have seen so far,
and accept no key twice.  So what is accepted is stored as it is, by ascending key, and a
configuration in which one record would be put in the place of another is refused,
`Configuration.check_seeds`.
-/

import BotHost.Configuration.Validation
import BotHost.Proofs.Store.Tables

namespace BotHost

/-! ### Verdicts -/

namespace Verdict

variable {first second : Verdict}

/-- Rules that are checked one after the other hold together. -/
theorem bind_eq_ok_iff :
    (do first; second : Verdict) = .ok () ↔ first = .ok () ∧ second = .ok () := by
  cases first with
  | ok => simp [bind, Except.bind]
  | error error => simp [bind, Except.bind]

theorem require_eq_ok_iff {condition : Bool} {error : ConfigurationError} :
    require condition error = .ok () ↔ condition = true := by
  cases condition <;> simp [require]

/-- What is not accepted is refused with an error. -/
theorem exists_error (h : first ≠ .ok ()) : ∃ error, first = .error error := by
  cases first with
  | ok => exact absurd rfl h
  | error error => exact ⟨error, rfl⟩

end Verdict

/-! ### Keys that are met for the first time -/

/-- None of the keys has been seen before, nor is one of them met twice. -/
structure Unseen (seen keys : List String) : Prop where
  fresh : ∀ key ∈ keys, key ∉ seen
  nodup : keys.Nodup

theorem unseen_nil (seen : List String) : Unseen seen [] := ⟨by simp, .nil⟩

theorem unseen_cons_iff {seen keys : List String} {key : String} :
    Unseen seen (key :: keys) ↔ key ∉ seen ∧ Unseen (key :: seen) keys := by
  constructor
  · rintro ⟨hfresh, hnodup⟩
    obtain ⟨hnew, hkeys⟩ := List.nodup_cons.mp hnodup
    obtain ⟨hkey, hrest⟩ := List.forall_mem_cons.mp hfresh
    refine ⟨hkey, fun other hother hmem => ?_, hkeys⟩
    rcases List.mem_cons.mp hmem with rfl | hmem
    · exact hnew hother
    · exact hrest other hother hmem
  · rintro ⟨hkey, hfresh, hkeys⟩
    refine ⟨List.forall_mem_cons.mpr ⟨hkey, fun other hother hmem => ?_⟩,
      List.nodup_cons.mpr ⟨fun hmem => ?_, hkeys⟩⟩
    · exact hfresh other hother (List.mem_cons_of_mem _ hmem)
    · exact hfresh key hmem List.mem_cons_self

/-- A list of accounts is accepted exactly if each of them is, and no user id is met twice. -/
theorem AccountRecord.checkAll_eq_ok_iff {seen : List String} {records : List AccountRecord} :
    checkAll seen records = .ok () ↔
      Unseen seen (records.map AccountRecord.userId) ∧
        ∀ record ∈ records, record.check = .ok () := by
  induction records generalizing seen with
  | nil => simp [checkAll, unseen_nil]
  | cons record rest ih =>
      rw [checkAll, Verdict.bind_eq_ok_iff, Verdict.bind_eq_ok_iff, Verdict.require_eq_ok_iff, ih,
        List.map_cons, unseen_cons_iff, List.forall_mem_cons]
      simp only [Bool.not_eq_true', List.contains_eq_mem, decide_eq_false_iff_not]
      rw [and_and_and_comm, and_assoc]

/-- A list of plugin instances is accepted exactly if each of them has an id and a type, and no id
is met twice. -/
theorem PluginRecord.checkAll_eq_ok_iff {seen : List String} {records : List PluginRecord} :
    checkAll seen records = .ok () ↔
      Unseen seen (records.map PluginRecord.id) ∧
        ∀ record ∈ records, record.id ≠ "" ∧ record.pluginType ≠ "" := by
  induction records generalizing seen with
  | nil => simp [checkAll, unseen_nil]
  | cons record rest ih =>
      rw [checkAll, Verdict.bind_eq_ok_iff, Verdict.bind_eq_ok_iff, Verdict.bind_eq_ok_iff,
        Verdict.require_eq_ok_iff, Verdict.require_eq_ok_iff, Verdict.require_eq_ok_iff, ih,
        List.map_cons, unseen_cons_iff, List.forall_mem_cons]
      simp only [Bool.not_eq_true', List.contains_eq_mem, decide_eq_false_iff_not, bne_iff_ne]
      exact ⟨fun ⟨hid, htype, hfresh, hunseen, hrest⟩ => ⟨⟨hfresh, hunseen⟩, ⟨hid, htype⟩, hrest⟩,
        fun ⟨⟨hfresh, hunseen⟩, ⟨hid, htype⟩, hrest⟩ => ⟨hid, htype, hfresh, hunseen, hrest⟩⟩

namespace Configuration

variable {configuration : Configuration}

/-- In a configuration that is accepted, no two accounts and no two plugin instances share an id. -/
theorem nodup_of_check (h : configuration.check = .ok ()) :
    (configuration.accounts.map AccountRecord.userId).Nodup ∧
      (configuration.plugins.map PluginRecord.id).Nodup := by
  simp only [check, Verdict.bind_eq_ok_iff] at h
  obtain ⟨-, -, haccounts, hplugins⟩ := h
  exact ⟨(AccountRecord.checkAll_eq_ok_iff.mp haccounts).1.nodup,
    (PluginRecord.checkAll_eq_ok_iff.mp hplugins).1.nodup⟩

/-- The store that a host with a configuration begins with. -/
def seeded (configuration : Configuration) : Store :=
  .ofRecords configuration.accounts configuration.plugins

/-- While this store is filled, an account or a plugin instance is put where another one is. -/
def Overwrites (configuration : Configuration) : Prop :=
  SortedMap.Overwrites AccountRecord.userId configuration.accounts ∨
    SortedMap.Overwrites PluginRecord.id configuration.plugins

/-- The store lists its accounts and its plugin instances by ascending key. -/
theorem ascending_seeded (configuration : Configuration) :
    (configuration.seeded.listAccounts.Pairwise fun first second =>
      KeyOrder.precedes first.userId second.userId = true) ∧
      configuration.seeded.listPlugins.Pairwise fun first second =>
        KeyOrder.precedes first.id second.id = true :=
  have hkeyed := Store.keyed_ofRecords configuration.accounts configuration.plugins
  ⟨hkeyed.accounts.ascending, hkeyed.plugins.ascending⟩

/-- The store holds the configured records, each as often as it is configured, exactly if nothing is
overwritten. -/
theorem perm_seeded_iff :
    configuration.seeded.listAccounts.Perm configuration.accounts ∧
      configuration.seeded.listPlugins.Perm configuration.plugins ↔ ¬ configuration.Overwrites := by
  rw [Overwrites, SortedMap.overwrites_iff, SortedMap.overwrites_iff, not_or, Decidable.not_not,
    Decidable.not_not]
  exact and_congr SortedMap.perm_values_ofList_iff SortedMap.perm_values_ofList_iff

/-- A configuration that is accepted is stored without a loss: the store holds exactly its accounts
and plugin instances, by ascending user id and by ascending id.  A configuration in which a record
would be overwritten is refused. -/
theorem check_seeds (configuration : Configuration) :
    (configuration.check = .ok () →
      (configuration.seeded.listAccounts.Perm configuration.accounts ∧
        configuration.seeded.listAccounts.Pairwise fun first second =>
          KeyOrder.precedes first.userId second.userId = true) ∧
      configuration.seeded.listPlugins.Perm configuration.plugins ∧
        configuration.seeded.listPlugins.Pairwise fun first second =>
          KeyOrder.precedes first.id second.id = true) ∧
    (configuration.Overwrites → ∃ error, configuration.check = .error error) := by
  have hnone (h : configuration.check = .ok ()) : ¬ configuration.Overwrites := by
    obtain ⟨haccounts, hplugins⟩ := nodup_of_check h
    rw [Overwrites, SortedMap.overwrites_iff, SortedMap.overwrites_iff]
    exact not_or.mpr ⟨not_not_intro haccounts, not_not_intro hplugins⟩
  constructor
  · intro h
    obtain ⟨haccounts, hplugins⟩ := perm_seeded_iff.mpr (hnone h)
    obtain ⟨hbyUserId, hbyId⟩ := configuration.ascending_seeded
    exact ⟨⟨haccounts, hbyUserId⟩, hplugins, hbyId⟩
  · intro hoverwrites
    exact Verdict.exists_error fun h => hnone h hoverwrites

/-- Two accounts and two plugin instances, listed against the order of their keys. -/
def crew : Configuration :=
  { Configuration.default with
    accounts := [.new "@b:hs" "https://hs" "t", .new "@a:hs" "https://hs" "t"]
    plugins := [⟨"ping", "echo", true, "@a:hs"⟩, ⟨"echo", "echo", true, "@b:hs"⟩] }

/-- One more plugin instance, with the id of the first one. -/
def crowded : Configuration :=
  { crew with plugins := crew.plugins ++ [⟨"ping", "greeter", false, "@b:hs"⟩] }

/-- The two accounts and the two instances are stored in the order of their keys.  With the third
instance the first one would be lost, and the configuration is refused. -/
theorem check_seeds_crew :
    crew.check = .ok () ∧
      (crew.seeded.listAccounts.Perm crew.accounts ∧
        crew.seeded.listAccounts.map AccountRecord.userId = ["@a:hs", "@b:hs"]) ∧
      (crew.seeded.listPlugins.Perm crew.plugins ∧
        crew.seeded.listPlugins.map PluginRecord.id = ["echo", "ping"]) ∧
      crowded.Overwrites ∧ (∃ error, crowded.check = .error error) ∧
      crowded.seeded.listPlugins.map PluginRecord.pluginType = ["echo", "greeter"] := by
  have hcheck : crew.check = .ok () := by rfl
  have hoverwrites : crowded.Overwrites :=
    .inr ⟨crew.plugins, _, [], rfl, by decide +kernel⟩
  obtain ⟨⟨haccounts, -⟩, hplugins, -⟩ := (check_seeds crew).1 hcheck
  refine ⟨hcheck, ⟨haccounts, ?_⟩, ⟨hplugins, ?_⟩, hoverwrites,
    (check_seeds crowded).2 hoverwrites, ?_⟩ <;> decide +kernel

end Configuration

end BotHost
