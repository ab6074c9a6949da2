/-
# Whatever is stated is ordered

The settings of a configuration come from values of the program, from the variables of the
environment and from the text of files.  Whatever is read from the first two lists the settings of
each table by ascending key: `Configuration.Ordered.toJson` with `Setting.ordered_ofJson`, and
`Variables.ordered_settings`.
-/

import BotHost.Configuration.Environment
import BotHost.Configuration
import BotHost.Proofs.Configuration.Settings

namespace BotHost

/-! ### JSON values -/

namespace Setting

theorem ofItems_eq_map (items : List Json) : ofItems items = items.map ofJson := by
  induction items with
  | nil => rfl
  | cons item rest ih => rw [ofItems, ih, List.map_cons]

theorem ofMembers_eq_map (members : List (String × Json)) :
    ofMembers members = members.map fun member => (member.1, ofJson member.2) := by
  induction members with
  | nil => rfl
  | cons member rest ih => rw [ofMembers, ih, List.map_cons]

/-- The setting of an ordered value is ordered. -/
theorem ordered_ofJson {value : Json} (h : value.Ordered) : (ofJson value).Ordered := by
  induction h with
  | null => exact .null
  | bool value => exact .bool value
  | number value => exact .number value
  | string value => exact .text value
  | array _ ih =>
      rw [ofJson, ofItems_eq_map]
      exact .list (List.forall_mem_map.mpr ih)
  | object hascending _ ih =>
      rw [ofJson, ofMembers_eq_map]
      exact .table (List.pairwise_map.mpr hascending) (List.forall_mem_map.mpr ih)

end Setting

theorem Json.ordered_ofText? (text : Option String) : (Json.ofText? text).Ordered := by
  cases text with
  | none => exact .null
  | some text => exact .string text

theorem SpanEvents.ordered_toJson (events : SpanEvents) : events.toJson.Ordered := by
  refine Json.ordered_ofMembers ?_
  simp [Json.Ordered.bool]

/-- Entries that ascend make an ordered object if they keep their keys and their values are
ordered. -/
theorem Json.ordered_object_map {α : Type} {entries : List (String × α)}
    {encode : String × α → String × Json} (h : Entries.Ascending entries)
    (hkey : ∀ entry, (encode entry).1 = entry.1) (hvalue : ∀ entry, (encode entry).2.Ordered) :
    (object (entries.map encode)).Ordered := by
  refine .object (List.pairwise_map.mpr (h.imp fun {first second} hbefore => ?_))
    (List.forall_mem_map.mpr fun entry _ => hvalue entry)
  rwa [hkey, hkey]

theorem LogSettings.ordered_toJson (settings : LogSettings) : settings.toJson.Ordered := by
  refine Json.ordered_ofMembers ?_
  simp only [List.forall_mem_cons]
  exact ⟨.string _, .string _, .string _, Json.ordered_ofText? _, .string _, .bool _, .bool _,
    settings.spanEvents.ordered_toJson,
    Json.ordered_object_map settings.filters.ascending (fun _ => rfl) fun _ => .string _,
    List.forall_mem_nil _⟩

theorem SyncSettings.ordered_toJson (settings : SyncSettings) : settings.toJson.Ordered := by
  refine Json.ordered_ofMembers ?_
  simp [Json.ofNat, Json.ofInt, Json.Ordered.number]

theorem AccountRecord.ordered_toJson (record : AccountRecord) : record.toJson.Ordered := by
  refine Json.ordered_ofMembers ?_
  simp [Json.Ordered.bool, Json.Ordered.string]

theorem PluginRecord.ordered_toJson (record : PluginRecord) : record.toJson.Ordered := by
  refine Json.ordered_ofMembers ?_
  simp [Json.Ordered.bool, Json.Ordered.string]

namespace Configuration

/-- The section of each plugin instance is an ordered value, as every value that has been read. -/
def Ordered (configuration : Configuration) : Prop :=
  ∀ entry ∈ configuration.pluginSections.toList, entry.2.Ordered

theorem ordered_default : default.Ordered := fun _ hmem => absurd hmem List.not_mem_nil

theorem Ordered.toJson {configuration : Configuration} (h : configuration.Ordered) :
    configuration.toJson.Ordered := by
  have haccounts : (Json.array (configuration.accounts.map AccountRecord.toJson)).Ordered :=
    .array (List.forall_mem_map.mpr fun record _ => record.ordered_toJson)
  have hplugins : (Json.array (configuration.plugins.map PluginRecord.toJson)).Ordered :=
    .array (List.forall_mem_map.mpr fun record _ => record.ordered_toJson)
  have hsections : (Json.ofMap configuration.pluginSections).Ordered :=
    .object configuration.pluginSections.ascending h
  refine Json.ordered_ofMembers ?_
  simp [haccounts, hplugins, hsections, configuration.logging.ordered_toJson,
    configuration.sync.ordered_toJson]

end Configuration

/-! ### The environment -/

namespace Setting

/-- A setting at the end of a path of keys is ordered with the tables around it. -/
theorem ordered_nested {setting : Setting} (h : setting.Ordered) (path : List String) :
    (nested path setting).Ordered := by
  induction path with
  | nil => exact h
  | cons key path ih =>
      exact .table (List.pairwise_singleton ..) (List.forall_mem_singleton.mpr ih)

/-- Listed settings make an ordered table. -/
theorem ordered_ofList {entries : List (String × Setting)}
    (h : ∀ entry ∈ entries, entry.2.Ordered) :
    (table (SortedMap.ofList entries).toList).Ordered :=
  .table (SortedMap.ofList entries).ascending fun entry hmem =>
    h entry (SortedMap.mem_of_mem_ofList hmem)

end Setting

namespace EnvironmentValue

variable {text rest : List Char} {setting : Setting}

theorem ordered_of_real? (h : real? text = some setting) : setting.Ordered := by
  simp only [real?, Option.bind_eq_bind, Option.bind_eq_some_iff] at h
  obtain ⟨_, _, h⟩ := h
  -- With a point and without one, the digits name a double or a number beyond all doubles.
  split at h <;> split at h <;> cases h <;> split <;> constructor

theorem ordered_of_whole? (h : whole? text = some setting) : setting.Ordered := by
  simp only [whole?] at h
  split at h
  · cases h
  · split at h <;> split at h <;> cases h
    · exact .number _
    · exact .rank _

theorem ordered_plain (text : List Char) : (plain text).Ordered := by
  simp only [plain]
  split
  · rename_i number hnumber
    split at hnumber
    · exact ordered_of_real? hnumber
    · cases hnumber
  · cases hwhole : whole? (Text.trim text) with
    | none => exact .text _
    | some number => exact ordered_of_whole? hwhole

/-- What is read within a bound is ordered. -/
structure ReadsOrdered (bound : Nat) : Prop where
  value : ∀ {text setting rest}, value bound text = some (setting, rest) → setting.Ordered
  items : ∀ {text settings rest}, items bound text = some (settings, rest) →
    ∀ setting ∈ settings, setting.Ordered
  entries : ∀ {text listed rest}, entries bound text = some (listed, rest) →
    ∀ entry ∈ listed, entry.2.Ordered

namespace ReadsOrdered

variable {bound : Nat} (h : ReadsOrdered bound)
include h

theorem value_succ (hread : EnvironmentValue.value (bound + 1) text = some (setting, rest)) :
    setting.Ordered := by
  simp only [EnvironmentValue.value, Option.map_eq_some_iff] at hread
  obtain ⟨⟨found, behind⟩, hfound, hread⟩ := hread
  cases hread
  -- The cases are those of the first characters.
  split at hfound
  · cases hfound
    exact .bool true
  · cases hfound
    exact .bool false
  · obtain ⟨⟨listed, _⟩, hlisted, hfound⟩ := Option.map_eq_some_iff.mp hfound
    cases hfound
    exact Setting.ordered_ofList (h.entries hlisted)
  · obtain ⟨⟨settings, _⟩, hsettings, hfound⟩ := Option.map_eq_some_iff.mp hfound
    cases hfound
    exact .list (h.items hsettings)
  · obtain ⟨⟨text, _⟩, _, hfound⟩ := Option.map_eq_some_iff.mp hfound
    cases hfound
    exact .text _
  · cases hfound
    exact .text _
  · cases hfound
  · cases hfound
    exact ordered_plain _

theorem items_succ {settings : List Setting}
    (hread : EnvironmentValue.items (bound + 1) text = some (settings, rest)) :
    ∀ setting ∈ settings, setting.Ordered := by
  simp only [EnvironmentValue.items] at hread
  split at hread
  · cases hread
    exact List.forall_mem_nil _
  · split at hread
    · rename_i item behind hitem
      obtain ⟨⟨others, _⟩, hothers, hread⟩ := Option.map_eq_some_iff.mp hread
      cases hread
      exact List.forall_mem_cons.mpr ⟨h.value hitem, h.items hothers⟩
    · rename_i item behind hitem
      cases hread
      exact List.forall_mem_singleton.mpr (h.value hitem)
    · cases hread

theorem entries_succ {listed : List (String × Setting)}
    (hread : EnvironmentValue.entries (bound + 1) text = some (listed, rest)) :
    ∀ entry ∈ listed, entry.2.Ordered := by
  simp only [EnvironmentValue.entries] at hread
  split at hread
  · cases hread
    exact List.forall_mem_nil _
  · split at hread
    · split at hread
      · rename_i item behind hitem
        obtain ⟨⟨others, _⟩, hothers, hread⟩ := Option.map_eq_some_iff.mp hread
        cases hread
        exact List.forall_mem_cons.mpr ⟨h.value hitem, h.entries hothers⟩
      · rename_i item behind hitem
        cases hread
        exact List.forall_mem_singleton.mpr (h.value hitem)
      · cases hread
    · cases hread

end ReadsOrdered

theorem readsOrdered (bound : Nat) : ReadsOrdered bound := by
  induction bound with
  | zero => exact ⟨nofun, nofun, nofun⟩
  | succ bound ih => exact ⟨ih.value_succ, ih.items_succ, ih.entries_succ⟩

/-- The setting that the text of a variable states is ordered. -/
theorem ordered_read (text : String) : (read text).Ordered := by
  simp only [read]
  split
  · rename_i setting hvalue
    exact (readsOrdered _).value hvalue
  · exact .text text

end EnvironmentValue

namespace Variables

theorem ordered_of_setting? {name text : String} {setting : Setting}
    (h : setting? name text = some setting) : setting.Ordered := by
  obtain ⟨rest, _, h⟩ := Option.bind_eq_some_iff.mp h
  split at h
  · rename_i entries hnested
    cases h
    rw [← hnested]
    exact Setting.ordered_nested (EnvironmentValue.ordered_read text) _
  · cases h

/-- What the variables state together is ordered. -/
theorem ordered_settings (environment : Variables) : environment.settings.Ordered := by
  refine Setting.ordered_layered fun layer hmem => ?_
  obtain ⟨⟨name, text⟩, _, hlayer⟩ := List.mem_filterMap.mp hmem
  exact ordered_of_setting? hlayer

end Variables

end BotHost
