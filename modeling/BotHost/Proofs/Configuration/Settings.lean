/-
# Settings that are laid over one another

A setting decides a path if it states something there, or something on the way there that is no
table and so ends the path, `Setting.Decides`.  Of several settings that are laid over one another,
the topmost that decides a path decides what stands there, `Setting.at?_layered`: what it states
itself, but for the entries of a table, which are laid over those of a table below.

Tables are searched by key, so the settings of a table must have different keys.  They ascend by key
in every setting that is `Ordered`, and laying ordered settings over one another keeps them so.
-/

import BotHost.Proofs.Json.Documents
import BotHost.Setting

namespace BotHost

/-- What is true of all values and of a new one stays true when that is put under a key. -/
theorem Entries.forall_mem_insert {α : Type} {P : α → Prop} {key : String} {value : α}
    {entries : List (String × α)} (hascending : Ascending entries)
    (hentries : ∀ entry ∈ entries, P entry.2) (hvalue : P value) :
    ∀ entry ∈ insert key value entries, P entry.2 := by
  rintro ⟨sought, found⟩ hmem
  rw [mem_iff_find? (ascending_insert hascending), find?_insert] at hmem
  split at hmem
  · cases hmem
    exact hvalue
  · exact hentries _ ((mem_iff_find? hascending sought found).mpr hmem)

namespace Setting

/-! ### Ordered settings -/

/-- Every table in a setting lists its settings by ascending key. -/
inductive Ordered : Setting → Prop where
  | null : Ordered null
  | bool (value : Bool) : Ordered (bool value)
  | number (value : Number) : Ordered (number value)
  | rank (value : Nat) : Ordered (rank value)
  | boundless : Ordered boundless
  | text (value : String) : Ordered (text value)
  | list {items : List Setting} : (∀ item ∈ items, item.Ordered) → Ordered (list items)
  | table {entries : List (String × Setting)} : Entries.Ascending entries →
      (∀ entry ∈ entries, entry.2.Ordered) → Ordered (table entries)

/-- Whether a setting is a table. -/
def isTable : Setting → Bool
  | table _ => true
  | _ => false

variable {lower upper setting : Setting} {below entries rest : List (String × Setting)}
  {key : String} {path : List String}

theorem ordered_empty : empty.Ordered := .table .nil (by simp)

/-- What is not a table replaces what lies below it, and is replaced by what lies above it. -/
theorem cover_eq_upper (h : lower.isTable = false ∨ upper.isTable = false) :
    lower.cover upper = upper := by
  cases upper with
  | table entries =>
      cases lower with
      | table below => simp [isTable] at h
      | _ => rfl
  | _ => rw [cover]; exact nofun

theorem cover_table : (table below).cover (table entries) = table (coverEntries below entries) := by
  rw [cover]

/-- A setting laid over what stands at the same place, if anything does. -/
def onto (found : Option Setting) (setting : Setting) : Setting :=
  (found.map fun lower => lower.cover setting).getD setting

@[simp] theorem onto_none (setting : Setting) : onto none setting = setting := rfl

@[simp] theorem onto_some (lower setting : Setting) :
    onto (some lower) setting = lower.cover setting := rfl

/-- Where nothing stands below, a setting stays what it is. -/
theorem map_onto_none (found : Option Setting) : found.map (onto none) = found := by
  cases found <;> rfl

theorem coverEntries_cons : coverEntries below ((key, setting) :: rest) =
    coverEntries (Entries.insert key (onto (Entries.find? key below) setting) below) rest := by
  rw [coverEntries, onto]
  cases Entries.find? key below <;> rfl

/-- A table stays ordered if an ordered setting is put under a key. -/
theorem Ordered.insert (h : (Setting.table entries).Ordered) (hsetting : setting.Ordered) :
    (Setting.table (Entries.insert key setting entries)).Ordered := by
  cases h with
  | table hascending hentries =>
      exact .table (Entries.ascending_insert hascending)
        (Entries.forall_mem_insert hascending hentries hsetting)

theorem Ordered.nodup_keys (h : (Setting.table entries).Ordered) :
    (entries.map Prod.fst).Nodup := by
  cases h with
  | table hascending _ => exact hascending.nodup_keys

theorem Ordered.of_find? (h : (Setting.table entries).Ordered)
    (hfound : Entries.find? key entries = some setting) : setting.Ordered := by
  cases h with
  | table hascending hentries =>
      exact hentries _ ((Entries.mem_iff_find? hascending key setting).mpr hfound)

/-- A table stays ordered if entries are laid over it that keep other settings ordered. -/
theorem ordered_coverEntries
    (hcover : ∀ entry ∈ entries, ∀ lower : Setting, lower.Ordered → (lower.cover entry.2).Ordered)
    (hentries : ∀ entry ∈ entries, entry.2.Ordered) (hbelow : (table below).Ordered) :
    (table (coverEntries below entries)).Ordered := by
  induction entries generalizing below with
  | nil => rwa [coverEntries]
  | cons head rest ih =>
      obtain ⟨key, setting⟩ := head
      obtain ⟨hhead, hrest⟩ := List.forall_mem_cons.mp hentries
      obtain ⟨hcoverHead, hcoverRest⟩ := List.forall_mem_cons.mp hcover
      have honto : (onto (Entries.find? key below) setting).Ordered := by
        cases hfound : Entries.find? key below with
        | none => exact hhead
        | some lower => exact hcoverHead lower (hbelow.of_find? hfound)
      rw [coverEntries_cons]
      exact ih hcoverRest hrest (hbelow.insert honto)

/-- Laying an ordered setting over another one gives an ordered setting. -/
theorem ordered_cover (h : upper.Ordered) (hlower : lower.Ordered) :
    (lower.cover upper).Ordered := by
  induction h generalizing lower with
  | @table entries hascending hentries ih =>
      cases lower with
      | table below =>
          rw [cover_table]
          exact ordered_coverEntries (fun entry hmem lower hordered => ih entry hmem hordered)
            hentries hlower
      | _ =>
          rw [cover_eq_upper (.inl rfl)]
          exact .table hascending hentries
  | list hitems =>
      rw [cover_eq_upper (.inr rfl)]
      exact .list hitems
  | _ =>
      rw [cover_eq_upper (.inr rfl)]
      constructor

/-- Ordered settings that are laid over one another give an ordered setting. -/
theorem ordered_layered {layers : List Setting} (h : ∀ layer ∈ layers, layer.Ordered) :
    (layered layers).Ordered := by
  have hfold : ∀ (layers : List Setting) (lower : Setting), lower.Ordered →
      (∀ layer ∈ layers, layer.Ordered) → (layers.foldl cover lower).Ordered := by
    intro layers
    induction layers with
    | nil => exact fun lower hlower _ => hlower
    | cons layer rest ih =>
        intro lower hlower hlayers
        obtain ⟨hlayer, hrest⟩ := List.forall_mem_cons.mp hlayers
        exact ih _ (ordered_cover hlayer hlower) hrest
  exact hfold layers empty ordered_empty h

/-! ### Paths -/

/-- A setting decides a path if it states something there, or something on the way there that is no
table. -/
def Decides (setting : Setting) (path : List String) : Prop :=
  (∃ stated, setting.at? path = some stated) ∨
    ∃ front stated, front <+: path ∧ setting.at? front = some stated ∧ stated.isTable = false

theorem decides_nil (setting : Setting) : setting.Decides [] := .inl ⟨setting, rfl⟩

theorem decides_of_not_isTable (h : setting.isTable = false) (path : List String) :
    setting.Decides path :=
  .inr ⟨[], setting, List.nil_prefix, rfl, h⟩

/-- A table decides a path with the setting under its first key. -/
theorem decides_table_iff : (table entries).Decides (key :: path) ↔
    ∃ setting, Entries.find? key entries = some setting ∧ setting.Decides path := by
  constructor
  · rintro (⟨stated, hstated⟩ | ⟨front, stated, hfront, hstated, hvalue⟩)
    · obtain ⟨setting, hfound, hrest⟩ := Option.bind_eq_some_iff.mp hstated
      exact ⟨setting, hfound, .inl ⟨stated, hrest⟩⟩
    · rcases List.prefix_cons_iff.mp hfront with rfl | ⟨behind, rfl, hbehind⟩
      · cases hstated
        cases hvalue
      · obtain ⟨setting, hfound, hrest⟩ := Option.bind_eq_some_iff.mp hstated
        exact ⟨setting, hfound, .inr ⟨behind, stated, hbehind, hrest, hvalue⟩⟩
  · rintro ⟨setting, hfound, ⟨stated, hstated⟩ | ⟨front, stated, hfront, hstated, hvalue⟩⟩
    · exact .inl ⟨stated, Option.bind_eq_some_iff.mpr ⟨setting, hfound, hstated⟩⟩
    · exact .inr ⟨key :: front, stated, List.cons_prefix_cons.mpr ⟨rfl, hfront⟩,
        Option.bind_eq_some_iff.mpr ⟨setting, hfound, hstated⟩, hvalue⟩

/-- Whether a setting decides a path, found by following the path. -/
def decides : List String → Setting → Bool
  | [], _ => true
  | key :: path, table entries => (Entries.find? key entries).any (decides path)
  | _ :: _, _ => true

theorem decides_iff : setting.decides path = true ↔ setting.Decides path := by
  induction path generalizing setting with
  | nil => exact iff_of_true rfl (decides_nil setting)
  | cons key path ih =>
      cases setting with
      | table entries =>
          rw [decides, Option.any_eq_true, decides_table_iff]
          exact exists_congr fun inner => and_congr_right fun _ => ih
      | _ => exact iff_of_true rfl (decides_of_not_isTable rfl _)

instance : Decidable (setting.Decides path) := decidable_of_iff _ decides_iff

/-- Where a setting does not decide, it states nothing. -/
theorem at?_of_not_decides (h : ¬ setting.Decides path) : setting.at? path = none :=
  Option.eq_none_iff_forall_ne_some.mpr fun stated hstated => h (.inl ⟨stated, hstated⟩)

/-- What is found under a key once entries are laid over others. -/
theorem find?_coverEntries (h : (entries.map Prod.fst).Nodup) :
    Entries.find? key (coverEntries below entries) =
      match Entries.find? key entries with
      | some setting => some (onto (Entries.find? key below) setting)
      | none => Entries.find? key below := by
  induction entries generalizing below with
  | nil => rw [coverEntries]; rfl
  | cons head rest ih =>
      obtain ⟨first, setting⟩ := head
      obtain ⟨hnew, hrest⟩ := List.nodup_cons.mp h
      rw [coverEntries_cons, ih hrest, Entries.find?_insert]
      by_cases hkey : first = key
      · subst hkey
        simp [Entries.find?_eq_none hnew, Entries.find?]
      · simp [hkey, Entries.find?]

/-- A path of keys leads from a table into the setting under its first key. -/
theorem at?_table : (table entries).at? (key :: path) =
    (Entries.find? key entries).bind (at? path) := rfl

/-- What stands at a path once a setting is laid over another one: where the upper setting decides,
what it states, laid over what the lower one states there; elsewhere what the lower one states. -/
theorem at?_cover (h : upper.Ordered) :
    (upper.Decides path → (lower.cover upper).at? path =
        (upper.at? path).map (onto (lower.at? path))) ∧
      (¬ upper.Decides path → (lower.cover upper).at? path = lower.at? path) := by
  induction path generalizing lower upper with
  | nil => exact ⟨fun _ => rfl, fun hsilent => absurd (decides_nil upper) hsilent⟩
  | cons key path ih =>
      cases upper with
      | table entries =>
          cases lower with
          | table below =>
              rw [cover_table, at?_table, at?_table, at?_table, decides_table_iff,
                find?_coverEntries h.nodup_keys]
              cases hfound : Entries.find? key entries with
              | none => simp
              | some setting =>
                  have hsetting : setting.Ordered := h.of_find? hfound
                  cases hbelow : Entries.find? key below with
                  | none => simpa [map_onto_none] using at?_of_not_decides
                  | some lower =>
                      simpa using @ih lower setting hsetting
          | _ =>
              rw [cover_eq_upper (.inl rfl)]
              exact ⟨fun _ => (map_onto_none _).symm, fun hsilent => at?_of_not_decides hsilent⟩
      | _ =>
          refine ⟨fun _ => ?_, fun hsilent => absurd (decides_of_not_isTable rfl _) hsilent⟩
          rw [cover_eq_upper (.inr rfl)]
          rfl

/-! ### Layers -/

variable {layers lowest above : List Setting} {layer : Setting}

theorem layered_concat (layers : List Setting) (layer : Setting) :
    layered (layers ++ [layer]) = (layered layers).cover layer := by
  rw [layered, List.foldl_append]
  rfl

/-- Layers that do not decide a path change nothing there. -/
theorem at?_layered_append (hordered : ∀ layer ∈ above, layer.Ordered)
    (hsilent : ∀ layer ∈ above, ¬ layer.Decides path) :
    (layered (lowest ++ above)).at? path = (layered lowest).at? path := by
  induction above generalizing lowest with
  | nil => rw [List.append_nil]
  | cons layer rest ih =>
      obtain ⟨hlayer, hrest⟩ := List.forall_mem_cons.mp hordered
      obtain ⟨hnot, hsilent⟩ := List.forall_mem_cons.mp hsilent
      rw [List.append_cons, ih hrest hsilent, layered_concat]
      exact (at?_cover hlayer).2 hnot

/-- The topmost layer that decides a path states what stands there, laid over what the layers below
it come to. -/
theorem at?_layered (hordered : ∀ other ∈ layer :: above, other.Ordered)
    (hdecides : layer.Decides path) (hsilent : ∀ other ∈ above, ¬ other.Decides path) :
    (layered (lowest ++ layer :: above)).at? path =
      (layer.at? path).map (onto ((layered lowest).at? path)) := by
  obtain ⟨hlayer, habove⟩ := List.forall_mem_cons.mp hordered
  rw [List.append_cons, at?_layered_append habove hsilent, layered_concat]
  exact (at?_cover hlayer).1 hdecides

theorem Ordered.at? (h : setting.Ordered) {stated : Setting}
    (hstated : setting.at? path = some stated) : stated.Ordered := by
  induction path generalizing setting with
  | nil =>
      cases hstated
      exact h
  | cons key path ih =>
      cases setting with
      | table entries =>
          obtain ⟨inner, hfound, hrest⟩ := Option.bind_eq_some_iff.mp hstated
          exact ih (h.of_find? hfound) hrest
      | _ => cases hstated

theorem at?_append (front behind : List String) (setting : Setting) :
    setting.at? (front ++ behind) = (setting.at? front).bind (Setting.at? behind) := by
  induction front generalizing setting with
  | nil => rfl
  | cons key front ih =>
      cases setting with
      | table entries =>
          rw [List.cons_append, at?_table, at?_table, Option.bind_assoc]
          exact congrArg _ (funext fun inner => ih inner)
      | _ => rfl

/-- What stands at a path of merged settings, given the layer that decides the path and what the
layers below it come to. -/
structure Decided (merged lowest layer : Setting) (path : List String) : Prop where
  /-- If the layer ends the path before with a value that is no table, nothing stands there. -/
  absent : layer.at? path = none → merged.at? path = none
  /-- A value that is no table stands there as it is. -/
  whole : ∀ stated, layer.at? path = some stated → stated.isTable = false →
    merged.at? path = some stated
  /-- A table is combined key by key with what stands below. -/
  table : ∀ entries, layer.at? path = some (.table entries) → ∃ combined,
    merged.at? path = some (.table combined) ∧
      ∀ key, (Entries.find? key combined).isSome = true ↔
        (Entries.find? key entries).isSome = true ∨ (lowest.at? (path ++ [key])).isSome = true

/-- A table that is laid over something has its own keys and those of a table below. -/
theorem onto_table (found : Option Setting) (h : (table entries).Ordered) :
    ∃ combined, onto found (table entries) = table combined ∧
      ∀ key, (Entries.find? key combined).isSome = true ↔
        (Entries.find? key entries).isSome = true ∨ (found.bind (at? [key])).isSome = true := by
  cases found with
  | none => exact ⟨entries, rfl, by simp⟩
  | some lower =>
      cases lower with
      | table below =>
          refine ⟨_, cover_table, fun key => ?_⟩
          rw [find?_coverEntries h.nodup_keys, Option.bind_some, at?_table]
          cases Entries.find? key entries <;> cases Entries.find? key below <;> simp [at?]
      | _ =>
          refine ⟨entries, cover_eq_upper (.inl rfl), fun key => ?_⟩
          simp [at?]

/-- The topmost layer that decides a path decides what stands there. -/
theorem decided_layered (hordered : ∀ other ∈ layer :: above, other.Ordered)
    (hdecides : layer.Decides path) (hsilent : ∀ other ∈ above, ¬ other.Decides path) :
    Decided (layered (lowest ++ layer :: above)) (layered lowest) layer path := by
  have hmerged : (layered (lowest ++ layer :: above)).at? path =
      (layer.at? path).map (onto ((layered lowest).at? path)) :=
    at?_layered hordered hdecides hsilent
  refine ⟨fun habsent => ?_, fun stated hstated hvalue => ?_, fun entries hentries => ?_⟩
  · rw [hmerged, habsent]
    rfl
  · have honto (found : Option Setting) : onto found stated = stated := by
      cases found with
      | none => rfl
      | some lower => exact cover_eq_upper (.inr hvalue)
    rw [hmerged, hstated, Option.map_some, honto]
  · obtain ⟨combined, honto, hkeys⟩ := onto_table ((layered lowest).at? path)
      ((List.forall_mem_cons.mp hordered).1.at? hentries)
    refine ⟨combined, ?_, fun key => ?_⟩
    · rw [hmerged, hentries, Option.map_some, honto]
    · rw [hkeys, at?_append]

/-- Where no layer decides, nothing stands. -/
theorem at?_layered_of_silent (hordered : ∀ layer ∈ layers, layer.Ordered) (hsome : layers ≠ [])
    (hsilent : ∀ layer ∈ layers, ¬ layer.Decides path) : (layered layers).at? path = none := by
  cases path with
  | nil =>
      obtain ⟨layer, hlayer⟩ := List.exists_mem_of_ne_nil layers hsome
      exact absurd (decides_nil layer) (hsilent layer hlayer)
  | cons key path =>
      have hnone : (layered ([] ++ layers)).at? (key :: path) =
          (layered []).at? (key :: path) := at?_layered_append hordered hsilent
      rwa [List.nil_append] at hnone

end Setting

end BotHost
