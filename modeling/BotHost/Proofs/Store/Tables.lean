/-
# Tables of records

A store keeps each record under a key that the record itself names, `SortedMap.Keyed`.  Such a table
lists its records by ascending key, and there is one record of each key.

A table is filled record by record.  It ends up with exactly the records that were put into it,
`SortedMap.perm_values_ofList_iff`, unless one of them was put in the place of another,
`SortedMap.overwrites_iff`.
-/

import BotHost.Proofs.Json.Documents
import BotHost.Store

namespace BotHost

namespace SortedMap

variable {κ α : Type} [DecidableEq κ] [KeyOrder κ] {map : SortedMap κ α} {keyOf : α → κ}

/-- A table in which every record is kept under its own key. -/
def Keyed (map : SortedMap κ α) (keyOf : α → κ) : Prop :=
  ∀ entry ∈ map.toList, keyOf entry.2 = entry.1

theorem keyed_ofList (keyOf : α → κ) (records : List α) :
    (ofList (records.map fun record => (keyOf record, record))).Keyed keyOf := by
  intro entry hmem
  obtain ⟨record, -, rfl⟩ := List.mem_map.mp (mem_of_mem_ofList hmem)
  rfl

/-- What is kept in such a table is found under its key. -/
theorem Keyed.find?_of_mem (h : map.Keyed keyOf) {record : α} (hmem : record ∈ map.values) :
    map.find? (keyOf record) = some record := by
  obtain ⟨⟨key, found⟩, hentry, rfl⟩ := List.mem_map.mp hmem
  exact h _ hentry ▸ mem_toList_iff.mp hentry

/-- So a record is known by its key. -/
theorem Keyed.eq_of_key_eq (h : map.Keyed keyOf) {first second : α} (hfirst : first ∈ map.values)
    (hsecond : second ∈ map.values) (hkey : keyOf first = keyOf second) : first = second := by
  have hfound := h.find?_of_mem hfirst
  rw [hkey, h.find?_of_mem hsecond] at hfound
  exact (Option.some.inj hfound).symm

/-- There is one record of each key that is in use. -/
theorem Keyed.filter_values (h : map.Keyed keyOf) (key : κ) :
    map.values.filter (fun record => decide (keyOf record = key)) = (map.find? key).toList := by
  have hkeys : map.toList.filter (fun entry => decide (keyOf entry.2 = key)) =
      map.toList.filter (fun entry => decide (entry.1 = key)) :=
    List.filter_congr fun entry hmem => by rw [h entry hmem]
  rw [values, List.filter_map, Function.comp_def, hkeys, filter_key]
  cases map.find? key <;> rfl

omit [DecidableEq κ] in
theorem Keyed.nodup (h : map.Keyed keyOf) : (map.values.map keyOf).Nodup := by
  have hkeys : map.values.map keyOf = map.toList.map Prod.fst := by
    rw [values, List.map_map]
    exact List.map_congr_left h
  rw [hkeys]
  exact map.ascending.nodup_keys

omit [DecidableEq κ] in
/-- Such a table lists its records by ascending key. -/
theorem Keyed.ascending (h : map.Keyed keyOf) : map.values.Pairwise fun first second =>
    KeyOrder.precedes (keyOf first) (keyOf second) = true := by
  refine List.pairwise_map.mpr (map.ascending.imp_of_mem fun hfirst hsecond hlt => ?_)
  rwa [h _ hfirst, h _ hsecond]

/-! ### Filling a table -/

variable {records : List α}

/-- A key is in use once a record has been put under it. -/
theorem isSome_find?_ofList {entries : List (κ × α)} {key : κ} :
    ((ofList entries).find? key).isSome = true ↔ key ∈ entries.map Prod.fst := by
  have hfold : ∀ (entries : List (κ × α)) (map : SortedMap κ α),
      ((entries.foldl (fun map entry => map.insert entry.1 entry.2) map).find? key).isSome = true ↔
        key ∈ entries.map Prod.fst ∨ (map.find? key).isSome = true := by
    intro entries
    induction entries with
    | nil => simp
    | cons head rest ih =>
        intro map
        rw [List.foldl_cons, ih, find?_insert]
        by_cases hkey : head.1 = key
        · simp [hkey]
        · simp [hkey, Ne.symm hkey]
  rw [ofList, hfold, find?_empty]
  simp

/-- A table ends up with exactly the records that were put into it if their keys are different, and
only then. -/
theorem perm_values_ofList_iff :
    (ofList (records.map fun record => (keyOf record, record))).values.Perm records ↔
      (records.map keyOf).Nodup := by
  constructor
  · intro hperm
    exact (hperm.map keyOf).nodup_iff.mp (keyed_ofList keyOf records).nodup
  · intro hnodup
    have hkeys : ((records.map fun record => (keyOf record, record)).map Prod.fst).Nodup := by
      rwa [List.map_map]
    have hperm : (ofList (records.map fun record => (keyOf record, record))).toList.Perm
        (records.map fun record => (keyOf record, record)) := by
      refine (List.perm_ext_iff_of_nodup (Entries.nodup (SortedMap.ascending _))
        (List.Pairwise.of_map Prod.fst (fun _ _ hne hsame => hne (congrArg _ hsame)) hkeys)).mpr ?_
      rintro ⟨key, record⟩
      rw [mem_toList_iff, find?_ofList hkeys]
    have hvalues := hperm.map Prod.snd
    rwa [List.map_map, show Prod.snd ∘ (fun record => (keyOf record, record)) = id from rfl,
      List.map_id] at hvalues

/-- While records are put into a table one after the other, one is put where another one is. -/
def Overwrites (keyOf : α → κ) (records : List α) : Prop :=
  ∃ before record behind, records = before ++ record :: behind ∧
    ((ofList (before.map fun earlier => (keyOf earlier, earlier))).find? (keyOf record)).isSome =
      true

/-- This happens exactly if two of the records have one key. -/
theorem overwrites_iff : Overwrites keyOf records ↔ ¬ (records.map keyOf).Nodup := by
  have hkeys (before : List α) : (before.map fun earlier => (keyOf earlier, earlier)).map Prod.fst =
      before.map keyOf := by
    rw [List.map_map]
    rfl
  simp only [Overwrites, isSome_find?_ofList, hkeys]
  constructor
  · rintro ⟨before, record, behind, rfl, hmem⟩ hnodup
    rw [List.map_append, List.nodup_append] at hnodup
    exact hnodup.2.2 _ hmem _ (List.mem_map_of_mem List.mem_cons_self) rfl
  · intro hnodup
    induction records with
    | nil => exact absurd List.nodup_nil hnodup
    | cons record rest ih =>
        by_cases hmem : keyOf record ∈ rest.map keyOf
        · obtain ⟨other, hother, hkey⟩ := List.mem_map.mp hmem
          obtain ⟨before, behind, rfl⟩ := List.append_of_mem hother
          exact ⟨record :: before, other, behind, rfl, by simp [hkey]⟩
        · obtain ⟨before, other, behind, rfl, hother⟩ :=
            ih fun hrest => hnodup (List.nodup_cons.mpr ⟨hmem, hrest⟩)
          exact ⟨record :: before, other, behind, rfl, List.mem_cons_of_mem _ hother⟩

end SortedMap

namespace Store

/-- A store in which accounts are kept under their user ids and plugin instances under their ids, as
in every store that is made from records and written to. -/
structure Keyed (store : Store) : Prop where
  accounts : store.accounts.Keyed AccountRecord.userId
  plugins : store.plugins.Keyed PluginRecord.id

theorem keyed_ofRecords (accounts : List AccountRecord) (plugins : List PluginRecord) :
    (ofRecords accounts plugins).Keyed :=
  ⟨SortedMap.keyed_ofList _ accounts, SortedMap.keyed_ofList _ plugins⟩

end Store

end BotHost
