/-
# Tables that are read from TOML are ordered

Tables under assembly list their entries by ascending key, and every line keeps them so: a value is
put under a key, a table is stated, or a list of tables is extended, at the end of a path on which
tables come about, `Toml.Table.Ordered.change`.  So what a text states is ordered,
`Toml.ordered_of_read?`.
-/

import BotHost.Proofs.Configuration.Settings
import BotHost.Toml.Reader

namespace BotHost

namespace Toml

/-! ### Nodes and tables -/

/-- Every table in a node lists its entries by ascending key. -/
inductive Node.Ordered : Node → Prop where
  | value {setting : Setting} : setting.Ordered → (Node.value setting).Ordered
  | table {origin : Origin} {entries : List (String × Node)} : Entries.Ascending entries →
      (∀ entry ∈ entries, entry.2.Ordered) → (Node.table origin entries).Ordered
  | tables {items : List (List (String × Node))} :
      (∀ entries ∈ items, Entries.Ascending entries) →
      (∀ entries ∈ items, ∀ entry ∈ entries, entry.2.Ordered) → (Node.tables items).Ordered

theorem entrySettings_eq_map (entries : List (String × Node)) :
    entrySettings entries = entries.map fun entry => (entry.1, entry.2.toSetting) := by
  induction entries with
  | nil => rfl
  | cons entry rest ih => rw [entrySettings, ih, List.map_cons]

theorem tableSettings_eq_map (items : List (List (String × Node))) :
    tableSettings items = items.map fun entries => .table (entrySettings entries) := by
  induction items with
  | nil => rfl
  | cons entries rest ih => rw [tableSettings, ih, List.map_cons]

theorem ordered_entrySettings {entries : List (String × Node)} (h : Entries.Ascending entries)
    (hentries : ∀ entry ∈ entries, entry.2.toSetting.Ordered) :
    (Setting.table (entrySettings entries)).Ordered := by
  rw [entrySettings_eq_map]
  exact .table (List.pairwise_map.mpr h) (List.forall_mem_map.mpr hentries)

/-- The setting of an ordered node is ordered. -/
theorem Node.Ordered.toSetting {node : Node} (h : node.Ordered) : node.toSetting.Ordered := by
  induction h with
  | value hsetting => exact hsetting
  | table hascending _ ih => exact ordered_entrySettings hascending ih
  | tables hascending _ ih =>
      rw [Node.toSetting, tableSettings_eq_map]
      exact .list (List.forall_mem_map.mpr fun entries hmem =>
        ordered_entrySettings (hascending entries hmem) (ih entries hmem))

namespace Table

/-- A table lists its entries by ascending key, and so does every table in it. -/
structure Ordered (table : Table) : Prop where
  ascending : Entries.Ascending table.entries
  entries : ∀ entry ∈ table.entries, entry.2.Ordered

variable {table changed : Table} {key : String} {node : Node}

theorem Ordered.toNode (h : table.Ordered) : table.toNode.Ordered := .table h.ascending h.entries

theorem Ordered.toSetting (h : table.Ordered) : table.toSetting.Ordered := h.toNode.toSetting

theorem ordered_of_nil {origin : Origin} : (Table.mk origin []).Ordered :=
  ⟨.nil, List.forall_mem_nil _⟩

theorem Ordered.of_find? (h : table.Ordered)
    (hfound : Entries.find? key table.entries = some node) : node.Ordered :=
  h.entries _ ((Entries.mem_iff_find? h.ascending key node).mpr hfound)

theorem Ordered.put (h : table.Ordered) (hnode : node.Ordered) : (table.put key node).Ordered :=
  ⟨Entries.ascending_insert h.ascending, Entries.forall_mem_insert h.ascending h.entries hnode⟩

/-- A table may be added at the end of a list of tables. -/
theorem ordered_tables_concat {items : List (List (String × Node))}
    {last : List (String × Node)} (hascending : ∀ entries ∈ items, Entries.Ascending entries)
    (hentries : ∀ entries ∈ items, ∀ entry ∈ entries, entry.2.Ordered)
    (hlast : Entries.Ascending last) (hlastEntries : ∀ entry ∈ last, entry.2.Ordered) :
    (Node.tables (items ++ [last])).Ordered :=
  .tables (List.forall_mem_append.mpr ⟨hascending, List.forall_mem_singleton.mpr hlast⟩)
    (List.forall_mem_append.mpr ⟨hentries, List.forall_mem_singleton.mpr hlastEntries⟩)

/-- Changing the table at the end of a path keeps tables ordered if the change does. -/
theorem Ordered.change {dotted : Bool} {act : Table → Option Table}
    (hact : ∀ {before after : Table}, before.Ordered → act before = some after → after.Ordered)
    {path : List String} (h : table.Ordered)
    (hchanged : change dotted act path table = some changed) : changed.Ordered := by
  induction path generalizing table changed with
  | nil => exact hact h hchanged
  | cons key path ih =>
      obtain ⟨node, hnode, rfl⟩ := Option.map_eq_some_iff.mp hchanged
      refine h.put ?_
      cases hfound : Entries.find? key table.entries with
      | none =>
          simp only [hfound, Option.map_eq_some_iff] at hnode
          obtain ⟨inner, hinner, rfl⟩ := hnode
          exact (ih ordered_of_nil hinner).toNode
      | some found =>
          have hordered : found.Ordered := h.of_find? hfound
          cases hordered with
          | value _ => simp [hfound] at hnode
          | table hascending hentries =>
              simp only [hfound] at hnode
              split at hnode
              · cases hnode
              · obtain ⟨inner, hinner, rfl⟩ := Option.map_eq_some_iff.mp hnode
                exact (ih ⟨hascending, hentries⟩ hinner).toNode
          | @tables items hascending hentries =>
              simp only [hfound] at hnode
              cases hlast : items.getLast? with
              | none => simp [hlast] at hnode
              | some last =>
                  simp only [hlast, Option.map_eq_some_iff] at hnode
                  obtain ⟨inner, hinner, rfl⟩ := hnode
                  have hmem : last ∈ items := List.mem_of_getLast? hlast
                  have hinner : inner.Ordered :=
                    ih ⟨hascending last hmem, hentries last hmem⟩ hinner
                  exact ordered_tables_concat
                    (fun entries hmem => hascending entries (List.dropLast_subset _ hmem))
                    (fun entries hmem => hentries entries (List.dropLast_subset _ hmem))
                    hinner.ascending hinner.entries

/-- A value that is put under a free key is ordered like those before. -/
theorem Ordered.place {dotted : Bool} {value : Setting} (hvalue : value.Ordered)
    (h : table.Ordered) (hplaced : place dotted key value table = some changed) :
    changed.Ordered := by
  simp only [Table.place] at hplaced
  split at hplaced
  · cases hplaced
  · split at hplaced <;> cases hplaced
    exact h.put (.value hvalue)

theorem Ordered.assign {path : List String} {value : Setting} (hvalue : value.Ordered)
    (h : table.Ordered) (hassigned : assign path value table = some changed) :
    changed.Ordered := by
  simp only [Table.assign] at hassigned
  split at hassigned
  · cases hassigned
  · exact h.change (fun h hplaced => h.place hvalue hplaced) hassigned

theorem Ordered.state (h : table.Ordered) (hstated : state key table = some changed) :
    changed.Ordered := by
  simp only [Table.state] at hstated
  split at hstated
  · cases hstated
    exact h.put ordered_of_nil.toNode
  · rename_i entries hfound
    cases hstated
    cases h.of_find? hfound with
    | table hascending hentries => exact h.put (.table hascending hentries)
  · cases hstated

theorem Ordered.extend (h : table.Ordered) (hextended : extend key table = some changed) :
    changed.Ordered := by
  simp only [Table.extend] at hextended
  split at hextended
  · cases hextended
    exact h.put (.tables (List.forall_mem_singleton.mpr .nil)
      (List.forall_mem_singleton.mpr (List.forall_mem_nil _)))
  · rename_i items hfound
    cases hextended
    cases h.of_find? hfound with
    | tables hascending hentries =>
        exact h.put (ordered_tables_concat hascending hentries .nil (List.forall_mem_nil _))
  · cases hextended

theorem Ordered.header {act : String → Table → Option Table} {path : List String}
    (hact : ∀ {key : String} {before after : Table}, before.Ordered →
      act key before = some after → after.Ordered)
    (h : table.Ordered) (hchanged : header act path table = some changed) : changed.Ordered := by
  simp only [Table.header] at hchanged
  split at hchanged
  · cases hchanged
  · exact h.change hact hchanged

end Table

/-! ### Single values -/

section Values

variable {text rest : List Char} {setting : Setting}

theorem ordered_of_whole? {number : Int} (h : whole? number = some setting) :
    setting.Ordered := by
  simp only [whole?] at h
  split at h <;> cases h
  exact .number _

theorem ordered_of_real? {negative : Bool} {digits : List Nat} {exponent : Int}
    (h : real? negative digits exponent = some setting) : setting.Ordered := by
  simp only [real?] at h
  split at h
  · cases h
    exact .number _
  · split at h <;> cases h
    exact .boundless

theorem ordered_of_inRadix {radix : Nat} (h : inRadix radix text = some (setting, rest)) :
    setting.Ordered := by
  simp only [inRadix, Option.bind_eq_bind, Option.bind_eq_some_iff] at h
  obtain ⟨_, _, value, hvalue, h⟩ := h
  cases h
  exact ordered_of_whole? hvalue

theorem ordered_of_decimal {negative : Bool} (h : decimal negative text = some (setting, rest)) :
    setting.Ordered := by
  simp only [decimal, Option.bind_eq_bind, Option.bind_eq_some_iff] at h
  obtain ⟨_, _, _, _, _, _, h⟩ := h
  split at h <;> obtain ⟨value, hvalue, h⟩ := Option.bind_eq_some_iff.mp h <;> cases h
  · exact ordered_of_whole? hvalue
  · exact ordered_of_real? hvalue

theorem ordered_of_number (h : number text = some (setting, rest)) : setting.Ordered := by
  simp only [number] at h
  split at h
  · exact ordered_of_inRadix h
  · exact ordered_of_inRadix h
  · exact ordered_of_inRadix h
  · cases h
    exact .boundless
  · cases h
    exact .boundless
  · exact ordered_of_decimal h

theorem ordered_ofDate (text : List Char) : (ofDate text).Ordered :=
  .table (List.pairwise_singleton ..) (List.forall_mem_singleton.mpr (.text _))

theorem ordered_of_dateOrNumber (h : dateOrNumber text = some (setting, rest)) :
    setting.Ordered := by
  simp only [dateOrNumber] at h
  split at h
  · split at h
    · simp only [Option.bind_eq_bind, Option.bind_eq_some_iff] at h
      obtain ⟨_, _, _, _, h⟩ := h
      cases h
      exact ordered_ofDate _
    · exact ordered_of_number h
  · split at h
    · obtain ⟨_, _, h⟩ := Option.map_eq_some_iff.mp h
      cases h
      exact ordered_ofDate _
    · exact ordered_of_number h

/-! ### Values -/

/-- What is read within a bound is ordered. -/
structure ReadsOrdered (bound : Nat) : Prop where
  value : ∀ {depth text setting rest}, value bound depth text = some (setting, rest) →
    setting.Ordered
  items : ∀ {depth text settings rest}, items bound depth text = some (settings, rest) →
    ∀ setting ∈ settings, setting.Ordered
  members : ∀ {depth table text read rest}, table.Ordered →
    members bound depth table text = some (read, rest) → read.Ordered

namespace ReadsOrdered

variable {bound depth : Nat} (h : ReadsOrdered bound)
include h

theorem value_succ (hread : Toml.value (bound + 1) depth text = some (setting, rest)) :
    setting.Ordered := by
  simp only [Toml.value] at hread
  -- The cases are those of the first characters.
  split at hread
  · cases hread
    exact .bool true
  · cases hread
    exact .bool false
  · split at hread
    · obtain ⟨⟨settings, _⟩, hsettings, hread⟩ := Option.map_eq_some_iff.mp hread
      cases hread
      exact .list (h.items hsettings)
    · cases hread
  · split at hread
    · split at hread
      · cases hread
        exact Setting.ordered_empty
      · obtain ⟨⟨table, _⟩, htable, hread⟩ := Option.map_eq_some_iff.mp hread
        cases hread
        exact (h.members Table.ordered_of_nil htable).toSetting
    · cases hread
  · obtain ⟨⟨found, _⟩, _, hread⟩ := Option.map_eq_some_iff.mp hread
    cases hread
    exact .text found
  · obtain ⟨⟨found, _⟩, _, hread⟩ := Option.map_eq_some_iff.mp hread
    cases hread
    exact .text found
  · exact ordered_of_dateOrNumber hread

theorem items_succ {settings : List Setting}
    (hread : Toml.items (bound + 1) depth text = some (settings, rest)) :
    ∀ setting ∈ settings, setting.Ordered := by
  simp only [Toml.items] at hread
  split at hread
  · cases hread
    exact List.forall_mem_nil _
  · split at hread
    · cases hread
    · rename_i item behind hitem
      have hordered : item.Ordered := h.value hitem
      split at hread
      · obtain ⟨⟨others, _⟩, hothers, hread⟩ := Option.map_eq_some_iff.mp hread
        cases hread
        exact List.forall_mem_cons.mpr ⟨hordered, h.items hothers⟩
      · cases hread
        exact List.forall_mem_singleton.mpr hordered
      · cases hread

theorem members_succ {table read : Table} (htable : table.Ordered)
    (hread : Toml.members (bound + 1) depth table text = some (read, rest)) : read.Ordered := by
  simp only [Toml.members] at hread
  split at hread
  · cases hread
  · split at hread
    · split at hread
      · cases hread
      · rename_i item behind hitem
        split at hread
        · cases hread
        · rename_i assigned hassigned
          have hordered : assigned.Ordered := htable.assign (h.value hitem) hassigned
          split at hread
          · exact h.members hordered hread
          · cases hread
            exact hordered
          · cases hread
    · cases hread

end ReadsOrdered

theorem readsOrdered (bound : Nat) : ReadsOrdered bound := by
  induction bound with
  | zero => exact ⟨nofun, nofun, nofun⟩
  | succ bound ih => exact ⟨ih.value_succ, ih.items_succ, ih.members_succ⟩

end Values

/-! ### Texts -/

theorem ordered_of_line {reading read : Reading} {text rest : List Char}
    (h : reading.root.Ordered) (hread : line reading text = some (read, rest)) :
    read.root.Ordered := by
  simp only [line] at hread
  split at hread
  · simp only [Option.bind_eq_bind, Option.bind_eq_some_iff] at hread
    obtain ⟨_, _, _, _, _, _, root, hroot, _, _, hread⟩ := hread
    cases hread
    exact h.header (fun h hextended => h.extend hextended) hroot
  · simp only [Option.bind_eq_bind, Option.bind_eq_some_iff] at hread
    obtain ⟨_, _, _, _, root, hroot, _, _, hread⟩ := hread
    cases hread
    exact h.header (fun h hstated => h.state hstated) hroot
  · split at hread
    · cases hread
      exact h
    · simp only [Option.bind_eq_bind, Option.bind_eq_some_iff] at hread
      obtain ⟨_, _, _, _, ⟨item, _⟩, hitem, root, hroot, _, _, hread⟩ := hread
      cases hread
      have hordered : item.Ordered := (readsOrdered _).value hitem
      exact h.change (fun h hassigned => h.assign hordered hassigned) hroot

theorem ordered_of_lines {bound : Nat} {reading read : Reading} {text : List Char}
    (h : reading.root.Ordered) (hread : lines bound reading text = some read) :
    read.root.Ordered := by
  induction bound generalizing reading text with
  | zero => cases hread
  | succ bound ih =>
      simp only [lines] at hread
      split at hread
      · cases hread
        exact h
      · split at hread
        · cases hread
        · rename_i next behind hline
          exact ih (ordered_of_line h hline) hread

/-- The settings of a text are ordered. -/
theorem ordered_of_read? {text : String} {setting : Setting} (h : read? text = some setting) :
    setting.Ordered := by
  obtain ⟨reading, hreading, rfl⟩ := Option.map_eq_some_iff.mp h
  exact (ordered_of_lines Table.ordered_of_nil hreading).toSetting

end Toml

end BotHost
