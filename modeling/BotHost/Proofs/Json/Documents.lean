/-
# Values and the documents that write them

A value is ordered if every object in it lists its members by ascending key.  Whatever a document
stands for is ordered, and an ordered value is what its own document stands for.  So a value that
has been decoded once survives being written and decoded again, `Document.toJson?_ofJson`.

The second half is about records.  A record that is written as the object of the fields that are
there, `Json.present`, is read back field by field: `Document.fields?_ofRecord` finds under each
name what was written under it, or nothing.
-/

import BotHost.Json.Decode

namespace BotHost

/-! ### Listed entries -/

namespace Entries

variable {κ α : Type} [DecidableEq κ]

/-- If no key is repeated, the entries are what the look-ups find. -/
theorem mem_iff_find?_of_nodup {entries : List (κ × α)} (h : (entries.map Prod.fst).Nodup)
    (key : κ) (value : α) : (key, value) ∈ entries ↔ find? key entries = some value := by
  induction entries with
  | nil => simp [find?]
  | cons head rest ih =>
      obtain ⟨first, stored⟩ := head
      obtain ⟨hnew, hrest⟩ := List.nodup_cons.mp h
      by_cases hkey : first = key
      · subst hkey
        have hnot : (first, value) ∉ rest := fun hmem => hnew (List.mem_map.mpr ⟨_, hmem, rfl⟩)
        simp [find?, hnot, eq_comm]
      · simp [find?, hkey, Ne.symm hkey, ih hrest]

/-- Nothing is found under a key that no entry has. -/
theorem find?_eq_none {key : κ} {entries : List (κ × α)} (h : key ∉ entries.map Prod.fst) :
    find? key entries = none := by
  induction entries with
  | nil => rfl
  | cons head rest ih =>
      obtain ⟨hhead, hrest⟩ := not_or.mp (mt List.mem_cons.mpr h)
      rw [find?, if_neg (Ne.symm hhead), ih hrest]

/-- The first of two lists decides, unless nothing is found there. -/
theorem find?_append (key : κ) (first second : List (κ × α)) :
    find? key (first ++ second) = (find? key first).or (find? key second) := by
  induction first with
  | nil => rfl
  | cons head rest ih =>
      by_cases hkey : head.1 = key
      · simp [find?, hkey]
      · simpa [find?, hkey] using ih

/-- What is found among the entries that pass a test of their keys. -/
theorem find?_filter (test : κ → Bool) (key : κ) (entries : List (κ × α)) :
    find? key (entries.filter fun entry => test entry.1) =
      if test key then find? key entries else none := by
  induction entries with
  | nil => simp [find?]
  | cons head rest ih =>
      by_cases hkey : head.1 = key
      · subst hkey
        by_cases htest : test head.1 = true <;> simp_all [find?]
      · by_cases htest : test head.1 = true <;> simp_all [find?]

variable [KeyOrder κ]

omit [DecidableEq κ] in
/-- In a list that ascends, no key is repeated. -/
theorem Ascending.nodup_keys {entries : List (κ × α)} (h : Ascending entries) :
    (entries.map Prod.fst).Nodup := by
  refine List.pairwise_map.mpr (List.Pairwise.imp (fun {a b} hab hsame => ?_) h)
  rw [hsame, KeyOrder.irrefl] at hab
  cases hab

end Entries

namespace SortedMap

variable {κ α : Type} [DecidableEq κ] [KeyOrder κ]

/-- A map of entries without a repeated key finds what is listed. -/
theorem find?_ofList_eq {entries : List (κ × α)} (h : (entries.map Prod.fst).Nodup) (key : κ) :
    (ofList entries).find? key = Entries.find? key entries := by
  refine Option.ext fun value => ?_
  rw [find?_ofList h, Entries.mem_iff_find?_of_nodup h]

/-- Entries that ascend are listed as they are. -/
theorem toList_ofList {entries : List (κ × α)} (h : Entries.Ascending entries) :
    (ofList entries).toList = entries := by
  have hsame : ofList entries = ⟨entries, h⟩ :=
    ext_find? fun key => find?_ofList_eq h.nodup_keys key
  rw [hsame]

/-- Every value of a map of listed entries is listed. -/
theorem mem_of_mem_ofList {entries : List (κ × α)} {entry : κ × α}
    (h : entry ∈ (ofList entries).toList) : entry ∈ entries := by
  have hfold : ∀ (entries : List (κ × α)) (map : SortedMap κ α),
      entry ∈ (entries.foldl (fun map entry => map.insert entry.1 entry.2) map).toList →
        entry ∈ entries ∨ entry ∈ map.toList := by
    intro entries
    induction entries with
    | nil => exact fun map hmem => .inr hmem
    | cons head rest ih =>
        intro map hmem
        rcases ih _ hmem with hmem | hmem
        · exact .inl (List.mem_cons_of_mem _ hmem)
        · obtain ⟨key, value⟩ := entry
          rw [mem_toList_iff, find?_insert] at hmem
          by_cases hkey : head.1 = key
          · rw [if_pos hkey] at hmem
            cases hmem
            subst hkey
            exact .inl List.mem_cons_self
          · rw [if_neg hkey] at hmem
            exact .inr (mem_toList_iff.mpr hmem)
  rcases hfold entries empty h with hmem | hmem
  · exact hmem
  · exact absurd hmem List.not_mem_nil

end SortedMap

/-! ### Ordered values -/

namespace Json

/-- Every object in a value lists its members by ascending key. -/
inductive Ordered : Json → Prop where
  | null : Ordered null
  | bool (value : Bool) : Ordered (bool value)
  | number (value : Number) : Ordered (number value)
  | string (value : String) : Ordered (string value)
  | array {items : List Json} : (∀ item ∈ items, item.Ordered) → Ordered (array items)
  | object {members : List (String × Json)} : Entries.Ascending members →
      (∀ member ∈ members, member.2.Ordered) → Ordered (object members)

/-- Only a string is a text. -/
theorem text?_eq_some_iff {value : Json} {text : String} :
    value.text? = some text ↔ value = string text := by
  cases value <;> simp [text?]

/-- The object of ordered members is ordered, in whatever order they are given. -/
theorem ordered_ofMembers {members : List (String × Json)}
    (h : ∀ member ∈ members, member.2.Ordered) : (ofMembers members).Ordered :=
  .object (SortedMap.ofList members).ascending fun member hmem =>
    h member (SortedMap.mem_of_mem_ofList hmem)

/-- The members of an ordered object make it up. -/
theorem ofMembers_of_ascending {members : List (String × Json)}
    (h : Entries.Ascending members) : ofMembers members = object members := by
  rw [ofMembers, SortedMap.toList_ofList h]

end Json

namespace Document

theorem ofMembers_eq_map (members : List (String × Json)) :
    ofMembers members = members.map fun member => (member.1, ofJson member.2) := by
  induction members with
  | nil => rfl
  | cons member rest ih => rw [ofMembers, ih, List.map_cons]

mutual

/-- What a document stands for is ordered. -/
theorem ordered_of_toJson? : ∀ {document : Document} {value : Json},
    document.toJson? = some value → value.Ordered
  | null, _, rfl => .null
  | bool value, _, rfl => .bool value
  | number value, _, rfl => .number value
  | string value, _, rfl => .string value
  | array _, _, h => by
      obtain ⟨values, hvalues, rfl⟩ := Option.map_eq_some_iff.mp h
      exact .array (ordered_of_toItems? hvalues)
  | object _, _, h => by
      obtain ⟨members, hmembers, rfl⟩ := Option.map_eq_some_iff.mp h
      exact Json.ordered_ofMembers (ordered_of_toMembers? hmembers)
  | rank value, _, rfl => .number (.integer value)
  | row _, _, h => by
      obtain ⟨values, hvalues, rfl⟩ := Option.map_eq_some_iff.mp h
      exact .array (ordered_of_toItems? hvalues)
  | boundless, _, rfl => .null

theorem ordered_of_toItems? : ∀ {items : List Document} {values : List Json},
    toItems? items = some values → ∀ value ∈ values, value.Ordered
  | [], _, rfl => fun _ hmem => absurd hmem List.not_mem_nil
  | item :: rest, _, h => by
      rw [toItems?] at h
      split at h
      · rename_i hitem hrest
        cases h
        exact List.forall_mem_cons.mpr ⟨ordered_of_toJson? hitem, ordered_of_toItems? hrest⟩
      · cases h

theorem ordered_of_toMembers? : ∀ {members : List (String × Document)}
    {values : List (String × Json)}, toMembers? members = some values →
    ∀ member ∈ values, member.2.Ordered
  | [], _, rfl => fun _ hmem => absurd hmem List.not_mem_nil
  | (_, item) :: rest, _, h => by
      rw [toMembers?] at h
      split at h
      · rename_i hitem hrest
        cases h
        exact List.forall_mem_cons.mpr ⟨ordered_of_toJson? hitem, ordered_of_toMembers? hrest⟩
      · cases h

end

mutual

/-- An ordered value is what its document stands for. -/
theorem toJson?_ofJson : ∀ {value : Json}, value.Ordered → (ofJson value).toJson? = some value
  | .null, _ => rfl
  | .bool _, _ => rfl
  | .number _, _ => rfl
  | .string _, _ => rfl
  | .array items, h => by
      cases h with
      | array hitems => rw [ofJson, toJson?, toItems?_ofItems hitems, Option.map_some]
  | .object members, h => by
      cases h with
      | object hascending hmembers =>
          rw [ofJson, toJson?, toMembers?_ofMembers hmembers, Option.map_some,
            Json.ofMembers_of_ascending hascending]

theorem toItems?_ofItems : ∀ {items : List Json}, (∀ item ∈ items, item.Ordered) →
    toItems? (ofItems items) = some items
  | [], _ => rfl
  | item :: rest, h => by
      obtain ⟨hitem, hrest⟩ := List.forall_mem_cons.mp h
      rw [ofItems, toItems?, toJson?_ofJson hitem, toItems?_ofItems hrest]

theorem toMembers?_ofMembers : ∀ {members : List (String × Json)},
    (∀ member ∈ members, member.2.Ordered) → toMembers? (ofMembers members) = some members
  | [], _ => rfl
  | (_, item) :: rest, h => by
      obtain ⟨hitem, hrest⟩ := List.forall_mem_cons.mp h
      rw [ofMembers, toMembers?, toJson?_ofJson hitem, toMembers?_ofMembers hrest]

end

/-! ### Documents of texts and of values -/

/-- Nothing in a document is peculiar to configurations. -/
inductive Plain : Document → Prop where
  | null : Plain null
  | bool (value : Bool) : Plain (bool value)
  | number (value : Number) : Plain (number value)
  | string (value : String) : Plain (string value)
  | array {items : List Document} : (∀ item ∈ items, item.Plain) → Plain (array items)
  | object {members : List (String × Document)} : (∀ member ∈ members, member.2.Plain) →
      Plain (object members)
  | unreadable : Plain unreadable

mutual

theorem plain_ofJson : ∀ value : Json, (ofJson value).Plain
  | .null => .null
  | .bool value => .bool value
  | .number value => .number value
  | .string value => .string value
  | .array items => .array (plain_ofItems items)
  | .object members => .object (plain_ofMembers members)

theorem plain_ofItems : ∀ (items : List Json), ∀ item ∈ ofItems items, item.Plain
  | [] => fun _ hmem => absurd hmem List.not_mem_nil
  | item :: rest => List.forall_mem_cons.mpr ⟨plain_ofJson item, plain_ofItems rest⟩

theorem plain_ofMembers : ∀ (members : List (String × Json)),
    ∀ member ∈ ofMembers members, member.2.Plain
  | [] => fun _ hmem => absurd hmem List.not_mem_nil
  | (_, item) :: rest => List.forall_mem_cons.mpr ⟨plain_ofJson item, plain_ofMembers rest⟩

end

theorem plain_nested {depth : Nat} {document : Document} (h : document.Plain) :
    (nested depth document).Plain := by
  unfold nested
  split
  · exact h
  · exact .unreadable

theorem plain_of_mapM {members : List (Option String × Document)}
    {keyed : List (String × Document)} (h : ∀ member ∈ members, member.2.Plain)
    (hkeyed : (members.mapM fun (key, item) => key.map (·, item)) = some keyed) :
    ∀ member ∈ keyed, member.2.Plain := by
  induction members generalizing keyed with
  | nil =>
      cases hkeyed
      exact fun _ hmem => absurd hmem List.not_mem_nil
  | cons member rest ih =>
      obtain ⟨hmember, hrest⟩ := List.forall_mem_cons.mp h
      rw [List.mapM_cons] at hkeyed
      obtain ⟨first, hfirst, hkeyed⟩ := Option.bind_eq_some_iff.mp hkeyed
      obtain ⟨others, hothers, hkeyed⟩ := Option.bind_eq_some_iff.mp hkeyed
      obtain ⟨key, -, rfl⟩ := Option.map_eq_some_iff.mp hfirst
      cases hkeyed
      exact List.forall_mem_cons.mpr ⟨hmember, ih hrest hothers⟩

theorem plain_ofKeyed {members : List (Option String × Document)}
    (h : ∀ member ∈ members, member.2.Plain) : (ofKeyed members).Plain := by
  unfold ofKeyed
  split
  · rename_i keyed hkeyed
    exact .object (plain_of_mapM h hkeyed)
  · exact .unreadable

/-- What is read within a bound is plain. -/
structure ReadsPlain (bound : Nat) : Prop where
  value : ∀ {depth text document rest}, readValue bound depth text = some (document, rest) →
    document.Plain
  items : ∀ {depth text found items rest}, (∀ item ∈ found, Plain item) →
    readItems bound depth text found = some (items, rest) → ∀ item ∈ items, Plain item
  members : ∀ {depth text found members rest}, (∀ member ∈ found, Plain member.2) →
    readMembers bound depth text found = some (members, rest) → ∀ member ∈ members, Plain member.2

namespace ReadsPlain

variable {bound depth : Nat} {text rest : List Char} (h : ReadsPlain bound)
include h

theorem value_succ {document : Document}
    (hread : readValue (bound + 1) depth text = some (document, rest)) : document.Plain := by
  have hnone {α : Type} {said : α → Prop} : ∀ entry ∈ ([] : List α), said entry :=
    fun _ hmem => absurd hmem List.not_mem_nil
  rw [readValue] at hread
  -- The cases are those of the first character: three literals, a string, two containers, a number.
  split at hread
  · cases hread
    exact .null
  · cases hread
    exact .bool _
  · cases hread
    exact .bool _
  · obtain ⟨⟨_ | text, after⟩, -, hread⟩ := Option.map_eq_some_iff.mp hread
    · cases hread
      exact .unreadable
    · cases hread
      exact .string _
  · split at hread
    · cases hread
      exact plain_nested (.array hnone)
    · obtain ⟨⟨items, after⟩, hitems, hread⟩ := Option.map_eq_some_iff.mp hread
      cases hread
      exact plain_nested (.array (h.items hnone hitems))
  · split at hread
    · cases hread
      exact plain_nested (.object hnone)
    · obtain ⟨⟨members, after⟩, hmembers, hread⟩ := Option.map_eq_some_iff.mp hread
      cases hread
      exact plain_nested (plain_ofKeyed (h.members hnone hmembers))
  · obtain ⟨⟨numeral, after⟩, -, hread⟩ := Option.map_eq_some_iff.mp hread
    cases hnumber : numeral.value? with
    | none =>
        simp only [hnumber] at hread
        cases hread
        exact .unreadable
    | some value =>
        simp only [hnumber] at hread
        cases hread
        exact .number _

theorem items_succ {found items : List Document} (hfound : ∀ item ∈ found, Plain item)
    (hread : readItems (bound + 1) depth text found = some (items, rest)) :
    ∀ item ∈ items, Plain item := by
  rw [readItems] at hread
  split at hread
  · cases hread
  · rename_i item after hvalue
    have hnext : ∀ other ∈ item :: found, Plain other :=
      List.forall_mem_cons.mpr ⟨h.value hvalue, hfound⟩
    split at hread
    · exact h.items hnext hread
    · cases hread
      exact fun other hmem => hnext other (List.mem_reverse.mp hmem)
    · cases hread

theorem members_succ {found members : List (Option String × Document)}
    (hfound : ∀ member ∈ found, Plain member.2)
    (hread : readMembers (bound + 1) depth text found = some (members, rest)) :
    ∀ member ∈ members, Plain member.2 := by
  rw [readMembers] at hread
  split at hread
  · split at hread
    · cases hread
    · rename_i key behind hkey
      split at hread
      · split at hread
        · cases hread
        · rename_i item after hvalue
          have hnext : ∀ other ∈ (key, item) :: found, Plain other.2 :=
            List.forall_mem_cons.mpr ⟨h.value hvalue, hfound⟩
          split at hread
          · exact h.members hnext hread
          · cases hread
            exact fun other hmem => hnext other (List.mem_reverse.mp hmem)
          · cases hread
      · cases hread
  · cases hread

end ReadsPlain

theorem readsPlain (bound : Nat) : ReadsPlain bound := by
  induction bound with
  | zero =>
      refine ⟨fun h => ?_, fun _ h => ?_, fun _ h => ?_⟩
      · rw [readValue] at h
        cases h
      · rw [readItems] at h
        cases h
      · rw [readMembers] at h
        cases h
  | succ bound ih => exact ⟨ih.value_succ, ih.items_succ, ih.members_succ⟩

/-- Whatever a text says is plain. -/
theorem plain_of_read? {text : String} {document : Document} (h : read? text = some document) :
    document.Plain := by
  rw [read?] at h
  split at h
  · rename_i found rest hread
    split at h
    · cases h
      exact (readsPlain _).value hread
    · cases h
  · cases h

/-- Of the plain documents, only the literal stands for null. -/
theorem Plain.ne_null {document : Document} {value : Json} (h : document.Plain)
    (hnull : document ≠ Document.null) (hread : document.toJson? = some value) :
    value ≠ .null := by
  rintro rfl
  cases h with
  | null => exact hnull rfl
  | array _ =>
      obtain ⟨values, -, hvalue⟩ := Option.map_eq_some_iff.mp hread
      cases hvalue
  | object _ =>
      obtain ⟨members, -, hvalue⟩ := Option.map_eq_some_iff.mp hread
      cases hvalue
  | _ => cases hread

/-! ### Records -/

/-- A field of a plain document is plain. -/
theorem Plain.of_get? {document written : Document} {names : List String} {fields : Fields}
    {name : String} (h : document.Plain) (hfields : document.fields? names = some fields)
    (hget : fields.get? name = some written) : written.Plain := by
  obtain ⟨⟨key, _⟩, hfound, rfl⟩ := Option.map_eq_some_iff.mp hget
  have hmem := List.mem_of_find?_eq_some hfound
  cases h with
  | object hmembers =>
      rw [fields?] at hfields
      obtain ⟨-, hfields⟩ := Option.ite_none_right_eq_some.mp hfields
      cases hfields
      exact hmembers _ (List.mem_filter.mp hmem).1
  | array hitems =>
      rw [fields?] at hfields
      obtain ⟨-, hfields⟩ := Option.ite_none_right_eq_some.mp hfields
      cases hfields
      exact hitems _ (List.of_mem_zip hmem).2
  | _ => cases hfields

/-- The keys of a list are pairwise different. -/
theorem distinct_eq_true_iff {keys : List String} : distinct keys = true ↔ keys.Nodup := by
  induction keys with
  | nil => simp [distinct]
  | cons key rest ih => simp [distinct, ih]

/-- The member under a name that the record knows is found among its fields. -/
theorem get?_filter_ofMembers {names : List String} {name : String} (hname : name ∈ names)
    (members : List (String × Json)) :
    Fields.get? ((ofMembers members).filter fun member => names.contains member.1) name =
      (Entries.find? name members).map ofJson := by
  induction members with
  | nil => rfl
  | cons member rest ih =>
      obtain ⟨key, item⟩ := member
      by_cases hkey : key = name
      · subst hkey
        simp [ofMembers, Entries.find?, Fields.get?, hname]
      · rw [Entries.find?, if_neg hkey, ← ih]
        by_cases hknown : key ∈ names <;> simp [ofMembers, Fields.get?, hkey, hknown]

/-- The document of an object has, under each name that the record knows, what the object has. -/
theorem fields?_ofJson_object {members : List (String × Json)} (h : Entries.Ascending members)
    (names : List String) :
    ∃ fields, (ofJson (.object members)).fields? names = some fields ∧
      ∀ name ∈ names, fields.get? name = (Entries.find? name members).map ofJson := by
  have hkeys : (ofMembers members).map (·.1) = members.map Prod.fst := by
    rw [ofMembers_eq_map, List.map_map]
    rfl
  have hdistinct : distinct
      (((ofMembers members).filter fun member => names.contains member.1).map (·.1)) = true := by
    refine distinct_eq_true_iff.mpr (List.Nodup.sublist (List.filter_sublist.map _) ?_)
    rw [hkeys]
    exact h.nodup_keys
  refine ⟨_, ?_, fun name hname => get?_filter_ofMembers hname members⟩
  rw [ofJson, fields?]
  exact if_pos hdistinct

end Document

namespace Json

/-- The fields that are there. -/
def present (fields : List (String × Option Json)) : List (String × Json) :=
  fields.filterMap fun field => field.2.map (field.1, ·)

variable {fields : List (String × Option Json)}

theorem mem_present {name : String} {value : Json} :
    (name, value) ∈ present fields ↔ (name, some value) ∈ fields := by
  simp only [present, List.mem_filterMap, Option.map_eq_some_iff, Prod.mk.injEq]
  constructor
  · rintro ⟨⟨_, _⟩, hmem, _, rfl, rfl, rfl⟩
    exact hmem
  · intro hmem
    exact ⟨_, hmem, value, rfl, rfl, rfl⟩

/-- If no name is repeated, none is repeated among the fields that are there. -/
theorem nodup_present (h : (fields.map Prod.fst).Nodup) :
    ((present fields).map Prod.fst).Nodup := by
  have hsub : ((present fields).map Prod.fst).Sublist (fields.map Prod.fst) := by
    clear h
    induction fields with
    | nil => exact List.Sublist.slnil
    | cons field rest ih =>
        obtain ⟨name, _ | value⟩ := field
        · exact ih.cons name
        · exact ih.cons_cons name
  exact h.sublist hsub

/-- Under each name there is what was given for it, or nothing. -/
theorem find?_present (h : (fields.map Prod.fst).Nodup) {name : String} {value : Option Json}
    (hmem : (name, value) ∈ fields) : Entries.find? name (present fields) = value := by
  refine Option.ext fun found => ?_
  rw [← Entries.mem_iff_find?_of_nodup (nodup_present h), mem_present]
  have hfind := (Entries.mem_iff_find?_of_nodup h name value).mp hmem
  constructor
  · intro hfound
    exact Option.some.inj (hfind.symm.trans ((Entries.mem_iff_find?_of_nodup h _ _).mp hfound))
  · rintro rfl
    exact hmem

end Json

/-- The document of a record has, under each name, what was given for it, or nothing. -/
theorem Document.fields?_ofRecord (names : List String) (record : List (String × Option Json))
    (hnames : record.map Prod.fst = names) (hdistinct : names.Nodup) :
    ∃ fields, (ofJson (Json.ofMembers (Json.present record))).fields? names = some fields ∧
      ∀ name value, (name, value) ∈ record → fields.get? name = value.map ofJson := by
  subst hnames
  obtain ⟨fields, hfields, hget⟩ := fields?_ofJson_object
    (SortedMap.ofList (Json.present record)).ascending (record.map Prod.fst)
  refine ⟨fields, hfields, fun name value hmem => ?_⟩
  rw [hget name (List.mem_map.mpr ⟨_, hmem, rfl⟩)]
  have hfound := SortedMap.find?_ofList_eq (Json.nodup_present hdistinct) name
  rw [SortedMap.find?, Json.find?_present hdistinct hmem] at hfound
  rw [hfound]

namespace Decoder

variable {α : Type} {item : Decoder α} {document : Document} {value : α}

/-- A value that may be null is there if it is not null and can be decoded. -/
theorem nullable_eq_some_some_iff :
    nullable item document = some (some value) ↔ document ≠ .null ∧ item document = some value := by
  cases document <;> simp [nullable]

end Decoder

namespace Fields

variable {α : Type} {fields : Fields} {name : String} {item : Decoder α}

/-- A field with a default is absent, or it is decoded. -/
theorem orElse_eq_some_iff {default value : α} :
    fields.orElse name item default = some value ↔
      (fields.get? name = none ∧ value = default) ∨
        ∃ document, fields.get? name = some document ∧ item document = some value := by
  unfold orElse
  cases fields.get? name <;> simp [eq_comm]

/-- A field that may be absent or null is there if it is written, not as null, and decoded. -/
theorem optional_eq_some_some {value : α} (h : fields.optional name item = some (some value)) :
    ∃ document, fields.get? name = some document ∧ document ≠ .null ∧
      item document = some value := by
  rcases orElse_eq_some_iff.mp h with ⟨-, habsent⟩ | ⟨document, hget, hread⟩
  · cases habsent
  · exact ⟨document, hget, Decoder.nullable_eq_some_some_iff.mp hread⟩

/-- A field that is always written is read back. -/
theorem orElse_of_written {value default : α} {json : Json}
    (hget : fields.get? name = some (Document.ofJson json))
    (hread : Decoder.ofJson item json = some value) :
    fields.orElse name item default = some value := by
  rw [orElse, hget]
  exact hread

/-- A field that may be absent is read back if it is never written as null. -/
theorem optional_of_get? (encode : α → Json) {value : Option α}
    (hget : fields.get? name = (value.map encode).map Document.ofJson)
    (hread : ∀ found, value = some found →
      Decoder.ofJson item (encode found) = some found ∧ encode found ≠ .null) :
    fields.optional name item = some value := by
  cases value with
  | none => rw [optional, orElse, hget]; rfl
  | some found =>
      obtain ⟨hfound, hnull⟩ := hread found rfl
      refine orElse_of_written hget ?_
      refine Decoder.nullable_eq_some_some_iff.mpr ⟨?_, hfound⟩
      cases hencoded : encode found with
      | null => exact absurd hencoded hnull
      | _ => exact Document.noConfusion

/-- A text that may be absent is read back. -/
theorem optional_text_of_get? {value : Option String}
    (hget : fields.get? name = (value.map Json.string).map Document.ofJson) :
    fields.optional name Decoder.text = some value :=
  optional_of_get? .string hget fun _ _ => ⟨rfl, Json.noConfusion⟩

/-- A text that is left out when it is empty is read back. -/
theorem orElse_text_of_get? {text : String}
    (hget : fields.get? name =
      (if text = "" then none else some (Json.string text)).map Document.ofJson) :
    fields.orElse name Decoder.text "" = some text := by
  rw [orElse, hget]
  by_cases htext : text = ""
  · rw [if_pos htext, htext]
    rfl
  · rw [if_neg htext]
    rfl

end Fields

end BotHost
