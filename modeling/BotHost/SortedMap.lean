/-
# Maps kept in key order

Command arguments, configuration sections, stored records and command specs are
all maps whose order, when it shows, is the order of their keys.  `SortedMap`
stores the entries as a list that is strictly ascending by key, and carries that
fact as a proof, so two maps with the same look-ups are the same value.

The main statements describe each operation through `find?`: insertion answers
the new value at its key and changes no other key, and removal forgets exactly
its key.
-/

namespace BotHost

/-- A strict total order on keys, given by its decision procedure. -/
class KeyOrder (κ : Type) where
  /-- `precedes a b` holds when `a` comes strictly before `b`. -/
  precedes : κ → κ → Bool
  irrefl : ∀ a, precedes a a = false
  trans : ∀ a b c, precedes a b = true → precedes b c = true → precedes a c = true
  /-- Two keys of which neither precedes the other are the same key. -/
  total : ∀ a b, precedes a b = false → precedes b a = false → a = b

/-- The order of code points, one character after the other; a proper beginning
comes before the longer text. -/
def codePointsPrecede : List Char → List Char → Bool
  | _, [] => false
  | [], _ :: _ => true
  | a :: as, b :: bs =>
    if a.toNat < b.toNat then true
    else if b.toNat < a.toNat then false
    else codePointsPrecede as bs

theorem codePointsPrecede_irrefl (text : List Char) : codePointsPrecede text text = false := by
  induction text with
  | nil => rfl
  | cons a as ih => simp [codePointsPrecede, ih]

theorem codePointsPrecede_trans (first second third : List Char)
    (h : codePointsPrecede first second = true) (h' : codePointsPrecede second third = true) :
    codePointsPrecede first third = true := by
  induction first generalizing second third with
  | nil =>
    cases third with
    | nil => cases second <;> simp [codePointsPrecede] at h'
    | cons => rfl
  | cons a as ih =>
    cases second with
    | nil => simp [codePointsPrecede] at h
    | cons b bs =>
      cases third with
      | nil => simp [codePointsPrecede] at h'
      | cons c cs =>
        simp only [codePointsPrecede] at h h' ⊢
        split at h
        · split at h'
          · rw [if_pos (by omega)]
          · split at h'
            · cases h'
            · rw [if_pos (by omega)]
        · split at h
          · cases h
          · split at h'
            · rw [if_pos (by omega)]
            · split at h'
              · cases h'
              · rw [if_neg (by omega), if_neg (by omega)]
                exact ih _ _ h h'

theorem codePointsPrecede_total (first second : List Char)
    (h : codePointsPrecede first second = false) (h' : codePointsPrecede second first = false) :
    first = second := by
  induction first generalizing second with
  | nil => cases second <;> simp_all [codePointsPrecede]
  | cons a as ih =>
    cases second with
    | nil => simp [codePointsPrecede] at h'
    | cons b bs =>
      simp only [codePointsPrecede] at h h'
      split at h
      · cases h
      · split at h
        · rw [if_pos (by omega)] at h'; cases h'
        · rw [if_neg (by omega), if_neg (by omega)] at h'
          have hab : a = b := Char.toNat_inj.mp (by omega)
          rw [hab, ih bs h h']

/-- Strings are ordered by code points, which is also the order of their UTF-8
bytes. -/
instance : KeyOrder String where
  precedes first second := codePointsPrecede first.toList second.toList
  irrefl text := codePointsPrecede_irrefl text.toList
  trans first second third := codePointsPrecede_trans first.toList second.toList third.toList
  total first second h h' :=
    String.toList_inj.mp (codePointsPrecede_total first.toList second.toList h h')

/-- Pairs are ordered by their first component and then by their second. -/
instance {α β : Type} [KeyOrder α] [KeyOrder β] : KeyOrder (α × β) where
  precedes a b :=
    KeyOrder.precedes a.1 b.1 || (!KeyOrder.precedes b.1 a.1 && KeyOrder.precedes a.2 b.2)
  irrefl a := by simp [KeyOrder.irrefl]
  trans a b c hab hbc := by
    simp only [Bool.or_eq_true, Bool.and_eq_true, Bool.not_eq_true'] at *
    rcases hab with hab | ⟨hab, hab'⟩ <;> rcases hbc with hbc | ⟨hbc, hbc'⟩
    · exact .inl (KeyOrder.trans _ _ _ hab hbc)
    · by_cases hbc2 : KeyOrder.precedes b.1 c.1 = true
      · exact .inl (KeyOrder.trans _ _ _ hab hbc2)
      · have := KeyOrder.total _ _ (by simpa using hbc2) hbc
        exact .inl (this ▸ hab)
    · by_cases hab2 : KeyOrder.precedes a.1 b.1 = true
      · exact .inl (KeyOrder.trans _ _ _ hab2 hbc)
      · have := KeyOrder.total _ _ (by simpa using hab2) hab
        exact .inl (this ▸ hbc)
    · by_cases hac : KeyOrder.precedes c.1 a.1 = true
      · by_cases hab2 : KeyOrder.precedes a.1 b.1 = true
        · have := KeyOrder.trans _ _ _ hac hab2
          rw [hbc] at this; cases this
        · have hEq := KeyOrder.total _ _ (by simpa using hab2) hab
          rw [hEq, hbc] at hac; cases hac
      · exact .inr ⟨by simpa using hac, KeyOrder.trans _ _ _ hab' hbc'⟩
  total a b hab hba := by
    simp only [Bool.or_eq_false_iff, Bool.and_eq_false_iff, Bool.not_eq_false'] at *
    have h1 := KeyOrder.total _ _ hab.1 hba.1
    obtain ⟨a1, a2⟩ := a
    obtain ⟨b1, b2⟩ := b
    simp only at h1
    subst h1
    simp only [KeyOrder.irrefl, Bool.false_eq_true, false_or] at hab hba
    rw [KeyOrder.total _ _ hab.2 hba.2]

namespace Entries

variable {κ α : Type} [KeyOrder κ]

/-- The keys of the entries ascend strictly. -/
def Ascending (entries : List (κ × α)) : Prop :=
  entries.Pairwise fun a b => KeyOrder.precedes a.1 b.1 = true

/-- Insert an entry in key order; an entry with the same key is replaced. -/
def insert (key : κ) (value : α) : List (κ × α) → List (κ × α)
  | [] => [(key, value)]
  | (k, v) :: rest =>
    if KeyOrder.precedes key k then (key, value) :: (k, v) :: rest
    else if KeyOrder.precedes k key then (k, v) :: insert key value rest
    else (key, value) :: rest

/-- The value stored under a key. -/
def find? [DecidableEq κ] (key : κ) : List (κ × α) → Option α
  | [] => none
  | (k, v) :: rest => if k = key then some v else find? key rest

/-- Every key of the result of an insertion was there before or is the new one. -/
theorem key_of_mem_insert {key : κ} {value : α} {entries : List (κ × α)} {entry : κ × α}
    (h : entry ∈ insert key value entries) : entry.1 = key ∨ entry ∈ entries := by
  induction entries with
  | nil => simp_all [insert]
  | cons head rest ih =>
    obtain ⟨k, v⟩ := head
    simp only [insert] at h
    split at h
    · rcases List.mem_cons.mp h with rfl | h
      · exact .inl rfl
      · exact .inr h
    · split at h
      · rcases List.mem_cons.mp h with rfl | h
        · exact .inr (List.mem_cons_self ..)
        · exact (ih h).imp id (List.mem_cons_of_mem _)
      · rcases List.mem_cons.mp h with rfl | h
        · exact .inl rfl
        · exact .inr (List.mem_cons_of_mem _ h)

/-- Insertion keeps the keys ascending. -/
theorem ascending_insert {key : κ} {value : α} {entries : List (κ × α)}
    (h : Ascending entries) : Ascending (insert key value entries) := by
  induction entries with
  | nil => simp [insert, Ascending]
  | cons head rest ih =>
    obtain ⟨k, v⟩ := head
    have hrest : Ascending rest := (List.pairwise_cons.mp h).2
    have hhead := (List.pairwise_cons.mp h).1
    simp only [insert]
    split
    · rename_i hlt
      refine List.pairwise_cons.mpr ⟨fun entry hmem => ?_, h⟩
      rcases List.mem_cons.mp hmem with rfl | hmem
      · exact hlt
      · exact KeyOrder.trans _ _ _ hlt (hhead entry hmem)
    · rename_i hnlt
      split
      · rename_i hgt
        refine List.pairwise_cons.mpr ⟨fun entry hmem => ?_, ih hrest⟩
        rcases key_of_mem_insert hmem with hkey | hmem
        · rw [hkey]; exact hgt
        · exact hhead entry hmem
      · rename_i hngt
        have hkey : key = k :=
          KeyOrder.total _ _ (by simpa using hnlt) (by simpa using hngt)
        refine List.pairwise_cons.mpr ⟨fun entry hmem => ?_, hrest⟩
        rw [hkey]; exact hhead entry hmem

/-- Dropping entries keeps the keys ascending. -/
theorem ascending_filter {keep : κ × α → Bool} {entries : List (κ × α)}
    (h : Ascending entries) : Ascending (entries.filter keep) :=
  List.Pairwise.filter _ h

/-- Changing the values of some entries and dropping the others. -/
def filterMap {β : Type} (change : κ → α → Option β) (entries : List (κ × α)) :
    List (κ × β) :=
  entries.filterMap fun entry => (change entry.1 entry.2).map (entry.1, ·)

omit [KeyOrder κ] in
/-- A changed entry has the key of an entry that was there. -/
theorem key_of_mem_filterMap {β : Type} {change : κ → α → Option β} {entries : List (κ × α)}
    {entry : κ × β} (h : entry ∈ filterMap change entries) :
    ∃ value, (entry.1, value) ∈ entries := by
  obtain ⟨⟨k, v⟩, hmem, hchange⟩ := List.mem_filterMap.mp h
  obtain ⟨w, _, rfl⟩ := Option.map_eq_some_iff.mp hchange
  exact ⟨v, hmem⟩

/-- Changing values keeps the keys ascending. -/
theorem ascending_filterMap {β : Type} {change : κ → α → Option β} {entries : List (κ × α)}
    (h : Ascending entries) : Ascending (filterMap change entries) := by
  induction entries with
  | nil => exact .nil
  | cons head rest ih =>
    obtain ⟨k, v⟩ := head
    have hrest : Ascending rest := (List.pairwise_cons.mp h).2
    have hhead := (List.pairwise_cons.mp h).1
    cases hv : change k v with
    | none => simpa [filterMap, hv] using ih hrest
    | some w =>
      have heq : filterMap change ((k, v) :: rest) = (k, w) :: filterMap change rest := by
        simp [filterMap, hv]
      rw [heq]
      refine List.pairwise_cons.mpr ⟨fun entry hmem => ?_, ih hrest⟩
      obtain ⟨value, hvalue⟩ := key_of_mem_filterMap hmem
      exact hhead _ hvalue

/-- An insertion answers the new value at its key and nothing else changes. -/
theorem find?_insert [DecidableEq κ] (key : κ) (value : α) (entries : List (κ × α))
    (sought : κ) :
    find? sought (insert key value entries) =
      if key = sought then some value else find? sought entries := by
  induction entries with
  | nil => simp [insert, find?]
  | cons head rest ih =>
    obtain ⟨k, v⟩ := head
    simp only [insert]
    split
    · rfl
    · rename_i hnlt
      split
      · rename_i hgt
        have hne : k ≠ key := by
          rintro rfl
          rw [KeyOrder.irrefl] at hgt; cases hgt
        by_cases hk : k = sought
        · subst hk
          have : key ≠ k := fun h => hne h.symm
          simp [find?, this]
        · simp [find?, hk, ih]
      · rename_i hngt
        have hkey : key = k :=
          KeyOrder.total _ _ (by simpa using hnlt) (by simpa using hngt)
        subst hkey
        by_cases hk : key = sought <;> simp [find?, hk]

/-- In a list that ascends, the entries are what the look-ups find. -/
theorem mem_iff_find? [DecidableEq κ] {entries : List (κ × α)} (h : Ascending entries) (key : κ)
    (value : α) : (key, value) ∈ entries ↔ find? key entries = some value := by
  induction entries with
  | nil => simp [find?]
  | cons head rest ih =>
    obtain ⟨k, v⟩ := head
    obtain ⟨hhead, hrest⟩ := List.pairwise_cons.mp h
    by_cases hk : k = key
    · subst hk
      have hnot : (k, value) ∉ rest := by
        intro hmem
        have hlt := hhead _ hmem
        rw [KeyOrder.irrefl] at hlt
        cases hlt
      simp [find?, hnot, eq_comm]
    · have hne : ¬ key = k := fun heq => hk heq.symm
      simp [find?, hk, hne, ih hrest]

/-- In a list that ascends, no entry is repeated. -/
theorem nodup {entries : List (κ × α)} (h : Ascending entries) : entries.Nodup := by
  refine List.Pairwise.imp (fun {a b} hab hsame => ?_) h
  rw [hsame, KeyOrder.irrefl] at hab
  cases hab

/-- Changing values changes what the look-ups find. -/
theorem find?_filterMap [DecidableEq κ] {β : Type} (change : κ → α → Option β)
    {entries : List (κ × α)} (h : Ascending entries) (key : κ) :
    find? key (filterMap change entries) = (find? key entries).bind (change key) := by
  refine Option.ext fun changed => ?_
  rw [← mem_iff_find? (ascending_filterMap h), Option.bind_eq_some_iff]
  constructor
  · intro hmem
    obtain ⟨⟨k, value⟩, hvalue, hchange⟩ := List.mem_filterMap.mp hmem
    obtain ⟨_, hchanged, hkey⟩ := Option.map_eq_some_iff.mp hchange
    cases hkey
    exact ⟨value, (mem_iff_find? h k value).mp hvalue, hchanged⟩
  · rintro ⟨value, hvalue, hchanged⟩
    exact List.mem_filterMap.mpr
      ⟨(key, value), (mem_iff_find? h key value).mpr hvalue, by simp [hchanged]⟩

end Entries

/-- A finite map whose entries are listed in ascending key order. -/
structure SortedMap (κ α : Type) [KeyOrder κ] where
  /-- The entries, by ascending key. -/
  toList : List (κ × α)
  /-- The keys ascend strictly, so no key occurs twice. -/
  ascending : Entries.Ascending toList

namespace SortedMap

variable {κ α : Type} [KeyOrder κ]

/-- The map without entries. -/
def empty : SortedMap κ α := ⟨[], .nil⟩

instance : Inhabited (SortedMap κ α) := ⟨empty⟩

instance : EmptyCollection (SortedMap κ α) := ⟨empty⟩

instance [BEq κ] [BEq α] : BEq (SortedMap κ α) := ⟨fun a b => a.toList == b.toList⟩

instance [BEq κ] [BEq α] [ReflBEq κ] [ReflBEq α] : ReflBEq (SortedMap κ α) where
  rfl {map} := @BEq.rfl _ _ _ map.toList

/-- Store a value under a key, replacing what was there. -/
def insert (map : SortedMap κ α) (key : κ) (value : α) : SortedMap κ α :=
  ⟨Entries.insert key value map.toList, Entries.ascending_insert map.ascending⟩

/-- The value stored under a key. -/
def find? [DecidableEq κ] (map : SortedMap κ α) (key : κ) : Option α :=
  Entries.find? key map.toList

/-- Whether the key has a value. -/
def contains [DecidableEq κ] (map : SortedMap κ α) (key : κ) : Bool :=
  (map.find? key).isSome

/-- Keep only the entries that pass the test. -/
def filter (map : SortedMap κ α) (keep : κ → α → Bool) : SortedMap κ α :=
  ⟨map.toList.filter fun entry => keep entry.1 entry.2, Entries.ascending_filter map.ascending⟩

/-- Change the values of some keys and forget the others. -/
def filterMap {β : Type} (map : SortedMap κ α) (change : κ → α → Option β) : SortedMap κ β :=
  ⟨Entries.filterMap change map.toList, Entries.ascending_filterMap map.ascending⟩

/-- Forget a key. -/
def erase [DecidableEq κ] (map : SortedMap κ α) (key : κ) : SortedMap κ α :=
  map.filter fun k _ => k ≠ key

/-- Store the listed entries one after the other, so the last value of a repeated
key stays. -/
def ofList (entries : List (κ × α)) : SortedMap κ α :=
  entries.foldl (fun map entry => map.insert entry.1 entry.2) empty

/-- The keys in ascending order. -/
def keys (map : SortedMap κ α) : List κ := map.toList.map (·.1)

/-- The values in the order of their keys. -/
def values (map : SortedMap κ α) : List α := map.toList.map (·.2)

/-- How many keys have a value. -/
def size (map : SortedMap κ α) : Nat := map.toList.length

/-- Whether no key has a value. -/
def isEmpty (map : SortedMap κ α) : Bool := map.toList.isEmpty

/-- Maps with the same listing are equal. -/
theorem ext_toList {first second : SortedMap κ α} (h : first.toList = second.toList) :
    first = second := by
  cases first; cases second; simp_all

instance [BEq κ] [BEq α] [LawfulBEq κ] [LawfulBEq α] : LawfulBEq (SortedMap κ α) where
  eq_of_beq h := ext_toList (eq_of_beq h)

/-- The entries of a map are what the look-ups find. -/
theorem mem_toList_iff [DecidableEq κ] {map : SortedMap κ α} {key : κ} {value : α} :
    (key, value) ∈ map.toList ↔ map.find? key = some value :=
  Entries.mem_iff_find? map.ascending key value

/-- Maps with the same look-ups are equal. -/
@[ext] theorem ext_find? [DecidableEq κ] {first second : SortedMap κ α}
    (h : ∀ key, first.find? key = second.find? key) : first = second := by
  have hmem : ∀ entry, entry ∈ first.toList ↔ entry ∈ second.toList := fun entry => by
    rw [mem_toList_iff, mem_toList_iff, h]
  have hperm : first.toList.Perm second.toList :=
    (List.perm_ext_iff_of_nodup (Entries.nodup first.ascending)
      (Entries.nodup second.ascending)).mpr hmem
  refine ext_toList (hperm.eq_of_pairwise (fun a b _ _ hab hba => ?_) first.ascending
    second.ascending)
  -- Entries cannot stand in both orders.
  have habsurd := KeyOrder.trans _ _ _ hab hba
  rw [KeyOrder.irrefl] at habsurd
  cases habsurd

@[simp] theorem find?_empty [DecidableEq κ] (key : κ) :
    (empty : SortedMap κ α).find? key = none := rfl

/-- A look-up after an insertion. -/
@[simp] theorem find?_insert [DecidableEq κ] (map : SortedMap κ α) (key : κ) (value : α)
    (sought : κ) :
    (map.insert key value).find? sought =
      if key = sought then some value else map.find? sought :=
  Entries.find?_insert key value map.toList sought

/-- An insertion adds one value, if any. -/
theorem mem_values_insert [DecidableEq κ] {map : SortedMap κ α} {key : κ} {value other : α}
    (h : other ∈ (map.insert key value).values) : other = value ∨ other ∈ map.values := by
  obtain ⟨⟨sought, found⟩, hentry, rfl⟩ := List.mem_map.mp h
  rw [mem_toList_iff, find?_insert] at hentry
  split at hentry
  · exact .inl (Option.some.inj hentry).symm
  · exact .inr (List.mem_map.mpr ⟨(sought, found), mem_toList_iff.mpr hentry, rfl⟩)

/-- A look-up after a removal. -/
@[simp] theorem find?_erase [DecidableEq κ] (map : SortedMap κ α) (key sought : κ) :
    (map.erase key).find? sought = if key = sought then none else map.find? sought := by
  obtain ⟨entries, h⟩ := map
  simp only [erase, filter, find?]
  clear h
  induction entries with
  | nil => simp [Entries.find?]
  | cons head rest ih =>
    obtain ⟨k, v⟩ := head
    by_cases hk : k = key
    · subst hk
      by_cases hs : k = sought <;> simp_all [Entries.find?]
    · by_cases hs : k = sought
      · subst hs
        simp_all [Entries.find?, Ne.symm hk]
      · simp_all [Entries.find?]

/-- A look-up after some values were changed and the other keys forgotten. -/
theorem find?_filterMap [DecidableEq κ] {β : Type} (map : SortedMap κ α)
    (change : κ → α → Option β) (sought : κ) :
    (map.filterMap change).find? sought = (map.find? sought).bind (change sought) :=
  Entries.find?_filterMap change map.ascending sought

/-- There is nothing to remove under a key without a value. -/
theorem erase_eq_self [DecidableEq κ] {map : SortedMap κ α} {key : κ}
    (h : map.find? key = none) : map.erase key = map := by
  refine ext_toList (List.filter_eq_self.mpr fun entry hmem => ?_)
  by_cases hkey : entry.1 = key
  · have hfound := mem_toList_iff.mp hmem
    rw [hkey, h] at hfound
    cases hfound
  · simpa using hkey

/-- The listing of a map is, up to order, an entry in front of the others. -/
theorem perm_cons_erase [DecidableEq κ] {map : SortedMap κ α} {key : κ} {value : α}
    (h : map.find? key = some value) :
    map.toList.Perm ((key, value) :: (map.erase key).toList) := by
  have hgone : (key, value) ∉ (map.erase key).toList := by
    rw [mem_toList_iff, find?_erase, if_pos rfl]
    exact Option.some_ne_none value ∘ Eq.symm
  refine (List.perm_ext_iff_of_nodup (Entries.nodup map.ascending)
    (List.nodup_cons.mpr ⟨hgone, Entries.nodup (map.erase key).ascending⟩)).mpr fun entry => ?_
  obtain ⟨sought, found⟩ := entry
  rw [mem_toList_iff, List.mem_cons, mem_toList_iff, find?_erase]
  by_cases hkey : key = sought
  · subst hkey
    simp [h, eq_comm]
  · simp [hkey, Ne.symm hkey]

/-- The entries under a key are what the look-up finds. -/
theorem filter_key [DecidableEq κ] (map : SortedMap κ α) (key : κ) :
    map.toList.filter (fun entry => decide (entry.1 = key)) =
      ((map.find? key).map (key, ·)).toList := by
  have hgone : (map.erase key).toList.filter (fun entry => decide (entry.1 = key)) = [] := by
    simp [erase, filter, List.filter_filter]
  cases hfound : map.find? key with
  | none => simpa [erase_eq_self hfound] using hgone
  | some value =>
    have hperm := (perm_cons_erase hfound).filter fun entry => decide (entry.1 = key)
    rw [List.filter_cons_of_pos (by simp), hgone] at hperm
    exact List.perm_singleton.mp hperm

/-- In equal maps the look-ups find equal values. -/
theorem find?_beq [DecidableEq κ] [BEq κ] [LawfulBEq κ] [BEq α] {first second : SortedMap κ α}
    (h : (first == second) = true) (key : κ) :
    (first.find? key == second.find? key) = true := by
  have hlists : (first.toList == second.toList) = true := h
  unfold find?
  generalize first.toList = entries, second.toList = others at hlists
  induction entries generalizing others with
  | nil =>
      cases others with
      | nil => rfl
      | cons => cases hlists
  | cons entry rest ih =>
      cases others with
      | nil => cases hlists
      | cons other others =>
          obtain ⟨sought, value⟩ := entry
          obtain ⟨sought', value'⟩ := other
          have hentries : (sought == sought' && value == value' && rest == others) = true := hlists
          simp only [Bool.and_eq_true, beq_iff_eq] at hentries
          obtain ⟨⟨rfl, hvalue⟩, hrest⟩ := hentries
          by_cases hsought : sought = key
          · simpa [Entries.find?, hsought] using hvalue
          · simpa [Entries.find?, hsought] using ih _ hrest

/-- A search through a map does not miss an entry in which nothing is found. -/
theorem findSome?_erase [DecidableEq κ] {β : Type} {map : SortedMap κ α} {key : κ}
    {look : κ × α → Option β} (h : ∀ entry ∈ map.toList, entry.1 = key → look entry = none) :
    (map.erase key).toList.findSome? look = map.toList.findSome? look := by
  obtain ⟨entries, hascending⟩ := map
  simp only [erase, filter] at h ⊢
  clear hascending
  induction entries with
  | nil => rfl
  | cons head rest ih =>
    have hrest := ih fun entry hmem => h entry (List.mem_cons_of_mem _ hmem)
    by_cases hkey : head.1 = key
    · rw [List.filter_cons_of_neg (by simpa using hkey), hrest, List.findSome?_cons,
        h head List.mem_cons_self hkey]
    · rw [List.filter_cons_of_pos (by simpa using hkey), List.findSome?_cons,
        List.findSome?_cons, hrest]

/-- What was stored under a key does not matter once something else is stored there. -/
theorem insert_insert [DecidableEq κ] (map : SortedMap κ α) (key : κ) (first second : α) :
    (map.insert key first).insert key second = map.insert key second := by
  refine ext_find? fun sought => ?_
  by_cases hsought : key = sought <;> simp [hsought]

/-- What is stored under a key does not matter once the key is removed. -/
theorem erase_insert [DecidableEq κ] (map : SortedMap κ α) (key : κ) (value : α) (erased : κ) :
    (map.insert key value).erase erased =
      if key = erased then map.erase erased else (map.erase erased).insert key value := by
  refine ext_find? fun sought => ?_
  by_cases hkey : key = erased
  · subst hkey
    by_cases hsought : key = sought <;> simp [hsought]
  · by_cases hsought : key = sought
    · subst hsought
      simp [hkey, Ne.symm hkey]
    · simp [hkey, hsought]

/-- It does not matter which of two keys is removed first. -/
theorem erase_erase [DecidableEq κ] (map : SortedMap κ α) (first second : κ) :
    (map.erase first).erase second = (map.erase second).erase first := by
  refine ext_find? fun sought => ?_
  simp only [find?_erase]
  by_cases hfirst : first = sought <;> by_cases hsecond : second = sought <;>
    simp [hfirst, hsecond]

/-- A look-up after the listed entries were stored one after the other. -/
theorem find?_foldl_insert [DecidableEq κ] {entries : List (κ × α)}
    (h : (entries.map Prod.fst).Nodup) (map : SortedMap κ α) (key : κ) (value : α) :
    (entries.foldl (fun map entry => map.insert entry.1 entry.2) map).find? key = some value ↔
      (key, value) ∈ entries ∨ (key ∉ entries.map Prod.fst ∧ map.find? key = some value) := by
  induction entries generalizing map with
  | nil => simp
  | cons entry rest ih =>
    obtain ⟨first, stored⟩ := entry
    obtain ⟨hnew, hrest⟩ := List.nodup_cons.mp h
    rw [List.foldl_cons, ih hrest, find?_insert]
    by_cases hkey : first = key
    · subst hkey
      have hmem : (first, value) ∉ rest := fun hmem =>
        hnew (List.mem_map.mpr ⟨_, hmem, rfl⟩)
      simp [hmem, hnew, eq_comm]
    · have hother : ¬ key = first := fun hsame => hkey hsame.symm
      simp [hkey, hother]

/-- If no key is repeated, a look-up in a map of listed entries finds what is listed. -/
theorem find?_ofList [DecidableEq κ] {entries : List (κ × α)} (h : (entries.map Prod.fst).Nodup)
    (key : κ) (value : α) :
    (ofList entries).find? key = some value ↔ (key, value) ∈ entries := by
  rw [ofList, find?_foldl_insert h]
  simp

end SortedMap

end BotHost
