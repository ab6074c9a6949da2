/-
# Keys that a path can name

A path names a key in brackets or bare.  A key in brackets must not close them.  A bare key ends
at the first dot, and if it began with an opening bracket, a closing one in it would put it in
brackets.  So a key can be named if it has no closing bracket, or else no dot and no opening
bracket in front: `Path.Expressible`.

The loop that splits a path takes one key after the other, `Path.Splits`; it comes to an end on
every path, and what it takes are keys that can be named.  A list of such keys is what its own
path is split into, `Path.split_ofKeys`.  So a path leads to the part of a value that lies below
the keys `Json.Nested` lists, and no path leads anywhere else.
-/

import BotHost.Json.Path
import BotHost.Proofs.Json.Subsets

namespace BotHost

namespace Path

/-- Whether a key can be named in a path. -/
def Expressible (key : String) : Prop :=
  ']' ∉ key.toList ∨ ('.' ∉ key.toList ∧ key.toList.head? ≠ some '[')

instance (key : String) : Decidable (Expressible key) :=
  inferInstanceAs (Decidable (_ ∨ _))

/-- The path that lists the given keys. -/
def ofKeys (keys : List String) : String := String.ofList (join (keys.map String.toList))

/-- The loop that splits a path: as long as something is left, it takes a key from the front. -/
inductive Splits : List Char → List (List Char) → Prop where
  | done : Splits [] []
  | take {path : List Char} {keys : List (List Char)} : path ≠ [] → Splits (step path).2 keys →
      Splits path ((step path).1 :: keys)

/-! ### One key -/

variable {mark : Char} {text front back path key rest : List Char} {keys : List (List Char)}

/-- A text is cut at the first occurrence of a character. -/
theorem cutAt_eq_some_iff :
    cutAt mark text = some (front, back) ↔ text = front ++ mark :: back ∧ mark ∉ front := by
  induction text generalizing front with
  | nil => simp [cutAt]
  | cons c text ih =>
      rw [cutAt]
      by_cases hmark : c = mark
      · subst hmark
        rw [if_pos rfl]
        cases front with
        | nil => simp
        | cons d front => simp +contextual [eq_comm]
      · rw [if_neg hmark]
        cases front with
        | nil => simp [hmark]
        | cons d front =>
            have hrest := @ih front
            simp only [Option.map_eq_some_iff, Prod.exists, Prod.mk.injEq, List.cons.injEq,
              List.cons_append, List.mem_cons, not_or]
            constructor
            · rintro ⟨_, _, hcut, ⟨rfl, rfl⟩, rfl⟩
              obtain ⟨rfl, hfront⟩ := hrest.mp hcut
              exact ⟨⟨rfl, rfl⟩, Ne.symm hmark, hfront⟩
            · rintro ⟨⟨rfl, htext⟩, -, hfront⟩
              exact ⟨front, back, hrest.mpr ⟨htext, hfront⟩, ⟨rfl, rfl⟩, rfl⟩

/-- A text without a character is not cut at it. -/
theorem cutAt_eq_none_iff : cutAt mark text = none ↔ mark ∉ text := by
  induction text with
  | nil => simp [cutAt]
  | cons c text ih =>
      rw [cutAt]
      by_cases hmark : c = mark
      · simp [hmark]
      · simp [hmark, Ne.symm hmark, ih]

/-- A path starts with a key in brackets if a bracket that it opens is closed somewhere. -/
theorem bracketed?_eq_some_iff :
    bracketed? path = some (key, rest) ↔
      ∃ behind, path = '[' :: key ++ ']' :: behind ∧ ']' ∉ key ∧ rest = dropDot behind := by
  unfold bracketed?
  split
  · simp only [Option.map_eq_some_iff, Prod.exists, Prod.mk.injEq, cutAt_eq_some_iff,
      List.cons_append, List.cons.injEq, true_and]
    constructor
    · rintro ⟨_, behind, ⟨hpath, hkey⟩, rfl, rfl⟩
      exact ⟨behind, hpath, hkey, rfl⟩
    · rintro ⟨behind, hpath, hkey, rfl⟩
      exact ⟨key, behind, ⟨hpath, hkey⟩, rfl, rfl⟩
  · rename_i hopen
    constructor
    · exact nofun
    · rintro ⟨behind, rfl, -, -⟩
      exact absurd rfl (hopen _)

/-- A path starts with no key in brackets if it does not open one, or does not close it. -/
theorem bracketed?_eq_none_iff :
    bracketed? path = none ↔ path.head? ≠ some '[' ∨ ']' ∉ path := by
  cases path with
  | nil => simp [bracketed?]
  | cons c inner =>
      by_cases hopen : c = '['
      · subst hopen
        simp [bracketed?, cutAt_eq_none_iff]
      · have hnone : bracketed? (c :: inner) = none := by
          unfold bracketed?
          split
          · rename_i hpath
            exact absurd (List.cons.inj hpath).1 hopen
          · rfl
        simp [hnone, hopen]

/-- What the loop takes from a path, and what it leaves: a key in brackets, a bare key up to a dot,
or the whole path as a bare key. -/
inductive StepCase (path : List Char) : List Char → List Char → Prop where
  | bracketed {key behind : List Char} : path = '[' :: key ++ ']' :: behind → ']' ∉ key →
      StepCase path key (dropDot behind)
  | bare {key rest : List Char} : path = key ++ '.' :: rest → '.' ∉ key → bracketed? path = none →
      StepCase path key rest
  | last : '.' ∉ path → bracketed? path = none → StepCase path path []

theorem step_cases (path : List Char) : StepCase path (step path).1 (step path).2 := by
  unfold step
  cases hbracket : bracketed? path with
  | some found =>
      obtain ⟨key, rest⟩ := found
      obtain ⟨behind, hpath, hkey, rfl⟩ := bracketed?_eq_some_iff.mp hbracket
      exact .bracketed hpath hkey
  | none =>
      cases hcut : cutAt '.' path with
      | some found =>
          obtain ⟨hpath, hkey⟩ := cutAt_eq_some_iff.mp hcut
          exact .bare hpath hkey hbracket
      | none => exact .last (cutAt_eq_none_iff.mp hcut) hbracket

theorem length_dropDot_le (text : List Char) : (dropDot text).length ≤ text.length := by
  unfold dropDot
  split
  · exact Nat.le_succ _
  · exact Nat.le_refl _

/-- Every key takes something of the path. -/
theorem length_step_lt (h : path ≠ []) : (step path).2.length < path.length := by
  have hcase := step_cases path
  generalize (step path).1 = key, (step path).2 = rest at hcase
  cases hcase with
  | @bracketed _ behind hpath _ =>
      have hdrop := length_dropDot_le behind
      have hlength := congrArg List.length hpath
      simp only [List.length_append, List.length_cons] at hlength
      omega
  | bare hpath _ _ =>
      have hlength := congrArg List.length hpath
      simp only [List.length_append, List.length_cons] at hlength
      omega
  | last _ _ => exact List.length_pos_iff.mpr h

/-- A bare key in front of a path that starts with no key in brackets can be named. -/
theorem expressible_of_bare (hbegins : key <+: path) (hdot : '.' ∉ key)
    (hbracket : bracketed? path = none) : ']' ∉ key ∨ ('.' ∉ key ∧ key.head? ≠ some '[') := by
  obtain ⟨more, rfl⟩ := hbegins
  refine Classical.or_iff_not_imp_left.mpr fun hclose => ⟨hdot, fun hopen => ?_⟩
  rcases bracketed?_eq_none_iff.mp hbracket with hhead | hnone
  · exact hhead (by rw [List.head?_append, hopen, Option.some_or])
  · exact hclose fun hmem => hnone (List.mem_append_left more hmem)

/-- Every key that the loop takes can be named. -/
theorem expressible_step (path : List Char) : Expressible (String.ofList (step path).1) := by
  have hcase := step_cases path
  generalize (step path).1 = key, (step path).2 = rest at hcase
  rw [Expressible, String.toList_ofList]
  cases hcase with
  | bracketed _ hkey => exact .inl hkey
  | bare hpath hdot hbracket => exact expressible_of_bare ⟨_, hpath.symm⟩ hdot hbracket
  | last hdot hbracket => exact expressible_of_bare List.prefix_rfl hdot hbracket

/-! ### The loop -/

/-- The bound on the number of keys does not matter as long as it is the path's length at least. -/
theorem splitWithin_eq {bound : Nat} (h : path.length ≤ bound) :
    splitWithin bound path = splitText path := by
  induction bound using Nat.strongRecOn generalizing path with
  | ind bound ih =>
      cases path with
      | nil => cases bound <;> rfl
      | cons c text =>
          obtain ⟨bound, rfl⟩ := Nat.exists_eq_succ_of_ne_zero (Nat.ne_zero_of_lt h)
          have hrest := length_step_lt (List.cons_ne_nil c text)
          rw [List.length_cons] at h hrest
          rw [splitText, List.length_cons, splitWithin, splitWithin,
            ih bound (Nat.lt_succ_self _) (by omega), ih text.length (by omega) (by omega)]
          all_goals exact List.cons_ne_nil c text

/-- The keys of a path are its first key and those of what is left. -/
theorem splitText_eq_cons (h : path ≠ []) :
    splitText path = (step path).1 :: splitText (step path).2 := by
  have hrest := length_step_lt h
  obtain ⟨bound, hbound⟩ := Nat.exists_eq_succ_of_ne_zero (mt List.length_eq_zero_iff.mp h)
  rw [splitText, hbound, splitWithin, splitWithin_eq (by omega)]
  exact h

/-- The loop comes to an end on every path, with the keys of the path. -/
theorem splits_iff {keys : List (List Char)} : Splits path keys ↔ keys = splitText path := by
  constructor
  · intro h
    induction h with
    | done => rfl
    | take hpath _ ih => rw [splitText_eq_cons hpath, ih]
  · rintro rfl
    induction hlength : path.length using Nat.strongRecOn generalizing path with
    | ind bound ih =>
        by_cases hpath : path = []
        · subst hpath
          exact .done
        · rw [splitText_eq_cons hpath]
          exact .take hpath (ih _ (hlength ▸ length_step_lt hpath) rfl)

/-- Every key of a path can be named. -/
theorem expressible_of_mem_split {path key : String} (h : key ∈ split path) : Expressible key := by
  obtain ⟨text, htext, rfl⟩ := List.mem_map.mp h
  have hsplits : Splits path.toList (splitText path.toList) := splits_iff.mpr rfl
  generalize path.toList = path, splitText path.toList = keys at htext hsplits
  induction hsplits with
  | done => cases htext
  | @take path keys _ _ ih =>
      rcases List.mem_cons.mp htext with rfl | htext
      · exact expressible_step path
      · exact ih htext

/-! ### Paths of keys -/

theorem step_bracketed {behind : List Char} (h : ']' ∉ key) :
    step ('[' :: key ++ ']' :: behind) = (key, dropDot behind) := by
  rw [step, bracketed?_eq_some_iff.mpr ⟨behind, rfl, h, rfl⟩]

/-- A key that can be named is taken from the path that it alone makes up. -/
theorem step_writeKey {key : String} (h : Expressible key) :
    step (writeKey key.toList) = (key.toList, []) := by
  by_cases hclose : ']' ∈ key.toList
  · obtain ⟨hdot, hopen⟩ := h.resolve_left (not_not_intro hclose)
    rw [writeKey, if_pos (List.contains_iff_mem.mpr hclose), step,
      bracketed?_eq_none_iff.mpr (.inl hopen), cutAt_eq_none_iff.mpr hdot]
  · rw [writeKey, if_neg (mt List.contains_iff_mem.mp hclose)]
    exact step_bracketed hclose

/-- A key that can be named is taken from a path that goes on behind it. -/
theorem step_writeKey_append {key : String} (h : Expressible key) (rest : List Char) :
    step (writeKey key.toList ++ '.' :: rest) = (key.toList, rest) := by
  by_cases hclose : ']' ∈ key.toList
  · obtain ⟨hdot, hopen⟩ := h.resolve_left (not_not_intro hclose)
    have hhead : (key.toList ++ '.' :: rest).head? ≠ some '[' := by
      rw [List.head?_append]
      cases hkey : key.toList with
      | nil => simp [hkey] at hclose
      | cons c key => simpa [hkey] using hopen
    rw [writeKey, if_pos (List.contains_iff_mem.mpr hclose), step,
      bracketed?_eq_none_iff.mpr (.inl hhead), cutAt_eq_some_iff.mpr ⟨rfl, hdot⟩]
  · rw [writeKey, if_neg (mt List.contains_iff_mem.mp hclose), List.append_assoc]
    exact step_bracketed hclose

theorem writeKey_ne_nil (key : List Char) : writeKey key ≠ [] := by
  unfold writeKey
  split
  · rename_i hclose
    exact List.ne_nil_of_mem (List.contains_iff_mem.mp hclose)
  · exact List.cons_ne_nil _ _

/-- Keys that can be named are what their path is split into. -/
theorem split_ofKeys {keys : List String} (h : ∀ key ∈ keys, Expressible key) :
    split (ofKeys keys) = keys := by
  have htext : splitText (join (keys.map String.toList)) = keys.map String.toList := by
    induction keys with
    | nil => rfl
    | cons key keys ih =>
        obtain ⟨hkey, hkeys⟩ := List.forall_mem_cons.mp h
        have hrest := ih hkeys
        cases keys with
        | nil =>
            rw [List.map_singleton, join, List.map_singleton, List.intercalate_singleton,
              splitText_eq_cons (writeKey_ne_nil _), step_writeKey hkey]
            rfl
        | cons next keys =>
            have hjoin : join ((key :: next :: keys).map String.toList) =
                writeKey key.toList ++ '.' :: join ((next :: keys).map String.toList) := by
              simp only [join, List.map_cons, List.intercalate_cons_cons, List.append_assoc,
                List.singleton_append]
            rw [hjoin, splitText_eq_cons (by simp), step_writeKey_append hkey, hrest]
            rfl
  rw [split, ofKeys, String.toList_ofList, htext, List.map_map]
  exact (List.map_congr_left fun key _ => String.ofList_toList).trans (List.map_id keys)

/-! ### Places in arrays -/

theorem readDigits_eq {digits : List Char} {value : Nat} (h : ∀ c ∈ digits, c.isDigit = true) :
    readDigits value digits = some (Nat.ofDigitChars 10 digits value) := by
  induction digits generalizing value with
  | nil => rfl
  | cons c digits ih =>
      obtain ⟨hc, hdigits⟩ := List.forall_mem_cons.mp h
      rw [readDigits, if_pos hc, ih hdigits, Nat.ofDigitChars_cons, Nat.mul_comm value]

/-- The decimal digits of a place name it, if it is a place that an array can have. -/
theorem index?_toString {place : Nat} (h : place < Number.wordCount) :
    index? (toString place) = some place := by
  have hdigits : ∀ c ∈ Nat.toDigits 10 place, c.isDigit = true := fun c hc =>
    Nat.isDigit_of_mem_toDigits (by decide) (by decide) hc
  have hread : readDigits 0 (Nat.toDigits 10 place) = some place := by
    rw [readDigits_eq hdigits, Nat.ofDigitChars_ten_toDigits]
  have htext : (toString place).toList = Nat.toDigits 10 place := by
    rw [Nat.toString_eq_repr, Nat.toList_repr]
  rw [index?, htext]
  split
  · rename_i rest hsign
    exact absurd (hdigits '+' (hsign ▸ List.mem_cons_self)) (by decide)
  · rw [hread]
    simp [h, Nat.toDigits_ne_nil]

/-- Only places that an array can have are named. -/
theorem lt_of_index? {key : String} {place : Nat} (h : index? key = some place) :
    place < Number.wordCount := by
  simp only [index?, Option.ite_none_left_eq_some, Option.filter_eq_some_iff] at h
  exact of_decide_eq_true h.2.2

/-- The digits of a place can be named. -/
theorem expressible_toString (place : Nat) : Expressible (toString place) := by
  refine .inl fun hclose => ?_
  rw [Nat.toString_eq_repr, Nat.toList_repr] at hclose
  exact absurd (Nat.isDigit_of_mem_toDigits (by decide) (by decide) hclose) (by decide)

end Path

namespace Json

/-- A value lies within another one, below the listed keys: under a key that can be named in an
object, and at a place in an array.  No array in memory has a place beyond the 64-bit range. -/
inductive Nested : Json → List String → Json → Prop where
  | here {value : Json} : Nested value [] value
  | member {members : List (String × Json)} {key : String} {item found : Json}
      {keys : List String} : (key, item) ∈ members → Path.Expressible key →
      Nested item keys found → Nested (object members) (key :: keys) found
  | item {items : List Json} {place : Nat} {item found : Json} {keys : List String} :
      items[place]? = some item → place < Number.wordCount → Nested item keys found →
      Nested (array items) (toString place :: keys) found

namespace Nested

variable {value found : Json} {keys : List String}

theorem expressible (h : Nested value keys found) : ∀ key ∈ keys, Path.Expressible key := by
  induction h with
  | here => exact fun _ hmem => absurd hmem List.not_mem_nil
  | member _ hkey _ ih => exact List.forall_mem_cons.mpr ⟨hkey, ih⟩
  | item _ _ _ ih => exact List.forall_mem_cons.mpr ⟨Path.expressible_toString _, ih⟩

/-- The keys lead to the value. -/
theorem walk_eq (h : Nested value keys found) (hvalue : value.Ordered) :
    value.walk keys = some found := by
  induction h with
  | here => rfl
  | @member members key item found keys hmem _ _ ih =>
      cases hvalue with
      | object hascending hmembers =>
          have hfound : (object members).at? key = some item :=
            (Entries.mem_iff_find?_of_nodup hascending.nodup_keys key item).mp hmem
          rw [walk, hfound, Option.bind_some, ih (hmembers _ hmem)]
  | @item items place item found keys hitem hplace _ ih =>
      cases hvalue with
      | array hitems =>
          have hfound : (array items).at? (toString place) = some item := by
            rw [at?, Path.index?_toString hplace, Option.bind_some, hitem]
          rw [walk, hfound, Option.bind_some, ih (hitems _ (List.mem_of_getElem? hitem))]

/-- Keys that can be named lead to nothing else. -/
theorem exists_of_walk {keys : List String} (hkeys : ∀ key ∈ keys, Path.Expressible key)
    (h : value.walk keys = some found) : ∃ names, Nested value names found := by
  induction keys generalizing value with
  | nil =>
      cases h
      exact ⟨[], .here⟩
  | cons key keys ih =>
      obtain ⟨hkey, hkeys⟩ := List.forall_mem_cons.mp hkeys
      obtain ⟨next, hnext, hrest⟩ := Option.bind_eq_some_iff.mp h
      obtain ⟨names, hnested⟩ := ih hkeys hrest
      cases value with
      | object members => exact ⟨_, .member (Entries.mem_of_find? hnext) hkey hnested⟩
      | array items =>
          obtain ⟨place, hplace, hitem⟩ := Option.bind_eq_some_iff.mp hnext
          exact ⟨_, .item hitem (Path.lt_of_index? hplace) hnested⟩
      | _ => cases hnext

end Nested

/-! ### Main statements -/

/-- The loop that splits a path ends on every path, with keys that can all be named.  Keys that can
be named are what their own path is split into.  So the path of the keys below which a value lies
leads to it, and whatever a path leads to lies below keys that can be named. -/
theorem resolve_iff_nested :
    (∀ path : String,
      (∀ keys, Path.Splits path.toList keys ↔ keys = (Path.split path).map String.toList) ∧
        ∀ key ∈ Path.split path, Path.Expressible key) ∧
      (∀ keys : List String, (∀ key ∈ keys, Path.Expressible key) →
        Path.split (Path.ofKeys keys) = keys) ∧
      ∀ value : Json, value.Ordered →
        (∀ keys found, Nested value keys found →
          value.resolve (Path.ofKeys keys) = some found) ∧
        ∀ path found, value.resolve path = some found → ∃ keys, Nested value keys found := by
  refine ⟨fun path => ⟨fun keys => ?_, fun key hmem => Path.expressible_of_mem_split hmem⟩,
    fun keys h => Path.split_ofKeys h, fun value hvalue => ⟨fun keys found h => ?_,
      fun path found h => Nested.exists_of_walk (fun _ => Path.expressible_of_mem_split) h⟩⟩
  · have htext : (Path.split path).map String.toList = Path.splitText path.toList := by
      rw [Path.split, List.map_map]
      exact (List.map_congr_left fun _ _ => String.toList_ofList).trans (List.map_id _)
    rw [htext]
    exact Path.splits_iff
  · rw [resolve, Path.split_ofKeys h.expressible]
    exact h.walk_eq hvalue

/-- A value below keys with dots and brackets in them, below an empty key, and in an array. -/
def hidden : Json :=
  .object [("m.relates_to", .object [("", .object [("a]b", .object
    [("[x", .array [.null, .string "here"])])])])]

/-- The keys that lead there. -/
def hiddenKeys : List String := ["m.relates_to", "", "a]b", "[x", toString 1]

/-- One of the keys stands bare in the path, since it has a closing bracket; such a key can have
neither a dot nor an opening bracket in front.  Text right behind a closing bracket begins the next
key. -/
theorem resolve_hidden :
    hidden.Ordered ∧ Nested hidden hiddenKeys (.string "here") ∧
      Path.ofKeys hiddenKeys = "[m.relates_to].[].a]b.[[x].[1]" ∧
      hidden.resolve "[m.relates_to].[].a]b.[[x].[1]" = some (.string "here") ∧
      (∀ key ∈ hiddenKeys, Path.Expressible key) ∧
      Path.split "[m.relates_to].[].a]b.[[x].[1]" = hiddenKeys ∧
      Path.Splits "[a.b]c".toList [['a', '.', 'b'], ['c']] ∧
      ¬ Path.Expressible "a].b" ∧ ¬ Path.Expressible "[a]" := by
  obtain ⟨hsplits, hsplit, hresolve⟩ := resolve_iff_nested
  have hordered : hidden.Ordered :=
    Document.ordered_of_toJson? (rfl : (Document.ofJson hidden).toJson? = some hidden)
  have hnested : Nested hidden hiddenKeys (.string "here") := by
    refine .member List.mem_cons_self (by decide) (.member List.mem_cons_self (by decide)
      (.member List.mem_cons_self (by decide) (.member List.mem_cons_self (by decide) ?_)))
    exact .item rfl (by decide) .here
  have hpath : Path.ofKeys hiddenKeys = "[m.relates_to].[].a]b.[[x].[1]" := by decide
  refine ⟨hordered, hnested, hpath, ?_, hnested.expressible, ?_, ?_, by decide, by decide⟩
  · exact hpath ▸ (hresolve hidden hordered).1 _ _ hnested
  · exact hpath ▸ hsplit _ hnested.expressible
  · exact ((hsplits "[a.b]c").1 _).mpr (by decide)

end Json

end BotHost
