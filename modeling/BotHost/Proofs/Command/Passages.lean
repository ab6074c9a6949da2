/-
# How a command's pattern leads through a text

Every slot of a command's pattern takes the text that fills it, with the spaces around, or is
left out if it may be.  So the whole pattern leads through a text exactly if the text is spelled
by fillings of the slots, and behind it the group of every placeholder remembers what filled it.

Later slots do not disturb what earlier ones remember, since groups are numbered in the order of
the slots.
-/

import BotHost.Proofs.Command.Slots
import BotHost.Proofs.Pattern.Search

namespace BotHost

open PatternReader

namespace Slot

/-! ### The pattern of a slot -/

/-- The pattern of one character. -/
def letterPattern (c : Char) : Pattern := .one (.single c)

/-- The pattern of a placeholder's group, behind so many placeholders and groups. -/
def groupPattern (fragment : Fragment) (count groups : Nat) : Pattern :=
  .capture (groups + 1) (some (ActiveCommand.Draft.groupName count))
    (fragment.pattern.renumber (groups + 1))

/-- The patterns of a slot one after the other. -/
def patterns (count groups : Nat) : Slot → List Pattern
  | literal lead token => (lead ++ token.toList).map letterPattern
  | required lead _ fragment => lead.map letterPattern ++ [groupPattern fragment count groups]
  | optional lead trail _ fragment =>
    [.repetition (.ofSequence (lead.map letterPattern ++
      groupPattern fragment count groups :: trail.map letterPattern)) 0 (some 1) true]

/-- The patterns of slots one after the other. -/
def allPatterns (count groups : Nat) : List Slot → List Pattern
  | [] => []
  | slot :: rest =>
    slot.patterns count groups ++ allPatterns (count + slot.count) (groups + slot.groups) rest

/-- The pattern of all slots between the beginning and the end of the text. -/
def wholePattern (slots : List Slot) : Pattern :=
  .ofSequence (.assertion .textStart :: (allPatterns 0 0 slots ++ [.assertion .textEnd]))

section Meaning

variable {before between behind : PatternFlags} {first second : List PatternTree}
  {former latter : List Pattern} {items : List PatternTree} {found : List Pattern}

theorem meanings?_cons {item : PatternTree} {pattern : Pattern}
    (hitem : item.meaning? before = some (pattern, between))
    (hrest : PatternTree.meanings? between items = some (found, behind)) :
    PatternTree.meanings? before (item :: items) = some (pattern :: found, behind) :=
  Option.bind_eq_some_iff.mpr ⟨_, hitem, Option.bind_eq_some_iff.mpr ⟨_, hrest, rfl⟩⟩

theorem meanings?_append (hfirst : PatternTree.meanings? before first = some (former, between))
    (hsecond : PatternTree.meanings? between second = some (latter, behind)) :
    PatternTree.meanings? before (first ++ second) = some (former ++ latter, behind) := by
  induction first generalizing before former with
  | nil =>
      cases hfirst
      exact hsecond
  | cons item rest ih =>
      obtain ⟨⟨pattern, middle⟩, hitem, hfirst⟩ := Option.bind_eq_some_iff.mp hfirst
      obtain ⟨⟨others, last⟩, hrest, hfirst⟩ := Option.bind_eq_some_iff.mp hfirst
      cases hfirst
      exact meanings?_cons hitem (ih hrest)

theorem meaning?_ofSequence (h : PatternTree.meanings? before items = some (found, behind)) :
    (PatternTree.ofSequence items).meaning? before = some (.ofSequence found, behind) := by
  match items with
  | [] =>
      cases h
      rfl
  | [item] =>
      obtain ⟨⟨pattern, last⟩, hitem, h⟩ := Option.bind_eq_some_iff.mp h
      cases h
      exact hitem
  | first :: second :: rest => exact Option.bind_eq_some_iff.mpr ⟨_, h, rfl⟩

/-- Nothing is left out of a repetition that may take place once or not at all. -/
theorem repeated_zero_one (inner : Pattern) (greedy : Bool) :
    Pattern.repeated inner 0 (some 1) greedy = .repetition inner 0 (some 1) greedy := by
  unfold Pattern.repeated
  cases inner.onlyEmpty <;> rfl

theorem meanings?_letters (text : List Char) :
    PatternTree.meanings? .initial (text.map letter) =
      some (text.map letterPattern, .initial) := by
  induction text with
  | nil => rfl
  | cons c text ih => exact meanings?_cons rfl ih

theorem meaning?_groupTree (fragment : Fragment) (count groups : Nat) :
    (groupTree fragment count groups).meaning? .initial =
      some (groupPattern fragment count groups, .initial) := by
  refine Option.bind_eq_some_iff.mpr ⟨(fragment.pattern.renumber (groups + 1), .initial), ?_, rfl⟩
  rw [PatternTree.meaning?_renumber, fragment.means]
  rfl

/-- A tree that may be left out means a pattern that may be left out. -/
theorem meaning?_optional {tree : PatternTree} {inner : Pattern}
    (h : tree.meaning? .initial = some (inner, .initial)) :
    (PatternTree.repetition tree 0 (some 1) true).meaning? .initial =
      some (.repetition inner 0 (some 1) true, .initial) := by
  refine Option.bind_eq_some_iff.mpr ⟨_, h, ?_⟩
  change some (Pattern.repeated inner 0 (some 1) true, _) = _
  rw [repeated_zero_one]

/-- The items of a slot mean its patterns. -/
theorem meanings?_trees (slot : Slot) (count groups : Nat) :
    PatternTree.meanings? .initial (slot.trees count groups) =
      some (slot.patterns count groups, .initial) := by
  cases slot with
  | literal lead token => exact meanings?_letters _
  | required lead token fragment =>
      exact meanings?_append (meanings?_letters lead)
        (meanings?_cons (meaning?_groupTree fragment count groups) rfl)
  | optional lead trail token fragment =>
      by_cases hempty : lead = [] ∧ trail = []
      · obtain ⟨rfl, rfl⟩ := hempty
        exact meanings?_cons (meaning?_optional (meaning?_groupTree fragment count groups)) rfl
      · rw [trees_optional hempty]
        have hinside := meaning?_ofSequence (meanings?_append (meanings?_letters lead)
          (meanings?_cons (meaning?_groupTree fragment count groups) (meanings?_letters trail)))
        refine meanings?_cons (meaning?_optional ?_) rfl
        exact Option.bind_eq_some_iff.mpr ⟨_, hinside, rfl⟩

theorem meanings?_allTrees (slots : List Slot) (count groups : Nat) :
    PatternTree.meanings? .initial (allTrees count groups slots) =
      some (allPatterns count groups slots, .initial) := by
  induction slots generalizing count groups with
  | nil => rfl
  | cons slot rest ih => exact meanings?_append (meanings?_trees slot count groups) (ih _ _)

/-- The whole tree means the whole pattern. -/
theorem meaning?_wholeTree (slots : List Slot) :
    (wholeTree slots).meaning? .initial = some (wholePattern slots, .initial) := by
  refine meaning?_ofSequence (meanings?_cons ?_
    (meanings?_append (meanings?_allTrees slots 0 0) (meanings?_cons ?_ rfl)))
  · rfl
  · rfl

end Meaning

/-! ### Patterns one after the other -/

section Reaching

variable {first second : Place} {former latter : List Pattern} {pattern : Pattern}

theorem reaches_cons_iff : (Pattern.ofSequence (pattern :: latter)).Reaches first second ↔
    ∃ middle, pattern.Reaches first middle ∧ (Pattern.ofSequence latter).Reaches middle second := by
  cases latter with
  | nil =>
      constructor
      · intro h
        exact ⟨second, h, rfl⟩
      · rintro ⟨middle, h, rfl⟩
        exact h
  | cons next latter => exact Iff.rfl

theorem reaches_append_iff : (Pattern.ofSequence (former ++ latter)).Reaches first second ↔
    ∃ middle, (Pattern.ofSequence former).Reaches first middle ∧
      (Pattern.ofSequence latter).Reaches middle second := by
  induction former generalizing first with
  | nil =>
      constructor
      · intro h
        exact ⟨first, rfl, h⟩
      · rintro ⟨middle, rfl, h⟩
        exact h
  | cons pattern former ih =>
      rw [List.cons_append, reaches_cons_iff]
      constructor
      · rintro ⟨middle, hpattern, hrest⟩
        obtain ⟨last, hformer, hlatter⟩ := ih.mp hrest
        exact ⟨last, reaches_cons_iff.mpr ⟨middle, hpattern, hformer⟩, hlatter⟩
      · rintro ⟨last, hformer, hlatter⟩
        obtain ⟨middle, hpattern, hformer⟩ := reaches_cons_iff.mp hformer
        exact ⟨middle, hpattern, ih.mpr ⟨last, hformer, hlatter⟩⟩

theorem contains_single_iff {c d : Char} : (CharSet.single c).contains d = true ↔ d = c := by
  rw [CharSet.single, CharSet.contains, CharSet.containsCode, Bool.and_eq_true, decide_eq_true_eq,
    decide_eq_true_eq]
  constructor
  · rintro ⟨hle, hge⟩
    exact Char.toNat_inj.mp (Nat.le_antisymm hge hle)
  · rintro rfl
    exact ⟨Nat.le_refl _, Nat.le_refl _⟩

/-- Characters lead behind the text that they are, and remember nothing. -/
theorem further_of_letters {text : List Char}
    (h : (Pattern.ofSequence (text.map letterPattern)).Reaches first second) :
    first.Further text second ∧ second.groups = first.groups := by
  induction text generalizing first with
  | nil =>
      obtain rfl := h
      exact ⟨.refl _, rfl⟩
  | cons c text ih =>
      obtain ⟨middle, ⟨d, rest, hafter, hset, rfl⟩, hrest⟩ := reaches_cons_iff.mp h
      obtain ⟨hfurther, hgroups⟩ := ih hrest
      obtain rfl := contains_single_iff.mp hset
      have hletter : first.Further [d] (first.advance d rest) := ⟨hafter, rfl, rfl⟩
      exact ⟨hletter.trans hfurther, hgroups⟩

theorem reaches_letters {text rest : List Char} (h : first.after = text ++ rest) :
    ∃ second, (Pattern.ofSequence (text.map letterPattern)).Reaches first second ∧
      second.after = rest := by
  induction text generalizing first with
  | nil => exact ⟨first, rfl, h⟩
  | cons c text ih =>
      obtain ⟨second, hsecond, hrest⟩ :=
        @ih (first.advance c (text ++ rest)) rfl
      exact ⟨second, reaches_cons_iff.mpr
        ⟨_, ⟨c, text ++ rest, h, contains_single_iff.mpr rfl, rfl⟩, hsecond⟩, hrest⟩

/-! ### Groups of placeholders -/

variable {fragment : Fragment} {count groups : Nat} {lead trail : List Char}

/-- The group of a placeholder with text around it takes this text and a word of the fragment, and
remembers the word. -/
theorem word_of_group (h : (Pattern.ofSequence (lead.map letterPattern ++
      groupPattern fragment count groups :: trail.map letterPattern)).Reaches first second) :
    ∃ word, fragment.pattern.Spells word ∧ first.Further (lead ++ word ++ trail) second ∧
      ∃ own, second.groups = (groups + 1, word) :: (own ++ first.groups) ∧
        ∀ entry ∈ own, groups < entry.1 ∧ entry.1 ≤ groups + (1 + fragment.own) := by
  obtain ⟨opened, hlead, h⟩ := reaches_append_iff.mp h
  obtain ⟨closed, ⟨inside, hinside, rfl⟩, htrail⟩ := reaches_cons_iff.mp h
  obtain ⟨hopened, hbefore⟩ := further_of_letters hlead
  obtain ⟨hclosed, hbehind⟩ := further_of_letters htrail
  obtain ⟨⟨word, hword, hfurther⟩, own, hown, hrange⟩ :=
    Pattern.word_of_reaches (fragment.selfContained.renumber (groups + 1)) hinside
  rw [Pattern.language_renumber] at hword
  have hremember : opened.Further word (inside.remember (groups + 1) opened) :=
    ⟨hfurther.after, hfurther.before, hfurther.offset⟩
  refine ⟨word, (Pattern.spells_iff_mem_language fragment.selfContained).mpr hword,
    (hopened.trans hremember).trans hclosed, own, ?_, fun entry hentry => ?_⟩
  · rw [hbehind, ← hbefore, ← hown, ← hfurther.take_after]
    rfl
  · have := hrange entry hentry
    omega

/-- The group of a placeholder takes any word of the fragment that stands behind a place. -/
theorem reaches_group {word rest : List Char} (hword : fragment.pattern.Spells word)
    (h : first.after = lead ++ word ++ trail ++ rest) :
    ∃ second, (Pattern.ofSequence (lead.map letterPattern ++
      groupPattern fragment count groups :: trail.map letterPattern)).Reaches first second ∧
      second.after = rest := by
  rw [Pattern.spells_iff_mem_language fragment.selfContained,
    ← Pattern.language_renumber (groups + 1)] at hword
  rw [List.append_assoc, List.append_assoc] at h
  obtain ⟨opened, hlead, hopened⟩ := reaches_letters h
  obtain ⟨inside, hinside, hclosed⟩ :=
    Pattern.reaches_of_word (fragment.selfContained.renumber (groups + 1)) hword hopened
  obtain ⟨second, htrail, hrest⟩ :=
    @reaches_letters (inside.remember (groups + 1) opened) _ _ hclosed
  exact ⟨second, reaches_append_iff.mpr ⟨opened, hlead, reaches_cons_iff.mpr
    ⟨_, ⟨inside, hinside, rfl⟩, htrail⟩⟩, hrest⟩

/-- What may be left out leads nowhere or where the rest leads. -/
theorem reaches_optional_iff {inner : Pattern} :
    (Pattern.repetition inner 0 (some 1) true).Reaches first second ↔
      second = first ∨ inner.Reaches first second := by
  constructor
  · rintro ⟨rounds, -, hmost, hplaces⟩
    obtain hrounds | hrounds : rounds = 0 ∨ rounds = 1 := by
      have := hmost 1 rfl
      omega
    · subst hrounds
      exact .inl (Pattern.Layout.iterated_zero_iff.mp hplaces)
    · subst hrounds
      obtain ⟨middle, hround, hrest⟩ := Pattern.Layout.iterated_succ_iff.mp hplaces
      obtain rfl := Pattern.Layout.iterated_zero_iff.mp hrest
      exact .inr hround
  · rintro (rfl | h)
    · exact ⟨0, Nat.le_refl _, by rintro _ ⟨⟩; exact Nat.zero_le 1, .zero _⟩
    · exact ⟨1, Nat.zero_le _, by rintro _ ⟨⟩; exact Nat.le_refl 1, .succ h (.zero _)⟩

end Reaching

/-! ### Filling slots -/

/-- What may stand for the token of a slot: the token itself, a word of its fragment, or nothing at
all. -/
def Fills : Slot → Option (List Char) → Prop
  | literal _ token, filling => filling = some token.toList
  | required _ _ fragment, filling => ∃ word, filling = some word ∧ fragment.pattern.Spells word
  | optional _ _ _ fragment, filling =>
    filling = none ∨ ∃ word, filling = some word ∧ fragment.pattern.Spells word

/-- The text of a slot with its filling. -/
def spell : Slot → Option (List Char) → List Char
  | _, none => []
  | literal lead _, some word => lead ++ word
  | required lead _ _, some word => lead ++ word
  | optional lead trail _ _, some word => lead ++ word ++ trail

/-- The text of all slots with their fillings. -/
def spellAll : List Slot → List (Option (List Char)) → List Char
  | slot :: rest, filling :: fillings => slot.spell filling ++ spellAll rest fillings
  | _, _ => []

/-- The number of the group of a placeholder, behind so many other groups. -/
def index (groups : Nat) : Slot → List Nat
  | literal _ _ => []
  | required _ _ _ => [groups + 1]
  | optional _ _ _ _ => [groups + 1]

/-- The numbers of the groups of all placeholders. -/
def indices (groups : Nat) : List Slot → List Nat
  | [] => []
  | slot :: rest => slot.index groups ++ indices (groups + slot.groups) rest

/-- The filling of a placeholder. -/
def argument : Slot → Option (List Char) → List (Option (List Char))
  | literal _ _, _ => []
  | required _ _ _, filling => [filling]
  | optional _ _ _ _, filling => [filling]

/-- The fillings of all placeholders. -/
def allArguments : List Slot → List (Option (List Char)) → List (Option (List Char))
  | slot :: rest, filling :: fillings => slot.argument filling ++ allArguments rest fillings
  | _, _ => []

/-- How many groups slots have. -/
def allGroups : List Slot → Nat
  | [] => 0
  | slot :: rest => slot.groups + allGroups rest

section Filling

variable {first second : Place} {count groups low high : Nat}

theorem group?_eq_none (h : ∀ entry ∈ first.groups, entry.1 ≤ groups) :
    first.group? (groups + 1) = none := by
  rw [Place.group?, Option.map_eq_none_iff, List.find?_eq_none]
  intro entry hentry hsame
  have := h entry hentry
  have := eq_of_beq hsame
  omega

/-- What groups with higher numbers remember does not hide what a group remembers. -/
theorem group?_eq_of_remembers {number : Nat} (h : first.Remembers low high second)
    (hnumber : number ≤ low) : second.group? number = first.group? number := by
  obtain ⟨own, hown, hrange⟩ := h
  have hnone : own.find? (fun entry => entry.1 == number) = none := by
    rw [List.find?_eq_none]
    intro entry hentry hsame
    have := (hrange entry hentry).1
    have := eq_of_beq hsame
    omega
  rw [Place.group?, Place.group?, hown, List.find?_append, hnone, Option.none_or]

/-- The group of a placeholder has the first of the numbers of its slot. -/
theorem eq_of_mem_index {slot : Slot} {number : Nat} (h : number ∈ slot.index groups) :
    number = groups + 1 ∧ 0 < slot.groups := by
  cases slot with
  | literal lead token => cases h
  | required lead token fragment =>
      exact ⟨List.mem_singleton.mp h, Nat.lt_add_right _ Nat.zero_lt_one⟩
  | optional lead trail token fragment =>
      exact ⟨List.mem_singleton.mp h, Nat.lt_add_right _ Nat.zero_lt_one⟩

/-- A slot that leads to a place is filled by what it takes, and if it is a placeholder, its group
remembers this. -/
theorem filling_of_reaches (slot : Slot) (hfresh : ∀ entry ∈ first.groups, entry.1 ≤ groups)
    (h : (Pattern.ofSequence (slot.patterns count groups)).Reaches first second) :
    ∃ filling, slot.Fills filling ∧ first.Further (slot.spell filling) second ∧
      first.Remembers groups (groups + slot.groups) second ∧
      (slot.index groups).map second.group? = slot.argument filling := by
  have hgroup : ∀ {lead trail : List Char} {fragment : Fragment},
      (Pattern.ofSequence (lead.map letterPattern ++
        groupPattern fragment count groups :: trail.map letterPattern)).Reaches first second →
      ∃ word, fragment.pattern.Spells word ∧ first.Further (lead ++ word ++ trail) second ∧
        first.Remembers groups (groups + (1 + fragment.own)) second ∧
        second.group? (groups + 1) = some word := by
    intro lead trail fragment h
    obtain ⟨word, hword, hfurther, own, hown, hrange⟩ := word_of_group h
    refine ⟨word, hword, hfurther, ⟨(groups + 1, word) :: own, hown, ?_⟩, ?_⟩
    · exact List.forall_mem_cons.mpr ⟨⟨Nat.lt_succ_self _, by dsimp only; omega⟩, hrange⟩
    · rw [Place.group?, hown]
      simp
  cases slot with
  | literal lead token =>
      obtain ⟨hfurther, hgroups⟩ := further_of_letters h
      exact ⟨_, rfl, hfurther, ⟨[], hgroups, List.forall_mem_nil _⟩, rfl⟩
  | required lead token fragment =>
      obtain ⟨word, hword, hfurther, hremembers, hfound⟩ := @hgroup lead [] fragment h
      rw [List.append_nil] at hfurther
      exact ⟨some word, ⟨word, rfl, hword⟩, hfurther, hremembers, congrArg (List.cons · []) hfound⟩
  | optional lead trail token fragment =>
      rcases reaches_optional_iff.mp h with rfl | h
      · exact ⟨none, .inl rfl, .refl _, .refl _ _ _,
          congrArg (List.cons · []) (group?_eq_none hfresh)⟩
      · obtain ⟨word, hword, hfurther, hremembers, hfound⟩ := hgroup h
        exact ⟨some word, .inr ⟨word, rfl, hword⟩, hfurther, hremembers,
          congrArg (List.cons · []) hfound⟩

/-- A slot takes any filling that stands behind a place. -/
theorem reaches_of_fills (slot : Slot) {filling : Option (List Char)} {rest : List Char}
    (hfills : slot.Fills filling) (h : first.after = slot.spell filling ++ rest) :
    ∃ second, (Pattern.ofSequence (slot.patterns count groups)).Reaches first second ∧
      second.after = rest := by
  cases slot with
  | literal lead token =>
      cases hfills
      exact reaches_letters h
  | required lead token fragment =>
      obtain ⟨word, rfl, hword⟩ := hfills
      exact @reaches_group first fragment count groups lead [] word rest hword
        (by rw [List.append_nil]; exact h)
  | optional lead trail token fragment =>
      rcases hfills with rfl | ⟨word, rfl, hword⟩
      · exact ⟨first, reaches_optional_iff.mpr (.inl rfl), h⟩
      · obtain ⟨second, hsecond, hrest⟩ := reaches_group hword h
        exact ⟨second, reaches_optional_iff.mpr (.inr hsecond), hrest⟩

/-- Slots that lead to a place are filled by what they take, and the groups of placeholders
remember this. -/
theorem fillings_of_reaches (slots : List Slot)
    (hfresh : ∀ entry ∈ first.groups, entry.1 ≤ groups)
    (h : (Pattern.ofSequence (allPatterns count groups slots)).Reaches first second) :
    ∃ fillings, List.Forall₂ Fills slots fillings ∧
      first.Further (spellAll slots fillings) second ∧
      first.Remembers groups (groups + allGroups slots) second ∧
      (indices groups slots).map second.group? = allArguments slots fillings := by
  induction slots generalizing first count groups with
  | nil =>
      obtain rfl := h
      exact ⟨[], .nil, .refl _, .refl _ _ _, rfl⟩
  | cons slot rest ih =>
      obtain ⟨middle, hslot, hrest⟩ := reaches_append_iff.mp h
      obtain ⟨filling, hfills, hfurther, hremembers, hfound⟩ := filling_of_reaches slot hfresh hslot
      have hfresher : ∀ entry ∈ middle.groups, entry.1 ≤ groups + slot.groups := by
        obtain ⟨own, hown, hrange⟩ := hremembers
        intro entry hentry
        rw [hown] at hentry
        rcases List.mem_append.mp hentry with hentry | hentry
        · exact (hrange entry hentry).2
        · exact Nat.le_add_right_of_le (hfresh entry hentry)
      obtain ⟨fillings, hall, hfurther', hremembers', hfound'⟩ := ih hfresher hrest
      refine ⟨filling :: fillings, .cons hfills hall, hfurther.trans hfurther', ?_, ?_⟩
      · rw [allGroups, ← Nat.add_assoc]
        exact (hremembers.mono (Nat.le_refl _) (Nat.le_add_right _ _)).trans
          (hremembers'.mono (Nat.le_add_right _ _) (Nat.le_refl _))
      · rw [indices, allArguments, List.map_append, hfound', ← hfound]
        congr 1
        refine List.map_congr_left fun number hnumber => group?_eq_of_remembers hremembers' ?_
        obtain ⟨rfl, hpositive⟩ := eq_of_mem_index hnumber
        omega

/-- Slots take any fillings whose text stands behind a place. -/
theorem reaches_of_fillings {slots : List Slot} {fillings : List (Option (List Char))}
    {rest : List Char} (hfills : List.Forall₂ Fills slots fillings)
    (h : first.after = spellAll slots fillings ++ rest) :
    ∃ second, (Pattern.ofSequence (allPatterns count groups slots)).Reaches first second ∧
      second.after = rest := by
  induction hfills generalizing first count groups with
  | nil => exact ⟨first, rfl, h⟩
  | @cons slot filling others fillings hslot _ ih =>
      rw [spellAll, List.append_assoc] at h
      obtain ⟨middle, hmiddle, hafter⟩ := reaches_of_fills slot hslot h
      obtain ⟨second, hsecond, hrest⟩ := ih hafter
      exact ⟨second, reaches_append_iff.mpr ⟨middle, hmiddle, hsecond⟩, hrest⟩

/-- The whole pattern takes exactly the texts that fillings spell, from beginning to end, and its
groups remember the fillings of placeholders. -/
theorem fillings_of_wholePattern {slots : List Slot} {front back : List Char}
    (h : (wholePattern slots).Reaches ⟨front.reverse, back, front.length, []⟩ second) :
    front = [] ∧ second.after = [] ∧ ∃ fillings, List.Forall₂ Fills slots fillings ∧
      back = spellAll slots fillings ∧
      (indices 0 slots).map second.group? = allArguments slots fillings := by
  obtain ⟨_, ⟨hstart, rfl⟩, h⟩ := reaches_cons_iff.mp h
  obtain ⟨last, hslots, hend, rfl⟩ := reaches_append_iff.mp h
  have hfront : front = [] := by simpa [Assertion.holds] using hstart
  have hback : second.after = [] := by simpa [Assertion.holds] using hend
  obtain ⟨fillings, hfills, hfurther, _, hfound⟩ :=
    fillings_of_reaches slots (List.forall_mem_nil _) hslots
  have hafter := hfurther.after
  rw [hback, List.append_nil] at hafter
  exact ⟨hfront, hback, fillings, hfills, hafter, hfound⟩

theorem wholePattern_reaches {slots : List Slot} {fillings : List (Option (List Char))}
    {text : List Char} (hfills : List.Forall₂ Fills slots fillings)
    (h : text = spellAll slots fillings) :
    ∃ second, (wholePattern slots).Reaches (.start text) second := by
  obtain ⟨second, hslots, hrest⟩ := @reaches_of_fillings (.start text) 0 0 slots fillings []
    hfills (h.trans (List.append_nil _).symm)
  refine ⟨second, reaches_cons_iff.mpr ⟨_, ⟨rfl, rfl⟩, reaches_append_iff.mpr
    ⟨second, hslots, ?_, rfl⟩⟩⟩
  rw [Assertion.holds, hrest]
  rfl

end Filling

end Slot

end BotHost
