/-
# Trees of patterns and what they mean

What holds of a tree and of all trees inside of it, and what that says about its meaning.  A tree
is plain if it changes no flags, asserts nothing about positions and names no groups; then flags
are the same behind it.  It is proper between two numbers if its groups are numbered above the
first and up to the second, and no repetition asks for more times than it allows.

Numbering all groups of a tree higher does the same to its meaning, and nothing else.
-/

import BotHost.Pattern.Meaning
import BotHost.Proofs.Pattern.Paths

namespace BotHost

namespace PatternTree

/-! ### Properties of all trees inside of a tree -/

mutual

/-- A property that holds of a tree and of all trees inside of it. -/
def Every (property : PatternTree → Prop) : PatternTree → Prop
  | .repetition inner least most greedy =>
    property (.repetition inner least most greedy) ∧ Every property inner
  | .capture index name inner => property (.capture index name inner) ∧ Every property inner
  | .group changes inner => property (.group changes inner) ∧ Every property inner
  | .sequence items => property (.sequence items) ∧ EveryItem property items
  | .alternatives items => property (.alternatives items) ∧ EveryItem property items
  | tree => property tree

/-- A property that holds of all items of a list and of all trees inside of them. -/
def EveryItem (property : PatternTree → Prop) : List PatternTree → Prop
  | [] => True
  | item :: rest => Every property item ∧ EveryItem property rest

end

variable {property other : PatternTree → Prop} {tree : PatternTree} {items : List PatternTree}

theorem everyItem_iff : EveryItem property items ↔ ∀ item ∈ items, item.Every property := by
  induction items with
  | nil => simp [EveryItem]
  | cons item rest ih => rw [EveryItem, ih, List.forall_mem_cons]

theorem ofSequence_cons_cons (first second : PatternTree) (rest : List PatternTree) :
    ofSequence (first :: second :: rest) = .sequence (first :: second :: rest) := rfl

theorem ofAlternatives_nil : ofAlternatives [] = .alternatives [] := rfl

theorem ofAlternatives_cons_cons (first second : PatternTree) (rest : List PatternTree) :
    ofAlternatives (first :: second :: rest) = .alternatives (first :: second :: rest) := rfl

theorem every_ofSequence_iff (hempty : property .empty)
    (hsequence : ∀ items, property (.sequence items)) :
    (ofSequence items).Every property ↔ ∀ item ∈ items, item.Every property := by
  match items with
  | [] => simpa [ofSequence, Every] using hempty
  | [item] => simp [ofSequence]
  | first :: second :: rest =>
      rw [ofSequence_cons_cons, Every, everyItem_iff]
      exact and_iff_right (hsequence _)

theorem every_ofAlternatives_iff (halternatives : ∀ items, property (.alternatives items)) :
    (ofAlternatives items).Every property ↔ ∀ item ∈ items, item.Every property := by
  match items with
  | [] =>
      rw [ofAlternatives_nil, Every, everyItem_iff]
      exact and_iff_right (halternatives _)
  | [item] => simp [ofAlternatives]
  | first :: second :: rest =>
      rw [ofAlternatives_cons_cons, Every, everyItem_iff]
      exact and_iff_right (halternatives _)

mutual

theorem Every.imp (h : ∀ tree, property tree → other tree) :
    ∀ tree : PatternTree, tree.Every property → tree.Every other
  | .empty, hevery => h _ hevery
  | .flags _, hevery => h _ hevery
  | .literal _, hevery => h _ hevery
  | .dot, hevery => h _ hevery
  | .anchor _, hevery => h _ hevery
  | .property _ _, hevery => h _ hevery
  | .letter _ _, hevery => h _ hevery
  | .bracket _ _, hevery => h _ hevery
  | .repetition inner _ _ _, hevery => ⟨h _ hevery.1, Every.imp h inner hevery.2⟩
  | .capture _ _ inner, hevery => ⟨h _ hevery.1, Every.imp h inner hevery.2⟩
  | .group _ inner, hevery => ⟨h _ hevery.1, Every.imp h inner hevery.2⟩
  | .sequence items, hevery => ⟨h _ hevery.1, EveryItem.imp h items hevery.2⟩
  | .alternatives items, hevery => ⟨h _ hevery.1, EveryItem.imp h items hevery.2⟩

theorem EveryItem.imp (h : ∀ tree, property tree → other tree) :
    ∀ items : List PatternTree, EveryItem property items → EveryItem other items
  | [], _ => trivial
  | item :: rest, hevery => ⟨Every.imp h item hevery.1, EveryItem.imp h rest hevery.2⟩

end

mutual

theorem Every.and : ∀ {tree : PatternTree}, tree.Every property → tree.Every other →
    tree.Every fun tree => property tree ∧ other tree
  | .empty, h, hother => ⟨h, hother⟩
  | .flags _, h, hother => ⟨h, hother⟩
  | .literal _, h, hother => ⟨h, hother⟩
  | .dot, h, hother => ⟨h, hother⟩
  | .anchor _, h, hother => ⟨h, hother⟩
  | .property _ _, h, hother => ⟨h, hother⟩
  | .letter _ _, h, hother => ⟨h, hother⟩
  | .bracket _ _, h, hother => ⟨h, hother⟩
  | .repetition _ _ _ _, h, hother => ⟨⟨h.1, hother.1⟩, Every.and h.2 hother.2⟩
  | .capture _ _ _, h, hother => ⟨⟨h.1, hother.1⟩, Every.and h.2 hother.2⟩
  | .group _ _, h, hother => ⟨⟨h.1, hother.1⟩, Every.and h.2 hother.2⟩
  | .sequence _, h, hother => ⟨⟨h.1, hother.1⟩, EveryItem.and h.2 hother.2⟩
  | .alternatives _, h, hother => ⟨⟨h.1, hother.1⟩, EveryItem.and h.2 hother.2⟩

theorem EveryItem.and : ∀ {items : List PatternTree}, EveryItem property items →
    EveryItem other items → EveryItem (fun tree => property tree ∧ other tree) items
  | [], _, _ => trivial
  | _ :: _, h, hother => ⟨Every.and h.1 hother.1, EveryItem.and h.2 hother.2⟩

end

/-! ### Plain trees -/

/-- Neither flags nor an assertion about a position nor a named group. -/
def ChangesNothing : PatternTree → Prop
  | .flags _ => False
  | .anchor _ => False
  | .capture _ name _ => name = none
  | .group changes _ => changes = []
  | _ => True

/-- A tree without flags, assertions about positions and named groups. -/
def Plain (tree : PatternTree) : Prop := tree.Every ChangesNothing

theorem plain_ofSequence_iff : (ofSequence items).Plain ↔ ∀ item ∈ items, item.Plain :=
  every_ofSequence_iff trivial fun _ => trivial

theorem plain_ofAlternatives_iff : (ofAlternatives items).Plain ↔ ∀ item ∈ items, item.Plain :=
  every_ofAlternatives_iff fun _ => trivial

/-! ### Proper trees -/

/-- A group has a number in a range, and a repetition does not ask for more times than it
allows. -/
def NumberedWithin (low high : Nat) : PatternTree → Prop
  | .capture index _ _ => low < index ∧ index ≤ high
  | .repetition _ least most _ => ∀ bound, most = some bound → least ≤ bound
  | _ => True

/-- A tree whose groups have their numbers in a range and whose repetitions can be met. -/
def Proper (low high : Nat) (tree : PatternTree) : Prop := tree.Every (NumberedWithin low high)

theorem proper_ofSequence_iff {low high : Nat} :
    (ofSequence items).Proper low high ↔ ∀ item ∈ items, item.Proper low high :=
  every_ofSequence_iff trivial fun _ => trivial

theorem proper_ofAlternatives_iff {low high : Nat} :
    (ofAlternatives items).Proper low high ↔ ∀ item ∈ items, item.Proper low high :=
  every_ofAlternatives_iff fun _ => trivial

theorem Proper.mono {low high lower higher : Nat} (h : tree.Proper low high)
    (hlow : lower ≤ low) (hhigh : high ≤ higher) : tree.Proper lower higher := by
  refine Every.imp (fun tree hwithin => ?_) tree h
  cases tree with
  | capture index name inner =>
      exact ⟨Nat.lt_of_le_of_lt hlow hwithin.1, Nat.le_trans hwithin.2 hhigh⟩
  | _ => exact hwithin

/-! ### Numbering groups higher -/

mutual

/-- The tree with the numbers of all groups so much higher. -/
def renumber (groups : Nat) : PatternTree → PatternTree
  | .repetition inner least most greedy => .repetition (renumber groups inner) least most greedy
  | .capture index name inner => .capture (index + groups) name (renumber groups inner)
  | .group changes inner => .group changes (renumber groups inner)
  | .sequence items => .sequence (renumberItems groups items)
  | .alternatives items => .alternatives (renumberItems groups items)
  | tree => tree

/-- The trees of a list with the numbers of all groups so much higher. -/
def renumberItems (groups : Nat) : List PatternTree → List PatternTree
  | [] => []
  | item :: rest => renumber groups item :: renumberItems groups rest

end

theorem renumberItems_eq_map (groups : Nat) (items : List PatternTree) :
    renumberItems groups items = items.map (renumber groups) := by
  induction items with
  | nil => rfl
  | cons item rest ih => rw [renumberItems, ih, List.map_cons]

theorem renumber_ofSequence (groups : Nat) (items : List PatternTree) :
    (ofSequence items).renumber groups = ofSequence (items.map (renumber groups)) := by
  match items with
  | [] => rfl
  | [item] => rfl
  | first :: second :: rest =>
      rw [ofSequence_cons_cons, renumber, renumberItems_eq_map]
      rfl

theorem renumber_ofAlternatives (groups : Nat) (items : List PatternTree) :
    (ofAlternatives items).renumber groups = ofAlternatives (items.map (renumber groups)) := by
  match items with
  | [] => rfl
  | [item] => rfl
  | first :: second :: rest =>
      rw [ofAlternatives_cons_cons, renumber, renumberItems_eq_map]
      rfl

end PatternTree

/-! ### What trees mean -/

namespace Pattern

/-- The pattern with the numbers of all groups so much higher. -/
def renumber (groups : Nat) : Pattern → Pattern
  | capture index name inner => capture (index + groups) name (inner.renumber groups)
  | sequence first second => sequence (first.renumber groups) (second.renumber groups)
  | alternative first second => alternative (first.renumber groups) (second.renumber groups)
  | repetition inner least most greedy => repetition (inner.renumber groups) least most greedy
  | pattern => pattern

/-- What holds of the empty pattern and is kept by one pattern after the other holds of patterns
one after the other. -/
theorem ofSequence_induction {motive : Pattern → Prop} {patterns : List Pattern}
    (hempty : motive empty)
    (hsequence : ∀ first second, motive first → motive second → motive (sequence first second))
    (h : ∀ pattern ∈ patterns, motive pattern) : motive (ofSequence patterns) := by
  induction patterns with
  | nil => exact hempty
  | cons first rest ih =>
      obtain ⟨hfirst, hrest⟩ := List.forall_mem_cons.mp h
      cases rest with
      | nil => exact hfirst
      | cons second rest => exact hsequence _ _ hfirst (ih hrest)

/-- What holds of no pattern at all and is kept by a choice holds of alternatives. -/
theorem ofAlternatives_induction {motive : Pattern → Prop} {patterns : List Pattern}
    (hnone : motive (one .empty))
    (halternative : ∀ first second, motive first → motive second →
      motive (alternative first second))
    (h : ∀ pattern ∈ patterns, motive pattern) : motive (ofAlternatives patterns) := by
  induction patterns with
  | nil => exact hnone
  | cons first rest ih =>
      obtain ⟨hfirst, hrest⟩ := List.forall_mem_cons.mp h
      cases rest with
      | nil => exact hfirst
      | cons second rest => exact halternative _ _ hfirst (ih hrest)

/-- A repetition from which what adds nothing is left out is empty, the inner pattern, or a
repetition that can be met if it could be met before. -/
theorem repeated_cases (inner : Pattern) (least : Nat) (most : Option Nat) (greedy : Bool) :
    repeated inner least most greedy = empty ∨ repeated inner least most greedy = inner ∨
      ∃ fewest limit, repeated inner least most greedy = repetition inner fewest limit greedy ∧
        ((∀ bound, most = some bound → least ≤ bound) →
          ∀ bound, limit = some bound → fewest ≤ bound) := by
  have hlimit : (∀ bound, most = some bound → least ≤ bound) → ∀ bound,
      (if inner.onlyEmpty then some (min (most.getD 1) 1) else most) = some bound →
        (if inner.onlyEmpty then min least 1 else least) ≤ bound := by
    intro hmost bound hbound
    split at hbound
    · rename_i hempty
      cases hbound
      rw [if_pos hempty]
      cases most with
      | none => exact Nat.min_le_right least 1
      | some bound =>
          have hleast := hmost bound rfl
          simp only [Option.getD_some]
          omega
    · rename_i hempty
      rw [if_neg hempty]
      exact hmost bound hbound
  rw [repeated]
  generalize (if inner.onlyEmpty then min least 1 else least) = fewest at hlimit ⊢
  generalize (if inner.onlyEmpty then some (min (most.getD 1) 1) else most) = limit at hlimit ⊢
  split
  · exact .inl rfl
  · split
    · exact .inr (.inl rfl)
    · exact .inr (.inr ⟨fewest, limit, rfl, hlimit⟩)

theorem onlyEmpty_renumber (groups : Nat) (pattern : Pattern) :
    (pattern.renumber groups).onlyEmpty = pattern.onlyEmpty := by
  induction pattern with
  | empty => rfl
  | one set => rfl
  | assertion kind => rfl
  | capture index name inner ih => exact ih
  | sequence first second hfirst hsecond =>
      rw [renumber, onlyEmpty, onlyEmpty, hfirst, hsecond]
  | alternative first second hfirst hsecond =>
      rw [renumber, onlyEmpty, onlyEmpty, hfirst, hsecond]
  | repetition inner least most greedy ih => rw [renumber, onlyEmpty, onlyEmpty, ih]

theorem renumber_repeated (groups : Nat) (inner : Pattern) (least : Nat) (most : Option Nat)
    (greedy : Bool) :
    (repeated inner least most greedy).renumber groups =
      repeated (inner.renumber groups) least most greedy := by
  simp only [repeated, onlyEmpty_renumber]
  generalize (if inner.onlyEmpty = true then min least 1 else least) = fewest
  generalize (if inner.onlyEmpty = true then some (min (most.getD 1) 1) else most) = limit
  split
  · rfl
  · split
    · rfl
    · rfl

theorem renumber_ofSequence (groups : Nat) (patterns : List Pattern) :
    (ofSequence patterns).renumber groups = ofSequence (patterns.map (renumber groups)) := by
  induction patterns with
  | nil => rfl
  | cons first rest ih =>
      cases rest with
      | nil => rfl
      | cons second rest => exact congrArg (sequence (first.renumber groups)) ih

theorem renumber_ofAlternatives (groups : Nat) (patterns : List Pattern) :
    (ofAlternatives patterns).renumber groups =
      ofAlternatives (patterns.map (renumber groups)) := by
  induction patterns with
  | nil => rfl
  | cons first rest ih =>
      cases rest with
      | nil => rfl
      | cons second rest => exact congrArg (alternative (first.renumber groups)) ih

/-- A pattern that looks at nothing but what it matches, whose groups have no names and have
their numbers in a range. -/
def SelfContained (low high : Nat) : Pattern → Prop
  | empty => True
  | one _ => True
  | assertion _ => False
  | capture index name inner =>
    name = none ∧ low < index ∧ index ≤ high ∧ inner.SelfContained low high
  | sequence first second => first.SelfContained low high ∧ second.SelfContained low high
  | alternative first second => first.SelfContained low high ∧ second.SelfContained low high
  | repetition inner _ _ _ => inner.SelfContained low high

end Pattern

namespace PatternTree

variable {property : PatternTree → Prop} {motive : Pattern → Prop}

/-- What holds of patterns that match nothing or one character, and is kept by all ways in which
trees combine patterns. -/
structure Combined (property : PatternTree → Prop) (motive : Pattern → Prop) : Prop where
  empty : motive .empty
  one (set : CharSet) : motive (.one set)
  assertion (kind : Anchor) (assertion : Assertion) :
    property (.anchor kind) → motive (.assertion assertion)
  capture (index : Nat) (name : Option String) (tree : PatternTree) (inner : Pattern) :
    property (.capture index name tree) → motive inner → motive (.capture index name inner)
  sequence (first second : Pattern) : motive first → motive second → motive (.sequence first second)
  alternative (first second : Pattern) :
    motive first → motive second → motive (.alternative first second)
  repeated (tree : PatternTree) (inner : Pattern) (least : Nat) (most : Option Nat)
    (greedy lazy : Bool) : property (.repetition tree least most greedy) → motive inner →
    motive (.repeated inner least most lazy)

mutual

/-- What is kept by all ways to combine patterns holds of the meaning of a tree. -/
theorem Combined.meaning? (hc : Combined property motive) :
    ∀ (tree : PatternTree) (before : PatternFlags)
    {pattern : Pattern} {behind : PatternFlags}, tree.Every property →
    PatternTree.meaning? before tree = some (pattern, behind) → motive pattern
  | .empty, _, _, _, _, h => by
      cases h
      exact hc.empty
  | .flags _, _, _, _, _, h => by
      cases h
      exact hc.empty
  | .literal char, before, _, _, _, h => by
      obtain ⟨set, -, h⟩ := Option.bind_eq_some_iff.mp h
      cases h
      exact hc.one set
  | .dot, before, _, _, _, h => by
      obtain ⟨set, -, h⟩ := Option.bind_eq_some_iff.mp h
      cases h
      exact hc.one set
  | .anchor kind, _, _, _, hevery, h => by
      cases h
      exact hc.assertion kind _ hevery
  | .property _ _, _, _, _, _, h => by
      obtain ⟨set, -, h⟩ := Option.bind_eq_some_iff.mp h
      cases h
      exact hc.one set
  | .letter _ _, _, _, _, _, h => by
      obtain ⟨set, -, h⟩ := Option.bind_eq_some_iff.mp h
      cases h
      exact hc.one set
  | .bracket _ _, _, _, _, _, h => by
      obtain ⟨_, -, h⟩ := Option.bind_eq_some_iff.mp h
      obtain ⟨set, -, h⟩ := Option.bind_eq_some_iff.mp h
      cases h
      exact hc.one set
  | .repetition inner least most greedy, before, _, _, hevery, h => by
      obtain ⟨⟨found, behind⟩, hfound, h⟩ := Option.bind_eq_some_iff.mp h
      cases h
      exact hc.repeated _ _ _ _ _ _ hevery.1 (hc.meaning? inner before hevery.2 hfound)
  | .capture index name inner, before, _, _, hevery, h => by
      obtain ⟨⟨found, behind⟩, hfound, h⟩ := Option.bind_eq_some_iff.mp h
      cases h
      exact hc.capture _ _ _ _ hevery.1 (hc.meaning? inner before hevery.2 hfound)
  | .group changes inner, before, _, _, hevery, h => by
      obtain ⟨⟨found, behind⟩, hfound, h⟩ := Option.bind_eq_some_iff.mp h
      cases h
      exact hc.meaning? inner (before.apply changes) hevery.2 hfound
  | .sequence items, before, _, _, hevery, h => by
      obtain ⟨⟨found, behind⟩, hfound, h⟩ := Option.bind_eq_some_iff.mp h
      cases h
      exact Pattern.ofSequence_induction hc.empty hc.sequence
        (hc.meanings? items before hevery.2 hfound)
  | .alternatives items, before, _, _, hevery, h => by
      obtain ⟨⟨found, behind⟩, hfound, h⟩ := Option.bind_eq_some_iff.mp h
      cases h
      exact Pattern.ofAlternatives_induction (hc.one _) hc.alternative
        (hc.meanings? items before hevery.2 hfound)

theorem Combined.meanings? (hc : Combined property motive) :
    ∀ (items : List PatternTree) (before : PatternFlags)
    {patterns : List Pattern} {behind : PatternFlags}, EveryItem property items →
    PatternTree.meanings? before items = some (patterns, behind) →
    ∀ pattern ∈ patterns, motive pattern
  | [], _, _, _, _, h => by
      cases h
      exact List.forall_mem_nil _
  | item :: rest, before, _, _, hevery, h => by
      obtain ⟨⟨first, between⟩, hfirst, h⟩ := Option.bind_eq_some_iff.mp h
      obtain ⟨⟨others, behind⟩, hothers, h⟩ := Option.bind_eq_some_iff.mp h
      cases h
      exact List.forall_mem_cons.mpr ⟨hc.meaning? item before hevery.1 hfirst,
        hc.meanings? rest between hevery.2 hothers⟩

end

/-- The repetitions of a proper tree can be met in its meaning, too. -/
theorem Proper.wellBounded {low high : Nat} {tree : PatternTree} {before behind : PatternFlags}
    {pattern : Pattern} (h : tree.Proper low high)
    (hmeaning : tree.meaning? before = some (pattern, behind)) : pattern.WellBounded := by
  suffices hcombined : Combined (NumberedWithin low high) Pattern.WellBounded from
    hcombined.meaning? tree before h hmeaning
  refine ⟨trivial, fun _ => trivial, fun _ _ _ => trivial, fun _ _ _ _ _ h => h,
    fun _ _ hfirst hsecond => ⟨hfirst, hsecond⟩, fun _ _ hfirst hsecond => ⟨hfirst, hsecond⟩, ?_⟩
  intro tree inner least most greedy isLazy hmost hinner
  rcases Pattern.repeated_cases inner least most isLazy with hcase | hcase | ⟨_, _, hcase, hlimit⟩
  · rw [hcase]
    trivial
  · rw [hcase]
    exact hinner
  · rw [hcase]
    exact ⟨hinner, hlimit hmost⟩

/-- A plain tree means a pattern that looks at nothing but what it matches. -/
theorem Plain.selfContained {low high : Nat} {tree : PatternTree} {before behind : PatternFlags}
    {pattern : Pattern} (hplain : tree.Plain) (h : tree.Proper low high)
    (hmeaning : tree.meaning? before = some (pattern, behind)) :
    pattern.SelfContained low high := by
  suffices hcombined : Combined
      (fun tree => tree.ChangesNothing ∧ tree.NumberedWithin low high)
      (Pattern.SelfContained low high) from
    hcombined.meaning? tree before (hplain.and h) hmeaning
  refine ⟨trivial, fun _ => trivial, fun _ _ h => h.1.elim,
    fun _ _ _ _ h hinner => ⟨h.1, h.2.1, h.2.2, hinner⟩,
    fun _ _ hfirst hsecond => ⟨hfirst, hsecond⟩, fun _ _ hfirst hsecond => ⟨hfirst, hsecond⟩, ?_⟩
  intro tree inner least most greedy isLazy _ hinner
  rcases Pattern.repeated_cases inner least most isLazy with hcase | hcase | ⟨_, _, hcase, _⟩
  · rw [hcase]
    trivial
  · rw [hcase]
    exact hinner
  · rw [hcase]
    exact hinner

mutual

/-- Behind a plain tree the same flags are in force. -/
theorem behind_eq_of_plain : ∀ (tree : PatternTree) (before : PatternFlags)
    {pattern : Pattern} {behind : PatternFlags}, tree.Plain →
    meaning? before tree = some (pattern, behind) → behind = before
  | .empty, _, _, _, _, h => by
      cases h
      rfl
  | .flags _, _, _, _, hplain, _ => hplain.elim
  | .literal char, _, _, _, _, h => by
      obtain ⟨set, -, h⟩ := Option.bind_eq_some_iff.mp h
      cases h
      rfl
  | .dot, _, _, _, _, h => by
      obtain ⟨set, -, h⟩ := Option.bind_eq_some_iff.mp h
      cases h
      rfl
  | .anchor kind, _, _, _, hplain, _ => hplain.elim
  | .property _ _, _, _, _, _, h => by
      obtain ⟨set, -, h⟩ := Option.bind_eq_some_iff.mp h
      cases h
      rfl
  | .letter _ _, _, _, _, _, h => by
      obtain ⟨set, -, h⟩ := Option.bind_eq_some_iff.mp h
      cases h
      rfl
  | .bracket _ _, _, _, _, _, h => by
      obtain ⟨_, -, h⟩ := Option.bind_eq_some_iff.mp h
      obtain ⟨set, -, h⟩ := Option.bind_eq_some_iff.mp h
      cases h
      rfl
  | .repetition inner least most greedy, before, _, _, hplain, h => by
      obtain ⟨⟨found, behind⟩, hfound, h⟩ := Option.bind_eq_some_iff.mp h
      cases h
      exact behind_eq_of_plain inner before hplain.2 hfound
  | .capture index name inner, before, _, _, _, h => by
      obtain ⟨⟨found, behind⟩, -, h⟩ := Option.bind_eq_some_iff.mp h
      cases h
      rfl
  | .group changes inner, before, _, _, _, h => by
      obtain ⟨⟨found, behind⟩, -, h⟩ := Option.bind_eq_some_iff.mp h
      cases h
      rfl
  | .sequence items, before, _, _, hplain, h => by
      obtain ⟨⟨found, behind⟩, hfound, h⟩ := Option.bind_eq_some_iff.mp h
      cases h
      exact behind_eq_of_plainItems items before hplain.2 hfound
  | .alternatives items, before, _, _, hplain, h => by
      obtain ⟨⟨found, behind⟩, hfound, h⟩ := Option.bind_eq_some_iff.mp h
      cases h
      exact behind_eq_of_plainItems items before hplain.2 hfound

theorem behind_eq_of_plainItems : ∀ (items : List PatternTree) (before : PatternFlags)
    {patterns : List Pattern} {behind : PatternFlags}, EveryItem ChangesNothing items →
    meanings? before items = some (patterns, behind) → behind = before
  | [], _, _, _, _, h => by
      cases h
      rfl
  | item :: rest, before, _, _, hplain, h => by
      obtain ⟨⟨first, between⟩, hfirst, h⟩ := Option.bind_eq_some_iff.mp h
      obtain ⟨⟨others, behind⟩, hothers, h⟩ := Option.bind_eq_some_iff.mp h
      cases h
      rw [behind_eq_of_plainItems rest between hplain.2 hothers]
      exact behind_eq_of_plain item before hplain.1 hfirst

end

mutual

/-- Numbering the groups of a tree higher numbers those of its meaning higher. -/
theorem meaning?_renumber (groups : Nat) : ∀ (tree : PatternTree) (before : PatternFlags),
    (tree.renumber groups).meaning? before =
      (tree.meaning? before).map fun found => (found.1.renumber groups, found.2)
  | .empty, _ => rfl
  | .flags _, _ => rfl
  | .literal char, before => by
      change (char.set? before).bind _ = ((char.set? before).bind _).map _
      cases char.set? before <;> rfl
  | .dot, before => by
      change (dotSet? before).bind _ = ((dotSet? before).bind _).map _
      cases dotSet? before <;> rfl
  | .anchor kind, _ => rfl
  | .property negated query, before => by
      change (ClassTree.property? before negated query).bind _ =
        ((ClassTree.property? before negated query).bind _).map _
      cases ClassTree.property? before negated query <;> rfl
  | .letter negated kind, before => by
      change (ClassTree.letter? before negated kind).bind _ =
        ((ClassTree.letter? before negated kind).bind _).map _
      cases ClassTree.letter? before negated kind <;> rfl
  | .bracket negated inner, before => by
      change (inner.set? before).bind _ = ((inner.set? before).bind _).map _
      cases inner.set? before with
      | none => rfl
      | some set =>
          change (ClassTree.finish? before negated set).bind _ =
            ((ClassTree.finish? before negated set).bind _).map _
          cases ClassTree.finish? before negated set <;> rfl
  | .repetition inner least most greedy, before => by
      rw [renumber, meaning?, meaning?, meaning?_renumber groups inner before]
      cases inner.meaning? before with
      | none => rfl
      | some found => exact congrArg some (Prod.ext (Pattern.renumber_repeated ..).symm rfl)
  | .capture index name inner, before => by
      rw [renumber, meaning?, meaning?, meaning?_renumber groups inner before]
      cases inner.meaning? before <;> rfl
  | .group changes inner, before => by
      rw [renumber, meaning?, meaning?, meaning?_renumber groups inner _]
      cases inner.meaning? (before.apply changes) <;> rfl
  | .sequence items, before => by
      rw [renumber, meaning?, meaning?, meanings?_renumberItems groups items before]
      cases meanings? before items with
      | none => rfl
      | some found => exact congrArg some (Prod.ext (Pattern.renumber_ofSequence ..).symm rfl)
  | .alternatives items, before => by
      rw [renumber, meaning?, meaning?, meanings?_renumberItems groups items before]
      cases meanings? before items with
      | none => rfl
      | some found => exact congrArg some (Prod.ext (Pattern.renumber_ofAlternatives ..).symm rfl)

theorem meanings?_renumberItems (groups : Nat) : ∀ (items : List PatternTree)
    (before : PatternFlags), meanings? before (renumberItems groups items) =
      (meanings? before items).map fun found => (found.1.map (Pattern.renumber groups), found.2)
  | [], _ => rfl
  | item :: rest, before => by
      rw [renumberItems, meanings?, meanings?, meaning?_renumber groups item before]
      cases item.meaning? before with
      | none => rfl
      | some found =>
          change (meanings? found.2 (renumberItems groups rest)).bind _ =
            ((meanings? found.2 rest).bind _).map _
          rw [meanings?_renumberItems groups rest found.2]
          cases meanings? found.2 rest <;> rfl

end

end PatternTree

end BotHost
