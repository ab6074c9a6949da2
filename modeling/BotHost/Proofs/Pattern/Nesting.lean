/-
# Reading a group inside of a pattern

A text that is a pattern on its own is the same pattern inside of a group: read with a closing
bracket and more text behind, it gives the same tree, its groups numbered behind those before
it.  Two things could get in the way, and are excluded: a comment that swallows the bracket, and
a name that a group outside already has.

The reader never looks behind the bracket, and never needs more steps than a multiple of the
text's own length, so neither what follows nor the greater bound makes a difference.
-/

import BotHost.Proofs.Pattern.Items

namespace BotHost

namespace PatternReader

/-! ### What reading does to the state -/

/-- A beginning of the text was read, and perhaps groups were numbered and named. -/
structure Grows (state after : State) : Prop where
  rest : after.rest <:+ state.rest
  groups : state.groups ≤ after.groups
  names : state.names <:+ after.names

namespace Grows

variable {state after later : State}

theorem trans (h : Grows state after) (hlater : Grows after later) : Grows state later :=
  ⟨hlater.rest.trans h.rest, Nat.le_trans h.groups hlater.groups, h.names.trans hlater.names⟩

end Grows

theorem State.Stays.grows {state after : State} (h : state.Stays after) : Grows state after :=
  ⟨h.rest, Nat.le_of_eq h.groups.symm, h.names ▸ List.suffix_rfl⟩

theorem Opens.grows {state after : State} {head : GroupHead} (h : Opens state head after) :
    Grows state after := by
  have hnumbered := h.numbered
  cases head with
  | capture index name =>
      exact ⟨h.rest, hnumbered.2.1 ▸ Nat.le_succ _, hnumbered.2.2 ▸ List.suffix_append _ _⟩
  | flags changes => exact ⟨h.rest, hnumbered.1 ▸ Nat.le_refl _, hnumbered.2 ▸ List.suffix_rfl⟩
  | group changes => exact ⟨h.rest, hnumbered.1 ▸ Nat.le_refl _, hnumbered.2 ▸ List.suffix_rfl⟩

/-- What reading a tree does to the state: the groups inside of the tree get the next numbers, and
a plain tree leaves flags and names alone. -/
structure Reads (state : State) (tree : PatternTree) (after : State) : Prop where
  grows : Grows state after
  /-- The groups of the tree are numbered from here on. -/
  proper : tree.Proper state.groups after.groups
  /-- A plain tree changes neither how blanks count nor the names. -/
  plain : tree.Plain → after.verbose = state.verbose ∧ after.names = state.names

/-- What reading on behind some items does, which are listed last first: the groups inside of new
items get the next numbers, and plain items leave flags and names alone. -/
structure ReadsItems (state : State) (items found : List PatternTree) (after : State) : Prop where
  grows : Grows state after
  /-- The groups of new items are numbered from here on. -/
  proper (low : Nat) : low ≤ state.groups → (∀ item ∈ items, item.Proper low state.groups) →
    ∀ item ∈ found, item.Proper low after.groups
  /-- If all items are plain in the end, they were so before, and nothing else has changed. -/
  plain : (∀ item ∈ found, item.Plain) → (∀ item ∈ items, item.Plain) ∧
    after.verbose = state.verbose ∧ after.names = state.names

theorem Reads.behind {state after : State} {tree : PatternTree} (h : Reads state tree after)
    (items : List PatternTree) : ReadsItems state items (tree :: items) after where
  grows := h.grows
  proper low hlow hitems := List.forall_mem_cons.mpr ⟨h.proper.mono hlow (Nat.le_refl _),
    fun item hitem => (hitems item hitem).mono (Nat.le_refl _) h.grows.groups⟩
  plain hfound := by
    obtain ⟨htree, hitems⟩ := List.forall_mem_cons.mp hfound
    exact ⟨hitems, h.plain htree⟩

namespace ReadsItems

variable {state between after : State} {items found last : List PatternTree}

/-- Reading nothing but blanks leaves the items as they are. -/
theorem of_stays (h : state.Stays after) (items : List PatternTree) :
    ReadsItems state items items after where
  grows := h.grows
  proper _ _ hitems := h.groups.symm ▸ hitems
  plain hitems := ⟨hitems, h.verbose, h.names⟩

/-- What is no group numbers none. -/
theorem of_item {bound : Nat} {c : Char} (hstays : state.Stays after)
    (h : item bound c items state = some (found, after)) : ReadsItems state items found after where
  grows := hstays.grows
  proper _ _ hitems := hstays.groups.symm ▸ proper_of_item h hitems
  plain hfound := ⟨plain_of_item h hfound, hstays.verbose, hstays.names⟩

theorem trans (h : ReadsItems state items found between)
    (hlater : ReadsItems between found last after) : ReadsItems state items last after where
  grows := h.grows.trans hlater.grows
  proper low hlow hitems :=
    hlater.proper low (Nat.le_trans hlow h.grows.groups) (h.proper low hlow hitems)
  plain hlast := by
    obtain ⟨hfound, hverbose, hnames⟩ := hlater.plain hlast
    obtain ⟨hitems, hverbose', hnames'⟩ := h.plain hfound
    exact ⟨hitems, hverbose.trans hverbose', hnames.trans hnames'⟩

end ReadsItems

/-- A tree that is read inside of groups with some names as it is on its own: no comment can swallow
the closing bracket, and its groups have other names. -/
structure Nestable (names : List String) (state : State) (tree : PatternTree) (after : State) :
    Prop where
  /-- No comment can begin, or none would ever count. -/
  calm : '#' ∉ state.rest ∨ (state.verbose = false ∧ tree.Plain)
  free : ∀ name ∈ after.names, name ∉ names

namespace Nestable

variable {names : List String} {state between after : State} {tree part : PatternTree}

theorem clear (h : Nestable names state tree after) : state.Clear := by
  intro hverbose hmem
  rcases h.calm with hno | ⟨hnot, _⟩
  · exact hno hmem
  · rw [hnot] at hverbose
    cases hverbose

/-- The first part of what is read. -/
theorem first (h : Nestable names state tree after) (hgrows : Grows between after)
    (hpart : tree.Plain → part.Plain) : Nestable names state part between where
  calm := h.calm.imp_right fun hplain => ⟨hplain.1, hpart hplain.2⟩
  free name hname := h.free name (hgrows.names.subset hname)

/-- The rest of what is read. -/
theorem second (h : Nestable names state tree after) (hgrows : Grows state between)
    (hpart : tree.Plain → between.verbose = state.verbose ∧ part.Plain) :
    Nestable names between part after where
  calm := by
    rcases h.calm with hno | ⟨hverbose, hplain⟩
    · exact .inl fun hmem => hno (hgrows.rest.subset hmem)
    · obtain ⟨hsame, hplain⟩ := hpart hplain
      exact .inr ⟨hsame.trans hverbose, hplain⟩
  free := h.free

end Nestable

/-! ### One step of reading -/

section Steps

variable (groups : Nat) (names : List String) (more : List Char) (bound other : Nat)

/-- How alternatives are read in one step more than so many, and how far inside of another
pattern. -/
inductive AlternativesStep (state : State) (trees : List PatternTree) (after : State) : Prop where
  | last {first : PatternTree} :
      sequence bound [] state = some (first, after) → trees = [first] →
      (∀ inside, sequence other [] (state.within groups names more) =
          some (inside, after.within groups names more) →
        alternatives (other + 1) (state.within groups names more) =
          some ([inside], after.within groups names more)) →
      AlternativesStep state trees after
  | bar {first : PatternTree} {between dropped : State} {others : List PatternTree} :
      sequence bound [] state = some (first, between) → between.Stays dropped →
      alternatives bound dropped = some (others, after) → trees = first :: others →
      (∀ inside, between.Clear → sequence other [] (state.within groups names more) =
          some (inside, between.within groups names more) →
        alternatives (other + 1) (state.within groups names more) =
          (alternatives other >>= fun others => pure (inside :: others))
            (dropped.within groups names more)) →
      AlternativesStep state trees after

/-- How a sequence is read behind some items in one step more than so many, and how far inside of
another pattern. -/
inductive SequenceStep (items : List PatternTree) (state : State) (tree : PatternTree)
    (after : State) : Prop where
  | ends : tree = .ofSequence items.reverse → state.Stays after →
      (state.Clear → sequence (other + 1) (items.map (.renumber groups))
          (state.within groups names more) =
        some (tree.renumber groups, after.within groups names more)) →
      SequenceStep items state tree after
  | group {spaced between : State} {opened : PatternTree} : state.Stays spaced →
      spaced.rest ≠ [] → group bound spaced = some (opened, between) →
      sequence bound (opened :: items) between = some (tree, after) →
      (state.Clear → sequence (other + 1) (items.map (.renumber groups))
          (state.within groups names more) =
        (group other >>= fun opened => sequence other (opened :: items.map (.renumber groups)))
          (spaced.within groups names more)) →
      SequenceStep items state tree after
  | item {spaced between : State} {c : Char} {found : List PatternTree} : state.Stays spaced →
      spaced.Stays between → item bound c items spaced = some (found, between) →
      sequence bound found between = some (tree, after) →
      (state.Clear → sequence (other + 1) (items.map (.renumber groups))
          (state.within groups names more) =
        sequence other (found.map (.renumber groups)) (between.within groups names more)) →
      SequenceStep items state tree after

variable {groups : Nat} {names : List String} {more : List Char} {bound other : Nat}

theorem peek_within {state : State} {c : Char} {rest : List Char} (h : state.rest = c :: rest) :
    peek (state.within groups names more) = some (some c, state.within groups names more) := by
  rw [peek, State.within, h]
  rfl

/-- Where a text ends, the bracket follows. -/
theorem peek_within_end {state : State} (h : state.rest = []) :
    peek (state.within groups names more) = some (some ')', state.within groups names more) := by
  rw [peek, State.within, h]
  rfl

theorem alternativesStep_of_eq_some {state after : State} {trees : List PatternTree}
    (h : alternatives (bound + 1) state = some (trees, after)) :
    AlternativesStep groups names more bound other state trees after := by
  rw [alternatives] at h
  obtain ⟨first, between, hfirst, h⟩ := bind_eq_some.mp h
  obtain ⟨found, _, hpeek, h⟩ := bind_eq_some.mp h
  cases hpeek
  split at h
  · rename_i hbar
    obtain ⟨rest, hrest⟩ := List.head?_eq_some_iff.mp hbar
    obtain ⟨_, dropped, hdrop, h⟩ := bind_eq_some.mp h
    obtain ⟨others, last, hothers, h⟩ := bind_eq_some.mp h
    cases h
    obtain ⟨hdropped, hdropInside⟩ :=
      @carries_drop groups names more between 1 (by simp [hrest]) _ _ hdrop
    refine .bar hfirst hdropped hothers rfl fun inside hclear hinside => ?_
    rw [alternatives, bind_run hinside, bind_run (peek_within hrest), if_pos rfl,
      bind_run (hdropInside hclear)]
  · rename_i hbar
    cases h
    refine .last hfirst rfl fun inside hinside => ?_
    rw [alternatives, bind_run hinside]
    cases hrest : after.rest with
    | nil =>
        rw [bind_run (peek_within_end hrest), if_neg (by decide)]
        rfl
    | cons c rest =>
        rw [hrest, List.head?_cons] at hbar
        rw [bind_run (peek_within hrest), if_neg hbar]
        rfl

theorem sequenceStep_of_eq_some (hle : bound ≤ other) {items : List PatternTree}
    {state after : State} {tree : PatternTree}
    (h : sequence (bound + 1) items state = some (tree, after)) :
    SequenceStep groups names more bound other items state tree after := by
  rw [sequence] at h
  obtain ⟨_, spaced, hspace, h⟩ := bind_eq_some.mp h
  obtain ⟨hspaced, hspaceInside⟩ := @carries_space groups names more _ _ _ hspace
  obtain ⟨found, _, hpeek, h⟩ := bind_eq_some.mp h
  cases hpeek
  cases hrest : spaced.rest with
  | nil =>
      rw [hrest] at h
      cases h
      -- The bracket behind the text ends the sequence, too.
      refine .ends rfl hspaced fun hclear => ?_
      rw [sequence, bind_run (hspaceInside hclear), bind_run (peek_within_end hrest),
        PatternTree.renumber_ofSequence, List.map_reverse]
      rfl
  | cons c rest =>
      rw [hrest] at h
      dsimp only [List.head?_cons] at h
      have hnext {β : Type} {next : Option Char → Reader β} (hclear : state.Clear) :
          (space >>= fun _ => peek >>= next) (state.within groups names more) =
            next (some c) (spaced.within groups names more) := by
        rw [bind_run (hspaceInside hclear), bind_run (peek_within hrest)]
      split at h
      · rename_i hsign
        cases h
        refine .ends rfl hspaced fun hclear => ?_
        rw [sequence, hnext hclear]
        dsimp only
        rw [if_pos hsign, PatternTree.renumber_ofSequence, List.map_reverse]
        rfl
      · rename_i hsign
        split at h
        · rename_i hopen
          obtain ⟨opened, between, hgroup, h⟩ := bind_eq_some.mp h
          refine .group hspaced (by simp [hrest]) hgroup h fun hclear => ?_
          rw [sequence, hnext hclear]
          dsimp only
          rw [if_neg hsign, if_pos hopen]
        · rename_i hopen
          obtain ⟨found, between, hitem, h⟩ := bind_eq_some.mp h
          obtain ⟨hbetween, hitemInside⟩ :=
            @carries_item groups names more _ bound other hle c items (by simp [hrest]) _ _ hitem
          refine .item hspaced hbetween hitem h fun hclear => ?_
          rw [sequence, hnext hclear]
          dsimp only
          rw [if_neg hsign, if_neg hopen, bind_run (hitemInside (hspaced.clear hclear))]

/-- A group is its bracket, its head and what is behind the head. -/
theorem group_eq_some {state after : State} {tree : PatternTree} (hrest : state.rest ≠ [])
    (h : group (bound + 1) state = some (tree, after)) :
    ∃ dropped head opened, state.Stays dropped ∧ groupHead dropped = some (head, opened) ∧
      behindHead (alternatives bound) head opened = some (tree, after) ∧
      (state.Clear → group (other + 1) (state.within groups names more) =
        (groupHead >>= behindHead (alternatives other)) (dropped.within groups names more)) := by
  rw [group] at h
  obtain ⟨_, dropped, hdrop, h⟩ := bind_eq_some.mp h
  obtain ⟨hdropped, hdropInside⟩ :=
    @carries_drop groups names more state 1 (List.length_pos_of_ne_nil hrest) _ _ hdrop
  obtain ⟨head, opened, hhead, h⟩ := bind_eq_some.mp h
  exact ⟨dropped, head, opened, hdropped, hhead, h, fun hclear => by
    rw [group, bind_run (hdropInside hclear)]⟩

end Steps

/-! ### The same tree inside of another pattern -/

section Nesting

variable (groups : Nat) (names : List String) (more : List Char)

/-- A group that is read in so many steps reads the same inside of another pattern. -/
def GroupNests (bound : Nat) : Prop :=
  ∀ other state tree after, bound ≤ other → state.rest ≠ [] →
    group bound state = some (tree, after) →
    Reads state tree after ∧
      (Nestable names state tree after → group other (state.within groups names more) =
        some (tree.renumber groups, after.within groups names more))

/-- Items that are read in so many steps behind other items read the same inside of another
pattern. -/
def SequenceNests (bound : Nat) : Prop :=
  ∀ other state items tree after, bound ≤ other →
    sequence bound items state = some (tree, after) →
    ∃ found, tree = .ofSequence found.reverse ∧ ReadsItems state items found after ∧
      (Nestable names state tree after →
        sequence other (items.map (.renumber groups)) (state.within groups names more) =
          some (tree.renumber groups, after.within groups names more))

/-- Alternatives that are read in so many steps read the same inside of another pattern. -/
def AlternativesNest (bound : Nat) : Prop :=
  ∀ other state trees after, bound ≤ other → alternatives bound state = some (trees, after) →
    Reads state (.ofAlternatives trees) after ∧
      (Nestable names state (.ofAlternatives trees) after →
        alternatives other (state.within groups names more) =
          some (trees.map (.renumber groups), after.within groups names more))

variable {groups : Nat} {names : List String} {more : List Char} {bound : Nat}

theorem reads_of_sequenceNests (h : SequenceNests groups names more bound) {other : Nat}
    {state after : State} {tree : PatternTree} (hle : bound ≤ other)
    (hread : sequence bound [] state = some (tree, after)) :
    Reads state tree after ∧
      (Nestable names state tree after → sequence other [] (state.within groups names more) =
        some (tree.renumber groups, after.within groups names more)) := by
  obtain ⟨found, rfl, hreads, hinside⟩ := h other state [] tree after hle hread
  refine ⟨⟨hreads.grows, PatternTree.proper_ofSequence_iff.mpr fun item hitem => ?_,
    fun hplain => (hreads.plain fun item hitem => ?_).2⟩, hinside⟩
  · exact hreads.proper state.groups (Nat.le_refl _) (List.forall_mem_nil _) item
      (List.mem_reverse.mp hitem)
  · exact PatternTree.plain_ofSequence_iff.mp hplain item (List.mem_reverse.mpr hitem)

theorem alternativesNest_succ (hsequence : SequenceNests groups names more bound)
    (halternatives : AlternativesNest groups names more bound) :
    AlternativesNest groups names more (bound + 1) := by
  intro other state trees after hle h
  obtain ⟨other, rfl⟩ := Nat.exists_eq_succ_of_ne_zero (Nat.ne_zero_of_lt hle)
  replace hle := Nat.le_of_succ_le_succ hle
  cases @alternativesStep_of_eq_some groups names more bound other _ _ _ h with
  | @last first hfirst htrees hstep =>
      subst htrees
      obtain ⟨hreads, hinside⟩ := reads_of_sequenceNests hsequence hle hfirst
      exact ⟨hreads, fun hnest => hstep _ (hinside hnest)⟩
  | @bar first between dropped others hfirst hdropped hothers htrees hstep =>
      subst htrees
      obtain ⟨hfirstReads, hinside⟩ := reads_of_sequenceNests hsequence hle hfirst
      obtain ⟨hreads, hothersInside⟩ := halternatives other _ _ _ hle hothers
      have hgrows := hfirstReads.grows
      have hbehind := hdropped.grows.trans hreads.grows
      have hplains : (PatternTree.ofAlternatives (first :: others)).Plain →
          first.Plain ∧ (PatternTree.ofAlternatives others).Plain := fun hall =>
        (List.forall_mem_cons.mp (PatternTree.plain_ofAlternatives_iff.mp hall)).imp_right
          PatternTree.plain_ofAlternatives_iff.mpr
      refine ⟨⟨hgrows.trans hbehind, ?_, fun hall => ?_⟩, fun hnest => ?_⟩
      · refine PatternTree.proper_ofAlternatives_iff.mpr (List.forall_mem_cons.mpr ⟨?_, ?_⟩)
        · exact hfirstReads.proper.mono (Nat.le_refl _) hbehind.groups
        · intro tree htree
          exact (PatternTree.proper_ofAlternatives_iff.mp hreads.proper tree htree).mono
            (hdropped.groups ▸ hgrows.groups) (Nat.le_refl _)
      · obtain ⟨hfirstPlain, hothersPlain⟩ := hplains hall
        obtain ⟨hverbose, hnames⟩ := hfirstReads.plain hfirstPlain
        obtain ⟨hverbose', hnames'⟩ := hreads.plain hothersPlain
        exact ⟨hverbose'.trans (hdropped.verbose.trans hverbose),
          hnames'.trans (hdropped.names.trans hnames)⟩
      · have hnestBehind := hnest.second hgrows fun hall =>
          ⟨(hfirstReads.plain (hplains hall).1).1, (hplains hall).2⟩
        have hnestOthers := hnestBehind.second hdropped.grows fun hplain =>
          ⟨hdropped.verbose, hplain⟩
        rw [hstep _ hnestBehind.clear (hinside (hnest.first hbehind fun hall => (hplains hall).1)),
          bind_run (hothersInside hnestOthers)]
        rfl

theorem sequenceNests_succ (hgroup : GroupNests groups names more bound)
    (hsequence : SequenceNests groups names more bound) :
    SequenceNests groups names more (bound + 1) := by
  intro other state items tree after hle h
  obtain ⟨other, rfl⟩ := Nat.exists_eq_succ_of_ne_zero (Nat.ne_zero_of_lt hle)
  replace hle := Nat.le_of_succ_le_succ hle
  cases @sequenceStep_of_eq_some groups names more bound other hle _ _ _ _ h with
  | ends htree hstays hstep =>
      exact ⟨items, htree, .of_stays hstays items, fun hnest => hstep hnest.clear⟩
  | @group spaced between opened hspaced hrest hopened hread hstep =>
      obtain ⟨hreads, hgroupInside⟩ := hgroup other _ _ _ hle hrest hopened
      obtain ⟨found, rfl, hfound, hinside⟩ := hsequence other _ _ _ _ hle hread
      have hplain : (PatternTree.ofSequence found.reverse).Plain → opened.Plain := fun hall =>
        (hfound.plain fun item hitem => PatternTree.plain_ofSequence_iff.mp hall item
          (List.mem_reverse.mpr hitem)).1 opened List.mem_cons_self
      refine ⟨found, rfl, (ReadsItems.of_stays hspaced items).trans
        ((hreads.behind items).trans hfound), fun hnest => ?_⟩
      have hnestSpaced := hnest.second hspaced.grows fun hplain => ⟨hspaced.verbose, hplain⟩
      rw [hstep hnest.clear, bind_run (hgroupInside (hnestSpaced.first hfound.grows hplain))]
      exact hinside (hnestSpaced.second hreads.grows fun h => ⟨(hreads.plain (hplain h)).1, h⟩)
  | @item spaced between c found hspaced hbetween hitem hread hstep =>
      obtain ⟨last, rfl, hlast, hinside⟩ := hsequence other _ _ _ _ hle hread
      refine ⟨last, rfl, (ReadsItems.of_stays hspaced items).trans
        ((ReadsItems.of_item hbetween hitem).trans hlast), fun hnest => ?_⟩
      have hstays := hspaced.trans hbetween
      rw [hstep hnest.clear]
      exact hinside (hnest.second hstays.grows fun hplain => ⟨hstays.verbose, hplain⟩)

/-- The inside of a group, from behind its head to behind its closing bracket. -/
theorem inside_eq_some (halternatives : AlternativesNest groups names more bound) {other : Nat}
    {opened after : State} {before : Bool} {tree : PatternTree}
    {combine : PatternTree → PatternTree} (hle : bound ≤ other)
    (h : (alternatives bound >>= fun inner => closeGroup before >>= fun _ =>
      pure (combine (.ofAlternatives inner))) opened = some (tree, after)) :
    ∃ inner closed, tree = combine inner ∧ Reads opened inner closed ∧ Grows closed after ∧
      after.verbose = before ∧ after.groups = closed.groups ∧ after.names = closed.names ∧
      ∀ combine' : PatternTree → PatternTree, Nestable names opened inner closed →
        (alternatives other >>= fun inner => closeGroup before >>= fun _ =>
          pure (combine' (.ofAlternatives inner))) (opened.within groups names more) =
            some (combine' (inner.renumber groups), after.within groups names more) := by
  obtain ⟨trees, closed, htrees, h⟩ := bind_eq_some.mp h
  obtain ⟨_, last, hclose, h⟩ := bind_eq_some.mp h
  cases h
  obtain ⟨rest, hrest, rfl⟩ := closeGroup_eq_some.mp hclose
  obtain ⟨hreads, hinside⟩ := halternatives other _ _ _ hle htrees
  refine ⟨_, closed, rfl, hreads, ⟨?_, Nat.le_refl _, List.suffix_rfl⟩, rfl, rfl, rfl,
    fun combine' hnest => ?_⟩
  · rw [hrest]
    exact List.suffix_cons ')' rest
  · refine bind_eq_some.mpr ⟨_, _, hinside hnest, bind_eq_some.mpr ⟨(),
      State.within { closed with rest, verbose := before } groups names more, ?_, ?_⟩⟩
    · refine closeGroup_eq_some.mpr ⟨rest ++ ')' :: more, ?_, rfl⟩
      rw [State.within, hrest]
      rfl
    · rw [PatternTree.renumber_ofAlternatives]
      rfl

theorem groupNests_succ (halternatives : AlternativesNest groups names more bound) :
    GroupNests groups names more (bound + 1) := by
  intro other state tree after hle hrest h
  obtain ⟨other, rfl⟩ := Nat.exists_eq_succ_of_ne_zero (Nat.ne_zero_of_lt hle)
  obtain ⟨dropped, head, opened, hdropped, hhead, h, hstep⟩ :=
    @group_eq_some groups names more bound other _ _ _ hrest h
  obtain ⟨hopensDropped, hheadInside⟩ := @groupHead_eq_some groups names more _ _ _ hhead
  have hopens := hdropped.opens hopensDropped
  have hopenInside : ∀ last, Nestable names state tree after → Grows opened after →
      behindHead (alternatives other) (head.renumber groups)
          (opened.within groups names more) = some last →
      group (other + 1) (state.within groups names more) = some last := by
    rintro ⟨tree, last⟩ hnest hgrows hread
    rw [hstep hnest.clear]
    refine bind_eq_some.mpr ⟨_, _, ?_, hread⟩
    exact hheadInside (hdropped.clear hnest.clear) fun name hname =>
      hnest.free name (hgrows.names.subset hname)
  have hnumbered := hopens.numbered
  cases head with
  | flags changes =>
      obtain ⟨_, switched, hswitch, h⟩ := bind_eq_some.mp h
      cases hswitch
      cases h
      have hgrows := hopens.grows
      refine ⟨⟨⟨hgrows.rest, hgrows.groups, hgrows.names⟩, trivial, fun hplain => hplain.elim⟩,
        fun hnest => hopenInside _ hnest ⟨List.suffix_rfl, Nat.le_refl _, List.suffix_rfl⟩ rfl⟩
  | group changes =>
      obtain ⟨before, _, hbefore, h⟩ := bind_eq_some.mp h
      cases hbefore
      obtain ⟨_, switched, hswitch, h⟩ := bind_eq_some.mp h
      cases hswitch
      obtain ⟨inner, closed, rfl, hreads, hclosed, hverbose, hgroups, hnames, hinside⟩ :=
        inside_eq_some halternatives (Nat.le_of_succ_le_succ hle) h
      obtain ⟨hsameGroups, hsameNames⟩ := hnumbered
      have hswitched : Grows state { opened with
          verbose := (stateOf .verbose changes).getD opened.verbose } :=
        ⟨hopens.rest, hopens.grows.groups, hopens.grows.names⟩
      have hinner := hreads.grows.trans hclosed
      refine ⟨⟨hswitched.trans hinner, ⟨trivial, ?_⟩, fun hplain => ?_⟩, fun hnest => ?_⟩
      · exact hreads.proper.mono hswitched.groups (Nat.le_of_eq hgroups.symm)
      · exact ⟨hverbose.trans hopens.verbose,
          (hnames.trans (hreads.plain hplain.2).2).trans hsameNames⟩
      · apply hopenInside _ hnest ⟨hinner.rest, hinner.groups, hinner.names⟩
        refine bind_eq_some.mpr ⟨_, _, rfl, bind_eq_some.mpr ⟨_, _, rfl, ?_⟩⟩
        refine hinside (.group changes) ((hnest.second hswitched fun hplain => ⟨?_, hplain.2⟩).first
          hclosed id)
        rw [show changes = [] from hplain.1]
        exact hopens.verbose
  | capture index name =>
      obtain ⟨before, _, hbefore, h⟩ := bind_eq_some.mp h
      cases hbefore
      obtain ⟨inner, closed, rfl, hreads, hclosed, hverbose, hgroups, hnames, hinside⟩ :=
        inside_eq_some halternatives (Nat.le_of_succ_le_succ hle) h
      obtain ⟨rfl, hmore, hown⟩ := hnumbered
      have hgrows := hopens.grows
      have hinner := hreads.grows.trans hclosed
      refine ⟨⟨hgrows.trans hinner, ⟨⟨Nat.lt_succ_self _, ?_⟩, ?_⟩, fun hplain => ?_⟩,
        fun hnest => ?_⟩
      · rw [← hmore]
        exact hinner.groups
      · exact hreads.proper.mono hgrows.groups (Nat.le_of_eq hgroups.symm)
      · refine ⟨hverbose.trans hopens.verbose, (hnames.trans (hreads.plain hplain.2).2).trans ?_⟩
        rw [hown, show name = none from hplain.1]
        rfl
      · apply hopenInside _ hnest hinner
        refine bind_eq_some.mpr ⟨_, _, rfl, ?_⟩
        refine hinside (.capture (state.groups + 1 + groups) name)
          ((hnest.second hgrows fun hplain => ⟨hopens.verbose, hplain.2⟩).first hclosed id)

/-- Whatever is read in so many steps reads the same inside of another pattern. -/
theorem nests (bound : Nat) : GroupNests groups names more bound ∧
    SequenceNests groups names more bound ∧ AlternativesNest groups names more bound := by
  induction bound with
  | zero =>
      refine ⟨?_, ?_, ?_⟩
      · rintro _ _ _ _ _ _ ⟨⟩
      · rintro _ _ _ _ _ _ ⟨⟩
      · rintro _ _ _ _ _ ⟨⟩
  | succ bound ih =>
      obtain ⟨hgroup, hsequence, halternatives⟩ := ih
      exact ⟨groupNests_succ halternatives, sequenceNests_succ hgroup hsequence,
        alternativesNest_succ hsequence halternatives⟩

end Nesting

/-! ### Whole texts -/

/-- Where the reader begins with a text. -/
def State.start (text : String) : State := ⟨text.toList, false, 0, []⟩

/-- The trees of a pattern are read up to the end of its text. -/
theorem alternatives_of_read? {text : String} {tree : PatternTree}
    (h : PatternTree.read? text = some tree) :
    ∃ trees after, alternatives (3 * text.toList.length + 3) (.start text) = some (trees, after) ∧
      tree = .ofAlternatives trees ∧ after.rest = [] := by
  unfold PatternTree.read? at h
  dsimp only at h
  split at h
  · rename_i trees after hread
    split at h
    · rename_i hends
      cases h
      exact ⟨trees, after, hread, rfl, List.isEmpty_iff.mp (Bool.and_eq_true_iff.mp hends).1⟩
    · cases h
  · cases h

/-- The groups of a pattern have the numbers from one on. -/
theorem proper_of_read? {text : String} {tree : PatternTree}
    (h : PatternTree.read? text = some tree) :
    ∃ groups, tree.Proper 0 groups := by
  obtain ⟨trees, after, hread, rfl, _⟩ := alternatives_of_read? h
  exact ⟨_, ((@nests 0 [] [] _).2.2 _ _ _ _ (Nat.le_refl _) hread).1.proper⟩

/-- Inside of a group, a plain pattern is read like on its own, with its groups numbered behind
those before it. -/
theorem alternatives_nested {text : String} {tree : PatternTree}
    (h : PatternTree.read? text = some tree)
    (hplain : tree.Plain) :
    ∃ trees own, tree = .ofAlternatives trees ∧ tree.Proper 0 own ∧
      ∀ bound groups names more, 3 * text.toList.length + 3 ≤ bound →
        alternatives bound ⟨text.toList ++ ')' :: more, false, groups, names⟩ =
          some (trees.map (.renumber groups), ⟨')' :: more, false, own + groups, names⟩) := by
  obtain ⟨trees, after, hread, rfl, hrest⟩ := alternatives_of_read? h
  obtain ⟨hreads, _⟩ := (@nests 0 [] [] _).2.2 _ _ _ _ (Nat.le_refl _) hread
  obtain ⟨hverbose, hnames⟩ := hreads.plain hplain
  refine ⟨trees, after.groups, rfl, hreads.proper, fun bound groups names more hle => ?_⟩
  have hnest : Nestable names (.start text) (.ofAlternatives trees) after :=
    ⟨.inr ⟨rfl, hplain⟩, by rw [hnames]; exact fun _ hname => nomatch hname⟩
  have hinside := ((@nests groups names more _).2.2 bound _ _ _ hle hread).2 hnest
  rw [State.within, State.within, hrest, hverbose, hnames] at hinside
  simpa [State.start] using hinside

end PatternReader

end BotHost
