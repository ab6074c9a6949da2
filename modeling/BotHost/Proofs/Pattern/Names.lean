/-
# Names of groups

Every group of a pattern takes a name that no group before it has.  So a pattern that is read on
its own may be refused inside of a group: one of its names may be taken outside.  This is the only
reason, as long as no comment swallows the closing bracket, and then nothing is read at all.
-/

import BotHost.Proofs.Pattern.Nesting

namespace BotHost

namespace PatternTree

/-! ### The names in a tree -/

/-- A group has one of some names, or none. -/
def NamedAmong (names : List String) : PatternTree → Prop
  | .capture _ name _ => ∀ own, name = some own → own ∈ names
  | _ => True

/-- A tree whose groups have their names among some. -/
def NamesWithin (names : List String) (tree : PatternTree) : Prop := tree.Every (NamedAmong names)

variable {names others : List String} {tree : PatternTree} {items : List PatternTree}

theorem namesWithin_ofSequence_iff :
    (ofSequence items).NamesWithin names ↔ ∀ item ∈ items, item.NamesWithin names :=
  every_ofSequence_iff trivial fun _ => trivial

theorem namesWithin_ofAlternatives_iff :
    (ofAlternatives items).NamesWithin names ↔ ∀ item ∈ items, item.NamesWithin names :=
  every_ofAlternatives_iff fun _ => trivial

theorem NamesWithin.mono (h : tree.NamesWithin names) (hsubset : names ⊆ others) :
    tree.NamesWithin others := by
  refine Every.imp (fun tree hnamed => ?_) tree h
  cases tree with
  | capture index name inner => exact fun own hown => hsubset (hnamed own hown)
  | _ => trivial

end PatternTree

namespace PatternReader

theorem IsAtom.namesWithin {tree : PatternTree} (h : IsAtom tree) (names : List String) :
    tree.NamesWithin names := by
  cases tree with
  | literal _ => trivial
  | dot => trivial
  | anchor _ => trivial
  | property _ _ => trivial
  | letter _ _ => trivial
  | bracket _ _ => trivial
  | _ => exact h.elim

theorem namesWithin_of_item {bound : Nat} {c : Char} {names : List String}
    {items found : List PatternTree} {state after : State}
    (h : item bound c items state = some (found, after))
    (hitems : ∀ tree ∈ items, tree.NamesWithin names) : ∀ tree ∈ found, tree.NamesWithin names := by
  rcases item_cases h with ⟨tree, hatom, rfl⟩ | ⟨tree, before, _, _, _, rfl, rfl, _⟩
  · exact List.forall_mem_cons.mpr ⟨hatom.namesWithin names, hitems⟩
  · obtain ⟨htree, hbefore⟩ := List.forall_mem_cons.mp hitems
    exact List.forall_mem_cons.mpr ⟨⟨trivial, htree⟩, hbefore⟩

/-- Where a reader refuses, so does any reader that goes on behind it. -/
theorem bind_refused {α β : Type} {reader : Reader α} {next : α → Reader β} {state : State}
    (h : reader state = none) : (reader >>= next) state = none := by
  change (reader state).bind _ = none
  rw [h]
  rfl

/-- What is read takes a name that is taken outside, where no name was before.  No comment can
begin. -/
structure Clashes (names : List String) (state after : State) : Prop where
  quiet : '#' ∉ state.rest
  free : ∀ name ∈ state.names, name ∉ names
  taken : ∃ name ∈ after.names, name ∈ names

namespace Clashes

variable {names : List String} {state between after : State} {tree : PatternTree}

theorem clear (h : Clashes names state after) : state.Clear := fun _ => h.quiet

/-- A part without a new name clashes with nothing. -/
theorem elim {motive : Prop} (h : Clashes names state after) (hsame : after.names = state.names) :
    motive := by
  obtain ⟨name, hname, htaken⟩ := h.taken
  exact absurd htaken (h.free name (hsame ▸ hname))

/-- Either the first part of what is read takes such a name, or it reads the same inside of
another pattern, and the rest takes such a name. -/
theorem split (h : Clashes names state after) (hgrows : Grows state between) :
    Clashes names state between ∨
      (∀ tree, Nestable names state tree between) ∧ Clashes names between after := by
  by_cases hfree : ∀ name ∈ between.names, name ∉ names
  · refine .inr ⟨fun tree => ⟨.inl h.quiet, hfree⟩, ?_, hfree, h.taken⟩
    exact fun hmem => h.quiet (hgrows.rest.subset hmem)
  · push Not at hfree
    exact .inl ⟨h.quiet, h.free, hfree⟩

/-- Behind something that was read, the rest of what is read. -/
theorem behind (h : Clashes names state after) (hgrows : Grows state between)
    (hsame : between.names = state.names) : Clashes names between after :=
  ⟨fun hmem => h.quiet (hgrows.rest.subset hmem), hsame ▸ h.free, h.taken⟩

end Clashes

section Clashing

variable (groups : Nat) (names : List String) (more : List Char)

/-- A group that is read in so many steps takes the names inside of it, and is refused where one
of them is taken. -/
def GroupClashes (bound : Nat) : Prop :=
  ∀ other state tree after, bound ≤ other → state.rest ≠ [] →
    group bound state = some (tree, after) →
    tree.NamesWithin after.names ∧
      (Clashes names state after → group other (state.within groups names more) = none)

/-- Items that are read in so many steps behind other items take the names inside of them, and are
refused where one of them is taken. -/
def SequenceClashes (bound : Nat) : Prop :=
  ∀ other state items tree after, bound ≤ other →
    sequence bound items state = some (tree, after) →
    ((∀ item ∈ items, item.NamesWithin state.names) → tree.NamesWithin after.names) ∧
      (Clashes names state after →
        sequence other (items.map (.renumber groups)) (state.within groups names more) = none)

/-- Alternatives that are read in so many steps take the names inside of them, and are refused
where one of them is taken. -/
def AlternativesClash (bound : Nat) : Prop :=
  ∀ other state trees after, bound ≤ other → alternatives bound state = some (trees, after) →
    (PatternTree.ofAlternatives trees).NamesWithin after.names ∧
      (Clashes names state after → alternatives other (state.within groups names more) = none)

variable {groups : Nat} {names : List String} {more : List Char} {bound : Nat}

theorem alternativesClash_succ (hsequence : SequenceClashes groups names more bound)
    (halternatives : AlternativesClash groups names more bound) :
    AlternativesClash groups names more (bound + 1) := by
  intro other state trees after hle h
  obtain ⟨other, rfl⟩ := Nat.exists_eq_succ_of_ne_zero (Nat.ne_zero_of_lt hle)
  replace hle := Nat.le_of_succ_le_succ hle
  -- Where the first alternative is refused, all of them are.
  have hfirstRefused (hfirst : sequence other [] (state.within groups names more) = none) :
      alternatives (other + 1) (state.within groups names more) = none := by
    rw [alternatives, bind_refused hfirst]
  cases @alternativesStep_of_eq_some groups names more bound other _ _ _ h with
  | @last first hfirst htrees hstep =>
      subst htrees
      obtain ⟨hnames, hrefused⟩ := hsequence other _ _ _ _ hle hfirst
      exact ⟨hnames (List.forall_mem_nil _), fun hclash => hfirstRefused (hrefused hclash)⟩
  | @bar first between dropped others hfirst hdropped hothers htrees hstep =>
      subst htrees
      obtain ⟨hreads, hinside⟩ := reads_of_sequenceNests (nests bound).2.1 hle hfirst
      obtain ⟨hnames, hrefused⟩ := hsequence other _ _ _ _ hle hfirst
      obtain ⟨hothersReads, _⟩ := (@nests groups names more bound).2.2 other _ _ _ hle hothers
      obtain ⟨hothersNames, hothersRefused⟩ := halternatives other _ _ _ hle hothers
      refine ⟨?_, fun hclash => ?_⟩
      · refine PatternTree.namesWithin_ofAlternatives_iff.mpr (List.forall_mem_cons.mpr ⟨?_, ?_⟩)
        · exact (hnames (List.forall_mem_nil _)).mono
            (hdropped.grows.trans hothersReads.grows).names.subset
        · exact PatternTree.namesWithin_ofAlternatives_iff.mp hothersNames
      · rcases hclash.split hreads.grows with hfirstClash | ⟨hnest, hclash⟩
        · exact hfirstRefused (hrefused hfirstClash)
        · rw [hstep _ hclash.clear (hinside (hnest _))]
          exact bind_refused (hothersRefused (hclash.behind hdropped.grows hdropped.names))

theorem sequenceClashes_succ (hgroup : GroupClashes groups names more bound)
    (hsequence : SequenceClashes groups names more bound) :
    SequenceClashes groups names more (bound + 1) := by
  intro other state items tree after hle h
  obtain ⟨other, rfl⟩ := Nat.exists_eq_succ_of_ne_zero (Nat.ne_zero_of_lt hle)
  replace hle := Nat.le_of_succ_le_succ hle
  cases @sequenceStep_of_eq_some groups names more bound other hle _ _ _ _ h with
  | ends htree hstays hstep =>
      subst htree
      refine ⟨fun hitems => ?_, fun hclash => hclash.elim hstays.names⟩
      rw [hstays.names]
      exact PatternTree.namesWithin_ofSequence_iff.mpr fun item hitem =>
        hitems item (List.mem_reverse.mp hitem)
  | @group spaced between opened hspaced hrest hopened hread hstep =>
      obtain ⟨hreads, hinside⟩ := (@nests groups names more bound).1 other _ _ _ hle hrest hopened
      obtain ⟨hnames, hrefused⟩ := hgroup other _ _ _ hle hrest hopened
      obtain ⟨hrestNames, hrestRefused⟩ := hsequence other _ _ _ _ hle hread
      refine ⟨fun hitems => hrestNames (List.forall_mem_cons.mpr ⟨hnames, fun item hitem => ?_⟩),
        fun hclash => ?_⟩
      · exact (hitems item hitem).mono (hspaced.grows.trans hreads.grows).names.subset
      · rw [hstep hclash.clear]
        rcases (hclash.behind hspaced.grows hspaced.names).split hreads.grows with
          hgroupClash | ⟨hnest, hclash⟩
        · exact bind_refused (hrefused hgroupClash)
        · rw [bind_run (hinside (hnest _))]
          exact hrestRefused hclash
  | @item spaced between c found hspaced hbetween hitem hread hstep =>
      obtain ⟨hrestNames, hrestRefused⟩ := hsequence other _ _ _ _ hle hread
      have hstays := hspaced.trans hbetween
      refine ⟨fun hitems => hrestNames ?_, fun hclash => ?_⟩
      · rw [hstays.names]
        exact namesWithin_of_item hitem hitems
      · rw [hstep hclash.clear]
        exact hrestRefused (hclash.behind hstays.grows hstays.names)

/-- A named group whose name is taken outside is refused. -/
theorem namedHead_refused {state after : State} {head : GroupHead}
    (h : namedHead state = some (head, after)) (hclash : Clashes names state after) :
    namedHead (state.within groups names more) = none := by
  obtain ⟨index, numbered, hnumber, h⟩ := bind_eq_some.mp h
  cases hnumber
  obtain ⟨text, _, hahead, h⟩ := bind_eq_some.mp h
  cases hahead
  obtain ⟨name, named, hname, h⟩ := bind_eq_some.mp h
  obtain ⟨_, taken, htake, h⟩ := bind_eq_some.mp h
  cases h
  unfold takeName at htake
  split at htake
  · cases htake
  cases htake
  have hbound : state.rest.length + 1 ≤ (state.rest ++ ')' :: more).length + 1 := by
    rw [List.length_append]
    omega
  obtain ⟨hstays, hinside⟩ := @carries_groupName groups names more _ _ _ hbound [] _ _ hname
  have hmem : name ∈ names := by
    obtain ⟨other, hother, hoccupied⟩ := hclash.taken
    rcases List.mem_cons.mp hother with rfl | hother
    · exact hoccupied
    · exact absurd hoccupied (hclash.free other (hstays.names ▸ hother))
  have htaken : takeName name (named.within groups names more) = none := by
    rw [takeName, if_pos]
    exact List.contains_iff_mem.mpr (List.mem_append_right _ hmem)
  rw [namedHead, bind_run numberGroup_within, bind_run rfl]
  exact (bind_run (hinside hclash.clear)).trans (bind_refused htaken)

/-- The start of a group whose name is taken outside is refused. -/
theorem groupHead_refused {state after : State} {head : GroupHead}
    (h : groupHead state = some (head, after)) (hclash : Clashes names state after) :
    groupHead (state.within groups names more) = none := by
  obtain ⟨_, spaced, hspace, h⟩ := bind_eq_some.mp h
  obtain ⟨hspaced, hspaceInside⟩ := @carries_space groups names more _ _ _ hspace
  obtain ⟨text, _, hahead, h⟩ := bind_eq_some.mp h
  cases hahead
  split at h
  · cases h
  rename_i hlook
  obtain ⟨isNamed, marked, hmark, h⟩ := bind_eq_some.mp h
  obtain ⟨hmarked, hmarkInside⟩ := @carries_dropNameMark groups names more _ _ _ hmark
  have hstays := hspaced.trans hmarked
  rw [groupHead, bind_run (hspaceInside hclash.clear), bind_run rfl, State.within,
    isLookAround_append, if_neg hlook]
  apply (bind_run (hmarkInside (hspaced.clear hclash.clear))).trans
  cases isNamed with
  | true => exact namedHead_refused h (hclash.behind hstays.grows hstays.names)
  | false =>
      -- A group without a name takes none.
      have hsame : after.names = marked.names := by
        obtain ⟨isOpen, opened, hopen, h⟩ := bind_eq_some.mp h
        have hopened := (@carries_dropIf 0 [] [] marked ['?'] (by decide) _ _ hopen).1
        cases isOpen with
        | true =>
            have hflags := (@carries_flagsHead 0 [] [] opened _ _ h).1
            exact hflags.names.trans hopened.names
        | false =>
            obtain ⟨index, numbered, hnumber, h⟩ := bind_eq_some.mp h
            cases hnumber
            cases h
            exact hopened.names
      exact hclash.elim (hsame.trans hstays.names)

theorem groupClashes_succ (halternatives : AlternativesClash groups names more bound) :
    GroupClashes groups names more (bound + 1) := by
  intro other state tree after hle hrest h
  obtain ⟨other, rfl⟩ := Nat.exists_eq_succ_of_ne_zero (Nat.ne_zero_of_lt hle)
  replace hle := Nat.le_of_succ_le_succ hle
  obtain ⟨dropped, head, opened, hdropped, hhead, h, hstep⟩ :=
    @group_eq_some groups names more bound other _ _ _ hrest h
  obtain ⟨hopensDropped, hheadInside⟩ := @groupHead_eq_some groups names more _ _ _ hhead
  have hopens := hdropped.opens hopensDropped
  -- The name is refused at the head of the group or inside of it.
  have hrefused : Clashes names state after → (Clashes names opened after →
      behindHead (alternatives other) (head.renumber groups)
        (opened.within groups names more) = none) →
      group (other + 1) (state.within groups names more) = none := by
    intro hclash hinside
    rw [hstep hclash.clear]
    have hclash := hclash.behind hdropped.grows hdropped.names
    rcases hclash.split hopensDropped.grows with hheadClash | ⟨hnest, hclash'⟩
    · exact bind_refused (groupHead_refused hhead hheadClash)
    · rw [bind_run (hheadInside hclash.clear (hnest tree).free)]
      exact hinside hclash'
  cases head with
  | flags changes =>
      obtain ⟨_, switched, hswitch, h⟩ := bind_eq_some.mp h
      cases hswitch
      cases h
      exact ⟨trivial, fun hclash => hrefused hclash fun hinside => hinside.elim rfl⟩
  | group changes =>
      obtain ⟨trees, closed, rest, htrees, _, rfl, rfl⟩ := behindHead_group h
      obtain ⟨hnames, hinside⟩ := halternatives other _ _ _ hle htrees
      refine ⟨⟨trivial, hnames⟩, fun hclash => hrefused hclash fun hopened => ?_⟩
      change behindHead (alternatives other) (.group changes) _ = none
      rw [behindHead, bind_run rfl, bind_run rfl]
      exact bind_refused (hinside ⟨hopened.quiet, hopened.free, hopened.taken⟩)
  | capture index name =>
      obtain ⟨trees, closed, rest, htrees, _, rfl, rfl⟩ := behindHead_capture h
      obtain ⟨hnames, hinside⟩ := halternatives other _ _ _ hle htrees
      obtain ⟨hreads, _⟩ := (@nests groups names more bound).2.2 other _ _ _ hle htrees
      refine ⟨⟨?_, hnames⟩, fun hclash => hrefused hclash fun hopened => ?_⟩
      · rintro own rfl
        obtain ⟨_, _, hown⟩ := hopens.numbered
        refine hreads.grows.names.subset ?_
        rw [hown]
        exact List.mem_cons_self
      · change behindHead (alternatives other) (.capture (index + groups) name) _ = none
        rw [behindHead, bind_run rfl]
        exact bind_refused (hinside ⟨hopened.quiet, hopened.free, hopened.taken⟩)

/-- Whatever is read in so many steps takes the names inside of it, and is refused where one of
them is taken. -/
theorem clashes (bound : Nat) : GroupClashes groups names more bound ∧
    SequenceClashes groups names more bound ∧ AlternativesClash groups names more bound := by
  induction bound with
  | zero =>
      refine ⟨?_, ?_, ?_⟩
      · rintro _ _ _ _ _ _ ⟨⟩
      · rintro _ _ _ _ _ _ ⟨⟩
      · rintro _ _ _ _ _ ⟨⟩
  | succ bound ih =>
      obtain ⟨hgroup, hsequence, halternatives⟩ := ih
      exact ⟨groupClashes_succ halternatives, sequenceClashes_succ hgroup hsequence,
        alternativesClash_succ hsequence halternatives⟩

end Clashing

/-! ### Whole texts inside of a group -/

/-- A pattern whose text is read up to the bracket behind it: no comment can begin, or none would
ever count. -/
def IsCalm (text : String) : Prop :=
  ∃ tree, PatternTree.read? text = some tree ∧ ('#' ∉ text.toList ∨ tree.Plain)

/-- A pattern on its own ends, inside of a group, where the group ends, if it is read there at
all. -/
theorem rest_of_isCalm {text : String} {bound groups : Nat} {names : List String}
    {more : List Char} {trees : List PatternTree} {after : State} (hcalm : IsCalm text)
    (hbound : 3 * text.toList.length + 3 ≤ bound)
    (h : alternatives bound ⟨text.toList ++ ')' :: more, false, groups, names⟩ =
      some (trees, after)) : after.rest = ')' :: more := by
  obtain ⟨tree, hread, hcalm⟩ := hcalm
  obtain ⟨found, last, hfound, rfl, hends⟩ := alternatives_of_read? hread
  obtain ⟨hreads, hinside⟩ :=
    (@nests groups names more _).2.2 bound _ _ _ hbound hfound
  have hwithin : (State.start text).within groups names more =
      ⟨text.toList ++ ')' :: more, false, groups, names⟩ := by
    rw [State.within, State.start, Nat.zero_add, List.nil_append]
  rw [hwithin] at hinside
  by_cases hfree : ∀ name ∈ last.names, name ∉ names
  · have hnest : Nestable names (.start text) (.ofAlternatives found) last :=
      ⟨hcalm.imp_right fun hplain => ⟨rfl, hplain⟩, hfree⟩
    rw [hinside hnest] at h
    cases h
    rw [State.within, hends, List.nil_append]
  · push Not at hfree
    -- A plain pattern has no names, so no comment can begin in this one, and it is refused.
    have hquiet : '#' ∉ text.toList := by
      refine hcalm.resolve_right fun hplain => ?_
      obtain ⟨name, hname, _⟩ := hfree
      rw [(hreads.plain hplain).2] at hname
      cases hname
    have hrefused := ((@clashes groups names more _).2.2 bound _ _ _ hbound hfound).2
      ⟨hquiet, List.forall_mem_nil _, hfree⟩
    rw [hwithin, h] at hrefused
    cases hrefused

end PatternReader

end BotHost
