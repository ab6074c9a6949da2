/-
# Reading items and the heads of groups inside of a pattern

The readers of repetitions and of single items carry over into a group around the pattern like
those of characters and classes, once the groups inside of a repeated item are numbered behind
those outside.  The head of a group takes a number and perhaps a name, which no group outside may
have.
-/

import BotHost.Proofs.Pattern.Reading
import BotHost.Proofs.Pattern.Trees

namespace BotHost

namespace PatternReader

section Carrying

variable {groups : Nat} {names : List String} {more : List Char} {state : State}

/-! ### How groups start -/

theorem isLookAround_append (text : List Char) :
    isLookAround (text ++ ')' :: more) = isLookAround text := by
  rw [isLookAround, isLookAround]
  simp (disch := decide) only [List.any_cons, List.any_nil, isPrefixOf_append_bracket]

theorem carries_dropNameMark :
    Carries groups names more id dropNameMark dropNameMark state :=
  (carries_dropIf (by decide)).bind fun _ _ _ =>
    carries_ite (fun _ => carries_pure true) fun _ => carries_dropIf (by decide)

theorem carries_groupName {bound other : Nat} (hle : bound ≤ other) (sofar : List Char) :
    Carries groups names more id (groupName bound sofar) (groupName other sofar) state := by
  induction bound generalizing other sofar state with
  | zero => exact carries_refuse
  | succ bound ih =>
      obtain ⟨other, rfl⟩ := Nat.exists_eq_succ_of_ne_zero (Nat.ne_zero_of_lt hle)
      apply carries_next.bind
      intro c after hnext
      have hlength := List.length_pos_of_ne_nil (rest_ne_nil_of_next hnext)
      refine carries_ite (fun _ => ?_) fun _ => carries_ite (fun _ => ?_) fun _ => carries_refuse
      · apply (carries_drop hlength).bind
        intro _ after _
        exact carries_ite (fun _ => carries_refuse) fun _ => carries_pure _
      · exact (carries_drop hlength).bind fun _ _ _ => ih (by omega) (c :: sofar)

theorem carries_flagChanges {bound other : Nat} (hle : bound ≤ other) (changes : FlagChanges)
    (negating dangling : Bool) :
    Carries groups names more id (flagChanges bound changes negating dangling)
      (flagChanges other changes negating dangling) state := by
  induction bound generalizing other changes negating dangling state with
  | zero => exact carries_refuse
  | succ bound ih =>
      obtain ⟨other, rfl⟩ := Nat.exists_eq_succ_of_ne_zero (Nat.ne_zero_of_lt hle)
      apply carries_next.bind
      intro c after hnext
      have hlength := List.length_pos_of_ne_nil (rest_ne_nil_of_next hnext)
      refine carries_ite (fun _ => ?_) fun _ => carries_ite (fun _ => ?_) fun _ => ?_
      · exact carries_ite (fun _ => carries_refuse) fun _ => carries_pure changes
      · refine carries_ite (fun _ => carries_refuse) fun _ => ?_
        exact (carries_drop hlength).bind fun _ _ _ => ih (by omega) changes true true
      · dsimp only [id]
        cases flag? c with
        | none => exact carries_refuse
        | some flag =>
            refine carries_ite (fun _ => carries_refuse) fun _ => ?_
            exact (carries_drop hlength).bind fun _ _ _ => ih (by omega) _ negating false

/-! ### Repetition -/

/-- Digits are read up to the bracket, with whatever bound that does not cut them short. -/
theorem carries_decimalDigits {bound other : Nat} (sofar : List Char)
    (hbound : state.rest.length ≤ bound) (hother : state.rest.length < other) :
    Carries groups names more id (decimalDigits bound sofar) (decimalDigits other sofar) state := by
  induction bound generalizing other sofar state with
  | zero =>
      obtain ⟨text, verbose, numbered, taken⟩ := state
      obtain rfl := List.length_eq_zero_iff.mp (Nat.le_zero.mp hbound)
      obtain ⟨other, rfl⟩ := Nat.exists_eq_succ_of_ne_zero (Nat.ne_zero_of_lt hother)
      rintro _ _ ⟨⟩
      exact ⟨.refl _, fun _ => rfl⟩
  | succ bound ih =>
      obtain ⟨other, rfl⟩ := Nat.exists_eq_succ_of_ne_zero (Nat.ne_zero_of_lt hother)
      refine carries_peek (fun _ => ?_) fun c rest hrest => ?_
      · exact carries_pure sofar.reverse
      · refine carries_ite (fun _ => ?_) fun _ => carries_pure sofar.reverse
        apply (carries_dropAndSpace (by simp [hrest])).bind
        intro _ after hread
        have hshorter := length_lt_of_dropAndSpace (by simp [hrest]) hread
        exact ih (c :: sofar) (by omega) (by omega)

theorem carries_skipBlanks : Carries groups names more id skipBlanks skipBlanks state := by
  rintro _ _ ⟨⟩
  refine ⟨⟨List.dropWhile_suffix _, rfl, rfl, rfl⟩, fun _ => ?_⟩
  rw [skipBlanks]
  simp only [State.within, dropWhile_blank_append, id_eq]

theorem carries_count : Carries groups names more id count count state := by
  refine carries_skipBlanks.bind fun _ after _ => carries_ahead ?_
  refine (carries_decimalDigits [] (Nat.le_refl _) ?_).bind fun digits after _ => ?_
  · rw [List.length_append, List.length_cons]
    omega
  · apply carries_skipBlanks.bind
    intro _ after _
    refine carries_ite (fun _ => carries_pure none) fun _ => ?_
    exact carries_ite (fun _ => carries_pure _) fun _ => carries_refuse

theorem carries_countedBounds :
    Carries groups names more id countedBounds countedBounds state := by
  apply carries_count.bind
  intro least after _
  cases least with
  | none => exact carries_refuse
  | some least =>
      apply carries_next.bind
      intro c after hnext
      refine carries_ite (fun _ => ?_) fun _ => carries_pure _
      apply (carries_dropAndSpace (rest_ne_nil_of_next hnext)).bind
      intro _ after _
      apply carries_next.bind
      intro c after _
      refine carries_ite (fun _ => carries_pure _) fun _ => ?_
      refine carries_count.bind fun most after _ => ?_
      cases most with
      | none => exact carries_refuse
      | some most => exact carries_pure _

theorem carries_counted (item : PatternTree) (h : state.rest ≠ []) :
    Carries groups names more (.renumber groups) (counted item)
      (counted (item.renumber groups)) state := by
  apply (carries_dropAndSpace h).bind
  intro _ after _
  apply carries_next.bind
  intro _ after _
  apply carries_countedBounds.bind
  intro bounds after _
  apply carries_next.bind
  intro c after hnext
  refine carries_ite (fun _ => ?_) fun _ => carries_refuse
  apply (carries_dropAndSpace (rest_ne_nil_of_next hnext)).bind
  intro _ after _
  apply carries_greediness.bind
  intro greedy after _
  obtain ⟨least, most⟩ := bounds
  cases most with
  | none => exact carries_pure (PatternTree.repetition item least none greedy)
  | some most =>
      refine carries_ite (fun _ => ?_) fun _ => carries_refuse
      exact carries_pure (PatternTree.repetition item least (some most) greedy)

theorem carries_repeated (item : PatternTree) (least : Nat) (most : Option Nat)
    (h : state.rest ≠ []) :
    Carries groups names more (.renumber groups) (repeated item least most)
      (repeated (item.renumber groups) least most) state := by
  apply (carries_drop (List.length_pos_of_ne_nil h)).bind
  intro _ after _
  apply carries_greediness.bind
  intro greedy after _
  exact carries_pure (PatternTree.repetition item least most greedy)

/-! ### Items -/

/-- A tree without trees inside. -/
def IsAtom : PatternTree → Prop
  | .literal _ => True
  | .dot => True
  | .anchor _ => True
  | .property _ _ => True
  | .letter _ _ => True
  | .bracket _ _ => True
  | _ => False

theorem IsAtom.renumber {tree : PatternTree} (h : IsAtom tree) (groups : Nat) :
    tree.renumber groups = tree := by
  cases tree with
  | literal _ => rfl
  | dot => rfl
  | anchor _ => rfl
  | property _ _ => rfl
  | letter _ _ => rfl
  | bracket _ _ => rfl
  | _ => exact h.elim

theorem IsAtom.proper {tree : PatternTree} (h : IsAtom tree) (low high : Nat) :
    tree.Proper low high := by
  cases tree with
  | literal _ => trivial
  | dot => trivial
  | anchor _ => trivial
  | property _ _ => trivial
  | letter _ _ => trivial
  | bracket _ _ => trivial
  | _ => exact h.elim

theorem isAtom_of_escape {tree : PatternTree} {after : State}
    (h : escape state = some (tree, after)) : IsAtom tree := by
  obtain ⟨c, _, _, h⟩ := bind_eq_some.mp h
  split at h
  · obtain ⟨_, _, _, h⟩ := bind_eq_some.mp h
    cases h
    trivial
  split at h
  · obtain ⟨_, _, _, h⟩ := bind_eq_some.mp h
    cases h
    trivial
  obtain ⟨_, _, _, h⟩ := bind_eq_some.mp h
  cases hletter : letterClass? c with
  | some found =>
      rw [hletter] at h
      cases h
      trivial
  | none =>
      rw [hletter] at h
      dsimp only at h
      split at h
      · cases h
        trivial
      cases hcontrol : controlCharacter? c with
      | some char =>
          rw [hcontrol] at h
          cases h
          trivial
      | none =>
          rw [hcontrol] at h
          dsimp only at h
          split at h
          · cases h
            trivial
          split at h
          · cases h
            trivial
          split at h
          · obtain ⟨_, _, _, h⟩ := bind_eq_some.mp h
            cases h
            trivial
          split at h
          · cases h
            trivial
          split at h
          · cases h
            trivial
          split at h
          · cases h
            trivial
          · cases h

theorem isAtom_of_atom {c : Char} {tree : PatternTree} {after : State}
    (h : atom c state = some (tree, after)) : IsAtom tree := by
  unfold atom at h
  split at h
  · exact isAtom_of_escape h
  split at h
  · cases h
    trivial
  split at h
  · cases h
    trivial
  split at h
  · cases h
    trivial
  · cases h
    trivial

theorem carries_atom (c : Char) : Carries groups names more id (atom c) (atom c) state :=
  carries_ite (fun _ => carries_escape) fun _ => carries_ite (fun _ => carries_pure _) fun _ =>
    carries_ite (fun _ => carries_pure _) fun _ => carries_ite (fun _ => carries_pure _) fun _ =>
      carries_pure _

theorem lastItem_eq_some {items before : List PatternTree} {item : PatternTree} {after : State}
    (h : lastItem items state = some ((item, before), after)) :
    after = state ∧ items = item :: before := by
  cases items with
  | nil => cases h
  | cons first rest =>
      cases first with
      | empty => cases h
      | flags changes => cases h
      | _ =>
          cases h
          exact ⟨rfl, rfl⟩

theorem carries_lastItem (items : List PatternTree) :
    Carries groups names more
      (fun found => (found.1.renumber groups, found.2.map (.renumber groups)))
      (lastItem items) (lastItem (items.map (.renumber groups))) state := by
  cases items with
  | nil => exact carries_refuse
  | cons first rest =>
      cases first with
      | empty => exact carries_refuse
      | flags changes => exact carries_refuse
      | _ =>
          rintro _ _ ⟨⟩
          exact ⟨.refl _, fun _ => rfl⟩

theorem counted_eq_some {item tree : PatternTree} {after : State}
    (h : counted item state = some (tree, after)) :
    ∃ least most greedy, tree = .repetition item least most greedy ∧
      ∀ bound, most = some bound → least ≤ bound := by
  obtain ⟨_, _, _, h⟩ := bind_eq_some.mp h
  obtain ⟨_, _, _, h⟩ := bind_eq_some.mp h
  obtain ⟨⟨least, most⟩, _, _, h⟩ := bind_eq_some.mp h
  obtain ⟨_, _, _, h⟩ := bind_eq_some.mp h
  split at h
  · obtain ⟨_, _, _, h⟩ := bind_eq_some.mp h
    obtain ⟨greedy, _, _, h⟩ := bind_eq_some.mp h
    cases most with
    | none =>
        cases h
        exact ⟨least, none, greedy, rfl, by rintro _ ⟨⟩⟩
    | some most =>
        dsimp only at h
        split at h
        · rename_i hle
          cases h
          refine ⟨least, some most, greedy, rfl, ?_⟩
          rintro _ ⟨⟩
          exact hle
        · cases h
  · cases h

theorem repeated_eq_some {item tree : PatternTree} {least : Nat} {most : Option Nat}
    {after : State} (h : repeated item least most state = some (tree, after)) :
    ∃ greedy, tree = .repetition item least most greedy := by
  obtain ⟨_, _, _, h⟩ := bind_eq_some.mp h
  obtain ⟨greedy, _, _, h⟩ := bind_eq_some.mp h
  cases h
  exact ⟨greedy, rfl⟩

/-- What is no group is an item without trees inside, or repeats the item before it. -/
theorem item_cases {bound : Nat} {c : Char} {items found : List PatternTree} {after : State}
    (h : item bound c items state = some (found, after)) :
    (∃ tree, IsAtom tree ∧ found = tree :: items) ∨
      ∃ tree before least most greedy, items = tree :: before ∧
        found = .repetition tree least most greedy :: before ∧
        ∀ bound, most = some bound → least ≤ bound := by
  unfold item at h
  split at h
  · obtain ⟨⟨negated, inner⟩, _, _, h⟩ := bind_eq_some.mp h
    cases h
    exact .inl ⟨.bracket negated inner, trivial, rfl⟩
  split at h
  · obtain ⟨⟨tree, before⟩, _, hlast, h⟩ := bind_eq_some.mp h
    obtain ⟨_, _, hrepeated, h⟩ := bind_eq_some.mp h
    obtain ⟨greedy, rfl⟩ := repeated_eq_some hrepeated
    cases h
    refine .inr ⟨tree, before, _, _, greedy, (lastItem_eq_some hlast).2, rfl, ?_⟩
    intro bound hbound
    split at hbound
    · cases hbound
      split
      · exact Nat.le_refl 1
      · exact Nat.zero_le 1
    · cases hbound
  split at h
  · obtain ⟨⟨tree, before⟩, _, hlast, h⟩ := bind_eq_some.mp h
    obtain ⟨_, _, hcounted, h⟩ := bind_eq_some.mp h
    obtain ⟨least, most, greedy, rfl, hmost⟩ := counted_eq_some hcounted
    cases h
    exact .inr ⟨tree, before, least, most, greedy, (lastItem_eq_some hlast).2, rfl,
      hmost⟩
  · obtain ⟨_, _, _, h⟩ := bind_eq_some.mp h
    obtain ⟨tree, _, hatom, h⟩ := bind_eq_some.mp h
    cases h
    exact .inl ⟨tree, isAtom_of_atom hatom, rfl⟩

theorem proper_of_item {bound low high : Nat} {c : Char} {items found : List PatternTree}
    {after : State} (h : item bound c items state = some (found, after))
    (hitems : ∀ tree ∈ items, tree.Proper low high) : ∀ tree ∈ found, tree.Proper low high := by
  rcases item_cases h with ⟨tree, hatom, rfl⟩ | ⟨tree, before, least, most, greedy, rfl, rfl, hmost⟩
  · exact List.forall_mem_cons.mpr ⟨hatom.proper low high, hitems⟩
  · obtain ⟨htree, hbefore⟩ := List.forall_mem_cons.mp hitems
    exact List.forall_mem_cons.mpr ⟨⟨hmost, htree⟩, hbefore⟩

theorem plain_of_item {bound : Nat} {c : Char} {items found : List PatternTree}
    {after : State} (h : item bound c items state = some (found, after))
    (hfound : ∀ tree ∈ found, tree.Plain) : ∀ tree ∈ items, tree.Plain := by
  rcases item_cases h with ⟨tree, _, rfl⟩ | ⟨tree, before, _, _, _, rfl, rfl, _⟩
  · exact (List.forall_mem_cons.mp hfound).2
  · obtain ⟨htree, hbefore⟩ := List.forall_mem_cons.mp hfound
    exact List.forall_mem_cons.mpr ⟨htree.2, hbefore⟩

/-- What is no group carries over, up to the numbers of the groups that it repeats. -/
theorem carries_item {bound other : Nat} (hle : bound ≤ other) (c : Char)
    (items : List PatternTree) (h : state.rest ≠ []) :
    Carries groups names more (List.map (.renumber groups)) (item bound c items)
      (item other c (items.map (.renumber groups))) state := by
  refine carries_ite (fun _ => ?_) fun _ => carries_ite (fun _ => ?_) fun _ =>
    carries_ite (fun _ => ?_) fun _ => ?_
  · apply (carries_bracket hle h).bind
    intro read _ _
    exact carries_pure (PatternTree.bracket read.1 read.2 :: items)
  · apply (carries_lastItem items).bind
    intro read after hread
    obtain ⟨rfl, _⟩ := lastItem_eq_some hread
    apply (carries_repeated read.1 _ _ h).bind
    intro tree _ _
    exact carries_pure (tree :: read.2)
  · apply (carries_lastItem items).bind
    intro read after hread
    obtain ⟨rfl, _⟩ := lastItem_eq_some hread
    apply (carries_counted read.1 h).bind
    intro tree _ _
    exact carries_pure (tree :: read.2)
  · apply (carries_drop (List.length_pos_of_ne_nil h)).bind
    intro _ after _
    apply (carries_atom c).bind
    intro tree last hatom
    have hpure : Carries groups names more (List.map (PatternTree.renumber groups))
        (pure (tree :: items)) (pure (List.map (PatternTree.renumber groups) (tree :: items)))
        last := carries_pure _
    rwa [List.map_cons, (isAtom_of_atom hatom).renumber] at hpure

/-! ### The head of a group -/

/-- The start of a group with its number so much higher. -/
def GroupHead.renumber (groups : Nat) : GroupHead → GroupHead
  | .capture index name => .capture (index + groups) name
  | head => head

/-- What the start of a group does: a numbered group takes the next number, and its name if it
has one. -/
structure Opens (state : State) (head : GroupHead) (after : State) : Prop where
  rest : after.rest <:+ state.rest
  verbose : after.verbose = state.verbose
  /-- Only a numbered group takes a number and a name. -/
  numbered :
    match head with
    | .capture index name =>
      index = state.groups + 1 ∧ after.groups = state.groups + 1 ∧
        after.names = name.toList ++ state.names
    | _ => after.groups = state.groups ∧ after.names = state.names

/-- What a group does behind blanks, it does with the blanks. -/
theorem State.Stays.opens {opened after : State} {head : GroupHead} (h : state.Stays opened)
    (hopens : Opens opened head after) : Opens state head after := by
  refine ⟨hopens.rest.trans h.rest, hopens.verbose.trans h.verbose, ?_⟩
  have hnumbered := hopens.numbered
  rwa [h.groups, h.names] at hnumbered

theorem numberGroup_within :
    numberGroup (state.within groups names more) = some (state.groups + 1 + groups,
      State.within { state with groups := state.groups + 1 } groups names more) := by
  rw [numberGroup, State.within]
  simp only [State.within, Nat.add_right_comm]

theorem carries_flagsHead : Carries groups names more id flagsHead flagsHead state := by
  refine carries_ahead ((carries_flagChanges ?_ [] false false).bind fun changes after _ => ?_)
  · rw [List.length_append]
    omega
  · apply carries_next.bind
    intro c after hnext
    refine (carries_drop (List.length_pos_of_ne_nil (rest_ne_nil_of_next hnext))).bind
      fun _ after _ => ?_
    refine carries_ite (fun _ => ?_) fun _ => carries_pure _
    exact carries_ite (fun _ => carries_refuse) fun _ => carries_pure _

/-- Flags number no group. -/
theorem opens_of_flagsHead {head : GroupHead} {after : State}
    (h : flagsHead state = some (head, after)) :
    Opens state head after ∧ head.renumber groups = head := by
  have hstays := (@carries_flagsHead 0 [] [] state _ _ h).1
  have hhead : ∃ changes, head = .flags changes ∨ head = .group changes := by
    obtain ⟨_, _, _, h⟩ := bind_eq_some.mp h
    obtain ⟨changes, _, _, h⟩ := bind_eq_some.mp h
    obtain ⟨_, _, _, h⟩ := bind_eq_some.mp h
    obtain ⟨_, _, _, h⟩ := bind_eq_some.mp h
    split at h
    · split at h
      · cases h
      · cases h
        exact ⟨changes, .inl rfl⟩
    · cases h
      exact ⟨changes, .inr rfl⟩
  obtain ⟨changes, rfl | rfl⟩ := hhead
  · exact ⟨⟨hstays.rest, hstays.verbose, hstays.groups, hstays.names⟩, rfl⟩
  · exact ⟨⟨hstays.rest, hstays.verbose, hstays.groups, hstays.names⟩, rfl⟩

/-- A named group takes its number and its name, which inside of another pattern no group
outside may have. -/
theorem namedHead_eq_some {head : GroupHead} {after : State}
    (h : namedHead state = some (head, after)) :
    Opens state head after ∧
      (state.Clear → (∀ name ∈ after.names, name ∉ names) →
        namedHead (state.within groups names more) =
          some (head.renumber groups, after.within groups names more)) := by
  obtain ⟨index, numbered, hnumber, h⟩ := bind_eq_some.mp h
  cases hnumber
  obtain ⟨text, _, hahead, h⟩ := bind_eq_some.mp h
  cases hahead
  obtain ⟨name, named, hname, h⟩ := bind_eq_some.mp h
  obtain ⟨_, taken, htake, h⟩ := bind_eq_some.mp h
  cases h
  unfold takeName at htake
  split at htake
  · cases htake
  rename_i hfree
  cases htake
  have hcarries := fun bound hle => @carries_groupName groups names more _ _ bound hle [] _ _ hname
  have hstays := (hcarries _ (Nat.le_refl _)).1
  refine ⟨⟨hstays.rest, hstays.verbose, rfl, hstays.groups, ?_⟩, fun hclear hnames => ?_⟩
  · change name :: named.names = name :: state.names
    rw [hstays.names]
  · have htake : takeName name (named.within groups names more) =
        some ((), State.within { named with names := name :: named.names } groups names more) := by
      rw [takeName, if_neg]
      · rfl
      · intro htaken
        rcases List.mem_append.mp (List.contains_iff_mem.mp htaken) with hmem | hmem
        · exact hfree (List.contains_iff_mem.mpr hmem)
        · exact hnames name List.mem_cons_self hmem
    refine bind_eq_some.mpr ⟨_, _, numberGroup_within, bind_eq_some.mpr ⟨_, _, rfl, ?_⟩⟩
    refine bind_eq_some.mpr ⟨_, _, (hcarries _ ?_).2 hclear, bind_eq_some.mpr ⟨_, _, htake, rfl⟩⟩
    rw [State.within, List.length_append]
    omega

/-- The start of a group carries over, with its number behind those of the groups outside. -/
theorem groupHead_eq_some {head : GroupHead} {after : State}
    (h : groupHead state = some (head, after)) :
    Opens state head after ∧
      (state.Clear → (∀ name ∈ after.names, name ∉ names) →
        groupHead (state.within groups names more) =
          some (head.renumber groups, after.within groups names more)) := by
  obtain ⟨_, spaced, hspace, h⟩ := bind_eq_some.mp h
  obtain ⟨hspaced, hspaceInside⟩ := @carries_space groups names more _ _ _ hspace
  obtain ⟨text, _, hahead, h⟩ := bind_eq_some.mp h
  cases hahead
  split at h
  · cases h
  rename_i hlook
  obtain ⟨isNamed, marked, hmark, h⟩ := bind_eq_some.mp h
  obtain ⟨hmarked, hmarkInside⟩ := @carries_dropNameMark groups names more _ _ _ hmark
  have hbehind : ∀ result, state.Clear →
      (if isNamed then namedHead
        else dropIf ['?'] >>= fun isOpen => if isOpen then flagsHead else numberedHead)
        (marked.within groups names more) = some result →
      groupHead (state.within groups names more) = some result := by
    rintro ⟨head, last⟩ hclear hread
    refine bind_eq_some.mpr ⟨_, _, hspaceInside hclear, bind_eq_some.mpr ⟨_, _, rfl, ?_⟩⟩
    rw [State.within, isLookAround_append, if_neg hlook]
    exact bind_eq_some.mpr ⟨_, _, hmarkInside (hspaced.clear hclear), hread⟩
  have hstays := hspaced.trans hmarked
  cases isNamed with
  | true =>
      obtain ⟨hopens, hinside⟩ := @namedHead_eq_some groups names more _ _ _ h
      refine ⟨hstays.opens hopens, fun hclear hnames => hbehind _ hclear ?_⟩
      exact hinside (hstays.clear hclear) hnames
  | false =>
      obtain ⟨isOpen, opened, hopen, h⟩ := bind_eq_some.mp h
      obtain ⟨hopened, hopenInside⟩ :=
        @carries_dropIf groups names more _ ['?'] (by decide) _ _ hopen
      have hstays := hstays.trans hopened
      cases isOpen with
      | true =>
          obtain ⟨hopens, hsame⟩ := @opens_of_flagsHead groups _ _ _ h
          refine ⟨hstays.opens hopens, fun hclear _ => hbehind _ hclear ?_⟩
          refine bind_eq_some.mpr ⟨_, _, hopenInside ((hspaced.trans hmarked).clear hclear), ?_⟩
          rw [hsame]
          exact (carries_flagsHead _ _ h).2 (hstays.clear hclear)
      | false =>
          obtain ⟨index, numbered, hnumber, h⟩ := bind_eq_some.mp h
          cases hnumber
          cases h
          refine ⟨hstays.opens ⟨List.suffix_rfl, rfl, rfl, rfl, rfl⟩, fun hclear _ =>
            hbehind _ hclear ?_⟩
          refine bind_eq_some.mpr ⟨_, _, hopenInside ((hspaced.trans hmarked).clear hclear), ?_⟩
          exact bind_eq_some.mpr ⟨_, _, numberGroup_within, rfl⟩

theorem closeGroup_eq_some {before : Bool} {value : Unit} {after : State} :
    closeGroup before state = some (value, after) ↔
      ∃ rest, state.rest = ')' :: rest ∧ after = { state with rest, verbose := before } := by
  constructor
  · intro h
    obtain ⟨isClosed, closed, hdrop, h⟩ := bind_eq_some.mp h
    cases isClosed with
    | false => cases h
    | true =>
        obtain ⟨rest, hrest, rfl⟩ := dropIf_eq_some_true.mp hdrop
        cases h
        exact ⟨rest, hrest, rfl⟩
  · rintro ⟨rest, hrest, rfl⟩
    exact bind_eq_some.mpr ⟨true, _, dropIf_eq_some_true.mpr ⟨rest, hrest, rfl⟩, rfl⟩

section Inside

variable {inside : Reader (List PatternTree)} {opened after : State} {tree : PatternTree}

/-- A group with flags is read up to its bracket, behind which blanks count as before it. -/
theorem behindHead_group {changes : FlagChanges}
    (h : behindHead inside (.group changes) opened = some (tree, after)) :
    ∃ trees closed rest,
      inside { opened with verbose := (stateOf .verbose changes).getD opened.verbose } =
        some (trees, closed) ∧ closed.rest = ')' :: rest ∧
      tree = .group changes (.ofAlternatives trees) ∧
      after = { closed with rest, verbose := opened.verbose } := by
  obtain ⟨before, _, hbefore, h⟩ := bind_eq_some.mp h
  cases hbefore
  obtain ⟨_, switched, hswitch, h⟩ := bind_eq_some.mp h
  cases hswitch
  obtain ⟨trees, closed, htrees, h⟩ := bind_eq_some.mp h
  obtain ⟨_, last, hclose, h⟩ := bind_eq_some.mp h
  cases h
  obtain ⟨rest, hrest, rfl⟩ := closeGroup_eq_some.mp hclose
  exact ⟨trees, closed, rest, htrees, hrest, rfl, rfl⟩

/-- A numbered group is read up to its bracket, behind which blanks count as before it. -/
theorem behindHead_capture {index : Nat} {name : Option String}
    (h : behindHead inside (.capture index name) opened = some (tree, after)) :
    ∃ trees closed rest, inside opened = some (trees, closed) ∧ closed.rest = ')' :: rest ∧
      tree = .capture index name (.ofAlternatives trees) ∧
      after = { closed with rest, verbose := opened.verbose } := by
  obtain ⟨before, _, hbefore, h⟩ := bind_eq_some.mp h
  cases hbefore
  obtain ⟨trees, closed, htrees, h⟩ := bind_eq_some.mp h
  obtain ⟨_, last, hclose, h⟩ := bind_eq_some.mp h
  cases h
  obtain ⟨rest, hrest, rfl⟩ := closeGroup_eq_some.mp hclose
  exact ⟨trees, closed, rest, htrees, hrest, rfl, rfl⟩

end Inside

end Carrying

end PatternReader

end BotHost
