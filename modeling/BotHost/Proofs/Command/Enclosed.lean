/-
# Commands with patterns that stand on their own

The pattern of a command is put together from text, so a placeholder's pattern could close the
bracket in front of it and go on outside.  A pattern that is one on its own cannot, unless it ends
in a comment: the group of the placeholder ends where it was meant to end.  The pattern may have
flags, assertions and named groups; flags end with their group, and names are taken once.

So the items of the whole pattern are known: characters for what is matched as it stands, a group
for each placeholder, and around the group of an optional one a repetition.
-/

import BotHost.Proofs.Command.Templates
import BotHost.Proofs.Pattern.Names

namespace BotHost

open PatternReader

namespace Slot

/-! ### Reading a placeholder -/

section Reading

variable {bound groups count : Nat} {names : List String} {items : List PatternTree}
  {more : List Char} {text : String} {tree : PatternTree} {after : State}

/-- An item is read while some names are taken, and then others are taken, too: names stay taken,
and all names of the item are. -/
structure Takes (names : List String) (item : PatternTree) (taken : List String) : Prop where
  subset : names ⊆ taken
  within : item.NamesWithin taken

/-- An item behind which the flags are in force that were so before. -/
def RestoresFlags (item : PatternTree) : Prop :=
  ∀ flags pattern behind, item.meaning? flags = some (pattern, behind) → behind = flags

/-- The item that the group of a placeholder is read as. -/
structure IsPlaceholder (count : Nat) (names : List String) (item : PatternTree)
    (taken : List String) : Prop where
  eq : ∃ index inner,
    item = .capture index (some (ActiveCommand.Draft.groupName count)) inner
  free : ActiveCommand.Draft.groupName count ∉ names
  takes : Takes names item taken

theorem restoresFlags_capture (index : Nat) (name : Option String) (inner : PatternTree) :
    RestoresFlags (.capture index name inner) := by
  intro flags pattern behind h
  obtain ⟨_, _, h⟩ := Option.bind_eq_some_iff.mp h
  cases h
  rfl

theorem restoresFlags_group (changes : FlagChanges) (inner : PatternTree) :
    RestoresFlags (.group changes inner) := by
  intro flags pattern behind h
  obtain ⟨_, _, h⟩ := Option.bind_eq_some_iff.mp h
  cases h
  rfl

theorem RestoresFlags.repetition {item : PatternTree} (h : RestoresFlags item) (least : Nat)
    (most : Option Nat) (greedy : Bool) :
    RestoresFlags (.repetition item least most greedy) := by
  intro flags pattern behind hmeaning
  obtain ⟨⟨inner, last⟩, hinner, hmeaning⟩ := Option.bind_eq_some_iff.mp hmeaning
  cases hmeaning
  exact h flags inner _ hinner

/-- A placeholder's group that is read ends where it was meant to end. -/
theorem group_placeholder (hcalm : IsCalm text)
    (hbound : 3 * (placeholderChars count text.toList).length ≤ bound)
    (h : group bound ⟨placeholderChars count text.toList ++ more, false, groups, names⟩ =
      some (tree, after)) :
    ∃ later taken, after = ⟨more, false, later, taken⟩ ∧
      IsPlaceholder count names tree taken := by
  have hchars : placeholderChars count text.toList ++ more =
      '(' :: (['?', 'P', '<'] ++ ((ActiveCommand.Draft.groupName count).toList ++
        '>' :: (text.toList ++ ')' :: more))) := by
    simp [placeholderChars]
  have hlength : (placeholderChars count text.toList).length =
      (ActiveCommand.Draft.groupName count).toList.length + text.toList.length + 6 := by
    simp only [placeholderChars, List.length_append, List.length_cons, List.length_nil]
    omega
  rw [hlength] at hbound
  obtain ⟨bound, rfl⟩ := Nat.exists_eq_succ_of_ne_zero (show bound ≠ 0 by omega)
  have hnames := ((@clashes groups names more _).1 _ _ _ _ (Nat.le_refl _) (by simp [hchars]) h).1
  rw [hchars, group, bind_run (drop_run '(' _)] at h
  obtain ⟨head, opened, hhead, h⟩ := bind_eq_some.mp h
  by_cases hfree : ActiveCommand.Draft.groupName count ∈ names
  · have htaken : takeName (ActiveCommand.Draft.groupName count)
        ⟨text.toList ++ ')' :: more, false, groups + 1, names⟩ = none := by
      rw [takeName, if_pos (List.contains_iff_mem.mpr hfree)]
    rw [groupHead_placeholder, bind_refused htaken] at hhead
    cases hhead
  · rw [groupHead_named hfree] at hhead
    cases hhead
    obtain ⟨trees, closed, rest, htrees, hrest, rfl, rfl⟩ := behindHead_capture h
    have hends := rest_of_isCalm hcalm (by omega) htrees
    rw [hends] at hrest
    cases hrest
    have hgrows := ((@nests 0 [] [] _).2.2 _ _ _ _ (Nat.le_refl _) htrees).1.grows.names
    refine ⟨closed.groups, closed.names, rfl, ⟨_, _, rfl⟩, hfree, ?_, hnames⟩
    exact List.Subset.trans (List.subset_cons_self _ _) hgrows.subset

/-- At an opening bracket, a sequence that is read has a group. -/
theorem exists_group_of_sequence {text : List Char}
    (h : sequence (bound + 1) items ⟨'(' :: text, false, groups, names⟩ = some (tree, after)) :
    ∃ item between, group bound ⟨'(' :: text, false, groups, names⟩ = some (item, between) ∧
      sequence bound (item :: items) between = some (tree, after) := by
  rw [PatternReader.sequence, bind_run (space_run _), bind_run (peek_run '(' text)] at h
  dsimp only at h
  rw [if_neg (by decide), if_pos rfl] at h
  exact bind_eq_some.mp h

/-- What is read of a sequence goes on behind a placeholder's group. -/
theorem sequence_placeholder (hcalm : IsCalm text)
    (henough : Enough bound (placeholderChars count text.toList ++ more))
    (h : sequence bound items ⟨placeholderChars count text.toList ++ more, false, groups, names⟩ =
      some (tree, after)) :
    ∃ less item later taken, Enough less more ∧ IsPlaceholder count names item taken ∧
      sequence less (item :: items) ⟨more, false, later, taken⟩ = some (tree, after) := by
  have hpositive : 0 < (placeholderChars count text.toList).length := Nat.succ_pos _
  unfold Enough at henough
  rw [List.length_append] at henough
  obtain ⟨bound, rfl⟩ := Nat.exists_eq_succ_of_ne_zero (show bound ≠ 0 by omega)
  obtain ⟨item, between, hgroup, hbehind⟩ := exists_group_of_sequence h
  obtain ⟨later, taken, rfl, hitem⟩ := group_placeholder hcalm (by omega) hgroup
  exact ⟨bound, item, later, taken, by unfold Enough; omega, hitem, hbehind⟩

/-- A placeholder's group with text around it, in brackets of its own, that is read ends where it
was meant to end. -/
theorem group_around {lead trail : List Char} (hcalm : IsCalm text)
    (henough : Enough bound (quoted lead ++ (placeholderChars count text.toList ++
      (quoted trail ++ ')' :: more))))
    (h : group (bound + 2) ⟨['(', '?', ':'] ++ (quoted lead ++ (placeholderChars count
      text.toList ++ (quoted trail ++ ')' :: more))), false, groups, names⟩ = some (tree, after)) :
    ∃ inner later taken, after = ⟨more, false, later, taken⟩ ∧ tree = .group [] inner ∧
      Takes names tree taken := by
  have hnames := ((@clashes groups names more _).1 _ _ _ _ (Nat.le_refl _) (by simp) h).1
  cases hinside : sequence bound [] ⟨quoted lead ++ (placeholderChars count text.toList ++
      (quoted trail ++ ')' :: more)), false, groups, names⟩ with
  | none =>
      have hrefused : alternatives (bound + 1) ⟨quoted lead ++ (placeholderChars count
          text.toList ++ (quoted trail ++ ')' :: more)), false, groups, names⟩ = none := by
        rw [alternatives, bind_refused hinside]
      rw [group_unflagged, bind_refused hrefused] at h
      cases h
  | some found =>
      obtain ⟨inner, inside⟩ := found
      obtain ⟨first, hfirst, hlead⟩ := sequence_quoted lead henough
      have hrest := hlead.symm.trans hinside
      obtain ⟨second, item, later, taken, hsecond, hitem, hbehind⟩ :=
        sequence_placeholder hcalm hfirst hrest
      obtain ⟨third, hthird, htrail⟩ := sequence_quoted trail hsecond
      rw [htrail, sequence_close hthird] at hbehind
      cases hbehind
      rw [group_wrapped hinside] at h
      cases h
      exact ⟨_, later, taken, rfl, rfl, hitem.takes.subset, hnames⟩

/-- What is read of a sequence goes on behind an optional group around a placeholder's group. -/
theorem sequence_around {lead trail : List Char} (hcalm : IsCalm text)
    (hmore : more.head? ≠ some '?')
    (henough : Enough bound (['(', '?', ':'] ++ (quoted lead ++ (placeholderChars count
      text.toList ++ (quoted trail ++ ')' :: '?' :: more)))))
    (h : sequence bound items ⟨['(', '?', ':'] ++ (quoted lead ++ (placeholderChars count
      text.toList ++ (quoted trail ++ ')' :: '?' :: more))), false, groups, names⟩ =
        some (tree, after)) :
    ∃ less inner later taken, Enough less more ∧ RestoresFlags inner ∧ Takes names inner taken ∧
      sequence less (.repetition inner 0 (some 1) true :: items) ⟨more, false, later, taken⟩ =
        some (tree, after) := by
  unfold Enough at henough
  simp only [List.length_append, List.length_cons] at henough
  obtain ⟨bound, rfl⟩ : ∃ less, bound = less + 3 := Nat.exists_eq_add_of_le' (by omega)
  obtain ⟨item, between, hgroup, hbehind⟩ := exists_group_of_sequence h
  have hinside : Enough bound (quoted lead ++ (placeholderChars count text.toList ++
      (quoted trail ++ ')' :: '?' :: more))) := by
    unfold Enough
    simp only [List.length_append, List.length_cons]
    omega
  obtain ⟨inner, later, taken, rfl, rfl, htakes⟩ := group_around hcalm hinside hgroup
  rw [sequence_optional (.inr ⟨_, rfl⟩) hmore] at hbehind
  exact ⟨bound + 1, _, later, taken, by unfold Enough; omega, restoresFlags_group _ _, htakes,
    hbehind⟩

/-- What is read of a sequence goes on behind a placeholder that may be left out. -/
theorem sequence_optionalChars {pending isLast : Bool} (hcalm : IsCalm text)
    (hmore : more.head? ≠ some '?')
    (henough : Enough bound
      (optionalChars pending isLast (placeholderChars count text.toList) ++ more))
    (h : sequence bound items
      ⟨optionalChars pending isLast (placeholderChars count text.toList) ++ more, false, groups,
        names⟩ = some (tree, after)) :
    ∃ less inner later taken, Enough less more ∧ RestoresFlags inner ∧ Takes names inner taken ∧
      sequence less (.repetition inner 0 (some 1) true :: items) ⟨more, false, later, taken⟩ =
        some (tree, after) := by
  have haround : ∀ lead trail, ['(', '?', ':'] ++ (quoted lead ++ (placeholderChars count
      text.toList ++ (quoted trail ++ [')', '?']))) ++ more = ['(', '?', ':'] ++ (quoted lead ++
        (placeholderChars count text.toList ++ (quoted trail ++ ')' :: '?' :: more))) := by
    intro lead trail
    simp
  rw [optionalChars] at h henough
  by_cases hpending : pending = true
  · rw [if_pos hpending, haround] at h henough
    exact sequence_around hcalm hmore henough h
  rw [if_neg hpending] at h henough
  by_cases hlast : isLast = true
  · rw [if_pos hlast, List.append_assoc] at h henough
    obtain ⟨less, item, later, taken, hless, hitem, hbehind⟩ :=
      sequence_placeholder hcalm henough h
    obtain ⟨index, inner, rfl⟩ := hitem.eq
    unfold Enough at hless
    rw [List.length_append, List.length_singleton] at hless
    obtain ⟨less, rfl⟩ := Nat.exists_eq_succ_of_ne_zero (show less ≠ 0 by omega)
    rw [List.singleton_append, sequence_optional (.inl ⟨_, _, _, rfl⟩) hmore] at hbehind
    exact ⟨less, _, later, taken, by unfold Enough; omega, restoresFlags_capture _ _ _, hitem.takes,
      hbehind⟩
  · rw [if_neg hlast, haround] at h henough
    exact sequence_around hcalm hmore henough h

end Reading

end Slot

namespace ActiveCommand

/-! ### Reading a template -/

variable {command : ActiveCommand} {tokens : List String}

/-- No token adds a text that begins with a question mark. -/
theorem head?_tokenChars (pending : Bool) (count : Nat) (token : String) (isLast : Bool)
    {more : List Char} (hmore : more.head? ≠ some '?') :
    (command.tokenChars pending count token isLast ++ more).head? ≠ some '?' := by
  have hbracket : ∀ text : List Char, ('(' :: text).head? ≠ some '?' := fun _ h =>
    absurd (Option.some.inj h) (by decide)
  rw [tokenChars]
  cases command.arguments.find? token with
  | none => exact Slot.head?_quoted _ hmore
  | some argument =>
      dsimp only
      by_cases hrequired : argument.required = true
      · rw [if_pos hrequired, List.append_assoc]
        exact Slot.head?_quoted _ (hbracket _)
      rw [if_neg hrequired, Slot.optionalChars]
      by_cases hpending : pending = true
      · rw [if_pos hpending]
        exact hbracket _
      rw [if_neg hpending]
      cases isLast with
      | true => exact hbracket _
      | false => exact hbracket _

/-- Tokens add a text to the pattern that does not begin with a question mark. -/
theorem exists_text_addAll (draft : Draft) (tokens : List String) :
    ∃ added, (draft.addAll command.arguments tokens).text.toList = draft.text.toList ++ added ∧
      (added ++ ['$']).head? ≠ some '?' := by
  induction tokens generalizing draft with
  | nil => exact ⟨[], (List.append_nil _).symm, fun h => absurd (Option.some.inj h) (by decide)⟩
  | cons token rest ih =>
      obtain ⟨added, htext, hhead⟩ := ih (command.addToken draft token rest.isEmpty)
      refine ⟨command.tokenChars draft.pendingSpace draft.placeholders.length token rest.isEmpty ++
        added, ?_, ?_⟩
      · rw [addAll_cons, htext, toList_addToken, List.append_assoc]
      · rw [List.append_assoc]
        exact head?_tokenChars _ _ _ _ hhead

/-- The items that tokens are read as, given whether the next one needs a space before it, how many
placeholders there are before and which names are taken. -/
inductive Items (command : ActiveCommand) :
    Bool → Nat → List String → List String → List PatternTree → Prop where
  | nil {pending : Bool} {count : Nat} {names : List String} :
      Items command pending count names [] []
  | literal {pending : Bool} {count : Nat} {names : List String} {token : String}
      {rest : List String} {items : List PatternTree} :
      command.arguments.find? token = none → Items command true count names rest items →
      Items command pending count names (token :: rest)
        ((spaceIf pending ++ token.toList).map Slot.letter ++ items)
  | required {pending : Bool} {count : Nat} {names taken : List String} {token : String}
      {argument : Argument} {rest : List String} {item : PatternTree} {items : List PatternTree} :
      command.arguments.find? token = some argument → argument.required = true →
      Slot.IsPlaceholder count names item taken → Items command true (count + 1) taken rest items →
      Items command pending count names (token :: rest)
        ((spaceIf pending).map Slot.letter ++ item :: items)
  | optional {pending : Bool} {count : Nat} {names taken : List String} {token : String}
      {argument : Argument} {rest : List String} {inner : PatternTree}
      {items : List PatternTree} :
      command.arguments.find? token = some argument → argument.required = false →
      Slot.RestoresFlags inner → Slot.Takes names inner taken →
      Items command pending (count + 1) taken rest items →
      Items command pending count names (token :: rest)
        (.repetition inner 0 (some 1) true :: items)

/-- A token whose pattern stands on its own is read as items, and these stand in front of the items
of the tokens behind it. -/
theorem exists_items_token {token : String} {pending isLast : Bool} {count : Nat}
    (hcalm : ∀ argument, command.arguments.find? token = some argument → IsCalm argument.pattern)
    {more : List Char} {bound groups : Nat} {names : List String} {before : List PatternTree}
    {tree : PatternTree} {after : State} (hmore : more.head? ≠ some '?')
    (henough : Slot.Enough bound (command.tokenChars pending count token isLast ++ more))
    (h : sequence bound before
      ⟨command.tokenChars pending count token isLast ++ more, false, groups, names⟩ =
        some (tree, after)) :
    ∃ own less later taken, Slot.Enough less more ∧
      sequence less (own.reverse ++ before) ⟨more, false, later, taken⟩ = some (tree, after) ∧
      ∀ rest items, Items command (pending || !command.isOptional token)
          (count + (command.placeholdersOf [token]).length) taken rest items →
        Items command pending count names (token :: rest) (own ++ items) := by
  rw [tokenChars] at h henough
  cases hfind : command.arguments.find? token with
  | none =>
      rw [hfind] at h henough
      obtain ⟨less, hless, hread⟩ := Slot.sequence_quoted _ henough
      refine ⟨_, less, groups, names, hless, hread.symm.trans h, fun rest items hitems => ?_⟩
      rw [isOptional_of_none hfind, placeholdersOf_of_none hfind, Bool.not_false,
        Bool.or_true] at hitems
      exact .literal hfind hitems
  | some argument =>
      rw [hfind] at h henough
      dsimp only at h henough
      rw [isOptional_of_some hfind, placeholdersOf_of_some hfind]
      cases hrequired : argument.required with
      | true =>
          rw [if_pos hrequired, List.append_assoc] at h henough
          obtain ⟨less, hless, hread⟩ := Slot.sequence_quoted _ henough
          obtain ⟨fewer, item, later, taken, hfewer, hitem, hbehind⟩ :=
            Slot.sequence_placeholder (hcalm argument hfind) hless (hread.symm.trans h)
          refine ⟨(spaceIf pending).map Slot.letter ++ [item], fewer, later, taken, hfewer, ?_,
            fun rest items hitems => ?_⟩
          · rw [List.reverse_append, List.append_assoc]
            exact hbehind
          · rw [Bool.not_true, Bool.not_false, Bool.or_true] at hitems
            rw [List.append_assoc]
            exact .required hfind hrequired hitem hitems
      | false =>
          rw [if_neg (by simp [hrequired])] at h henough
          obtain ⟨fewer, inner, later, taken, hfewer, hflags, htakes, hbehind⟩ :=
            Slot.sequence_optionalChars (hcalm argument hfind) hmore henough h
          refine ⟨[.repetition inner 0 (some 1) true], fewer, later, taken, hfewer, hbehind,
            fun rest items hitems => ?_⟩
          rw [Bool.not_false, Bool.not_true, Bool.or_false] at hitems
          exact .optional hfind hrequired hflags htakes hitems

/-- Tokens whose patterns stand on their own are read as their items, up to the sign for the end of
the text. -/
theorem exists_items (hcalm : ∀ token ∈ tokens, ∀ argument,
      command.arguments.find? token = some argument → IsCalm argument.pattern)
    {draft : Draft} {added : List Char} {bound groups : Nat} {names : List String}
    {before : List PatternTree} {tree : PatternTree} {after : State}
    (htext : (draft.addAll command.arguments tokens).text.toList = draft.text.toList ++ added)
    (henough : Slot.Enough bound (added ++ ['$']))
    (h : sequence bound before ⟨added ++ ['$'], false, groups, names⟩ = some (tree, after)) :
    ∃ items less later taken,
      Items command draft.pendingSpace draft.placeholders.length names tokens items ∧
        Slot.Enough less ['$'] ∧
        sequence less (items.reverse ++ before) ⟨['$'], false, later, taken⟩ =
          some (tree, after) := by
  induction tokens generalizing draft added bound groups names before with
  | nil =>
      obtain rfl : added = [] := List.self_eq_append_right.mp htext
      exact ⟨[], bound, groups, names, .nil, henough, h⟩
  | cons token rest ih =>
      obtain ⟨htoken, hrest⟩ := List.forall_mem_cons.mp hcalm
      obtain ⟨behind, hbehind, hhead⟩ :=
        exists_text_addAll (command.addToken draft token rest.isEmpty) rest
      obtain rfl : added = command.tokenChars draft.pendingSpace draft.placeholders.length token
          rest.isEmpty ++ behind := by
        rw [addAll_cons, hbehind, toList_addToken, List.append_assoc] at htext
        exact (List.append_cancel_left htext).symm
      rw [List.append_assoc] at h henough
      obtain ⟨own, less, later, taken, hless, hown, hitems⟩ :=
        exists_items_token htoken hhead henough h
      obtain ⟨items, fewer, last, named, hothers, hfewer, hends⟩ := ih hrest hbehind hless hown
      rw [pendingSpace_addToken, placeholders_addToken, List.length_append] at hothers
      refine ⟨own ++ items, fewer, last, named, hitems _ _ hothers, hfewer, ?_⟩
      rw [List.reverse_append, List.append_assoc]
      exact hends

/-- The pattern of each placeholder is a pattern on its own that no comment can run out of. -/
def HasCalmPatterns (command : ActiveCommand) : Prop :=
  ∀ token ∈ Text.words command.template, ∀ argument,
    command.arguments.find? token = some argument → IsCalm argument.pattern

/-- Read as a pattern, the text of a command is its items between the signs for the beginning and
the end of the text. -/
theorem items_of_read? (hcalm : command.HasCalmPatterns) {tree : PatternTree}
    (h : PatternTree.read? command.patternText = some tree) :
    ∃ items, Items command false 0 [] (Text.words command.template) items ∧
      tree = .ofSequence (.anchor .lineStart :: (items ++ [.anchor .lineEnd])) := by
  obtain ⟨trees, after, htrees, rfl, _⟩ := alternatives_of_read? h
  have htext : command.patternText.toList = '^' :: (command.draft.text.toList ++ ['$']) := by
    rw [patternText, String.toList_append, String.toList_append]
    rfl
  rw [State.start, htext, List.length_cons] at htrees
  obtain ⟨first, between, hfirst, htrees⟩ := bind_eq_some.mp htrees
  have hsequence := (Slot.sequence_lineStart _).symm.trans hfirst
  obtain ⟨items, less, later, taken, hitems, hless, hends⟩ :=
    @exists_items command _ hcalm .empty command.draft.text.toList _ _ _ _ _ _ rfl
      (by unfold Slot.Enough; omega) hsequence
  rw [Slot.sequence_lineEnd hless] at hends
  cases hends
  obtain ⟨_, _, hpeek, htrees⟩ := bind_eq_some.mp htrees
  cases hpeek
  rw [if_neg (by simp)] at htrees
  cases htrees
  refine ⟨items, hitems, ?_⟩
  rw [List.reverse_append, List.reverse_reverse]
  rfl

end ActiveCommand

end BotHost
