/-
# The slots of a command's pattern

The pattern of a command is put together from slots, one for each token: a literal token, a
placeholder that has to be filled, or one that may be left out together with a space before or
behind it.  Around the pattern of a placeholder, a fragment, stand the brackets of its group.

The text that is put together reads as the slots stand: the groups keep apart, whatever the
fragments are, because a fragment that is a pattern on its own ends where its group closes.
-/

import BotHost.Command.Active
import BotHost.Proofs.Pattern.Nesting
import BotHost.Proofs.Pattern.Words

namespace BotHost

open PatternReader

theorem Pattern.ofText?_eq_some {text : String} {pattern : Pattern} :
    Pattern.ofText? text = some pattern ↔
      ∃ tree behind, PatternTree.read? text = some tree ∧
        tree.meaning? .initial = some (pattern, behind) ∧ pattern.isSmall = true := by
  constructor
  · intro h
    obtain ⟨tree, hread, h⟩ := Option.bind_eq_some_iff.mp h
    obtain ⟨⟨found, behind⟩, hmeaning, h⟩ := Option.bind_eq_some_iff.mp h
    dsimp only at h
    split at h
    · rename_i hsmall
      cases h
      exact ⟨tree, behind, hread, hmeaning, hsmall⟩
    · cases h
  · rintro ⟨tree, behind, hread, hmeaning, hsmall⟩
    refine Option.bind_eq_some_iff.mpr ⟨tree, hread, Option.bind_eq_some_iff.mpr
      ⟨(pattern, behind), hmeaning, ?_⟩⟩
    exact if_pos hsmall

/-! ### Fragments -/

/-- A plain pattern, with what its text reads as and means inside of another pattern. -/
structure Fragment where
  text : String
  /-- The alternatives that it is read as. -/
  trees : List PatternTree
  /-- How many groups it has. -/
  own : Nat
  pattern : Pattern
  /-- Inside of a group, the text reads as these alternatives, numbered behind the groups before. -/
  reads (bound groups : Nat) (names : List String) (more : List Char) :
    3 * text.toList.length + 3 ≤ bound →
    alternatives bound ⟨text.toList ++ ')' :: more, false, groups, names⟩ =
      some (trees.map (.renumber groups), ⟨')' :: more, false, own + groups, names⟩)
  /-- The alternatives mean the pattern, under the flags that patterns start with. -/
  means : (PatternTree.ofAlternatives trees).meaning? .initial = some (pattern, .initial)
  /-- The pattern looks at nothing but what it matches, and has only its own groups. -/
  selfContained : pattern.SelfContained 0 own

/-- A plain tree whose text is a pattern is a fragment. -/
theorem Fragment.exists_of_plain {text : String} {tree : PatternTree} {pattern : Pattern}
    (hread : PatternTree.read? text = some tree) (hplain : tree.Plain)
    (hpattern : Pattern.ofText? text = some pattern) :
    ∃ fragment : Fragment, fragment.text = text ∧ fragment.pattern = pattern ∧
      PatternTree.ofAlternatives fragment.trees = tree := by
  obtain ⟨found, behind, hfound, hmeaning, _⟩ := Pattern.ofText?_eq_some.mp hpattern
  obtain rfl := Option.some.inj (hread.symm.trans hfound)
  obtain rfl := PatternTree.behind_eq_of_plain _ _ hplain hmeaning
  obtain ⟨trees, own, rfl, hproper, hreads⟩ := alternatives_nested hread hplain
  exact ⟨⟨text, trees, own, pattern, hreads, hmeaning, hplain.selfContained hproper hmeaning⟩, rfl,
    rfl, rfl⟩

/-! ### Quoted text -/

namespace Slot

/-- A text as a pattern that matches exactly this text. -/
def quoted (text : List Char) : List Char := text.flatMap Pattern.quoteChar

/-- A character as an item of a pattern. -/
def letter (c : Char) : PatternTree := .literal ⟨c, false⟩

/-- There are steps enough to read a sequence from a place on. -/
def Enough (bound : Nat) (text : List Char) : Prop := 3 * text.length + 2 ≤ bound

variable {bound groups : Nat} {names : List String} {items : List PatternTree} {more : List Char}

/-- Where blanks count, none are skipped. -/
theorem space_run (text : List Char) :
    space ⟨text, false, groups, names⟩ = some ((), ⟨text, false, groups, names⟩) := rfl

theorem peek_run (c : Char) (text : List Char) :
    peek ⟨c :: text, false, groups, names⟩ = some (some c, ⟨c :: text, false, groups, names⟩) := rfl

theorem drop_run (c : Char) (text : List Char) :
    drop 1 ⟨c :: text, false, groups, names⟩ = some ((), ⟨text, false, groups, names⟩) := rfl

theorem next_run (c : Char) (text : List Char) :
    next ⟨c :: text, false, groups, names⟩ = some (c, ⟨c :: text, false, groups, names⟩) := rfl

/-- One item is read and the sequence goes on behind it. -/
theorem sequence_item {c : Char} {text : List Char} {found : List PatternTree}
    (hc : c ≠ ')' ∧ c ≠ '|' ∧ c ≠ '(')
    (hitem : item bound c items ⟨c :: text, false, groups, names⟩ =
      some (found, ⟨more, false, groups, names⟩)) :
    sequence (bound + 1) items ⟨c :: text, false, groups, names⟩ =
      sequence bound found ⟨more, false, groups, names⟩ := by
  rw [PatternReader.sequence, bind_run (space_run _), bind_run (peek_run c text)]
  dsimp only
  rw [if_neg (by simp [hc.1, hc.2.1]), if_neg hc.2.2, bind_run hitem]

/-- A sign with a meaning of its own stands for itself behind a backslash. -/
theorem escape_meta {c : Char} (hmeta : isMeta c = true) :
    escape ⟨c :: more, false, groups, names⟩ = some (letter c, ⟨more, false, groups, names⟩) := by
  have hsigns : ∀ c ∈ metaCharacters, ¬ (c = 'x' ∨ c = 'u' ∨ c = 'U') ∧ ¬ (c = 'p' ∨ c = 'P') ∧
      letterClass? c = none := by simp [metaCharacters, letterClass?]
  obtain ⟨hhex, hproperty, hletter⟩ := hsigns c (List.contains_iff_mem.mp hmeta)
  rw [escape, bind_run (next_run c more), if_neg (by simpa [or_assoc] using hhex),
    if_neg (by simpa using hproperty), bind_run (drop_run c more), hletter]
  dsimp only
  rw [if_pos (by rw [isEscapable, hmeta, Bool.true_or])]
  rfl

/-- A sign without a meaning of its own stands for itself. -/
theorem item_letter {c : Char} (hmeta : ¬ isMeta c = true) :
    item bound c items ⟨c :: more, false, groups, names⟩ =
      some (letter c :: items, ⟨more, false, groups, names⟩) := by
  have hsign : ∀ sign ∈ metaCharacters, c ≠ sign := by
    rintro sign hsign rfl
    exact hmeta (List.contains_iff_mem.mpr hsign)
  have hatom : atom c ⟨more, false, groups, names⟩ =
      some (letter c, ⟨more, false, groups, names⟩) := by
    rw [atom, if_neg (hsign '\\' (by decide)), if_neg (hsign '.' (by decide)),
      if_neg (hsign '^' (by decide)), if_neg (hsign '$' (by decide))]
    rfl
  have hrepeat : ¬ (decide (c = '?') || decide (c = '*') || decide (c = '+')) = true := by
    simp [hsign '?' (by decide), hsign '*' (by decide), hsign '+' (by decide)]
  rw [item, if_neg (hsign '[' (by decide)), if_neg hrepeat, if_neg (hsign '\x7b' (by decide)),
    bind_run (drop_run c more), bind_run hatom]
  rfl

/-- A character that was quoted is read as itself. -/
theorem sequence_quoteChar (c : Char) :
    sequence (bound + 1) items ⟨Pattern.quoteChar c ++ more, false, groups, names⟩ =
      sequence bound (letter c :: items) ⟨more, false, groups, names⟩ := by
  unfold Pattern.quoteChar
  split
  · rename_i hmeta
    apply sequence_item (by decide)
    change (drop 1 >>= fun _ => escape >>= fun tree => pure (tree :: items) : Reader _) _ = _
    rw [bind_run (drop_run _ _)]
    change (escape >>= fun tree => pure (tree :: items) : Reader _) ⟨c :: more, _, _, _⟩ = _
    rw [bind_run (escape_meta hmeta)]
    rfl
  · rename_i hmeta
    have hsign : ∀ sign ∈ metaCharacters, c ≠ sign := by
      rintro sign hsign rfl
      exact hmeta (List.contains_iff_mem.mpr hsign)
    exact sequence_item ⟨hsign ')' (by decide), hsign '|' (by decide), hsign '(' (by decide)⟩
      (item_letter hmeta)

/-- A text that was quoted is read as its characters. -/
theorem sequence_quoted (text : List Char) (henough : Enough bound (quoted text ++ more)) :
    ∃ less, Enough less more ∧
      sequence bound items ⟨quoted text ++ more, false, groups, names⟩ =
        sequence less ((text.map letter).reverse ++ items) ⟨more, false, groups, names⟩ := by
  induction text generalizing bound items with
  | nil => exact ⟨bound, henough, rfl⟩
  | cons c text ih =>
      have hlength : 0 < (Pattern.quoteChar c).length := by
        unfold Pattern.quoteChar
        split <;> simp
      have hquoted : quoted (c :: text) ++ more = Pattern.quoteChar c ++ (quoted text ++ more) := by
        rw [quoted, List.flatMap_cons, List.append_assoc, quoted]
      rw [hquoted] at henough ⊢
      unfold Enough at henough
      rw [List.length_append] at henough
      obtain ⟨bound, rfl⟩ : ∃ less, bound = less + 1 :=
        Nat.exists_eq_succ_of_ne_zero (by omega)
      obtain ⟨less, hless, hread⟩ := @ih bound (letter c :: items) (by unfold Enough; omega)
      refine ⟨less, hless, (sequence_quoteChar c).trans (hread.trans ?_)⟩
      rw [List.map_cons, List.reverse_cons, List.append_assoc]
      rfl

/-! ### Groups -/

/-- The name of the group of a placeholder is a letter and digits. -/
theorem toList_groupName (count : Nat) :
    (ActiveCommand.Draft.groupName count).toList = 'a' :: Nat.toDigits 10 count := by
  rw [ActiveCommand.Draft.groupName, String.toList_append]
  change ['a'] ++ (Nat.repr count).toList = _
  rw [Nat.toList_repr]
  rfl

/-- No two placeholders have a group of the same name. -/
theorem groupName_injective {first second : Nat}
    (h : ActiveCommand.Draft.groupName first = ActiveCommand.Draft.groupName second) :
    first = second := by
  have hdigits := congrArg String.toList h
  rw [toList_groupName, toList_groupName] at hdigits
  calc first = Nat.ofDigitChars 10 (Nat.toDigits 10 first) 0 := Nat.ofDigitChars_ten_toDigits.symm
    _ = Nat.ofDigitChars 10 (Nat.toDigits 10 second) 0 := by rw [(List.cons.inj hdigits).2]
    _ = second := Nat.ofDigitChars_ten_toDigits

/-- The rest of a name is read up to its bracket. -/
theorem groupName_run {name sofar : List Char} (hsofar : sofar ≠ [])
    (hname : ∀ c ∈ name, c.isDigit = true) (hbound : name.length < bound) :
    groupName bound sofar ⟨name ++ '>' :: more, false, groups, names⟩ =
      some (String.ofList (sofar.reverse ++ name), ⟨more, false, groups, names⟩) := by
  have hempty : sofar.isEmpty = false := by
    cases sofar with
    | nil => exact absurd rfl hsofar
    | cons c sofar => rfl
  induction name generalizing bound sofar with
  | nil =>
      obtain ⟨bound, rfl⟩ := Nat.exists_eq_succ_of_ne_zero (Nat.ne_zero_of_lt hbound)
      rw [groupName, List.nil_append, bind_run (next_run '>' more), if_pos rfl,
        bind_run (drop_run '>' more), hempty, List.append_nil]
      rfl
  | cons c name ih =>
      obtain ⟨bound, rfl⟩ := Nat.exists_eq_succ_of_ne_zero (Nat.ne_zero_of_lt hbound)
      obtain ⟨hc, hname⟩ := List.forall_mem_cons.mp hname
      have hbracket : c ≠ '>' := by
        rintro rfl
        cases hc
      have hdigit : isNameCharacter sofar.isEmpty c = true := by
        rw [hempty, isNameCharacter, isNumeric, hc]
        simp
      rw [groupName, List.cons_append, bind_run (next_run c _), if_neg hbracket, if_pos hdigit,
        bind_run (drop_run c _), ih (List.cons_ne_nil c sofar) hname
          (Nat.lt_of_succ_lt_succ hbound) rfl, List.reverse_cons, List.append_assoc]
      rfl

/-- The text of the group of a placeholder around the text of its pattern. -/
def placeholderChars (count : Nat) (text : List Char) : List Char :=
  ['(', '?', 'P', '<'] ++ (ActiveCommand.Draft.groupName count).toList ++ '>' :: (text ++ [')'])

variable (fragment : Fragment) (count : Nat)

/-- The text of the group of a placeholder. -/
def groupChars : List Char :=
  ['(', '?', 'P', '<'] ++ (ActiveCommand.Draft.groupName count).toList ++
    '>' :: (fragment.text.toList ++ [')'])

/-- The tree of the group of a placeholder, behind so many other groups. -/
def groupTree (groups : Nat) : PatternTree :=
  .capture (groups + 1) (some (ActiveCommand.Draft.groupName count))
    ((PatternTree.ofAlternatives fragment.trees).renumber (groups + 1))

variable {fragment count}

/-- The name of a placeholder's group is read up to its bracket. -/
theorem groupName_placeholder
    (hbound : (ActiveCommand.Draft.groupName count).toList.length < bound) :
    groupName bound [] ⟨(ActiveCommand.Draft.groupName count).toList ++ '>' :: more, false, groups,
      names⟩ = some (ActiveCommand.Draft.groupName count, ⟨more, false, groups, names⟩) := by
  obtain ⟨bound, rfl⟩ := Nat.exists_eq_succ_of_ne_zero (Nat.ne_zero_of_lt hbound)
  have hname := toList_groupName count
  rw [hname, List.length_cons] at hbound
  rw [hname, groupName, List.cons_append, bind_run (next_run 'a' _), if_neg (by decide),
    if_pos (by decide), bind_run (drop_run 'a' _),
    groupName_run (List.cons_ne_nil 'a' []) (fun c hc => Nat.isDigit_of_mem_toDigits (by decide)
      (by decide) hc) (by omega)]
  change some (String.ofList ('a' :: Nat.toDigits 10 count), _) = _
  rw [← hname, String.ofList_toList]

theorem ahead_run (state : State) : ahead state = some (state.rest, state) := rfl

/-- At the head of a placeholder's group, the group is numbered and its name is taken. -/
theorem groupHead_placeholder :
    groupHead ⟨['?', 'P', '<'] ++ ((ActiveCommand.Draft.groupName count).toList ++ '>' :: more),
        false, groups, names⟩ =
      (takeName (ActiveCommand.Draft.groupName count) >>= fun _ =>
        pure (.capture (groups + 1) (some (ActiveCommand.Draft.groupName count))) :
          Reader GroupHead) ⟨more, false, groups + 1, names⟩ := by
  have hmark : dropNameMark ⟨['?', 'P', '<'] ++ ((ActiveCommand.Draft.groupName count).toList ++
      '>' :: more), false, groups, names⟩ = some (true,
        ⟨(ActiveCommand.Draft.groupName count).toList ++ '>' :: more, false, groups, names⟩) := by
    rw [dropNameMark, bind_run (dropIf_eq_some_true.mpr ⟨_, rfl, rfl⟩)]
    rfl
  have hnumber : numberGroup ⟨(ActiveCommand.Draft.groupName count).toList ++ '>' :: more, false,
      groups, names⟩ = some (groups + 1,
        ⟨(ActiveCommand.Draft.groupName count).toList ++ '>' :: more, false, groups + 1, names⟩) :=
    rfl
  rw [groupHead, bind_run (space_run _), bind_run (ahead_run _), if_neg]
  · rw [bind_run hmark, if_pos rfl, namedHead, bind_run hnumber, bind_run (ahead_run _),
      bind_run (groupName_placeholder _)]
    rw [List.length_append, List.length_cons]
    omega
  · simp [isLookAround, List.isPrefixOf]

theorem closeGroup_run (text : List Char) :
    closeGroup false ⟨')' :: text, false, groups, names⟩ =
      some ((), ⟨text, false, groups, names⟩) := rfl

/-- The head of a placeholder's group, if its name is free. -/
theorem groupHead_named (hfree : ActiveCommand.Draft.groupName count ∉ names) :
    groupHead ⟨['?', 'P', '<'] ++ ((ActiveCommand.Draft.groupName count).toList ++ '>' :: more),
        false, groups, names⟩ =
      some (.capture (groups + 1) (some (ActiveCommand.Draft.groupName count)),
        ⟨more, false, groups + 1, ActiveCommand.Draft.groupName count :: names⟩) := by
  have htake : takeName (ActiveCommand.Draft.groupName count) ⟨more, false, groups + 1, names⟩ =
      some ((), ⟨more, false, groups + 1, ActiveCommand.Draft.groupName count :: names⟩) := by
    rw [takeName, if_neg]
    exact fun htaken => hfree (List.contains_iff_mem.mp htaken)
  rw [groupHead_placeholder, bind_run htake]
  rfl

/-- A placeholder's group is read with the groups of its fragment behind it. -/
theorem group_named (hfree : ActiveCommand.Draft.groupName count ∉ names)
    (hbound : 3 * (groupChars fragment count).length ≤ bound) :
    group bound ⟨groupChars fragment count ++ more, false, groups, names⟩ =
      some (groupTree fragment count groups,
        ⟨more, false, groups + 1 + fragment.own,
          ActiveCommand.Draft.groupName count :: names⟩) := by
  have hchars : groupChars fragment count ++ more =
      '(' :: (['?', 'P', '<'] ++ ((ActiveCommand.Draft.groupName count).toList ++
        '>' :: (fragment.text.toList ++ ')' :: more))) := by
    simp [groupChars]
  have hlength : (groupChars fragment count).length =
      (ActiveCommand.Draft.groupName count).toList.length + fragment.text.toList.length + 6 := by
    simp only [groupChars, List.length_append, List.length_cons, List.length_nil]
    omega
  rw [hlength] at hbound
  obtain ⟨bound, rfl⟩ := Nat.exists_eq_succ_of_ne_zero (show bound ≠ 0 by omega)
  have hreads := fragment.reads bound (groups + 1) (ActiveCommand.Draft.groupName count :: names)
    more (by omega)
  have hverbose : isVerbose ⟨fragment.text.toList ++ ')' :: more, false, groups + 1,
      ActiveCommand.Draft.groupName count :: names⟩ = some (false, ⟨fragment.text.toList ++
        ')' :: more, false, groups + 1, ActiveCommand.Draft.groupName count :: names⟩) := rfl
  rw [hchars, group, bind_run (drop_run '(' _), bind_run (groupHead_named hfree), behindHead,
    bind_run hverbose, bind_run hreads, bind_run (closeGroup_run more),
    ← PatternTree.renumber_ofAlternatives, Nat.add_comm fragment.own]
  rfl

/-- What is read up to a bracket is one alternative. -/
theorem alternatives_run {text : List Char} {tree : PatternTree} {after : State}
    (h : sequence bound [] ⟨text, false, groups, names⟩ = some (tree, after))
    (hbar : after.rest.head? ≠ some '|') :
    alternatives (bound + 1) ⟨text, false, groups, names⟩ = some ([tree], after) := by
  rw [alternatives, bind_run h]
  change (if after.rest.head? = some '|' then _ else _ : Reader _) after = _
  rw [if_neg hbar]
  rfl

/-- Behind the head of a group that changes no flags and captures nothing stand alternatives. -/
theorem group_unflagged (text : List Char) :
    group (bound + 1) ⟨['(', '?', ':'] ++ text, false, groups, names⟩ =
      (alternatives bound >>= fun inner => closeGroup false >>= fun _ =>
        pure (.group [] (.ofAlternatives inner)) : Reader PatternTree)
          ⟨text, false, groups, names⟩ := by
  have hhead : groupHead ⟨'?' :: ':' :: text, false, groups, names⟩ =
      some (.group [], ⟨text, false, groups, names⟩) := by
    rw [groupHead, bind_run (space_run _), bind_run (ahead_run _), if_neg]
    · rfl
    · simp [isLookAround, List.isPrefixOf]
  have hverbose : isVerbose ⟨text, false, groups, names⟩ =
      some (false, ⟨text, false, groups, names⟩) := rfl
  have hswitch : switchVerbose [] ⟨text, false, groups, names⟩ =
      some ((), ⟨text, false, groups, names⟩) := rfl
  rw [List.cons_append, group, bind_run (drop_run '(' _)]
  change (groupHead >>= _ : Reader PatternTree) ⟨'?' :: ':' :: text, _, _, _⟩ = _
  rw [bind_run hhead, behindHead, bind_run hverbose, bind_run hswitch]

/-- A group that changes no flags and captures nothing. -/
theorem group_wrapped {text : List Char} {tree : PatternTree} {later : Nat} {taken : List String}
    (h : sequence bound [] ⟨text, false, groups, names⟩ =
      some (tree, ⟨')' :: more, false, later, taken⟩)) :
    group (bound + 2) ⟨['(', '?', ':'] ++ text, false, groups, names⟩ =
      some (.group [] tree, ⟨more, false, later, taken⟩) := by
  rw [group_unflagged, bind_run (alternatives_run h (by simp)), bind_run (closeGroup_run more)]
  rfl

/-- A group is read and the sequence goes on behind it. -/
theorem sequence_group {text : List Char} {tree : PatternTree} {after : State}
    (h : group bound ⟨'(' :: text, false, groups, names⟩ = some (tree, after)) :
    sequence (bound + 1) items ⟨'(' :: text, false, groups, names⟩ =
      sequence bound (tree :: items) after := by
  rw [PatternReader.sequence, bind_run (space_run _), bind_run (peek_run '(' text)]
  dsimp only
  rw [if_neg (by decide), if_pos rfl, bind_run h]

/-- A question mark behind a group makes it optional, if no other one follows. -/
theorem sequence_optional {tree : PatternTree} (htree : (∃ index name inner,
      tree = .capture index name inner) ∨ ∃ inner, tree = .group [] inner)
    (hmore : more.head? ≠ some '?') :
    sequence (bound + 1) (tree :: items) ⟨'?' :: more, false, groups, names⟩ =
      sequence bound (.repetition tree 0 (some 1) true :: items) ⟨more, false, groups, names⟩ := by
  have hlast : lastItem (tree :: items) ⟨'?' :: more, false, groups, names⟩ =
      some ((tree, items), ⟨'?' :: more, false, groups, names⟩) := by
    rcases htree with ⟨index, name, inner, rfl⟩ | ⟨inner, rfl⟩ <;> rfl
  have hgreedy : dropIf ['?'] ⟨more, false, groups, names⟩ =
      some (false, ⟨more, false, groups, names⟩) := by
    change (if ['?'].isPrefixOf more then _ else _ : Reader Bool) _ = _
    rw [if_neg]
    · rfl
    · cases more with
      | nil => simp [List.isPrefixOf]
      | cons c more =>
          have hc : '?' ≠ c := fun hc => hmore (by rw [hc]; rfl)
          simp [List.isPrefixOf, hc]
  have hrepeated : repeated tree 0 (some 1) ⟨'?' :: more, false, groups, names⟩ =
      some (.repetition tree 0 (some 1) true, ⟨more, false, groups, names⟩) := by
    have hgreediness : greediness ⟨more, false, groups, names⟩ =
        some (true, ⟨more, false, groups, names⟩) := by
      rw [greediness, bind_run hgreedy]
      rfl
    rw [repeated, bind_run (drop_run '?' more), bind_run hgreediness]
    rfl
  apply sequence_item (by decide)
  change (lastItem (tree :: items) >>= fun found => repeated found.1 0 (some 1) >>= fun tree =>
    pure (tree :: found.2) : Reader _) _ = _
  rw [bind_run hlast, bind_run hrepeated]
  rfl

end Slot

/-! ### Slots -/

/-- A token of a template in the pattern, with the text that stands before it, and for a
placeholder that may be left out also behind it, if it is there. -/
inductive Slot where
  | literal (lead : List Char) (token : String)
  | required (lead : List Char) (token : String) (fragment : Fragment)
  | optional (lead trail : List Char) (token : String) (fragment : Fragment)

namespace Slot

/-- How many placeholders the slot holds. -/
def count : Slot → Nat
  | literal _ _ => 0
  | required _ _ _ => 1
  | optional _ _ _ _ => 1

/-- How many groups the slot has. -/
def groups : Slot → Nat
  | literal _ _ => 0
  | required _ _ fragment => 1 + fragment.own
  | optional _ _ _ fragment => 1 + fragment.own

/-- The text of a slot behind so many placeholders. -/
def chars (count : Nat) : Slot → List Char
  | literal lead token => quoted (lead ++ token.toList)
  | required lead _ fragment => quoted lead ++ groupChars fragment count
  | optional [] [] _ fragment => groupChars fragment count ++ ['?']
  | optional lead trail _ fragment =>
    ['(', '?', ':'] ++ (quoted lead ++ (groupChars fragment count ++ (quoted trail ++ [')', '?'])))

/-- The items that a slot is read as, behind so many placeholders and groups. -/
def trees (count groups : Nat) : Slot → List PatternTree
  | literal lead token => (lead ++ token.toList).map letter
  | required lead _ fragment => lead.map letter ++ [groupTree fragment count groups]
  | optional [] [] _ fragment => [.repetition (groupTree fragment count groups) 0 (some 1) true]
  | optional lead trail _ fragment =>
    [.repetition (.group [] (.ofSequence
      (lead.map letter ++ groupTree fragment count groups :: trail.map letter))) 0 (some 1) true]

/-- The names that the groups of a slot take. -/
def names (count : Nat) : Slot → List String
  | literal _ _ => []
  | required _ _ _ => [ActiveCommand.Draft.groupName count]
  | optional _ _ _ _ => [ActiveCommand.Draft.groupName count]

/-- The text of a group that may be left out, behind other tokens with the space before it, before
other tokens with the space behind it. -/
def optionalChars (pending isLast : Bool) (chars : List Char) : List Char :=
  if pending then ['(', '?', ':'] ++ (quoted [' '] ++ (chars ++ (quoted [] ++ [')', '?'])))
  else if isLast then chars ++ ['?']
  else ['(', '?', ':'] ++ (quoted [] ++ (chars ++ (quoted [' '] ++ [')', '?'])))

section Reading

variable {bound count groups : Nat} {names : List String} {items : List PatternTree}
  {more : List Char} {fragment : Fragment}

theorem chars_optional {lead trail : List Char} {token : String}
    (h : ¬ (lead = [] ∧ trail = [])) : (optional lead trail token fragment).chars count =
      ['(', '?', ':'] ++ (quoted lead ++ (groupChars fragment count ++
        (quoted trail ++ [')', '?']))) := by
  rw [chars]
  rintro rfl rfl
  exact h ⟨rfl, rfl⟩

theorem trees_optional {lead trail : List Char} {token : String}
    (h : ¬ (lead = [] ∧ trail = [])) : (optional lead trail token fragment).trees count groups =
      [.repetition (.group [] (.ofSequence (lead.map letter ++
        groupTree fragment count groups :: trail.map letter))) 0 (some 1) true] := by
  rw [trees]
  rintro rfl rfl
  exact h ⟨rfl, rfl⟩

theorem groupChars_eq_cons (fragment : Fragment) (count : Nat) :
    ∃ rest, groupChars fragment count = '(' :: rest := ⟨_, rfl⟩

/-- The group of a placeholder is an item of a sequence. -/
theorem sequence_groupChars (hfree : ActiveCommand.Draft.groupName count ∉ names)
    (henough : Enough bound (groupChars fragment count ++ more)) :
    ∃ less, Enough less more ∧
      sequence bound items ⟨groupChars fragment count ++ more, false, groups, names⟩ =
        sequence less (groupTree fragment count groups :: items)
          ⟨more, false, groups + (1 + fragment.own),
            ActiveCommand.Draft.groupName count :: names⟩ := by
  obtain ⟨rest, hrest⟩ := groupChars_eq_cons fragment count
  unfold Enough at henough
  have hlength : (groupChars fragment count).length = rest.length + 1 := by rw [hrest]; rfl
  rw [List.length_append, hlength] at henough
  obtain ⟨bound, rfl⟩ := Nat.exists_eq_succ_of_ne_zero (show bound ≠ 0 by omega)
  refine ⟨bound, by unfold Enough; omega, ?_⟩
  have hgroup := @group_named bound groups names more fragment count hfree (by omega)
  rw [hrest, List.cons_append] at hgroup ⊢
  rw [sequence_group hgroup, Nat.add_assoc]

/-- At a closing bracket a sequence ends. -/
theorem sequence_close (henough : Enough bound (')' :: more)) :
    sequence bound items ⟨')' :: more, false, groups, names⟩ =
      some (.ofSequence items.reverse, ⟨')' :: more, false, groups, names⟩) := by
  obtain ⟨bound, rfl⟩ := Nat.exists_eq_succ_of_ne_zero
    (show bound ≠ 0 by unfold Enough at henough; omega)
  rw [PatternReader.sequence, bind_run (space_run _), bind_run (peek_run ')' more)]
  rfl

/-- A placeholder that may be left out, with the text around it. -/
theorem sequence_wrapped {lead trail : List Char}
    (hfree : ActiveCommand.Draft.groupName count ∉ names) (hmore : more.head? ≠ some '?')
    (henough : Enough bound (['(', '?', ':'] ++ (quoted lead ++ (groupChars fragment count ++
      (quoted trail ++ [')', '?']))) ++ more)) :
    ∃ less, Enough less more ∧
      sequence bound items ⟨['(', '?', ':'] ++ (quoted lead ++ (groupChars fragment count ++
        (quoted trail ++ [')', '?']))) ++ more, false, groups, names⟩ =
        sequence less (.repetition (.group [] (.ofSequence
            (lead.map letter ++ groupTree fragment count groups :: trail.map letter)))
            0 (some 1) true :: items)
          ⟨more, false, groups + (1 + fragment.own),
            ActiveCommand.Draft.groupName count :: names⟩ := by
  have hchars : ['(', '?', ':'] ++ (quoted lead ++ (groupChars fragment count ++
      (quoted trail ++ [')', '?']))) ++ more = ['(', '?', ':'] ++ (quoted lead ++
        (groupChars fragment count ++ (quoted trail ++ ')' :: '?' :: more))) := by
    simp
  rw [hchars] at henough ⊢
  obtain ⟨bound, rfl⟩ : ∃ less, bound = less + 3 := by
    apply Nat.exists_eq_add_of_le'
    unfold Enough at henough
    simp only [List.length_append, List.length_cons] at henough
    omega
  have hinside : Enough bound (quoted lead ++ (groupChars fragment count ++
      (quoted trail ++ ')' :: '?' :: more))) := by
    unfold Enough at henough ⊢
    simp only [List.length_append, List.length_cons] at henough ⊢
    omega
  obtain ⟨first, hfirst, hlead⟩ := @sequence_quoted bound groups names [] _ lead hinside
  obtain ⟨second, hsecond, hgroup⟩ := sequence_groupChars hfree hfirst
  obtain ⟨third, hthird, htrail⟩ := sequence_quoted trail hsecond
  have hbody : sequence bound [] ⟨quoted lead ++ (groupChars fragment count ++
        (quoted trail ++ ')' :: '?' :: more)), false, groups, names⟩ =
      some (.ofSequence (lead.map letter ++ groupTree fragment count groups :: trail.map letter),
        ⟨')' :: '?' :: more, false, groups + (1 + fragment.own),
          ActiveCommand.Draft.groupName count :: names⟩) := by
    rw [hlead, hgroup, htrail, sequence_close hthird]
    simp
  have hmarked : Enough (bound + 1) more := by
    unfold Enough at henough ⊢
    simp only [List.length_append, List.length_cons] at henough
    omega
  refine ⟨bound + 1, hmarked, ?_⟩
  exact (sequence_group (group_wrapped hbody)).trans (sequence_optional (.inr ⟨_, rfl⟩) hmore)

/-- A slot is read as its items, if no question mark follows. -/
theorem sequence_slot (slot : Slot) (hfree : ∀ name ∈ slot.names count, name ∉ names)
    (hmore : more.head? ≠ some '?') (henough : Enough bound (slot.chars count ++ more)) :
    ∃ less, Enough less more ∧
      sequence bound items ⟨slot.chars count ++ more, false, groups, names⟩ =
        sequence less ((slot.trees count groups).reverse ++ items)
          ⟨more, false, groups + slot.groups, slot.names count ++ names⟩ := by
  cases slot with
  | literal lead token => exact sequence_quoted (lead ++ token.toList) henough
  | required lead token fragment =>
      have hnew := hfree _ List.mem_cons_self
      rw [chars, List.append_assoc] at henough ⊢
      obtain ⟨first, hfirst, hlead⟩ := sequence_quoted lead henough
      obtain ⟨second, hsecond, hgroup⟩ := sequence_groupChars hnew hfirst
      refine ⟨second, hsecond, (hlead.trans hgroup).trans ?_⟩
      rw [trees, List.reverse_append]
      rfl
  | optional lead trail token fragment =>
      have hnew := hfree _ List.mem_cons_self
      by_cases hempty : lead = [] ∧ trail = []
      · obtain ⟨rfl, rfl⟩ := hempty
        rw [chars, List.append_assoc] at henough ⊢
        obtain ⟨first, hfirst, hgroup⟩ := sequence_groupChars hnew henough
        unfold Enough at hfirst
        rw [List.length_append] at hfirst
        obtain ⟨first, rfl⟩ := Nat.exists_eq_succ_of_ne_zero (show first ≠ 0 by omega)
        refine ⟨first, ?_, hgroup.trans (sequence_optional (.inl ⟨_, _, _, rfl⟩) hmore)⟩
        unfold Enough
        rw [List.length_singleton] at hfirst
        omega
      · rw [chars_optional hempty] at henough ⊢
        rw [trees_optional hempty]
        exact sequence_wrapped hnew hmore henough

end Reading

/-! ### All slots -/

/-- The text of slots one after the other, behind so many placeholders. -/
def allChars (count : Nat) : List Slot → List Char
  | [] => []
  | slot :: rest => slot.chars count ++ allChars (count + slot.count) rest

/-- The items that slots are read as, behind so many placeholders and groups. -/
def allTrees (count groups : Nat) : List Slot → List PatternTree
  | [] => []
  | slot :: rest =>
    slot.trees count groups ++ allTrees (count + slot.count) (groups + slot.groups) rest

/-- No quoted text begins with a question mark. -/
theorem head?_quoted (text : List Char) {more : List Char} (hmore : more.head? ≠ some '?') :
    (quoted text ++ more).head? ≠ some '?' := by
  cases text with
  | nil => exact hmore
  | cons c text =>
      rw [quoted, List.flatMap_cons, Pattern.quoteChar]
      split
      · exact fun h => absurd (Option.some.inj h) (by decide)
      · rename_i hmeta
        intro h
        obtain rfl : c = '?' := Option.some.inj h
        exact hmeta (by decide)

theorem head?_allChars (count : Nat) (slots : List Slot) :
    (allChars count slots ++ ['$']).head? ≠ some '?' := by
  induction slots generalizing count with
  | nil => exact fun h => absurd (Option.some.inj h) (by decide)
  | cons slot rest ih =>
      have hgroup : ∀ fragment count (more : List Char),
          (groupChars fragment count ++ more).head? ≠ some '?' := fun _ _ _ h =>
        absurd (Option.some.inj h) (by decide)
      rw [allChars, List.append_assoc]
      cases slot with
      | literal lead token => exact head?_quoted _ (ih _)
      | required lead token fragment =>
          rw [chars, List.append_assoc]
          exact head?_quoted _ (hgroup _ _ _)
      | optional lead trail token fragment =>
          by_cases hempty : lead = [] ∧ trail = []
          · obtain ⟨rfl, rfl⟩ := hempty
            rw [chars, List.append_assoc]
            exact hgroup _ _ _
          · rw [chars_optional hempty]
            exact fun h => absurd (Option.some.inj h) (by decide)

section Reading

variable {bound count groups : Nat} {names : List String} {items : List PatternTree}

/-- A slot that takes a name is the one of a placeholder, and takes the name of its group. -/
theorem eq_of_mem_names {slot : Slot} {name : String} (h : name ∈ slot.names count) :
    name = ActiveCommand.Draft.groupName count ∧ slot.count = 1 := by
  cases slot with
  | literal lead token => cases h
  | required lead token fragment => exact ⟨List.mem_singleton.mp h, rfl⟩
  | optional lead trail token fragment => exact ⟨List.mem_singleton.mp h, rfl⟩

/-- Slots are read one after the other, up to the sign for the end of the text. -/
theorem sequence_slots (slots : List Slot)
    (hnames : ∀ name ∈ names, ∃ other < count, name = ActiveCommand.Draft.groupName other)
    (henough : Enough bound (allChars count slots ++ ['$'])) :
    ∃ less later taken, Enough less ['$'] ∧
      sequence bound items ⟨allChars count slots ++ ['$'], false, groups, names⟩ =
        sequence less ((allTrees count groups slots).reverse ++ items)
          ⟨['$'], false, later, taken⟩ := by
  induction slots generalizing bound count groups names items with
  | nil => exact ⟨bound, groups, names, henough, rfl⟩
  | cons slot rest ih =>
      have hfree : ∀ name ∈ slot.names count, name ∉ names := by
        intro name hname hmem
        obtain ⟨other, hother, hsame⟩ := hnames name hmem
        have := groupName_injective (hsame.symm.trans (eq_of_mem_names hname).1)
        omega
      have hlater : ∀ name ∈ slot.names count ++ names, ∃ other < count + slot.count,
          name = ActiveCommand.Draft.groupName other := by
        intro name hname
        rcases List.mem_append.mp hname with hname | hname
        · obtain ⟨hown, hcount⟩ := eq_of_mem_names hname
          exact ⟨count, by omega, hown⟩
        · obtain ⟨other, hother, hsame⟩ := hnames name hname
          exact ⟨other, Nat.lt_add_right _ hother, hsame⟩
      rw [allChars, List.append_assoc] at henough ⊢
      obtain ⟨less, hless, hslot⟩ :=
        sequence_slot slot hfree (head?_allChars _ rest) henough
      obtain ⟨last, later, taken, hlast, hrest⟩ := ih hlater hless
      refine ⟨last, later, taken, hlast, (hslot.trans hrest).trans ?_⟩
      rw [allTrees, List.reverse_append, List.append_assoc]

/-- The text of all slots between the signs for the beginning and the end of the text. -/
def wholeText (slots : List Slot) : List Char := '^' :: (allChars 0 slots ++ ['$'])

/-- The tree of all slots between the assertions of the beginning and the end of the text. -/
def wholeTree (slots : List Slot) : PatternTree :=
  .ofSequence (.anchor .lineStart :: (allTrees 0 0 slots ++ [.anchor .lineEnd]))

/-- The sign for the beginning of the text is the first item. -/
theorem sequence_lineStart (text : List Char) :
    sequence (bound + 1) [] ⟨'^' :: text, false, groups, names⟩ =
      sequence bound [.anchor .lineStart] ⟨text, false, groups, names⟩ :=
  sequence_item (by decide) rfl

/-- The sign for the end of the text is the last item. -/
theorem sequence_lineEnd (henough : Enough bound ['$']) :
    sequence bound items ⟨['$'], false, groups, names⟩ =
      some (.ofSequence (items.reverse ++ [.anchor .lineEnd]), ⟨[], false, groups, names⟩) := by
  obtain ⟨bound, rfl⟩ : ∃ fewer, bound = fewer + 2 :=
    Nat.exists_eq_add_of_le'
      (by unfold Enough at henough; rw [List.length_singleton] at henough; omega)
  apply (sequence_item (by decide) rfl).trans
  rw [PatternReader.sequence, bind_run (space_run _)]
  change some (PatternTree.ofSequence _, _) = _
  rw [List.reverse_cons]
  rfl

/-- The text of all slots is read to its end as their tree. -/
theorem alternatives_wholeText (slots : List Slot) :
    ∃ after, alternatives (3 * (wholeText slots).length + 3) ⟨wholeText slots, false, 0, []⟩ =
      some ([wholeTree slots], after) ∧ after.rest = [] := by
  obtain ⟨less, later, taken, hless, hslots⟩ :=
    @sequence_slots (3 * ((allChars 0 slots ++ ['$']).length + 1) + 1) 0 0 []
      [.anchor .lineStart] slots (by simp) (by unfold Enough; omega)
  rw [sequence_lineEnd hless] at hslots
  have htree : PatternTree.ofSequence (((allTrees 0 0 slots).reverse ++
      [PatternTree.anchor .lineStart]).reverse ++ [.anchor .lineEnd]) = wholeTree slots := by
    rw [List.reverse_append, List.reverse_reverse]
    rfl
  rw [htree] at hslots
  exact ⟨_, alternatives_run ((sequence_lineStart _).trans hslots) (by simp), rfl⟩

/-- Read as a pattern, the slots stand as they were put together. -/
theorem eq_wholeTree_of_read? {slots : List Slot} {text : String} {tree : PatternTree}
    (htext : text.toList = wholeText slots) (hread : PatternTree.read? text = some tree) :
    tree = wholeTree slots := by
  obtain ⟨trees, after, htrees, rfl, _⟩ := alternatives_of_read? hread
  obtain ⟨last, hwhole, _⟩ := alternatives_wholeText slots
  rw [State.start, htext, hwhole] at htrees
  cases htrees
  rfl

/-- The text of all slots is a pattern's text, if they do not nest too deeply. -/
theorem read?_eq_wholeTree {slots : List Slot} {text : String}
    (htext : text.toList = wholeText slots)
    (hdepth : (wholeTree slots).depth ≤ PatternTree.maxDepth) :
    PatternTree.read? text = some (wholeTree slots) := by
  obtain ⟨after, hwhole, hrest⟩ := alternatives_wholeText slots
  unfold PatternTree.read?
  dsimp only
  rw [htext, hwhole]
  dsimp only
  rw [hrest, if_pos]
  · rfl
  · exact Bool.and_eq_true_iff.mpr ⟨rfl, decide_eq_true hdepth⟩

end Reading

end Slot

end BotHost
