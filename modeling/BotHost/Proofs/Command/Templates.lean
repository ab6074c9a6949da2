/-
# Readings of a command's template

A message reads as a command if each token of the template is filled: a literal token by itself,
a placeholder by a word of its pattern, and a placeholder that is not required also by nothing at
all.  This module lays the tokens out as slots, the way a command's pattern is put together, and
compares what the slots spell with the fillings joined by single spaces.

The two agree but for one case.  If no token has to be there, each placeholder but the last takes
the space behind it along, so when the last one is left out and another one is not, a space stays
at the end.
-/

import BotHost.Proofs.Command.Passages
import Mathlib.Data.List.ReduceOption

namespace BotHost

namespace ActiveCommand

/-! ### Readings -/

/-- Whether a token is a placeholder that may be left out. -/
def isOptional (command : ActiveCommand) (token : String) : Bool :=
  (command.arguments.find? token).any fun argument => !argument.required

/-- What may stand for a token of the template: the token itself, a word that the pattern of the
placeholder matches in full, or nothing for a placeholder that may be left out. -/
def Fills (command : ActiveCommand) (token : String) : Option String → Prop
  | none => command.isOptional token = true
  | some word =>
    match command.arguments.find? token with
    | none => word = token
    | some argument =>
      ∃ pattern, Pattern.ofText? argument.pattern = some pattern ∧ pattern.Spells word.toList

/-- A filling for every token of the template. -/
def IsReading (command : ActiveCommand) (reading : List (Option String)) : Prop :=
  List.Forall₂ command.Fills (Text.words command.template) reading

/-- The tokens that are not left out, joined by single spaces. -/
def joined (reading : List (Option String)) : String := " ".intercalate reading.reduceOption

/-- A placeholder with its word, if it is not left out. -/
def argumentOf? (command : ActiveCommand) : String × Option String → Option (String × String)
  | (token, filling) =>
    if (command.arguments.find? token).isSome then filling.map fun word => (token, word) else none

/-- The placeholders that are not left out, with their words. -/
def filledIn (command : ActiveCommand) (reading : List (Option String)) :
    List (String × String) :=
  ((Text.words command.template).zip reading).filterMap command.argumentOf?

/-- The placeholders of the template, in order. -/
def placeholderTokens (command : ActiveCommand) : List String :=
  (Text.words command.template).filter fun token => (command.arguments.find? token).isSome

/-- The placeholders among tokens, in order. -/
def placeholdersOf (command : ActiveCommand) (tokens : List String) : List String :=
  tokens.filter fun token => (command.arguments.find? token).isSome

section Token

variable {command : ActiveCommand} {token : String} {argument : Argument}

theorem isOptional_of_none (h : command.arguments.find? token = none) :
    command.isOptional token = false := by
  rw [isOptional, h]
  rfl

theorem isOptional_of_some (h : command.arguments.find? token = some argument) :
    command.isOptional token = !argument.required := by
  rw [isOptional, h, Option.any_some]

theorem placeholdersOf_of_none (h : command.arguments.find? token = none) :
    command.placeholdersOf [token] = [] := by
  rw [placeholdersOf, List.filter_singleton, h]
  rfl

theorem placeholdersOf_of_some (h : command.arguments.find? token = some argument) :
    command.placeholdersOf [token] = [token] := by
  rw [placeholdersOf, List.filter_singleton, h]
  rfl

end Token

/-- The pattern of each placeholder is a pattern on its own, without flags, assertions about
positions and named groups. -/
def HasPlainPatterns (command : ActiveCommand) : Prop :=
  ∀ token ∈ Text.words command.template, ∀ argument,
    command.arguments.find? token = some argument →
    ∃ tree pattern, PatternTree.read? argument.pattern = some tree ∧ tree.Plain ∧
      Pattern.ofText? argument.pattern = some pattern

/-- Whether tokens may all be left out, and the last one is and another one is not. -/
def endsOpen (command : ActiveCommand) (tokens : List String) (reading : List (Option String)) :
    Bool :=
  tokens.all command.isOptional && reading.getLast? == some none &&
    !reading.reduceOption.isEmpty

/-- The text that a reading spells: its words joined by single spaces, and one more space behind
them if the reading ends open. -/
def spelled (command : ActiveCommand) (reading : List (Option String)) : String :=
  joined reading ++ if command.endsOpen (Text.words command.template) reading then " " else ""

/-! ### Laying tokens out as slots -/

/-- A placeholder with its pattern as a fragment. -/
structure Holds (command : ActiveCommand) (token : String) (argument : Argument)
    (fragment : Fragment) : Prop where
  found : command.arguments.find? token = some argument
  text : fragment.text = argument.pattern
  pattern : Pattern.ofText? argument.pattern = some fragment.pattern

/-- The space before a token, if one is needed. -/
def spaceIf (pending : Bool) : List Char := if pending then [' '] else []

/-- The slots of tokens, given whether the next one needs a space before it. -/
inductive Laid (command : ActiveCommand) : Bool → List String → List Slot → Prop where
  | nil {pending : Bool} : Laid command pending [] []
  | literal {pending : Bool} {token : String} {rest : List String} {slots : List Slot} :
      command.arguments.find? token = none → Laid command true rest slots →
      Laid command pending (token :: rest) (.literal (spaceIf pending) token :: slots)
  | required {pending : Bool} {token : String} {argument : Argument} {fragment : Fragment}
      {rest : List String} {slots : List Slot} :
      Holds command token argument fragment → argument.required = true →
      Laid command true rest slots →
      Laid command pending (token :: rest) (.required (spaceIf pending) token fragment :: slots)
  /-- A placeholder that may be left out behind other tokens, with the space before it. -/
  | following {token : String} {argument : Argument} {fragment : Fragment}
      {rest : List String} {slots : List Slot} :
      Holds command token argument fragment → argument.required = false →
      Laid command true rest slots →
      Laid command true (token :: rest) (.optional [' '] [] token fragment :: slots)
  /-- A placeholder that may be left out before other tokens, with the space behind it. -/
  | leading {token : String} {argument : Argument} {fragment : Fragment}
      {rest : List String} {slots : List Slot} :
      Holds command token argument fragment → argument.required = false → rest ≠ [] →
      Laid command false rest slots →
      Laid command false (token :: rest) (.optional [] [' '] token fragment :: slots)
  /-- A placeholder that may be left out and has no token to be separated from. -/
  | alone {token : String} {argument : Argument} {fragment : Fragment} :
      Holds command token argument fragment → argument.required = false →
      Laid command false [token] [.optional [] [] token fragment]

variable {command : ActiveCommand} {pending : Bool} {tokens : List String} {slots : List Slot}

/-- Tokens whose patterns are plain can be laid out. -/
theorem exists_laid (hplain : ∀ token ∈ tokens, ∀ argument,
      command.arguments.find? token = some argument →
      ∃ tree pattern, PatternTree.read? argument.pattern = some tree ∧ tree.Plain ∧
        Pattern.ofText? argument.pattern = some pattern) :
    ∃ slots, Laid command pending tokens slots := by
  induction tokens generalizing pending with
  | nil => exact ⟨[], .nil⟩
  | cons token rest ih =>
      obtain ⟨htoken, hrest⟩ := List.forall_mem_cons.mp hplain
      cases hfind : command.arguments.find? token with
      | none =>
          obtain ⟨slots, hslots⟩ := @ih true hrest
          exact ⟨_, .literal hfind hslots⟩
      | some argument =>
          obtain ⟨tree, pattern, hread, htree, hpattern⟩ := htoken argument hfind
          obtain ⟨fragment, htext, rfl, -⟩ := Fragment.exists_of_plain hread htree hpattern
          have hholds : Holds command token argument fragment := ⟨hfind, htext, hpattern⟩
          obtain ⟨slots, hslots⟩ := @ih true hrest
          cases hrequired : argument.required with
          | true => exact ⟨_, .required hholds hrequired hslots⟩
          | false =>
              cases pending with
              | true => exact ⟨_, .following hholds hrequired hslots⟩
              | false =>
                  by_cases hlast : rest = []
                  · subst hlast
                    exact ⟨_, .alone hholds hrequired⟩
                  · obtain ⟨slots, hslots⟩ := @ih false hrest
                    exact ⟨_, .leading hholds hrequired hlast hslots⟩

/-! ### The text that is put together -/

/-- The token of a placeholder. -/
def placeholderOf : Slot → List String
  | .literal _ _ => []
  | .required _ token _ => [token]
  | .optional _ _ token _ => [token]

theorem length_placeholderOf (slot : Slot) : (placeholderOf slot).length = slot.count := by
  cases slot <;> rfl

/-- The group of the next placeholder has the text of its pattern. -/
theorem toList_groupText (draft : Draft) (argument : Argument) :
    (draft.groupText argument).toList =
      Slot.placeholderChars draft.placeholders.length argument.pattern.toList := by
  rw [Draft.groupText, Slot.placeholderChars]
  simp [String.toList_append]

theorem quoted_nil : Slot.quoted [] = [] := rfl

theorem quoted_space : Slot.quoted [' '] = [' '] := by decide

theorem toList_separator (draft : Draft) :
    draft.separator.toList = Slot.quoted (spaceIf draft.pendingSpace) := by
  rw [Draft.separator]
  cases draft.pendingSpace <;> rfl

/-- The text that a token adds to the pattern, behind so many placeholders. -/
def tokenChars (command : ActiveCommand) (pending : Bool) (count : Nat) (token : String)
    (isLast : Bool) : List Char :=
  match command.arguments.find? token with
  | none => Slot.quoted (spaceIf pending ++ token.toList)
  | some argument =>
    if argument.required then
      Slot.quoted (spaceIf pending) ++ Slot.placeholderChars count argument.pattern.toList
    else Slot.optionalChars pending isLast (Slot.placeholderChars count argument.pattern.toList)

/-- The draft behind a token. -/
def addToken (command : ActiveCommand) (draft : Draft) (token : String) (isLast : Bool) : Draft :=
  match command.arguments.find? token with
  | none => draft.addLiteral token
  | some argument => draft.addPlaceholder token argument isLast

theorem toList_addToken (draft : Draft) (token : String) (isLast : Bool) :
    (command.addToken draft token isLast).text.toList =
      draft.text.toList ++
        command.tokenChars draft.pendingSpace draft.placeholders.length token isLast := by
  rw [addToken, tokenChars]
  cases command.arguments.find? token with
  | none =>
      change (draft.text ++ draft.separator ++ Pattern.quote _).toList = _
      rw [Slot.quoted, List.flatMap_append, String.toList_append, String.toList_append,
        toList_separator, Pattern.quote, String.toList_ofList, List.append_assoc]
      rfl
  | some argument =>
      dsimp only
      rw [Draft.addPlaceholder]
      by_cases hrequired : argument.required = true
      · rw [if_pos hrequired, if_pos hrequired]
        change (draft.text ++ draft.separator ++ draft.groupText _).toList = _
        rw [String.toList_append, String.toList_append, toList_separator, toList_groupText,
          List.append_assoc]
      rw [if_neg hrequired, if_neg hrequired, Slot.optionalChars]
      by_cases hpending : draft.pendingSpace = true
      · rw [if_pos hpending, if_pos hpending]
        simp [String.toList_append, toList_groupText, quoted_space, quoted_nil]
      rw [if_neg hpending, if_neg hpending]
      cases isLast with
      | true => simp [String.toList_append, toList_groupText]
      | false => simp [String.toList_append, toList_groupText, quoted_space, quoted_nil]

theorem addAll_cons (draft : Draft) (token : String) (rest : List String) :
    draft.addAll command.arguments (token :: rest) =
      (command.addToken draft token rest.isEmpty).addAll command.arguments rest := rfl

/-- A placeholder is listed behind the others, and ends the literal tokens at the beginning. -/
theorem addPlaceholder_collects (draft : Draft) (token : String) (argument : Argument)
    (isLast : Bool) :
    (draft.addPlaceholder token argument isLast).placeholders = draft.placeholders ++ [token] ∧
      (draft.addPlaceholder token argument isLast).leading = draft.leading ∧
      (draft.addPlaceholder token argument isLast).inLeading = false := by
  unfold Draft.addPlaceholder
  dsimp only
  split
  · exact ⟨rfl, rfl, rfl⟩
  · split
    · exact ⟨rfl, rfl, rfl⟩
    · split
      · exact ⟨rfl, rfl, rfl⟩
      · exact ⟨rfl, rfl, rfl⟩

/-- A token is collected if it is a placeholder. -/
theorem placeholders_addToken (draft : Draft) (token : String) (isLast : Bool) :
    (command.addToken draft token isLast).placeholders =
      draft.placeholders ++ command.placeholdersOf [token] := by
  rw [addToken, placeholdersOf, List.filter_singleton]
  cases command.arguments.find? token with
  | none => exact (List.append_nil _).symm
  | some argument => exact (addPlaceholder_collects draft token argument isLast).1

/-- Behind a token that has to be there, the next one needs a space before it. -/
theorem pendingSpace_addToken (draft : Draft) (token : String) (isLast : Bool) :
    (command.addToken draft token isLast).pendingSpace =
      (draft.pendingSpace || !command.isOptional token) := by
  rw [addToken, isOptional]
  cases command.arguments.find? token with
  | none => exact (Bool.or_true _).symm
  | some argument =>
      dsimp only
      rw [Draft.addPlaceholder, Option.any_some, Bool.not_not]
      cases argument.required with
      | true => exact (Bool.or_true _).symm
      | false =>
          rw [if_neg Bool.false_ne_true, Bool.or_false]
          split
          · rfl
          · split <;> rfl

/-- The placeholders are collected. -/
theorem placeholders_addAll (draft : Draft) (tokens : List String) :
    (draft.addAll command.arguments tokens).placeholders =
      draft.placeholders ++ command.placeholdersOf tokens := by
  induction tokens generalizing draft with
  | nil => exact (List.append_nil _).symm
  | cons token rest ih =>
      rw [addAll_cons, ih, placeholders_addToken, List.append_assoc, placeholdersOf, placeholdersOf,
        ← List.filter_append, List.singleton_append, placeholdersOf]

/-- A placeholder adds the group of its fragment. -/
theorem Holds.tokenChars {token : String} {argument : Argument} {fragment : Fragment}
    (h : Holds command token argument fragment) (pending : Bool) (count : Nat) (isLast : Bool) :
    command.tokenChars pending count token isLast =
      if argument.required then
        Slot.quoted (spaceIf pending) ++ Slot.groupChars fragment count
      else Slot.optionalChars pending isLast (Slot.groupChars fragment count) := by
  rw [ActiveCommand.tokenChars, h.found]
  dsimp only
  rw [← h.text]
  rfl

/-- Drafts are put together further from tokens as from slots. -/
def Assembles (command : ActiveCommand) (pending : Bool) (tokens : List String)
    (slots : List Slot) : Prop :=
  ∀ draft : Draft, draft.pendingSpace = pending →
    (draft.addAll command.arguments tokens).text.toList =
        draft.text.toList ++ Slot.allChars draft.placeholders.length slots ∧
      (draft.addAll command.arguments tokens).placeholders =
        draft.placeholders ++ slots.flatMap placeholderOf

/-- What one token adds to a draft stands before what the tokens behind it add. -/
theorem Assembles.behind {later : Bool} {token : String} {rest : List String} {slot : Slot}
    (h : Assembles command later rest slots)
    (hlater : (pending || !command.isOptional token) = later)
    (hchars : ∀ count, slot.chars count = command.tokenChars pending count token rest.isEmpty)
    (hplaceholder : placeholderOf slot = command.placeholdersOf [token]) :
    Assembles command pending (token :: rest) (slot :: slots) := by
  rintro draft rfl
  obtain ⟨htext, hplaceholders⟩ := h (command.addToken draft token rest.isEmpty)
    ((pendingSpace_addToken _ _ _).trans hlater)
  rw [addAll_cons, htext, hplaceholders, toList_addToken, placeholders_addToken, ← hplaceholder,
    ← hchars, List.length_append, length_placeholderOf, Slot.allChars, List.flatMap_cons,
    List.append_assoc, List.append_assoc]
  exact ⟨rfl, rfl⟩

/-- The draft of a command is the text of its slots. -/
theorem assembles_of_laid (h : Laid command pending tokens slots) :
    Assembles command pending tokens slots := by
  have hnil {pending : Bool} : Assembles command pending [] [] := fun draft _ =>
    ⟨(List.append_nil _).symm, (List.append_nil _).symm⟩
  induction h with
  | nil => exact hnil
  | literal hfind _ ih =>
      refine ih.behind ?_ (fun count => ?_) ?_
      · rw [isOptional_of_none hfind]
        exact Bool.or_true _
      · rw [tokenChars, hfind]
        rfl
      · exact (placeholdersOf_of_none hfind).symm
  | required hholds hrequired _ ih =>
      refine ih.behind ?_ (fun count => ?_) (placeholdersOf_of_some hholds.found).symm
      · rw [isOptional_of_some hholds.found, hrequired]
        exact Bool.or_true _
      · rw [hholds.tokenChars, if_pos hrequired]
        rfl
  | following hholds hrequired _ ih =>
      refine ih.behind rfl (fun count => ?_) (placeholdersOf_of_some hholds.found).symm
      rw [hholds.tokenChars, if_neg (by simp [hrequired]), Slot.chars_optional (by simp)]
      rfl
  | leading hholds hrequired hrest _ ih =>
      refine ih.behind ?_ (fun count => ?_) (placeholdersOf_of_some hholds.found).symm
      · rw [isOptional_of_some hholds.found, hrequired]
        rfl
      · rw [hholds.tokenChars, if_neg (by simp [hrequired]), Slot.chars_optional (by simp),
          Slot.optionalChars, if_neg Bool.false_ne_true, if_neg (by simpa using hrest)]
  | alone hholds hrequired =>
      refine hnil.behind rfl (fun count => ?_) (placeholdersOf_of_some hholds.found).symm
      rw [hholds.tokenChars, if_neg (by simp [hrequired])]
      rfl

/-- The literal tokens before the first placeholder are collected. -/
theorem leading_addAll (draft : Draft) (tokens : List String) :
    (draft.addAll command.arguments tokens).leading =
      draft.leading ++ if draft.inLeading then
        tokens.takeWhile fun token => (command.arguments.find? token).isNone else [] := by
  induction tokens generalizing draft with
  | nil => cases draft.inLeading <;> exact (List.append_nil _).symm
  | cons token rest ih =>
      rw [addAll_cons, ih, List.takeWhile_cons, addToken]
      cases command.arguments.find? token with
      | none =>
          rw [Draft.addLiteral]
          cases hleading : draft.inLeading with
          | true => simp
          | false => simp
      | some argument =>
          obtain ⟨_, hleading, hends⟩ := addPlaceholder_collects draft token argument rest.isEmpty
          dsimp only
          rw [hleading, hends]
          cases draft.inLeading <;> rfl

/-! ### Fillings of tokens and of slots -/

/-- A filling as the characters that a slot takes. -/
abbrev charsOf (filling : Option String) : Option (List Char) := filling.map String.toList

theorem Holds.fills_some {token : String} {argument : Argument} {fragment : Fragment}
    (h : Holds command token argument fragment) (word : String) :
    command.Fills token (some word) ↔ fragment.pattern.Spells word.toList := by
  rw [Fills, h.found]
  constructor
  · rintro ⟨pattern, hpattern, hspells⟩
    obtain rfl := Option.some.inj (h.pattern.symm.trans hpattern)
    exact hspells
  · exact fun hspells => ⟨fragment.pattern, h.pattern, hspells⟩

theorem Holds.fills_none {token : String} {argument : Argument} {fragment : Fragment}
    (h : Holds command token argument fragment) :
    command.Fills token none ↔ argument.required = false := by
  rw [Fills, isOptional_of_some h.found, Bool.not_eq_true']

/-- A filling of a token is one of its slot. -/
theorem fills_iff_of_optional {token : String} {argument : Argument} {fragment : Fragment}
    (h : Holds command token argument fragment) (hrequired : argument.required = false)
    (lead trail : List Char) (filling : Option String) :
    (Slot.optional lead trail token fragment).Fills (charsOf filling) ↔
      command.Fills token filling := by
  cases filling with
  | none => exact iff_of_true (.inl rfl) (h.fills_none.mpr hrequired)
  | some word =>
      rw [h.fills_some]
      constructor
      · rintro (hnone | ⟨_, hword, hspells⟩)
        · cases hnone
        · cases hword
          exact hspells
      · exact fun hspells => .inr ⟨_, rfl, hspells⟩

theorem fills_iff_of_required {token : String} {argument : Argument} {fragment : Fragment}
    (h : Holds command token argument fragment) (hrequired : argument.required = true)
    (lead : List Char) (filling : Option String) :
    (Slot.required lead token fragment).Fills (charsOf filling) ↔
      command.Fills token filling := by
  cases filling with
  | none =>
      rw [h.fills_none, hrequired]
      constructor
      · rintro ⟨_, ⟨⟩, _⟩
      · rintro ⟨⟩
  | some word =>
      rw [h.fills_some]
      constructor
      · rintro ⟨_, hword, hspells⟩
        cases hword
        exact hspells
      · exact fun hspells => ⟨_, rfl, hspells⟩

theorem fills_iff_of_literal {token : String} (h : command.arguments.find? token = none)
    (lead : List Char) (filling : Option String) :
    (Slot.literal lead token).Fills (charsOf filling) ↔ command.Fills token filling := by
  cases filling with
  | none =>
      rw [Fills, isOptional, h]
      constructor
      · rintro ⟨⟩
      · rintro ⟨⟩
  | some word =>
      rw [Fills, h]
      constructor
      · exact fun hword => String.toList_inj.mp (Option.some.inj hword)
      · exact fun hword => congrArg (fun word : String => some word.toList) hword

/-- The slots of tokens are filled by what fills the tokens. -/
theorem forall₂_fills_iff (h : Laid command pending tokens slots) :
    List.Forall₂ (fun slot token => ∀ filling,
      slot.Fills (charsOf filling) ↔ command.Fills token filling) slots tokens := by
  induction h with
  | nil => exact .nil
  | literal hfind _ ih => exact .cons (fills_iff_of_literal hfind _) ih
  | required hholds hrequired _ ih => exact .cons (fills_iff_of_required hholds hrequired _) ih
  | following hholds hrequired _ ih => exact .cons (fills_iff_of_optional hholds hrequired _ _) ih
  | leading hholds hrequired _ _ ih =>
      exact .cons (fills_iff_of_optional hholds hrequired _ _) ih
  | alone hholds hrequired => exact .cons (fills_iff_of_optional hholds hrequired _ _) .nil

/-- The readings of tokens are the fillings of their slots. -/
theorem fills_iff_of_laid (h : Laid command pending tokens slots) (reading : List (Option String)) :
    List.Forall₂ Slot.Fills slots (reading.map charsOf) ↔
      List.Forall₂ command.Fills tokens reading := by
  have hslots := forall₂_fills_iff h
  clear h
  induction hslots generalizing reading with
  | nil => cases reading <;> simp
  | cons hslot _ ih =>
      cases reading with
      | nil => simp
      | cons filling reading =>
          rw [List.map_cons, List.forall₂_cons, List.forall₂_cons]
          exact and_congr (hslot filling) (ih reading)

/-! ### What readings spell -/

/-- All words but the first bring the space before them. -/
theorem toList_intercalate_space (word : String) (words : List String) :
    (" ".intercalate (word :: words)).toList =
      word.toList ++ words.flatMap fun word => ' ' :: word.toList := by
  rw [String.toList_intercalate, List.map_cons]
  change [' '].intercalate _ = _
  induction words generalizing word with
  | nil => rw [List.map_nil, List.intercalate_singleton, List.flatMap_nil, List.append_nil]
  | cons next words ih =>
      rw [List.map_cons, List.intercalate_cons_cons, ih, List.flatMap_cons, List.append_assoc]
      rfl

/-- All words of a reading but the first bring the space before them. -/
theorem toList_joined {reading : List (Option String)} {word : String} {words : List String}
    (h : reading.reduceOption = word :: words) :
    (joined reading).toList = word.toList ++ words.flatMap fun word => ' ' :: word.toList := by
  rw [joined, h, toList_intercalate_space]

/-- Behind other tokens, every token that is not left out brings the space before it. -/
theorem spellAll_behind (h : Laid command pending tokens slots) (hpending : pending = true)
    {reading : List (Option String)} (hlength : reading.length = tokens.length) :
    Slot.spellAll slots (reading.map charsOf) =
      reading.reduceOption.flatMap fun word => ' ' :: word.toList := by
  induction h generalizing reading with
  | nil =>
      obtain rfl := List.length_eq_zero_iff.mp hlength
      rfl
  | literal _ _ ih =>
      subst hpending
      obtain ⟨filling, reading, rfl⟩ := List.exists_cons_of_length_eq_add_one hlength
      have hrest := ih rfl (Nat.succ.inj hlength)
      cases filling with
      | none => exact hrest
      | some word => exact congrArg (' ' :: word.toList ++ ·) hrest
  | required _ _ _ ih =>
      subst hpending
      obtain ⟨filling, reading, rfl⟩ := List.exists_cons_of_length_eq_add_one hlength
      have hrest := ih rfl (Nat.succ.inj hlength)
      cases filling with
      | none => exact hrest
      | some word => exact congrArg (' ' :: word.toList ++ ·) hrest
  | following _ _ _ ih =>
      obtain ⟨filling, reading, rfl⟩ := List.exists_cons_of_length_eq_add_one hlength
      have hrest := ih rfl (Nat.succ.inj hlength)
      cases filling with
      | none => exact hrest
      | some word =>
          apply (congrArg (' ' :: word.toList ++ [] ++ ·) hrest).trans
          rw [List.append_nil]
          rfl
  | leading _ _ _ _ _ => cases hpending
  | alone _ _ => cases hpending

/-- If every token is left out, every one may be. -/
theorem all_isOptional_of_reduceOption_eq_nil {reading : List (Option String)}
    (hreading : List.Forall₂ command.Fills tokens reading) (h : reading.reduceOption = []) :
    tokens.all command.isOptional = true := by
  induction hreading with
  | nil => rfl
  | @cons token filling tokens reading hfills _ ih =>
      cases filling with
      | none => rw [List.all_cons, hfills, ih h, Bool.true_and]
      | some word =>
          rw [List.reduceOption_cons_of_some] at h
          cases h

/-- If every token is left out and there is one, the last one is. -/
theorem getLast?_of_reduceOption_eq_nil {reading : List (Option String)} (hreading : reading ≠ [])
    (h : reading.reduceOption = []) : reading.getLast? = some none := by
  rw [List.getLast?_eq_some_getLast hreading]
  cases hlast : reading.getLast hreading with
  | none => rfl
  | some word =>
      have hmem : word ∈ reading.reduceOption :=
        List.reduceOption_mem_iff.mpr (hlast ▸ List.getLast_mem hreading)
      rw [h] at hmem
      cases hmem

theorem endsOpen_eq_false_of_isOptional {token : String} {rest : List String}
    (h : command.isOptional token = false) (reading : List (Option String)) :
    command.endsOpen (token :: rest) reading = false := by
  rw [endsOpen, List.all_cons, h, Bool.false_and, Bool.false_and, Bool.false_and]

/-- Whether the fillings of several tokens end open does not depend on a first one that may be left
out, but for there being a word at all. -/
theorem endsOpen_cons {token : String} {rest : List String} {reading : List (Option String)}
    (hoptional : command.isOptional token = true) (hpresent : reading ≠ [])
    (filling : Option String) :
    command.endsOpen (token :: rest) (filling :: reading) =
      (rest.all command.isOptional && reading.getLast? == some none &&
        !(filling :: reading).reduceOption.isEmpty) := by
  have hlast : (filling :: reading).getLast? = reading.getLast? := by
    rw [List.getLast?_cons, List.getLast?_eq_some_getLast hpresent]
    rfl
  rw [endsOpen, List.all_cons, hoptional, Bool.true_and, hlast]

/-- The space behind a word separates it from the next one, or else the fillings end open. -/
theorem toList_joined_behind_word {token word : String} {rest : List String}
    {reading : List (Option String)} (hoptional : command.isOptional token = true)
    (hpresent : reading ≠ []) (hreading : List.Forall₂ command.Fills rest reading) :
    word.toList ++ [' '] ++ ((joined reading).toList ++
        if command.endsOpen rest reading then [' '] else []) =
      (joined (some word :: reading)).toList ++
        if command.endsOpen (token :: rest) (some word :: reading) then [' '] else [] := by
  rw [endsOpen_cons hoptional hpresent, endsOpen,
    toList_joined (List.reduceOption_cons_of_some word reading), List.reduceOption_cons_of_some]
  cases hwords : reading.reduceOption with
  | nil =>
      rw [all_isOptional_of_reduceOption_eq_nil hreading hwords,
        getLast?_of_reduceOption_eq_nil hpresent hwords, joined, hwords]
      simp
  | cons next words =>
      rw [toList_joined hwords, List.flatMap_cons]
      simp

/-- The fillings of all tokens spell the words joined by single spaces, and one more space if the
reading ends open. -/
theorem spellAll_of_laid (h : Laid command pending tokens slots) (hpending : pending = false)
    {reading : List (Option String)} (hreading : List.Forall₂ command.Fills tokens reading) :
    Slot.spellAll slots (reading.map charsOf) =
      (joined reading).toList ++ if command.endsOpen tokens reading then [' '] else [] := by
  -- A token that has to be there is followed by tokens that bring the space before them.
  have hbehind : ∀ {token : String} {rest : List String} {slots : List Slot}
      {word : String} {reading : List (Option String)}, command.isOptional token = false →
      Laid command true rest slots → List.Forall₂ command.Fills rest reading →
      word.toList ++ Slot.spellAll slots (reading.map charsOf) =
        (joined (some word :: reading)).toList ++
          if command.endsOpen (token :: rest) (some word :: reading) then [' '] else [] := by
    intro token rest slots word reading hoptional hslots hreading
    rw [spellAll_behind hslots rfl hreading.length_eq.symm,
      toList_joined (List.reduceOption_cons_of_some _ _),
      endsOpen_eq_false_of_isOptional hoptional, if_neg Bool.false_ne_true, List.append_nil]
  induction h generalizing reading with
  | nil =>
      cases hreading
      rfl
  | @literal _ token rest slots hfind hslots _ =>
      subst hpending
      obtain _ | @⟨_, filling, _, _, hfills, hreading⟩ := hreading
      have hoptional : command.isOptional token = false := isOptional_of_none hfind
      cases filling with
      | none => exact absurd (hoptional.symm.trans hfills) Bool.false_ne_true
      | some word => exact hbehind hoptional hslots hreading
  | @required _ token argument fragment rest slots hholds hrequired hslots _ =>
      subst hpending
      obtain _ | @⟨_, filling, _, _, hfills, hreading⟩ := hreading
      have hoptional : command.isOptional token = false := by
        rw [isOptional_of_some hholds.found, hrequired]
        rfl
      cases filling with
      | none => exact absurd (hoptional.symm.trans hfills) Bool.false_ne_true
      | some word => exact hbehind hoptional hslots hreading
  | following _ _ _ _ => cases hpending
  | @leading token argument fragment rest slots hholds hrequired hrest hslots ih =>
      obtain _ | @⟨_, filling, _, reading, _, hreading⟩ := hreading
      have hoptional : command.isOptional token = true := hholds.fills_none.mpr hrequired
      have hpresent : reading ≠ [] := by
        rintro rfl
        exact hrest (List.length_eq_zero_iff.mp hreading.length_eq)
      have hrecursion := ih rfl hreading
      cases filling with
      | none =>
          apply hrecursion.trans
          rw [endsOpen_cons hoptional hpresent, endsOpen, joined, joined,
            List.reduceOption_cons_of_none]
      | some word =>
          change word.toList ++ [' '] ++ _ = _
          rw [hrecursion]
          exact toList_joined_behind_word hoptional hpresent hreading
  | alone hholds hrequired =>
      obtain _ | @⟨_, filling, _, _, _, ⟨⟩⟩ := hreading
      cases filling with
      | none =>
          rw [endsOpen]
          simp [joined, List.reduceOption_cons_of_none, Slot.spellAll, Slot.spell, charsOf]
      | some word =>
          rw [toList_joined (List.reduceOption_cons_of_some _ _), endsOpen]
          simp [Slot.spellAll, Slot.spell, charsOf]

/-! ### The placeholders that are filled -/

/-- A placeholder with the characters that fill it, if there are any. -/
def withWord (entry : String × Option (List Char)) : Option (String × String) :=
  entry.2.map fun word => (entry.1, String.ofList word)

theorem withWord_charsOf {token : String} (filling : Option String)
    (h : (command.arguments.find? token).isSome = true) :
    withWord (token, charsOf filling) = command.argumentOf? (token, filling) := by
  rw [argumentOf?, if_pos h, withWord, charsOf, Option.map_map]
  congr 1
  funext word
  exact congrArg (token, ·) String.ofList_toList

theorem length_argument (slot : Slot) (filling : Option (List Char)) :
    (slot.argument filling).length = slot.count := by
  cases slot <;> rfl

/-- A slot holds the placeholder of its token, with what fills it. -/
theorem forall₂_argumentOf? (h : Laid command pending tokens slots) :
    List.Forall₂ (fun slot token => ∀ filling,
      ((placeholderOf slot).zip (slot.argument (charsOf filling))).filterMap withWord =
        (command.argumentOf? (token, filling)).toList) slots tokens := by
  have hplaceholder : ∀ {token : String} {argument : Argument} {fragment : Fragment},
      Holds command token argument fragment → ∀ filling,
      [(token, charsOf filling)].filterMap withWord =
        (command.argumentOf? (token, filling)).toList := by
    intro token argument fragment hholds filling
    rw [← withWord_charsOf filling (by rw [hholds.found]; rfl), List.filterMap_cons]
    cases withWord (token, charsOf filling) <;> rfl
  induction h with
  | nil => exact .nil
  | literal hfind _ ih =>
      refine .cons (fun filling => ?_) ih
      rw [argumentOf?, hfind]
      rfl
  | required hholds _ _ ih => exact .cons (hplaceholder hholds) ih
  | following hholds _ _ ih => exact .cons (hplaceholder hholds) ih
  | leading hholds _ _ _ ih => exact .cons (hplaceholder hholds) ih
  | alone hholds _ => exact .cons (hplaceholder hholds) .nil

/-- The fillings of the placeholders among the slots are those of the placeholders among the
tokens. -/
theorem filterMap_withWord (h : Laid command pending tokens slots)
    (reading : List (Option String)) :
    ((slots.flatMap placeholderOf).zip (Slot.allArguments slots (reading.map charsOf))).filterMap
        withWord = (tokens.zip reading).filterMap command.argumentOf? := by
  have hslots := forall₂_argumentOf? h
  clear h
  induction hslots generalizing reading with
  | nil => rfl
  | @cons slot token slots tokens hslot _ ih =>
      cases reading with
      | nil =>
          change ((_ : List String).zip []).filterMap withWord = _
          rw [List.zip_nil_right, List.zip_nil_right, List.filterMap_nil, List.filterMap_nil]
      | cons filling reading =>
          rw [List.flatMap_cons, List.map_cons, Slot.allArguments,
            List.zip_append (by rw [length_placeholderOf, length_argument]),
            List.filterMap_append, hslot, ih, List.zip_cons_cons, List.filterMap_cons]
          cases command.argumentOf? (token, filling) <;> rfl

/-- The placeholders that are filled are among those of the template, in the same order. -/
theorem filled_sublist (tokens : List String) (reading : List (Option String)) :
    (((tokens.zip reading).filterMap command.argumentOf?).map Prod.fst).Sublist
      (tokens.filter fun token => (command.arguments.find? token).isSome) := by
  induction tokens generalizing reading with
  | nil => exact .refl _
  | cons token tokens ih =>
      cases reading with
      | nil => exact List.nil_sublist _
      | cons filling reading =>
          rw [List.zip_cons_cons, List.filterMap_cons, List.filter_cons, argumentOf?]
          cases (command.arguments.find? token).isSome with
          | false => exact ih reading
          | true =>
              cases filling with
              | none => exact (ih reading).cons token
              | some word => exact (ih reading).cons_cons token

end ActiveCommand

end BotHost
