/-
# Commands without placeholders

A template of which no token is a placeholder matches one text: its tokens joined by single spaces.
The tokens may hold any signs that have a meaning in patterns, and may be separated by any blanks.

That the command compiles at all is read off its slots: their text is the one of a pattern unless it
nests too deeply, and the pattern is small enough or it is not.
-/

import BotHost.Proofs.Command.Matching

namespace BotHost

/-! ### Patterns that are too large -/

namespace Pattern

end Pattern

namespace PatternTree

/-- Items nest as deep as the deepest one. -/
theorem depthOfItems_le_iff {items : List PatternTree} {bound : Nat} :
    depthOfItems items ≤ bound ↔ ∀ item ∈ items, item.depth ≤ bound := by
  induction items with
  | nil => simp [depthOfItems]
  | cons item rest ih => rw [depthOfItems, Nat.max_le, ih, List.forall_mem_cons]

/-- A sequence nests one level deeper than its items at most. -/
theorem depth_ofSequence_le {items : List PatternTree} {bound : Nat}
    (h : ∀ item ∈ items, item.depth ≤ bound) : (ofSequence items).depth ≤ bound + 1 := by
  match items with
  | [] => exact Nat.zero_le _
  | [item] => exact Nat.le_succ_of_le (h item List.mem_cons_self)
  | first :: second :: rest =>
      rw [ofSequence_cons_cons, depth]
      exact Nat.succ_le_succ (depthOfItems_le_iff.mpr h)

end PatternTree

namespace Slot

/-- The whole tree nests as deep as its slots, or one level deeper. -/
theorem depth_wholeTree_le {slots : List Slot} {bound : Nat}
    (h : ∀ item ∈ allTrees 0 0 slots, item.depth ≤ bound) :
    (wholeTree slots).depth ≤ bound + 1 := by
  refine PatternTree.depth_ofSequence_le (List.forall_mem_cons.mpr ⟨Nat.zero_le _, ?_⟩)
  exact List.forall_mem_append.mpr ⟨h, List.forall_mem_singleton.mpr (Nat.zero_le _)⟩

/-- The text of all slots is the one of their pattern, unless this is too large. -/
theorem ofText?_eq_wholePattern {slots : List Slot} {text : String}
    (htext : text.toList = wholeText slots)
    (hdepth : (wholeTree slots).depth ≤ PatternTree.maxDepth) :
    Pattern.ofText? text =
      if (wholePattern slots).isSmall then some (wholePattern slots) else none := by
  rw [Pattern.ofText?, read?_eq_wholeTree htext hdepth]
  change ((wholeTree slots).meaning? .initial).bind _ = _
  rw [meaning?_wholeTree]
  rfl

end Slot

namespace ActiveCommand

variable {command : ActiveCommand} {tokens : List String}

/-- A command compiles if and only if the pattern of its slots is small enough. -/
theorem compile_eq_of_laid {slots : List Slot}
    (h : Laid command false (Text.words command.template) slots)
    (hwords : Text.words command.template ≠ [])
    (hdepth : (Slot.wholeTree slots).depth ≤ PatternTree.maxDepth) :
    command.compile =
      if (Slot.wholePattern slots).isSmall then
        .ok ⟨command.template, command.patternText, Slot.wholePattern slots,
          " ".intercalate command.draft.leading, command.draft.placeholders⟩
      else .error (.invalidPattern command.template) := by
  have hempty : ¬ (Text.words command.template).isEmpty = true := by
    rw [List.isEmpty_iff]
    exact hwords
  rw [compile, if_neg hempty, Slot.ofText?_eq_wholePattern (toList_patternText h) hdepth]
  cases (Slot.wholePattern slots).isSmall <;> rfl

/-! ### Templates without placeholders -/

/-- The pattern of a text, from the beginning of a message to its end. -/
def literalPattern (text : String) : Pattern :=
  .ofSequence (.assertion .textStart ::
    (text.toList.map Slot.letterPattern ++ [.assertion .textEnd]))

/-- The slots of literal tokens, given whether the first one needs a space before it. -/
def literalSlots (pending : Bool) : List String → List Slot
  | [] => []
  | token :: rest => .literal (spaceIf pending) token :: literalSlots true rest

theorem laid_literalSlots (hliteral : ∀ token ∈ tokens, command.arguments.find? token = none)
    (pending : Bool) : Laid command pending tokens (literalSlots pending tokens) := by
  induction tokens generalizing pending with
  | nil => exact .nil
  | cons token rest ih =>
      obtain ⟨htoken, hrest⟩ := List.forall_mem_cons.mp hliteral
      exact .literal htoken (ih hrest true)

/-- Behind other tokens, each literal token is its characters behind a space. -/
theorem allTrees_literalSlots_behind (count groups : Nat) (tokens : List String) :
    Slot.allTrees count groups (literalSlots true tokens) =
      (tokens.flatMap fun token => ' ' :: token.toList).map Slot.letter := by
  induction tokens generalizing count groups with
  | nil => rfl
  | cons token rest ih =>
      rw [literalSlots, Slot.allTrees, ih, List.flatMap_cons, List.map_append]
      rfl

/-- Literal tokens are the characters of their words joined by single spaces. -/
theorem allTrees_literalSlots (tokens : List String) :
    Slot.allTrees 0 0 (literalSlots false tokens) =
      (" ".intercalate tokens).toList.map Slot.letter := by
  cases tokens with
  | nil =>
      rw [String.intercalate_nil]
      rfl
  | cons token rest =>
      rw [literalSlots, Slot.allTrees, allTrees_literalSlots_behind, toList_intercalate_space,
        List.map_append]
      rfl

theorem wholePattern_literalSlots (tokens : List String) :
    Slot.wholePattern (literalSlots false tokens) = literalPattern (" ".intercalate tokens) := by
  have hmeanings := Slot.meanings?_allTrees (literalSlots false tokens) 0 0
  rw [allTrees_literalSlots, Slot.meanings?_letters] at hmeanings
  obtain ⟨hpatterns, _⟩ := Prod.mk.inj (Option.some.inj hmeanings)
  rw [Slot.wholePattern, literalPattern, hpatterns]

theorem depth_literalSlots (tokens : List String) :
    (Slot.wholeTree (literalSlots false tokens)).depth ≤ PatternTree.maxDepth := by
  refine Nat.le_trans (@Slot.depth_wholeTree_le _ 0 ?_) (by decide)
  rw [allTrees_literalSlots]
  intro item hitem
  obtain ⟨c, _, rfl⟩ := List.mem_map.mp hitem
  exact Nat.le_refl 0

/-- A command without placeholders compiles if and only if the pattern of its text is small
enough. -/
theorem compile_eq_of_literals (hwords : Text.words command.template ≠ [])
    (hliteral : ∀ token ∈ Text.words command.template, command.arguments.find? token = none) :
    command.compile =
      if (literalPattern (" ".intercalate (Text.words command.template))).isSmall then
        .ok ⟨command.template, command.patternText,
          literalPattern (" ".intercalate (Text.words command.template)),
          " ".intercalate command.draft.leading, command.draft.placeholders⟩
      else .error (.invalidPattern command.template) := by
  rw [compile_eq_of_laid (laid_literalSlots hliteral false) hwords (depth_literalSlots _),
    wholePattern_literalSlots]

/-- Literal tokens are filled by themselves only. -/
theorem forall₂_fills_literals_iff
    (hliteral : ∀ token ∈ tokens, command.arguments.find? token = none)
    {reading : List (Option String)} :
    List.Forall₂ command.Fills tokens reading ↔ reading = tokens.map some := by
  induction tokens generalizing reading with
  | nil => rw [List.forall₂_nil_left_iff, List.map_nil]
  | cons token rest ih =>
      obtain ⟨htoken, hrest⟩ := List.forall_mem_cons.mp hliteral
      have hfills : ∀ filling, command.Fills token filling ↔ filling = some token := by
        intro filling
        cases filling with
        | none => simp [Fills, isOptional, htoken]
        | some word => simp [Fills, htoken]
      rw [List.forall₂_cons_left_iff, List.map_cons]
      simp only [hfills, ih hrest]
      constructor
      · rintro ⟨_, _, rfl, rfl, rfl⟩
        rfl
      · rintro rfl
        exact ⟨_, _, rfl, rfl, rfl⟩

theorem words_ne_nil_of_compile {matcher : ActiveMatcher} (h : command.compile = .ok matcher) :
    Text.words command.template ≠ [] := by
  intro hnone
  rw [compile, hnone] at h
  cases h

theorem placeholdersOf_literals
    (hliteral : ∀ token ∈ tokens, command.arguments.find? token = none) :
    command.placeholdersOf tokens = [] := by
  rw [placeholdersOf, List.filter_eq_nil_iff]
  intro token htoken
  rw [hliteral token htoken]
  exact Bool.false_ne_true

variable {matcher : ActiveMatcher} {text : String}

/-- A match of a command without placeholders has no arguments. -/
theorem match_of_literals (hcompile : command.compile = .ok matcher)
    (hliteral : ∀ token ∈ Text.words command.template, command.arguments.find? token = none)
    {found : CommandMatch} (h : matcher.matchText? text = some found) :
    found = ⟨command.template, .empty⟩ := by
  obtain ⟨pattern, _, rfl⟩ := compile_eq_ok hcompile
  have hplaceholders : command.draft.placeholders = [] := by
    rw [draft, placeholders_addAll, placeholdersOf_literals hliteral]
    rfl
  rw [ActiveMatcher.matchText?] at h
  split at h
  · obtain ⟨place, _, rfl⟩ := Option.map_eq_some_iff.mp h
    dsimp only
    rw [hplaceholders]
    rfl
  · cases h

/-- A command without placeholders matches its tokens joined by single spaces and nothing else. -/
theorem matchText?_ne_none_iff_words (hcompile : command.compile = .ok matcher)
    (hliteral : ∀ token ∈ Text.words command.template, command.arguments.find? token = none) :
    matcher.matchText? text ≠ none ↔ text = " ".intercalate (Text.words command.template) := by
  have hplain : command.HasPlainPatterns := by
    intro token htoken argument hfind
    rw [hliteral token htoken] at hfind
    cases hfind
  have hnodup : command.placeholderTokens.Nodup := by
    change (command.placeholdersOf _).Nodup
    rw [placeholdersOf_literals hliteral]
    exact List.nodup_nil
  have hneeded : ∃ token ∈ Text.words command.template, command.isOptional token = false := by
    obtain ⟨token, htoken⟩ := List.exists_mem_of_ne_nil _ (words_ne_nil_of_compile hcompile)
    exact ⟨token, htoken, isOptional_of_none (hliteral token htoken)⟩
  have hjoined : joined ((Text.words command.template).map some) =
      " ".intercalate (Text.words command.template) := by
    simp [joined, List.reduceOption]
  rw [matchText?_ne_none_iff_joined hcompile hplain hnodup hneeded]
  simp only [IsReading, forall₂_fills_literals_iff hliteral, exists_eq_left, hjoined]

/-- A command without placeholders compiles if the pattern of its text is small enough, and then
it matches its tokens joined by single spaces and nothing else, without arguments. -/
theorem compile_of_literals (hwords : Text.words command.template ≠ [])
    (hliteral : ∀ token ∈ Text.words command.template, command.arguments.find? token = none)
    (hsmall : (literalPattern (" ".intercalate (Text.words command.template))).isSmall = true) :
    ∃ matcher, command.compile = .ok matcher ∧ ∀ text,
      (matcher.matchText? text ≠ none ↔ text = " ".intercalate (Text.words command.template)) ∧
        ∀ found, matcher.matchText? text = some found → found = ⟨command.template, .empty⟩ := by
  have hcompile := compile_eq_of_literals hwords hliteral
  rw [if_pos hsmall] at hcompile
  refine ⟨_, hcompile, fun text => ⟨?_, fun found => match_of_literals hcompile hliteral⟩⟩
  exact matchText?_ne_none_iff_words hcompile hliteral

/-- Two tokens full of signs, between blanks of other scripts. -/
def signs : ActiveCommand := ⟨"\u2003(a+)?\u3000b|$ ", "", .empty⟩

theorem words_signs : Text.words signs.template = ["(a+)?", "b|$"] := by decide +kernel

/-- The tokens are matched with one space between them. -/
theorem compile_of_signs : ∃ matcher, signs.compile = .ok matcher ∧
    (∀ token ∈ Text.words signs.template, signs.arguments.find? token = none) ∧
    (literalPattern (" ".intercalate (Text.words signs.template))).isSmall = true ∧
    matcher.matchText? "(a+)? b|$" = some ⟨signs.template, .empty⟩ := by
  have hliteral : ∀ token ∈ Text.words signs.template, signs.arguments.find? token = none :=
    fun _ _ => rfl
  have hsmall : (literalPattern (" ".intercalate (Text.words signs.template))).isSmall = true := by
    rw [words_signs]
    decide
  have hwords : Text.words signs.template ≠ [] := by
    rw [words_signs]
    exact List.cons_ne_nil _ _
  obtain ⟨matcher, hcompile, hmatches⟩ := compile_of_literals hwords hliteral hsmall
  obtain ⟨hmatched, hfound⟩ := hmatches "(a+)? b|$"
  have hpresent := hmatched.mpr (by rw [words_signs]; decide)
  obtain ⟨found, hsome⟩ := Option.ne_none_iff_exists'.mp hpresent
  exact ⟨matcher, hcompile, hliteral, hsmall, by rw [hsome, hfound found hsome]⟩

end ActiveCommand

end BotHost
