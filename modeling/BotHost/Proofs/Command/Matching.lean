/-
# What an active command matches

A compiled command matches exactly the texts that are spelled by readings of its template, and
the arguments of a match are the placeholders that one such reading fills.

The pattern is read back as the slots that it was put together from, so the search finds a way
through them if and only if there is one.  What the group of a placeholder remembers is found
again by its name, which no other group has.
-/

import BotHost.Proofs.Command.Templates

namespace BotHost

/-! ### Groups by name -/

namespace Pattern

/-- No group of a pattern without named groups has a name. -/
theorem SelfContained.groupNamed?_eq_none {low high : Nat} {pattern : Pattern}
    (h : pattern.SelfContained low high) (name : String) : pattern.groupNamed? name = none := by
  induction pattern with
  | empty => rfl
  | one set => rfl
  | assertion kind => rfl
  | capture index own inner ih =>
      obtain ⟨rfl, _, _, hinner⟩ := h
      exact ih hinner
  | sequence first second ihf ihs => rw [groupNamed?, ihf h.1, ihs h.2, Option.or_none]
  | alternative first second ihf ihs => rw [groupNamed?, ihf h.1, ihs h.2, Option.or_none]
  | repetition inner least most greedy ih => exact ih h

theorem groupNamed?_ofSequence_cons (pattern : Pattern) (rest : List Pattern) (name : String) :
    (ofSequence (pattern :: rest)).groupNamed? name =
      (pattern.groupNamed? name).or ((ofSequence rest).groupNamed? name) := by
  cases rest with
  | nil => exact (Option.or_none).symm
  | cons next rest => rfl

theorem groupNamed?_ofSequence_append (first second : List Pattern) (name : String) :
    (ofSequence (first ++ second)).groupNamed? name =
      ((ofSequence first).groupNamed? name).or ((ofSequence second).groupNamed? name) := by
  induction first with
  | nil => rfl
  | cons pattern first ih =>
      rw [List.cons_append, groupNamed?_ofSequence_cons, groupNamed?_ofSequence_cons, ih,
        Option.or_assoc]

end Pattern

namespace Slot

variable {fragment : Fragment} {count groups : Nat}

theorem groupNamed?_letters (text : List Char) (name : String) :
    (Pattern.ofSequence (text.map letterPattern)).groupNamed? name = none := by
  induction text with
  | nil => rfl
  | cons c text ih =>
      rw [List.map_cons, Pattern.groupNamed?_ofSequence_cons, ih]
      rfl

/-- The group of a placeholder is the only one with its name. -/
theorem groupNamed?_groupPattern (other : Nat) :
    (groupPattern fragment count groups).groupNamed? (ActiveCommand.Draft.groupName other) =
      if other = count then some (groups + 1) else none := by
  rw [groupPattern, Pattern.groupNamed?,
    (fragment.selfContained.renumber (groups + 1)).groupNamed?_eq_none]
  by_cases hsame : other = count
  · rw [hsame, if_pos rfl, if_pos rfl]
  · rw [if_neg hsame, if_neg]
    exact fun hname => hsame (groupName_injective (Option.some.inj hname).symm)

theorem groupNamed?_around (lead trail : List Char) (other : Nat) :
    (Pattern.ofSequence (lead.map letterPattern ++
        groupPattern fragment count groups :: trail.map letterPattern)).groupNamed?
        (ActiveCommand.Draft.groupName other) =
      if other = count then some (groups + 1) else none := by
  rw [Pattern.groupNamed?_ofSequence_append, groupNamed?_letters, Option.none_or,
    Pattern.groupNamed?_ofSequence_cons, groupNamed?_letters, Option.or_none,
    groupNamed?_groupPattern]

/-- The placeholders' groups are found by their names, in the order of the slots. -/
theorem groupNamed?_allPatterns (slots : List Slot) (count groups index : Nat) :
    (Pattern.ofSequence (allPatterns count groups slots)).groupNamed?
        (ActiveCommand.Draft.groupName (count + index)) =
      (indices groups slots)[index]? := by
  induction slots generalizing count groups index with
  | nil => rfl
  | cons slot rest ih =>
      have hplaceholder : ∀ lead trail : List Char, ∀ fragment : Fragment,
          ((Pattern.ofSequence (lead.map letterPattern ++ groupPattern fragment count groups ::
              trail.map letterPattern)).groupNamed?
              (ActiveCommand.Draft.groupName (count + index))).or
            ((Pattern.ofSequence (allPatterns (count + 1) (groups + (1 + fragment.own))
              rest)).groupNamed? (ActiveCommand.Draft.groupName (count + index))) =
          ((groups + 1) :: indices (groups + (1 + fragment.own)) rest)[index]? := by
        intro lead trail fragment
        rw [groupNamed?_around]
        cases index with
        | zero => rw [if_pos (Nat.add_zero count)]; rfl
        | succ index =>
            have hshift : count + (index + 1) = count + 1 + index := by omega
            rw [if_neg (by omega), Option.none_or, hshift, ih, List.getElem?_cons_succ]
      rw [allPatterns, Pattern.groupNamed?_ofSequence_append, indices]
      cases slot with
      | literal lead token =>
          rw [patterns, groupNamed?_letters, Option.none_or]
          exact ih count groups index
      | required lead token fragment => exact hplaceholder lead [] fragment
      | optional lead trail token fragment => exact hplaceholder lead trail fragment

theorem groupNamed?_wholePattern (slots : List Slot) (index : Nat) :
    (wholePattern slots).groupNamed? (ActiveCommand.Draft.groupName index) =
      (indices 0 slots)[index]? := by
  rw [wholePattern, Pattern.groupNamed?_ofSequence_cons, Pattern.groupNamed?_ofSequence_append]
  have hfound := groupNamed?_allPatterns slots 0 0 index
  rw [Nat.zero_add] at hfound
  rw [hfound]
  exact (Option.none_or).trans (Option.or_none)

/-- The groups of placeholders are not the whole match. -/
theorem pos_of_mem_indices {slots : List Slot} {number : Nat}
    (h : number ∈ indices groups slots) : 0 < number := by
  induction slots generalizing groups with
  | nil => cases h
  | cons slot rest ih =>
      rcases List.mem_append.mp h with h | h
      · rw [(eq_of_mem_index h).1]
        exact Nat.succ_pos groups
      · exact ih h

theorem length_indices (slots : List Slot) :
    (indices groups slots).length = (slots.flatMap ActiveCommand.placeholderOf).length := by
  induction slots generalizing groups with
  | nil => rfl
  | cons slot rest ih =>
      rw [indices, List.flatMap_cons, List.length_append, List.length_append, ih]
      cases slot <;> rfl

end Slot

/-! ### Compiled commands -/

namespace ActiveMatcher

/-- What a match fills are the keys with what their groups remember. -/
theorem filled_eq {matcher : ActiveMatcher} {found : Pattern.Match} {index : Nat}
    {keys : List String} {numbers : List Nat} (hlength : numbers.length = keys.length)
    (hnumbers : ∀ other, matcher.pattern.groupNamed?
      (ActiveCommand.Draft.groupName (index + other)) = numbers[other]?) :
    matcher.filled found index keys =
      (keys.zip (numbers.map found.group?)).filterMap ActiveCommand.withWord := by
  induction keys generalizing index numbers with
  | nil => rfl
  | cons key keys ih =>
      obtain ⟨number, numbers, rfl⟩ := List.exists_cons_of_length_eq_add_one hlength
      have hfirst : matcher.pattern.groupNamed? (ActiveCommand.Draft.groupName index) =
          some number := hnumbers 0
      have hrest := @ih (index + 1) numbers (Nat.succ.inj hlength) fun other => by
        rw [Nat.add_assoc, Nat.add_comm 1]
        exact hnumbers (other + 1)
      rw [filled, hfirst, Option.bind_some, List.map_cons, List.zip_cons_cons, List.filterMap_cons,
        ActiveCommand.withWord, hrest]
      cases found.group? number <;> rfl

end ActiveMatcher

namespace ActiveCommand

variable {command : ActiveCommand} {matcher : ActiveMatcher} {slots : List Slot}

/-- A command compiles to the meaning of its pattern's text. -/
theorem compile_eq_ok (h : command.compile = .ok matcher) :
    ∃ pattern, Pattern.ofText? command.patternText = some pattern ∧
      matcher = ⟨command.template, command.patternText, pattern,
        " ".intercalate command.draft.leading, command.draft.placeholders⟩ := by
  rw [compile] at h
  split at h
  · cases h
  · split at h
    · cases h
    · rename_i pattern hpattern
      cases h
      exact ⟨pattern, hpattern, rfl⟩

/-- The text of the pattern of a command is the one of its slots. -/
theorem toList_patternText (h : Laid command false (Text.words command.template) slots) :
    command.patternText.toList = Slot.wholeText slots := by
  obtain ⟨htext, _⟩ := assembles_of_laid h .empty rfl
  rw [patternText, draft, String.toList_append, String.toList_append, htext]
  rfl

theorem placeholders_draft (h : Laid command false (Text.words command.template) slots) :
    command.draft.placeholders = slots.flatMap placeholderOf :=
  (assembles_of_laid h .empty rfl).2

/-- The pattern of a command is the one of its slots. -/
theorem pattern_eq_wholePattern (h : Laid command false (Text.words command.template) slots)
    {pattern : Pattern} (hpattern : Pattern.ofText? command.patternText = some pattern) :
    pattern = Slot.wholePattern slots ∧ pattern.WellBounded := by
  obtain ⟨tree, behind, hread, hmeaning, _⟩ := Pattern.ofText?_eq_some.mp hpattern
  obtain ⟨groups, hproper⟩ := PatternReader.proper_of_read? hread
  refine ⟨?_, hproper.wellBounded hmeaning⟩
  obtain rfl := Slot.eq_wholeTree_of_read? (toList_patternText h) hread
  rw [Slot.meaning?_wholeTree] at hmeaning
  cases hmeaning
  rfl

/-- Characters that fill slots are fillings of tokens. -/
theorem exists_map_charsOf (fillings : List (Option (List Char))) :
    ∃ reading : List (Option String), reading.map charsOf = fillings := by
  refine ⟨fillings.map (Option.map String.ofList), ?_⟩
  rw [List.map_map]
  conv_rhs => rw [← List.map_id fillings]
  congr 1
  funext filling
  cases filling with
  | none => rfl
  | some word => exact congrArg some String.toList_ofList

/-- The text that a reading spells is the one of the slots with its fillings. -/
theorem toList_spelled (h : Laid command false (Text.words command.template) slots)
    {reading : List (Option String)} (hreading : command.IsReading reading) :
    (command.spelled reading).toList = Slot.spellAll slots (reading.map charsOf) := by
  rw [spellAll_of_laid h rfl hreading, spelled, String.toList_append]
  split
  · rfl
  · rfl

/-- A command's pattern is found in a text only if a reading spells the text, and then the groups
remember the words of the placeholders. -/
theorem reading_of_find? (h : Laid command false (Text.words command.template) slots)
    {pattern : Pattern} (hpattern : Pattern.ofText? command.patternText = some pattern)
    {text : String} {found : Pattern.Match} (hfound : pattern.find? text = some found) :
    ∃ reading, command.IsReading reading ∧ text = command.spelled reading ∧
      (Slot.indices 0 slots).map found.group? =
        Slot.allArguments slots (reading.map charsOf) := by
  obtain ⟨rfl, hbounded⟩ := pattern_eq_wholePattern h hpattern
  obtain ⟨⟨front, back, hsplit, hstart⟩, hreaches⟩ :=
    Pattern.reaches_of_find?_eq_some hbounded hfound
  rw [hstart] at hreaches
  obtain ⟨rfl, _, fillings, hfills, hback, hgroups⟩ := Slot.fillings_of_wholePattern hreaches
  obtain ⟨reading, rfl⟩ := exists_map_charsOf fillings
  have hreading : command.IsReading reading := (fills_iff_of_laid h reading).mp hfills
  refine ⟨reading, hreading, String.toList_inj.mp ?_, ?_⟩
  · rw [hsplit, toList_spelled h hreading]
    exact hback
  · rw [← hgroups]
    apply List.map_congr_left
    intro number hnumber
    rw [Pattern.Match.group?, if_neg (Slot.pos_of_mem_indices hnumber).ne']

/-- A command's pattern is found in every text that a reading spells. -/
theorem find?_spelled_ne_none (h : Laid command false (Text.words command.template) slots)
    {pattern : Pattern} (hpattern : Pattern.ofText? command.patternText = some pattern)
    {reading : List (Option String)} (hreading : command.IsReading reading) :
    pattern.find? (command.spelled reading) ≠ none := by
  obtain ⟨rfl, hbounded⟩ := pattern_eq_wholePattern h hpattern
  obtain ⟨stop, hstop⟩ := Slot.wholePattern_reaches ((fills_iff_of_laid h reading).mpr hreading)
    (toList_spelled h hreading)
  exact Pattern.find?_ne_none_of_reaches hbounded (List.nil_append _).symm hstop

/-! ### The literal tokens at the beginning -/

/-- Literal tokens at the beginning stand for themselves in every reading. -/
theorem leading_of_fills {tokens : List String} {reading : List (Option String)}
    (h : List.Forall₂ command.Fills tokens reading) :
    ∃ rest, reading = (tokens.takeWhile fun token =>
      (command.arguments.find? token).isNone).map some ++ rest := by
  induction h with
  | nil => exact ⟨[], rfl⟩
  | @cons token filling tokens reading hfills _ ih =>
      rw [List.takeWhile_cons]
      cases hfind : command.arguments.find? token with
      | some argument => exact ⟨filling :: reading, rfl⟩
      | none =>
          obtain ⟨rest, hrest⟩ := ih
          have hfilling : filling = some token := by
            cases filling with
            | none =>
                rw [Fills, isOptional, hfind] at hfills
                cases hfills
            | some word =>
                rw [Fills, hfind] at hfills
                exact congrArg some hfills
          exact ⟨rest, congrArg₂ List.cons hfilling hrest⟩

/-- Words joined by single spaces begin with the first ones joined by single spaces. -/
theorem prefix_joined (words : List String) (rest : List (Option String)) :
    (" ".intercalate words).toList <+: (joined (words.map some ++ rest)).toList := by
  have hwords : (words.map some).reduceOption = words := by simp [List.reduceOption]
  rw [joined, List.reduceOption_append, hwords]
  by_cases hempty : words = []
  · rw [hempty, String.intercalate_nil]
    exact List.nil_prefix
  · by_cases hrest : rest.reduceOption = []
    · rw [hrest, List.append_nil]
    · rw [String.intercalate_append_of_ne_nil hempty hrest, String.append_assoc,
        String.toList_append]
      exact List.prefix_append _ _

/-- What a reading spells begins with the literal tokens before the first placeholder. -/
theorem startsWith_spelled {reading : List (Option String)}
    (hreading : command.IsReading reading) :
    (" ".intercalate command.draft.leading).toList.isPrefixOf (command.spelled reading).toList =
      true := by
  have hleading : command.draft.leading = (Text.words command.template).takeWhile fun token =>
      (command.arguments.find? token).isNone := by
    rw [draft, leading_addAll]
    rfl
  obtain ⟨rest, hrest⟩ := leading_of_fills hreading
  rw [hleading, List.isPrefixOf_iff_prefix, spelled, String.toList_append]
  refine List.IsPrefix.trans ?_ (List.prefix_append _ _)
  conv_rhs => rw [hrest]
  exact prefix_joined _ rest

/-! ### Matching a text -/

variable {text : String}

/-- A match has the arguments that a reading of the text fills. -/
theorem reading_of_matchText? (hcompile : command.compile = .ok matcher)
    (hplain : command.HasPlainPatterns) (hnodup : command.placeholderTokens.Nodup)
    {found : CommandMatch} (h : matcher.matchText? text = some found) :
    found.command = command.template ∧
      ∃ reading, command.IsReading reading ∧ text = command.spelled reading ∧
        ∀ key word, found.argument? key = some word ↔ (key, word) ∈ command.filledIn reading := by
  obtain ⟨pattern, hpattern, rfl⟩ := compile_eq_ok hcompile
  obtain ⟨slots, hslots⟩ := @exists_laid command false _ hplain
  rw [ActiveMatcher.matchText?] at h
  split at h
  · obtain ⟨place, hfound, rfl⟩ := Option.map_eq_some_iff.mp h
    obtain ⟨reading, hreading, htext, hgroups⟩ := reading_of_find? hslots hpattern hfound
    refine ⟨rfl, reading, hreading, htext, fun key word => ?_⟩
    have hnumbers : ∀ other, pattern.groupNamed? (Draft.groupName (0 + other)) =
        (Slot.indices 0 slots)[other]? := by
      intro other
      rw [Nat.zero_add, (pattern_eq_wholePattern hslots hpattern).1, Slot.groupNamed?_wholePattern]
    rw [CommandMatch.argument?, ActiveMatcher.filled_eq _ hnumbers, placeholders_draft hslots,
      hgroups, filterMap_withWord hslots]
    · exact SortedMap.find?_ofList (hnodup.sublist (filled_sublist _ reading)) key word
    · rw [placeholders_draft hslots, Slot.length_indices]
  · cases h

/-- Every text that a reading spells is matched. -/
theorem matchText?_spelled_ne_none (hcompile : command.compile = .ok matcher)
    (hplain : command.HasPlainPatterns) {reading : List (Option String)}
    (hreading : command.IsReading reading) :
    matcher.matchText? (command.spelled reading) ≠ none := by
  obtain ⟨pattern, hpattern, rfl⟩ := compile_eq_ok hcompile
  obtain ⟨slots, hslots⟩ := @exists_laid command false _ hplain
  rw [ActiveMatcher.matchText?, if_pos (startsWith_spelled hreading), Ne, Option.map_eq_none_iff]
  exact find?_spelled_ne_none hslots hpattern hreading

/-- A text is matched if and only if a reading spells it. -/
theorem matchText?_ne_none_iff (hcompile : command.compile = .ok matcher)
    (hplain : command.HasPlainPatterns) (hnodup : command.placeholderTokens.Nodup) :
    matcher.matchText? text ≠ none ↔
      ∃ reading, command.IsReading reading ∧ text = command.spelled reading := by
  constructor
  · intro h
    obtain ⟨found, hfound⟩ := Option.ne_none_iff_exists'.mp h
    obtain ⟨_, reading, hreading, htext, _⟩ :=
      reading_of_matchText? hcompile hplain hnodup hfound
    exact ⟨reading, hreading, htext⟩
  · rintro ⟨reading, hreading, rfl⟩
    exact matchText?_spelled_ne_none hcompile hplain hreading

/-- A reading ends open if no token has to be there, the last one is left out and another one is
not. -/
theorem endsOpen_iff {tokens : List String} {reading : List (Option String)} :
    command.endsOpen tokens reading = true ↔
      (∀ token ∈ tokens, command.isOptional token = true) ∧ reading.getLast? = some none ∧
        ∃ word, some word ∈ reading := by
  have hpresent : reading.reduceOption ≠ [] ↔ ∃ word, some word ∈ reading := by
    rw [Ne, List.eq_nil_iff_forall_not_mem, not_forall]
    simp [List.reduceOption_mem_iff]
  rw [endsOpen, Bool.and_eq_true, Bool.and_eq_true, List.all_eq_true, beq_iff_eq, and_assoc,
    Bool.not_eq_true', List.isEmpty_eq_false_iff, hpresent]

/-- If some token has to be there, a reading spells its words joined by single spaces. -/
theorem spelled_eq_joined
    (hneeded : ∃ token ∈ Text.words command.template, command.isOptional token = false)
    (reading : List (Option String)) : command.spelled reading = joined reading := by
  obtain ⟨token, htoken, hoptional⟩ := hneeded
  rw [spelled, if_neg, String.append_empty]
  intro hopen
  have hall := (endsOpen_iff.mp hopen).1 token htoken
  exact Bool.false_ne_true (hoptional.symm.trans hall)

/-- If some token has to be there, a text is matched if and only if it is the words of a reading
joined by single spaces. -/
theorem matchText?_ne_none_iff_joined (hcompile : command.compile = .ok matcher)
    (hplain : command.HasPlainPatterns) (hnodup : command.placeholderTokens.Nodup)
    (hneeded : ∃ token ∈ Text.words command.template, command.isOptional token = false) :
    matcher.matchText? text ≠ none ↔
      ∃ reading, command.IsReading reading ∧ text = joined reading := by
  rw [matchText?_ne_none_iff hcompile hplain hnodup]
  simp only [spelled_eq_joined hneeded]

/-- A remark and an exclamation mark behind it, both of which may be left out. -/
def remark : ActiveCommand :=
  ⟨"$text $mark", "", .ofList [("$text", ⟨".+", false, ""⟩), ("$mark", ⟨"!", false, ""⟩)]⟩

theorem words_remark : Text.words remark.template = ["$text", "$mark"] := by decide

theorem find?_remark_text : remark.arguments.find? "$text" = some ⟨".+", false, ""⟩ := rfl

theorem find?_remark_mark : remark.arguments.find? "$mark" = some ⟨"!", false, ""⟩ := rfl

theorem hasPlainPatterns_remark : remark.HasPlainPatterns := by
  intro token htoken argument hfind
  rw [words_remark] at htoken
  rcases List.mem_cons.mp htoken with rfl | htoken
  · rw [find?_remark_text] at hfind
    cases hfind
    exact ⟨.repetition .dot 1 none true, _, rfl, ⟨trivial, trivial⟩, rfl⟩
  · rw [List.mem_singleton.mp htoken, find?_remark_mark] at hfind
    cases hfind
    exact ⟨.literal ⟨'!', false⟩, _, rfl, trivial, rfl⟩

theorem isReading_remark : remark.IsReading [some "a", none] := by
  rw [IsReading, words_remark]
  refine .cons ?_ (.cons rfl .nil)
  rw [Fills, find?_remark_text]
  refine ⟨.repetition (.one (.complement (.single '\n'))) 1 none true, rfl, ?_⟩
  have hletter : (Pattern.one (.complement (.single '\n'))).Reaches (.start ['a'])
      ⟨['a'], [], 1, []⟩ := ⟨'a', [], rfl, by decide, rfl⟩
  exact ⟨_, ⟨1, Nat.le_refl 1, by rintro _ ⟨⟩, .succ hletter (.zero _)⟩, rfl⟩

/-- A compiled command matches the texts that readings of its template spell, and the arguments of
a match are the placeholders that such a reading fills.  What a reading spells is its words joined
by single spaces, but for one case: if no token has to be there, the last one is left out and
another one is not, a space follows. -/
theorem matchText?_iff_spelled (hcompile : command.compile = .ok matcher)
    (hplain : command.HasPlainPatterns) (hnodup : command.placeholderTokens.Nodup)
    (text : String) :
    (matcher.matchText? text ≠ none ↔
        ∃ reading, command.IsReading reading ∧ text = command.spelled reading) ∧
      (∀ found, matcher.matchText? text = some found → found.command = command.template ∧
        ∃ reading, command.IsReading reading ∧ text = command.spelled reading ∧
          ∀ key word, found.argument? key = some word ↔ (key, word) ∈ command.filledIn reading) ∧
      ∀ reading : List (Option String),
        ((∀ token ∈ Text.words command.template, command.isOptional token = true) ∧
            reading.getLast? = some none ∧ (∃ word, some word ∈ reading) ∧
            command.spelled reading = joined reading ++ " ") ∨
          (¬ ((∀ token ∈ Text.words command.template, command.isOptional token = true) ∧
              reading.getLast? = some none ∧ ∃ word, some word ∈ reading) ∧
            command.spelled reading = joined reading) := by
  refine ⟨matchText?_ne_none_iff hcompile hplain hnodup,
    fun found hfound => reading_of_matchText? hcompile hplain hnodup hfound, fun reading => ?_⟩
  rw [spelled, ← endsOpen_iff]
  by_cases hopen : command.endsOpen (Text.words command.template) reading = true
  · obtain ⟨hall, hlast, hpresent⟩ := endsOpen_iff.mp hopen
    exact .inl ⟨hall, hlast, hpresent, by rw [if_pos hopen]⟩
  · exact .inr ⟨hopen, by rw [if_neg hopen, String.append_empty]⟩

/-- A remark without its mark is matched with a space behind it. -/
theorem remark_matches_spelled : ∃ matcher, remark.compile = .ok matcher ∧
    remark.HasPlainPatterns ∧ remark.placeholderTokens.Nodup ∧
    matcher.matchText? "a " ≠ none := by
  have hnodup : remark.placeholderTokens.Nodup := by decide
  cases hcompile : remark.compile with
  | error error =>
      have hok : remark.compile.isOk = true := by decide +kernel
      rw [hcompile] at hok
      cases hok
  | ok matcher =>
      obtain ⟨hmatches, _, _⟩ :=
        matchText?_iff_spelled hcompile hasPlainPatterns_remark hnodup "a "
      exact ⟨matcher, rfl, hasPlainPatterns_remark, hnodup,
        hmatches.mpr ⟨_, isReading_remark, by decide⟩⟩

/-- A remark without its mark is not matched as it stands, although this is its words joined by
single spaces. -/
theorem remark_rejects_joined : ∃ matcher, remark.compile = .ok matcher ∧
    remark.HasPlainPatterns ∧ remark.placeholderTokens.Nodup ∧
    (∃ reading, remark.IsReading reading ∧ "a" = joined reading) ∧
    matcher.matchText? "a" = none := by
  have hrejects : (match remark.compile with
      | .ok matcher => (matcher.matchText? "a").isNone
      | .error _ => false) = true := by decide +kernel
  cases hcompile : remark.compile with
  | error error =>
      rw [hcompile] at hrejects
      cases hrejects
  | ok matcher =>
      rw [hcompile] at hrejects
      exact ⟨matcher, rfl, hasPlainPatterns_remark, by decide,
        ⟨_, isReading_remark, by decide⟩, Option.isNone_iff_eq_none.mp hrejects⟩

end ActiveCommand

end BotHost
