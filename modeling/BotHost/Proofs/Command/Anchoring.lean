/-
# What holds of every match of a command

If every placeholder's pattern stands on its own, a command matches whole texts only, begins with
its leading literal tokens, and every placeholder that has to be filled is.  A pattern that does
not stand on its own can break each of these, as `a)|(b` does: it closes the bracket in front of
it, and its bar cuts the command in two.
-/

import BotHost.Proofs.Command.Enclosed
import BotHost.Proofs.Command.Matching

namespace BotHost

open PatternReader

namespace Pattern

variable {pattern : Pattern} {first second : Place}

/-- A pattern leads further, whatever it looks at, and no group forgets. -/
theorem further_of_reaches (h : pattern.Reaches first second) :
    (∃ word, first.Further word second) ∧ first.groups <:+ second.groups := by
  induction pattern generalizing first second with
  | empty =>
      obtain rfl := h
      exact ⟨⟨[], .refl _⟩, List.suffix_rfl⟩
  | one set =>
      obtain ⟨c, rest, hafter, _, rfl⟩ := h
      exact ⟨⟨[c], hafter, rfl, rfl⟩, List.suffix_rfl⟩
  | assertion kind =>
      obtain ⟨_, rfl⟩ := h
      exact ⟨⟨[], .refl _⟩, List.suffix_rfl⟩
  | capture index own inner ih =>
      obtain ⟨inside, hinside, rfl⟩ := h
      obtain ⟨⟨word, hword⟩, hgroups⟩ := ih hinside
      exact ⟨⟨word, hword.after, hword.before, hword.offset⟩, hgroups.trans (List.suffix_cons _ _)⟩
  | sequence former latter ihf ihl =>
      obtain ⟨middle, hformer, hlatter⟩ := h
      obtain ⟨⟨word, hword⟩, hgroups⟩ := ihf hformer
      obtain ⟨⟨other, hother⟩, hgroups'⟩ := ihl hlatter
      exact ⟨⟨word ++ other, hword.trans hother⟩, hgroups.trans hgroups'⟩
  | alternative former latter ihf ihl =>
      rcases h with h | h
      · exact ihf h
      · exact ihl h
  | repetition inner least most greedy ih =>
      obtain ⟨count, -, -, h⟩ := h
      induction h with
      | zero place => exact ⟨⟨[], .refl _⟩, List.suffix_rfl⟩
      | succ hround _ ihrest =>
          obtain ⟨⟨word, hword⟩, hgroups⟩ := ih hround
          obtain ⟨⟨other, hother⟩, hgroups'⟩ := ihrest
          exact ⟨⟨word ++ other, hword.trans hother⟩, hgroups.trans hgroups'⟩

/-- A pattern between the beginning and the end of the text leads through all of it. -/
theorem whole_of_reaches {patterns : List Pattern} {front back : List Char}
    (h : (ofSequence (.assertion .textStart :: (patterns ++ [.assertion .textEnd]))).Reaches
      ⟨front.reverse, back, front.length, []⟩ second) :
    front = [] ∧ (ofSequence patterns).Reaches (.start back) second ∧
      (Place.start back).Further back second := by
  obtain ⟨_, ⟨hstart, rfl⟩, h⟩ := Slot.reaches_cons_iff.mp h
  obtain ⟨_, hpatterns, hend, rfl⟩ := Slot.reaches_append_iff.mp h
  obtain rfl : front = [] := by simpa [Assertion.holds] using hstart
  have hback : second.after = [] := by simpa [Assertion.holds] using hend
  obtain ⟨⟨word, hword⟩, _⟩ := further_of_reaches hpatterns
  obtain rfl : back = word := by
    have hafter := hword.after
    rw [hback, List.append_nil] at hafter
    exact hafter
  exact ⟨rfl, hpatterns, hword⟩

/-- What a group has remembered can be looked up from then on. -/
theorem isSome_group?_of_reaches (h : pattern.Reaches first second) {number : Nat}
    (hfirst : (first.group? number).isSome = true) : (second.group? number).isSome = true := by
  rw [Place.group?, Option.isSome_map, List.find?_isSome] at hfirst ⊢
  obtain ⟨entry, hentry, hnumber⟩ := hfirst
  exact ⟨entry, (further_of_reaches h).2.subset hentry, hnumber⟩

end Pattern

/-- A group whose name is none of the names in a tree is no group of what the tree means. -/
theorem PatternTree.NamesWithin.groupNamed?_eq_none {names : List String} {tree : PatternTree}
    {flags behind : PatternFlags} {pattern : Pattern} {name : String}
    (h : tree.NamesWithin names) (hmeaning : tree.meaning? flags = some (pattern, behind))
    (hname : name ∉ names) : pattern.groupNamed? name = none := by
  suffices hcombined : Combined (NamedAmong names) (fun pattern => pattern.groupNamed? name = none)
    from hcombined.meaning? tree flags h hmeaning
  refine ⟨rfl, fun _ => rfl, fun _ _ _ => rfl, fun index own tree inner hown hinner => ?_,
    fun first second hfirst hsecond => ?_, fun first second hfirst hsecond => ?_, ?_⟩
  · rw [Pattern.groupNamed?, if_neg fun hsame => hname (hown name hsame)]
    exact hinner
  · rw [Pattern.groupNamed?, hfirst, hsecond, Option.or_none]
  · rw [Pattern.groupNamed?, hfirst, hsecond, Option.or_none]
  · intro tree inner least most greedy isLazy _ hinner
    rcases Pattern.repeated_cases inner least most isLazy with hcase | hcase | ⟨_, _, hcase, _⟩
    · rw [hcase]
      rfl
    · rw [hcase]
      exact hinner
    · rw [hcase]
      exact hinner

namespace Slot

/-- What items mean one after the other is what the first ones mean and then the others. -/
theorem meanings?_append_eq_some {before behind : PatternFlags} {first second : List PatternTree}
    {found : List Pattern}
    (h : PatternTree.meanings? before (first ++ second) = some (found, behind)) :
    ∃ former between latter, PatternTree.meanings? before first = some (former, between) ∧
      PatternTree.meanings? between second = some (latter, behind) ∧ found = former ++ latter := by
  induction first generalizing before found with
  | nil => exact ⟨[], before, found, rfl, h, rfl⟩
  | cons item rest ih =>
      obtain ⟨⟨pattern, middle⟩, hitem, h⟩ := Option.bind_eq_some_iff.mp h
      obtain ⟨⟨others, last⟩, hrest, h⟩ := Option.bind_eq_some_iff.mp h
      cases h
      obtain ⟨former, between, latter, hformer, hlatter, rfl⟩ := ih hrest
      exact ⟨pattern :: former, between, latter, meanings?_cons hitem hformer, hlatter, rfl⟩

/-- What one item and the others mean. -/
theorem meanings?_cons_eq_some {before behind : PatternFlags} {item : PatternTree}
    {items : List PatternTree} {found : List Pattern}
    (h : PatternTree.meanings? before (item :: items) = some (found, behind)) :
    ∃ pattern between others, item.meaning? before = some (pattern, between) ∧
      PatternTree.meanings? between items = some (others, behind) ∧ found = pattern :: others := by
  obtain ⟨⟨pattern, between⟩, hitem, h⟩ := Option.bind_eq_some_iff.mp h
  obtain ⟨⟨others, last⟩, hrest, h⟩ := Option.bind_eq_some_iff.mp h
  cases h
  exact ⟨pattern, between, others, hitem, hrest, rfl⟩

/-- What several items mean as one tree. -/
theorem meaning?_ofSequence_eq_some {before behind : PatternFlags} {items : List PatternTree}
    {pattern : Pattern}
    (h : (PatternTree.ofSequence items).meaning? before = some (pattern, behind)) :
    ∃ found, PatternTree.meanings? before items = some (found, behind) ∧
      pattern = .ofSequence found := by
  match items with
  | [] =>
      cases h
      exact ⟨[], rfl, rfl⟩
  | [item] => exact ⟨[pattern], meanings?_cons h rfl, rfl⟩
  | first :: second :: rest =>
      obtain ⟨⟨found, last⟩, hfound, h⟩ := Option.bind_eq_some_iff.mp h
      cases h
      exact ⟨found, hfound, rfl⟩

/-- What characters and the items behind them mean. -/
theorem meanings?_letters_append {behind : PatternFlags} {text : List Char}
    {items : List PatternTree} {found : List Pattern}
    (h : PatternTree.meanings? .initial (text.map letter ++ items) = some (found, behind)) :
    ∃ others, PatternTree.meanings? .initial items = some (others, behind) ∧
      found = text.map letterPattern ++ others := by
  obtain ⟨former, between, latter, hformer, hlatter, rfl⟩ := meanings?_append_eq_some h
  rw [meanings?_letters] at hformer
  cases hformer
  exact ⟨latter, hlatter, rfl⟩

end Slot

namespace ActiveCommand

variable {command : ActiveCommand} {matcher : ActiveMatcher} {pending : Bool} {count : Nat}
  {names tokens : List String} {items : List PatternTree} {patterns : List Pattern}
  {behind : PatternFlags}

/-! ### What the items of a command mean -/

/-- Whether a token is matched as it stands. -/
def isLiteral (command : ActiveCommand) (token : String) : Bool :=
  (command.arguments.find? token).isNone

/-- Behind other tokens, each of the next literal tokens brings the space before it. -/
theorem Items.letters_behind (h : Items command pending count names tokens items)
    (hpending : pending = true) :
    ∃ rest, items = ((tokens.takeWhile command.isLiteral).flatMap fun token =>
      ' ' :: token.toList).map Slot.letter ++ rest := by
  induction h with
  | nil => exact ⟨[], rfl⟩
  | literal hfind _ ih =>
      obtain ⟨rest, rfl⟩ := ih rfl
      refine ⟨rest, ?_⟩
      rw [hpending, List.takeWhile_cons_of_pos (by rw [isLiteral, hfind]; rfl), List.flatMap_cons]
      simp [spaceIf]
  | @required pending _ _ _ _ _ _ item items hfind _ _ _ _ =>
      refine ⟨(spaceIf pending).map Slot.letter ++ item :: items, ?_⟩
      rw [List.takeWhile_cons_of_neg (by simp [isLiteral, hfind])]
      rfl
  | @optional _ _ _ _ _ _ _ inner items hfind _ _ _ _ _ =>
      refine ⟨.repetition inner 0 (some 1) true :: items, ?_⟩
      rw [List.takeWhile_cons_of_neg (by simp [isLiteral, hfind])]
      rfl

/-- The items begin with the characters of the literal tokens before the first placeholder, joined
by single spaces. -/
theorem Items.letters (h : Items command false count names tokens items) :
    ∃ rest, items =
      (" ".intercalate (tokens.takeWhile command.isLiteral)).toList.map Slot.letter ++ rest := by
  cases h with
  | nil => exact ⟨[], rfl⟩
  | literal hfind hrest =>
      obtain ⟨rest, rfl⟩ := hrest.letters_behind rfl
      refine ⟨rest, ?_⟩
      rw [List.takeWhile_cons_of_pos (by rw [isLiteral, hfind]; rfl), toList_intercalate_space]
      simp [spaceIf]
  | @required _ _ _ _ _ _ _ item items hfind _ _ _ =>
      refine ⟨(spaceIf false).map Slot.letter ++ item :: items, ?_⟩
      rw [List.takeWhile_cons_of_neg (by simp [isLiteral, hfind]), String.intercalate_nil]
      rfl
  | @optional _ _ _ _ _ _ _ inner items hfind _ _ _ _ =>
      refine ⟨.repetition inner 0 (some 1) true :: items, ?_⟩
      rw [List.takeWhile_cons_of_neg (by simp [isLiteral, hfind]), String.intercalate_nil]
      rfl

/-- Behind the items, the flags are in force that patterns start with. -/
theorem Items.restoresFlags (h : Items command pending count names tokens items)
    (hmeanings : PatternTree.meanings? .initial items = some (patterns, behind)) :
    behind = .initial := by
  induction h generalizing patterns with
  | nil =>
      cases hmeanings
      rfl
  | literal _ _ ih =>
      obtain ⟨others, hothers, _⟩ := Slot.meanings?_letters_append hmeanings
      exact ih hothers
  | required _ _ hitem _ ih =>
      obtain ⟨others, hothers, _⟩ := Slot.meanings?_letters_append hmeanings
      obtain ⟨pattern, between, last, hmeaning, hlast, _⟩ := Slot.meanings?_cons_eq_some hothers
      obtain ⟨index, inner, rfl⟩ := hitem.eq
      obtain rfl := Slot.restoresFlags_capture _ _ _ _ _ _ hmeaning
      exact ih hlast
  | optional _ _ hflags _ _ ih =>
      obtain ⟨pattern, between, last, hmeaning, hlast, _⟩ := Slot.meanings?_cons_eq_some hmeanings
      obtain rfl := hflags.repetition _ _ _ _ _ _ hmeaning
      exact ih hlast

/-- Behind patterns that lead to a place, a group is found by its name and remembers something.  No
group before them has the name. -/
structure Remembers (names : List String) (patterns : List Pattern) (place : Place)
    (name : String) : Prop where
  free : name ∉ names
  found : ∃ number, (Pattern.ofSequence patterns).groupNamed? name = some number ∧
    (place.group? number).isSome = true

/-- Characters in front have no groups. -/
theorem Remembers.behind_letters {place : Place} {name : String}
    (h : Remembers names patterns place name) (text : List Char) :
    Remembers names (text.map Slot.letterPattern ++ patterns) place name where
  free := h.free
  found := by
    obtain ⟨number, hnumber, hfound⟩ := h.found
    refine ⟨number, ?_, hfound⟩
    rw [Pattern.groupNamed?_ofSequence_append, Slot.groupNamed?_letters, Option.none_or]
    exact hnumber

/-- The groups of an item in front have names that are taken then. -/
theorem Remembers.behind_item {place : Place} {name : String} {taken : List String}
    {item : PatternTree} {pattern : Pattern} {flags : PatternFlags}
    (h : Remembers taken patterns place name) (htakes : Slot.Takes names item taken)
    (hmeaning : item.meaning? flags = some (pattern, behind)) :
    Remembers names (pattern :: patterns) place name where
  free hmem := h.free (htakes.subset hmem)
  found := by
    obtain ⟨number, hnumber, hfound⟩ := h.found
    refine ⟨number, ?_, hfound⟩
    rw [Pattern.groupNamed?_ofSequence_cons, htakes.within.groupNamed?_eq_none hmeaning h.free,
      Option.none_or]
    exact hnumber

/-- The group of a placeholder that was passed remembers something. -/
theorem Remembers.of_placeholder {taken : List String} {item : PatternTree} {pattern : Pattern}
    {flags : PatternFlags} (hitem : Slot.IsPlaceholder count names item taken)
    (hmeaning : item.meaning? flags = some (pattern, behind)) {opened closed place : Place}
    (hclosed : pattern.Reaches opened closed)
    (hrest : (Pattern.ofSequence patterns).Reaches closed place) :
    Remembers names (pattern :: patterns) place (Draft.groupName count) where
  free := hitem.free
  found := by
    obtain ⟨number, inner, rfl⟩ := hitem.eq
    obtain ⟨⟨found, _⟩, _, hmeaning⟩ := Option.bind_eq_some_iff.mp hmeaning
    cases hmeaning
    obtain ⟨inside, _, rfl⟩ := hclosed
    refine ⟨number, ?_, ?_⟩
    · rw [Pattern.groupNamed?_ofSequence_cons, Pattern.groupNamed?, if_pos rfl, Option.some_or]
    · exact Pattern.isSome_group?_of_reaches hrest (by simp [Place.group?, Place.remember])

/-- Behind the items, the group of every placeholder that has to be filled remembers something. -/
theorem Items.remembers (h : Items command pending count names tokens items)
    (hmeanings : PatternTree.meanings? .initial items = some (patterns, behind))
    {first second : Place} (hreaches : (Pattern.ofSequence patterns).Reaches first second)
    {index : Nat} {token : String} (htoken : (command.placeholdersOf tokens)[index]? = some token)
    (hneeded : command.isOptional token = false) :
    Remembers names patterns second (Draft.groupName (count + index)) := by
  induction h generalizing patterns first index with
  | nil => cases htoken
  | literal hfind _ ih =>
      rw [placeholdersOf, List.filter_cons_of_neg (by simp [hfind])] at htoken
      obtain ⟨others, hothers, rfl⟩ := Slot.meanings?_letters_append hmeanings
      obtain ⟨middle, _, hrest⟩ := Slot.reaches_append_iff.mp hreaches
      exact (ih hothers hrest htoken).behind_letters _
  | required hfind _ hitem _ ih =>
      rw [placeholdersOf, List.filter_cons_of_pos (by simp [hfind])] at htoken
      obtain ⟨others, hothers, rfl⟩ := Slot.meanings?_letters_append hmeanings
      obtain ⟨pattern, between, last, hmeaning, hlast, rfl⟩ := Slot.meanings?_cons_eq_some hothers
      obtain ⟨opened, _, hgroup⟩ := Slot.reaches_append_iff.mp hreaches
      obtain ⟨closed, hclosed, hrest⟩ := Slot.reaches_cons_iff.mp hgroup
      refine Remembers.behind_letters ?_ _
      cases index with
      | zero => exact .of_placeholder hitem hmeaning hclosed hrest
      | succ index =>
          obtain ⟨number, inner, rfl⟩ := hitem.eq
          obtain rfl := Slot.restoresFlags_capture _ _ _ _ _ _ hmeaning
          rw [Nat.add_comm index 1, ← Nat.add_assoc]
          exact (ih hlast hrest htoken).behind_item hitem.takes hmeaning
  | @optional _ count names taken other _ _ inner _ hfind hrequired hflags htakes _ ih =>
      rw [placeholdersOf, List.filter_cons_of_pos (by simp [hfind])] at htoken
      obtain ⟨pattern, between, last, hmeaning, hlast, rfl⟩ := Slot.meanings?_cons_eq_some hmeanings
      obtain ⟨closed, hclosed, hrest⟩ := Slot.reaches_cons_iff.mp hreaches
      obtain rfl := hflags.repetition _ _ _ _ _ _ hmeaning
      cases index with
      | zero =>
          obtain rfl : other = token := Option.some.inj htoken
          rw [isOptional_of_some hfind, hrequired] at hneeded
          cases hneeded
      | succ index =>
          have hrepeated : Slot.Takes names (.repetition inner 0 (some 1) true) taken :=
            ⟨htakes.subset, trivial, htakes.within⟩
          rw [Nat.add_comm index 1, ← Nat.add_assoc]
          exact (ih hlast hrest htoken).behind_item hrepeated hmeaning

/-! ### What a match of a command spans -/

/-- The pattern of a command is what its items mean, between the beginning and the end of the
text. -/
theorem patterns_of_ofText? (hcalm : command.HasCalmPatterns) {pattern : Pattern}
    (h : Pattern.ofText? command.patternText = some pattern) :
    pattern.WellBounded ∧ ∃ items patterns,
      Items command false 0 [] (Text.words command.template) items ∧
        PatternTree.meanings? .initial items = some (patterns, .initial) ∧
        pattern = .ofSequence (.assertion .textStart :: (patterns ++ [.assertion .textEnd])) := by
  obtain ⟨tree, behind, hread, hmeaning, _⟩ := Pattern.ofText?_eq_some.mp h
  obtain ⟨groups, hproper⟩ := proper_of_read? hread
  refine ⟨hproper.wellBounded hmeaning, ?_⟩
  obtain ⟨items, hitems, rfl⟩ := items_of_read? hcalm hread
  obtain ⟨found, hfound, rfl⟩ := Slot.meaning?_ofSequence_eq_some hmeaning
  obtain ⟨start, between, others, hstart, hothers, rfl⟩ := Slot.meanings?_cons_eq_some hfound
  cases hstart
  obtain ⟨patterns, last, ends, hpatterns, hends, rfl⟩ := Slot.meanings?_append_eq_some hothers
  obtain rfl := hitems.restoresFlags hpatterns
  cases hends
  exact ⟨items, patterns, hitems, hpatterns, rfl⟩

/-- A command's pattern is found only in texts that begin with its leading literal tokens, from
their beginning to their end, and then the groups of placeholders that have to be filled remember
something. -/
theorem whole_of_find? (hcalm : command.HasCalmPatterns) {pattern : Pattern}
    (hpattern : Pattern.ofText? command.patternText = some pattern) {text : String}
    {found : Pattern.Match} (h : pattern.find? text = some found) :
    found.start = .start text.toList ∧ found.text = text.toList ∧
      (" ".intercalate ((Text.words command.template).takeWhile command.isLiteral)).toList <+:
        text.toList ∧
      ∀ (index : Nat) (token : String),
        (command.placeholdersOf (Text.words command.template))[index]? = some token →
        command.isOptional token = false →
        ∃ number, pattern.groupNamed? (Draft.groupName index) = some number ∧
          (found.group? number).isSome = true := by
  obtain ⟨hbounded, items, patterns, hitems, hmeanings, rfl⟩ := patterns_of_ofText? hcalm hpattern
  obtain ⟨⟨front, back, hsplit, hstart⟩, hreaches⟩ :=
    Pattern.reaches_of_find?_eq_some hbounded h
  rw [hstart] at hreaches
  obtain ⟨rfl, hinside, hwhole⟩ := Pattern.whole_of_reaches hreaches
  obtain rfl : text.toList = back := hsplit
  refine ⟨hstart, ?_, ?_, fun index token htoken hneeded => ?_⟩
  · rw [Pattern.Match.text, hstart]
    exact hwhole.take_after
  · obtain ⟨rest, rfl⟩ := hitems.letters
    obtain ⟨others, _, rfl⟩ := Slot.meanings?_letters_append hmeanings
    obtain ⟨middle, hletters, _⟩ := Slot.reaches_append_iff.mp hinside
    exact ⟨middle.after, (Slot.further_of_letters hletters).1.after.symm⟩
  · obtain ⟨number, hnumber, hfound⟩ :=
      (hitems.remembers hmeanings hinside htoken hneeded).found
    rw [Nat.zero_add] at hnumber
    refine ⟨number, ?_, ?_⟩
    · rw [Pattern.groupNamed?_ofSequence_cons, Pattern.groupNamed?_ofSequence_append, hnumber]
      rfl
    · rw [Pattern.Match.group?]
      split
      · rfl
      · exact hfound

/-- A placeholder whose group remembers something is filled. -/
theorem mem_filled {found : Pattern.Match} {keys : List String} {first index : Nat} {key : String}
    {number : Nat} {word : List Char} (hkey : keys[index]? = some key)
    (hnumber : matcher.pattern.groupNamed? (Draft.groupName (first + index)) = some number)
    (hword : found.group? number = some word) :
    (key, String.ofList word) ∈ matcher.filled found first keys := by
  induction keys generalizing first index with
  | nil => cases hkey
  | cons other keys ih =>
      rw [ActiveMatcher.filled]
      cases index with
      | zero =>
          obtain rfl : other = key := Option.some.inj hkey
          rw [Nat.add_zero] at hnumber
          rw [hnumber, Option.bind_some, hword]
          exact List.mem_cons_self
      | succ index =>
          have hrest := @ih (first + 1) index hkey (by
            rwa [Nat.add_right_comm, Nat.add_assoc])
          split
          · exact List.mem_cons_of_mem _ hrest
          · exact hrest

/-- A key with a value in a list has a value in the map of the list. -/
theorem exists_find?_ofList {entries : List (String × String)} {key value : String}
    (h : (key, value) ∈ entries) : ∃ found, (SortedMap.ofList entries).find? key = some found := by
  induction entries using List.reverseRecOn with
  | nil => cases h
  | append_singleton entries entry ih =>
      have hlast : SortedMap.ofList (entries ++ [entry]) =
          (SortedMap.ofList entries).insert entry.1 entry.2 := by
        simp [SortedMap.ofList]
      rw [hlast, SortedMap.find?_insert]
      split
      · exact ⟨_, rfl⟩
      · rename_i hkey
        rcases List.mem_append.mp h with h | h
        · exact ih h
        · obtain rfl := List.mem_singleton.mp h
          exact absurd rfl hkey

/-- Words in a row, on several lines if need be. -/
def saying : ActiveCommand :=
  ⟨"say $text", "", .ofList [("$text", ⟨"(?s).+", true, ""⟩)]⟩

theorem words_saying : Text.words saying.template = ["say", "$text"] := by decide

theorem find?_saying : saying.arguments.find? "$text" = some ⟨"(?s).+", true, ""⟩ := rfl

/-- The only pattern of a saying is its placeholder's. -/
theorem pattern_saying {token : String} {argument : Argument}
    (htoken : token ∈ Text.words saying.template)
    (hfind : saying.arguments.find? token = some argument) : argument.pattern = "(?s).+" := by
  rw [words_saying] at htoken
  rcases List.mem_cons.mp htoken with rfl | htoken
  · cases hfind
  · rw [List.mem_singleton.mp htoken, find?_saying] at hfind
    cases hfind
    rfl

theorem isSome_ofText?_saying : (Pattern.ofText? "(?s).+").isSome = true := by decide +kernel

theorem matches_saying : ∃ matcher found, saying.compile = .ok matcher ∧
    matcher.matchText? "say a\nb" = some found := by
  have hmatches : (match saying.compile with
      | .ok matcher => (matcher.matchText? "say a\nb").isSome
      | .error _ => false) = true := by decide +kernel
  cases hcompile : saying.compile with
  | error error =>
      rw [hcompile] at hmatches
      cases hmatches
  | ok matcher =>
      rw [hcompile] at hmatches
      obtain ⟨found, hfound⟩ := Option.isSome_iff_exists.mp hmatches
      exact ⟨matcher, found, rfl, hfound⟩

/-- A match of a command whose patterns stand on their own spans the whole text, and every
placeholder that has to be filled has a value. -/
theorem matchText?_whole (hcompile : command.compile = .ok matcher)
    (hcalm : command.HasCalmPatterns) {text : String} {found : CommandMatch}
    (h : matcher.matchText? text = some found) :
    (∃ place, matcher.pattern.find? text = some place ∧ place.start = .start text.toList ∧
      place.text = text.toList) ∧
      ∀ token ∈ Text.words command.template, ∀ argument,
        command.arguments.find? token = some argument → argument.required = true →
        ∃ word, found.argument? token = some word := by
  obtain ⟨pattern, hpattern, rfl⟩ := compile_eq_ok hcompile
  rw [ActiveMatcher.matchText?] at h
  split at h
  · obtain ⟨place, hplace, rfl⟩ := Option.map_eq_some_iff.mp h
    obtain ⟨hstart, htext, _, hgroups⟩ := whole_of_find? hcalm hpattern hplace
    refine ⟨⟨place, hplace, hstart, htext⟩, fun token htoken argument hfind hrequired => ?_⟩
    have hmem : token ∈ command.placeholdersOf (Text.words command.template) :=
      List.mem_filter.mpr ⟨htoken, by simp [hfind]⟩
    obtain ⟨index, hindex⟩ := List.getElem?_of_mem hmem
    obtain ⟨number, hnumber, hword⟩ :=
      hgroups index token hindex (by rw [isOptional_of_some hfind, hrequired]; rfl)
    obtain ⟨word, hword⟩ := Option.isSome_iff_exists.mp hword
    have hplaceholders : command.draft.placeholders =
        command.placeholdersOf (Text.words command.template) := placeholders_addAll .empty _
    refine exists_find?_ofList (@mem_filled _ _ _ 0 index _ _ _ ?_ ?_ hword)
    · rw [hplaceholders]
      exact hindex
    · rw [Nat.zero_add]
      exact hnumber
  · cases h

/-- A saying of two lines is matched from its first to its last character. -/
theorem matchText?_whole_saying : ∃ matcher found, saying.compile = .ok matcher ∧
    saying.HasCalmPatterns ∧ matcher.matchText? "say a\nb" = some found ∧
    ∃ word, found.argument? "$text" = some word := by
  obtain ⟨matcher, found, hcompile, hfound⟩ := matches_saying
  have hcalm : saying.HasCalmPatterns := fun token htoken argument hfind => by
    rw [pattern_saying htoken hfind]
    obtain ⟨pattern, hpattern⟩ := Option.isSome_iff_exists.mp isSome_ofText?_saying
    obtain ⟨tree, _, hread, _⟩ := Pattern.ofText?_eq_some.mp hpattern
    exact ⟨tree, hread, .inl (by decide)⟩
  obtain ⟨_, hfilled⟩ := matchText?_whole hcompile hcalm hfound
  exact ⟨matcher, found, hcompile, hcalm, hfound,
    hfilled "$text" (by decide) _ find?_saying rfl⟩

/-- A placeholder whose pattern closes the bracket in front of it and opens another one. -/
def torn : ActiveCommand := ⟨"$x", "", .ofList [("$x", ⟨"a)|(b", true, ""⟩)]⟩

/-- Such a pattern tears the command in two: one part matches at the beginning of a text, the other
one at the end, and this one fills no placeholder. -/
theorem matchText?_torn : ∃ matcher, torn.compile = .ok matcher ∧
    Text.words torn.template = ["$x"] ∧
    torn.arguments.find? "$x" = some ⟨"a)|(b", true, ""⟩ ∧
    (∃ found place, matcher.matchText? "axyz" = some found ∧
      matcher.pattern.find? "axyz" = some place ∧ place.text ≠ "axyz".toList) ∧
    ∃ found, matcher.matchText? "zb" = some found ∧ found.argument? "$x" = none := by
  have htorn : (match torn.compile with
      | .ok matcher =>
        (matcher.matchText? "axyz").isSome &&
          (matcher.pattern.find? "axyz").any (fun place => decide (place.text ≠ "axyz".toList)) &&
          (matcher.matchText? "zb").any fun found => (found.argument? "$x").isNone
      | .error _ => false) = true := by decide +kernel
  cases hcompile : torn.compile with
  | error error =>
      rw [hcompile] at htorn
      cases htorn
  | ok matcher =>
      rw [hcompile] at htorn
      obtain ⟨htorn, hopen⟩ := Bool.and_eq_true_iff.mp htorn
      obtain ⟨hmatches, hpart⟩ := Bool.and_eq_true_iff.mp htorn
      obtain ⟨found, hfound⟩ := Option.isSome_iff_exists.mp hmatches
      obtain ⟨place, hplace, htext⟩ := (Option.any_eq_true _ _).mp hpart
      obtain ⟨other, hother, hnone⟩ := (Option.any_eq_true _ _).mp hopen
      exact ⟨matcher, rfl, by decide, rfl, ⟨found, place, hfound, hplace, of_decide_eq_true htext⟩,
        other, hother, Option.isNone_iff_eq_none.mp hnone⟩

/-! ### The literal tokens at the beginning -/

/-- Patterns that stand on their own and hold no sign of a comment are calm. -/
theorem hasCalmPatterns_of_noComments (h : ∀ token ∈ Text.words command.template, ∀ argument,
      command.arguments.find? token = some argument →
      Pattern.ofText? argument.pattern ≠ none ∧ '#' ∉ argument.pattern.toList) :
    command.HasCalmPatterns := by
  intro token htoken argument hfind
  obtain ⟨hpattern, hquiet⟩ := h token htoken argument hfind
  obtain ⟨pattern, hpattern⟩ := Option.ne_none_iff_exists'.mp hpattern
  obtain ⟨tree, _, hread, _⟩ := Pattern.ofText?_eq_some.mp hpattern
  exact ⟨tree, hread, .inl hquiet⟩

/-- If every text in which the pattern is found begins with the beginning that is looked at first,
the pattern alone decides. -/
theorem matchText?_eq_map_find? {text : String}
    (h : matcher.pattern.find? text ≠ none → matcher.startsWith.toList <+: text.toList) :
    matcher.matchText? text = (matcher.pattern.find? text).map fun found =>
      ⟨matcher.template, .ofList (matcher.filled found 0 matcher.placeholders)⟩ := by
  rw [ActiveMatcher.matchText?]
  split
  · rfl
  · rename_i hnot
    cases hfound : matcher.pattern.find? text with
    | none => rfl
    | some found =>
        refine absurd (List.isPrefixOf_iff_prefix.mpr (h ?_)) hnot
        rw [hfound]
        exact Option.some_ne_none found

/-- Looking at the beginning of a text first makes no difference: a command whose patterns stand on
their own and hold no sign of a comment matches what its pattern is found in, and every such text
begins with the literal tokens before the first placeholder, joined by single spaces. -/
theorem matchText?_eq_find? (hcompile : command.compile = .ok matcher)
    (hfragments : ∀ token ∈ Text.words command.template, ∀ argument,
      command.arguments.find? token = some argument →
      Pattern.ofText? argument.pattern ≠ none ∧ '#' ∉ argument.pattern.toList)
    (text : String) :
    (matcher.matchText? text = (matcher.pattern.find? text).map fun found =>
        ⟨matcher.template, .ofList (matcher.filled found 0 matcher.placeholders)⟩) ∧
      (matcher.matchText? text ≠ none ↔ matcher.pattern.find? text ≠ none) ∧
      (matcher.pattern.find? text ≠ none →
        (" ".intercalate ((Text.words command.template).takeWhile command.isLiteral)).toList <+:
          text.toList) := by
  obtain ⟨pattern, hpattern, rfl⟩ := compile_eq_ok hcompile
  have hbegins : pattern.find? text ≠ none →
      (" ".intercalate ((Text.words command.template).takeWhile command.isLiteral)).toList <+:
        text.toList := by
    intro hfound
    obtain ⟨found, hfound⟩ := Option.ne_none_iff_exists'.mp hfound
    exact (whole_of_find? (hasCalmPatterns_of_noComments hfragments) hpattern hfound).2.2.1
  have hleading : command.draft.leading =
      (Text.words command.template).takeWhile command.isLiteral := by
    rw [draft, leading_addAll]
    rfl
  have hsame := @matchText?_eq_map_find? ⟨command.template, command.patternText, pattern,
    " ".intercalate command.draft.leading, command.draft.placeholders⟩ text (hleading ▸ hbegins)
  refine ⟨hsame, ?_, hbegins⟩
  rw [hsame, Ne, Option.map_eq_none_iff]

/-- The pattern of a saying is found in what is matched as a saying. -/
theorem matchText?_eq_find?_saying : ∃ matcher, saying.compile = .ok matcher ∧
    (∀ token ∈ Text.words saying.template, ∀ argument,
      saying.arguments.find? token = some argument →
      Pattern.ofText? argument.pattern ≠ none ∧ '#' ∉ argument.pattern.toList) ∧
    matcher.pattern.find? "say a\nb" ≠ none := by
  obtain ⟨matcher, found, hcompile, hfound⟩ := matches_saying
  have hfragments : ∀ token ∈ Text.words saying.template, ∀ argument,
      saying.arguments.find? token = some argument →
      Pattern.ofText? argument.pattern ≠ none ∧ '#' ∉ argument.pattern.toList := by
    intro token htoken argument hfind
    rw [pattern_saying htoken hfind]
    exact ⟨Option.isSome_iff_ne_none.mp isSome_ofText?_saying, by decide⟩
  obtain ⟨_, hmatches, _⟩ := matchText?_eq_find? hcompile hfragments "say a\nb"
  exact ⟨matcher, hcompile, hfragments,
    hmatches.mp (by rw [hfound]; exact Option.some_ne_none found)⟩

end ActiveCommand

end BotHost
