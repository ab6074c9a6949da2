/-
# The words of a pattern

What a pattern matches does not depend on where it stands, as long as it looks at nothing but
what it matches.  The words that it matches in full then form a language, put together from the
languages of its parts, and it leads from one place to another exactly by taking one of its
words.  On the way it remembers texts under the numbers of its own groups only.
-/

import BotHost.Proofs.Pattern.Trees
import Mathlib.Computability.Language

namespace BotHost

/-! ### Places behind a word -/

namespace Place

/-- A place behind another one and a word. -/
structure Further (first : Place) (word : List Char) (second : Place) : Prop where
  after : first.after = word ++ second.after
  before : second.before = word.reverse ++ first.before
  offset : second.offset = first.offset + word.length

/-- What groups remember at a place and not yet at another one, they have the numbers of a range
for. -/
def Remembers (low high : Nat) (first second : Place) : Prop :=
  ∃ own, second.groups = own ++ first.groups ∧ ∀ entry ∈ own, low < entry.1 ∧ entry.1 ≤ high

variable {first second third : Place} {word other : List Char} {low high : Nat}

theorem Further.refl (place : Place) : place.Further [] place := ⟨rfl, rfl, rfl⟩

theorem Further.trans (h : first.Further word second) (hother : second.Further other third) :
    first.Further (word ++ other) third where
  after := by rw [h.after, hother.after, List.append_assoc]
  before := by rw [hother.before, h.before, List.reverse_append, List.append_assoc]
  offset := by rw [hother.offset, h.offset, List.length_append, Nat.add_assoc]

/-- A group that closes at a place behind a word remembers the word. -/
theorem Further.take_after (h : first.Further word second) :
    first.after.take (second.offset - first.offset) = word := by
  rw [h.after, h.offset, Nat.add_sub_cancel_left, List.take_left]

theorem Remembers.refl (low high : Nat) (place : Place) : place.Remembers low high place :=
  ⟨[], rfl, List.forall_mem_nil _⟩

theorem Remembers.mono {lower higher : Nat} (h : first.Remembers low high second)
    (hlow : lower ≤ low) (hhigh : high ≤ higher) : first.Remembers lower higher second := by
  obtain ⟨own, hown, hrange⟩ := h
  exact ⟨own, hown, fun entry hentry => ⟨Nat.lt_of_le_of_lt hlow (hrange entry hentry).1,
    Nat.le_trans (hrange entry hentry).2 hhigh⟩⟩

theorem Remembers.trans (h : first.Remembers low high second)
    (hother : second.Remembers low high third) : first.Remembers low high third := by
  obtain ⟨own, hown, hrange⟩ := h
  obtain ⟨more, hmore, hranges⟩ := hother
  refine ⟨more ++ own, by rw [hmore, hown, List.append_assoc], fun entry hentry => ?_⟩
  rcases List.mem_append.mp hentry with hentry | hentry
  · exact hranges entry hentry
  · exact hrange entry hentry

end Place

namespace Pattern

/-! ### Languages -/

/-- The words that a pattern matches in full, if it looks at nothing but what it matches. -/
def language : Pattern → Language Char
  | empty => 1
  | one set => {word | ∃ c, set.contains c = true ∧ word = [c]}
  | assertion _ => 0
  | capture _ _ inner => inner.language
  | sequence first second => first.language * second.language
  | alternative first second => first.language + second.language
  | repetition inner least most _ =>
    {word | ∃ count, least ≤ count ∧ (∀ bound, most = some bound → count ≤ bound) ∧
      word ∈ inner.language ^ count}

theorem language_renumber (groups : Nat) (pattern : Pattern) :
    (pattern.renumber groups).language = pattern.language := by
  induction pattern with
  | empty => rfl
  | one set => rfl
  | assertion kind => rfl
  | capture index name inner ih => exact ih
  | sequence first second hfirst hsecond => rw [renumber, language, language, hfirst, hsecond]
  | alternative first second hfirst hsecond => rw [renumber, language, language, hfirst, hsecond]
  | repetition inner least most greedy ih => rw [renumber, language, language, ih]

theorem SelfContained.renumber {low high : Nat} {pattern : Pattern}
    (h : pattern.SelfContained low high) (groups : Nat) :
    (pattern.renumber groups).SelfContained (low + groups) (high + groups) := by
  induction pattern with
  | empty => trivial
  | one set => trivial
  | assertion kind => exact h
  | capture index name inner ih =>
      exact ⟨h.1, Nat.add_lt_add_right h.2.1 groups, Nat.add_le_add_right h.2.2.1 groups,
        ih h.2.2.2⟩
  | sequence first second hfirst hsecond => exact ⟨hfirst h.1, hsecond h.2⟩
  | alternative first second hfirst hsecond => exact ⟨hfirst h.1, hsecond h.2⟩
  | repetition inner least most greedy ih => exact ih h

/-! ### Reaching a place by a word -/

variable {low high : Nat} {pattern : Pattern} {first second : Place}

/-- A pattern that reaches a place takes one of its words and remembers under its own numbers. -/
theorem word_of_reaches (hself : pattern.SelfContained low high)
    (h : pattern.Reaches first second) :
    (∃ word ∈ pattern.language, first.Further word second) ∧ first.Remembers low high second := by
  induction pattern generalizing first second with
  | empty =>
      obtain rfl := h
      exact ⟨⟨[], rfl, .refl _⟩, .refl low high _⟩
  | one set =>
      obtain ⟨c, rest, hafter, hset, rfl⟩ := h
      exact ⟨⟨[c], ⟨c, hset, rfl⟩, hafter, rfl, rfl⟩, [], rfl, List.forall_mem_nil _⟩
  | assertion kind => exact hself.elim
  | capture index name inner ih =>
      obtain ⟨inside, hinside, rfl⟩ := h
      obtain ⟨⟨word, hword, hfurther⟩, own, hown, hrange⟩ := ih hself.2.2.2 hinside
      refine ⟨⟨word, hword, hfurther.after, hfurther.before, hfurther.offset⟩, _ :: own,
        congrArg (List.cons _) hown, ?_⟩
      exact List.forall_mem_cons.mpr ⟨⟨hself.2.1, hself.2.2.1⟩, hrange⟩
  | sequence former latter hformer hlatter =>
      obtain ⟨middle, hfirst, hsecond⟩ := h
      obtain ⟨⟨word, hword, hfurther⟩, hremembers⟩ := hformer hself.1 hfirst
      obtain ⟨⟨other, hother, hfurther'⟩, hremembers'⟩ := hlatter hself.2 hsecond
      exact ⟨⟨word ++ other, Language.append_mem_mul hword hother, hfurther.trans hfurther'⟩,
        hremembers.trans hremembers'⟩
  | alternative former latter hformer hlatter =>
      rcases h with h | h
      · obtain ⟨⟨word, hword, hfurther⟩, hremembers⟩ := hformer hself.1 h
        exact ⟨⟨word, .inl hword, hfurther⟩, hremembers⟩
      · obtain ⟨⟨word, hword, hfurther⟩, hremembers⟩ := hlatter hself.2 h
        exact ⟨⟨word, .inr hword, hfurther⟩, hremembers⟩
  | repetition inner least most greedy ih =>
      obtain ⟨count, hleast, hmost, hplaces⟩ := h
      suffices hwords : (∃ word ∈ inner.language ^ count, first.Further word second) ∧
          first.Remembers low high second by
        obtain ⟨⟨word, hword, hfurther⟩, hremembers⟩ := hwords
        exact ⟨⟨word, ⟨count, hleast, hmost, hword⟩, hfurther⟩, hremembers⟩
      clear hleast hmost
      induction hplaces with
      | zero place => exact ⟨⟨[], by simp, .refl _⟩, .refl low high _⟩
      | @succ count first middle second hround _ hrest =>
          obtain ⟨⟨word, hword, hfurther⟩, hremembers⟩ := ih hself hround
          obtain ⟨⟨other, hother, hfurther'⟩, hremembers'⟩ := hrest
          refine ⟨⟨word ++ other, ?_, hfurther.trans hfurther'⟩, hremembers.trans hremembers'⟩
          rw [pow_succ']
          exact Language.append_mem_mul hword hother

/-- A pattern takes any of its words that stands behind a place. -/
theorem reaches_of_word (hself : pattern.SelfContained low high) {word rest : List Char}
    (hword : word ∈ pattern.language) (hafter : first.after = word ++ rest) :
    ∃ second, pattern.Reaches first second ∧ second.after = rest := by
  induction pattern generalizing first word rest with
  | empty =>
      obtain rfl := hword
      exact ⟨first, rfl, hafter⟩
  | one set =>
      obtain ⟨c, hset, rfl⟩ := hword
      exact ⟨_, ⟨c, rest, hafter, hset, rfl⟩, rfl⟩
  | assertion kind => exact hself.elim
  | capture index name inner ih =>
      obtain ⟨inside, hinside, hrest⟩ := ih hself.2.2.2 hword hafter
      exact ⟨_, ⟨inside, hinside, rfl⟩, hrest⟩
  | sequence former latter hformer hlatter =>
      obtain ⟨front, hfront, back, hback, rfl⟩ := Language.mem_mul.mp hword
      rw [List.append_assoc] at hafter
      obtain ⟨middle, hfirst, hmiddle⟩ := hformer hself.1 hfront hafter
      obtain ⟨second, hsecond, hrest⟩ := hlatter hself.2 hback hmiddle
      exact ⟨second, ⟨middle, hfirst, hsecond⟩, hrest⟩
  | alternative former latter hformer hlatter =>
      rcases hword with hword | hword
      · obtain ⟨second, hsecond, hrest⟩ := hformer hself.1 hword hafter
        exact ⟨second, .inl hsecond, hrest⟩
      · obtain ⟨second, hsecond, hrest⟩ := hlatter hself.2 hword hafter
        exact ⟨second, .inr hsecond, hrest⟩
  | repetition inner least most greedy ih =>
      obtain ⟨count, hleast, hmost, hwords⟩ := hword
      suffices hplaces : ∃ second, Iterated inner.Reaches count first second ∧
          second.after = rest by
        obtain ⟨second, hplaces, hrest⟩ := hplaces
        exact ⟨second, ⟨count, hleast, hmost, hplaces⟩, hrest⟩
      clear hleast hmost
      induction count generalizing first word with
      | zero =>
          obtain rfl : word = [] := by simpa using hwords
          exact ⟨first, .zero first, hafter⟩
      | succ count ihc =>
          rw [pow_succ'] at hwords
          obtain ⟨front, hfront, back, hback, rfl⟩ := Language.mem_mul.mp hwords
          rw [List.append_assoc] at hafter
          obtain ⟨middle, hround, hmiddle⟩ := ih hself hfront hafter
          obtain ⟨second, hplaces, hrest⟩ := ihc hmiddle hback
          exact ⟨second, .succ hround hplaces, hrest⟩

/-- A pattern matches a word in full: it leads from the beginning of the word to its end. -/
def Spells (pattern : Pattern) (word : List Char) : Prop :=
  ∃ place, pattern.Reaches (.start word) place ∧ place.after = []

theorem spells_iff_mem_language (hself : pattern.SelfContained low high) {word : List Char} :
    pattern.Spells word ↔ word ∈ pattern.language := by
  constructor
  · rintro ⟨place, hreaches, hend⟩
    obtain ⟨⟨other, hother, hfurther⟩, _⟩ := word_of_reaches hself hreaches
    have hsame : word = other := by simpa [hend, Place.start] using hfurther.after
    exact hsame ▸ hother
  · intro hword
    exact reaches_of_word hself hword (List.append_nil word).symm

end Pattern

end BotHost
