/-
# Reading a pattern inside of another

A pattern that is read on its own ends where its text ends.  Inside of a group, its text is
followed by a closing bracket and whatever stands behind it.  A reader carries over if it reads
the same there: it leaves the same text, now with the bracket and the rest behind it, and the
groups that were numbered before only shift its numbers.

This module is about the readers that neither number groups nor switch flags.  A comment that
runs to the end of its text would swallow the bracket, so what is read must not hold the sign of
a comment where blanks and comments are skipped.
-/

import BotHost.Pattern.Reader
import Mathlib.Data.List.Infix

namespace BotHost

namespace PatternReader

/-! ### Where a reader stands inside of another pattern -/

namespace State

/-- The state inside of a group, behind so many groups and some names, with a bracket and more
text behind. -/
def within (state : State) (groups : Nat) (names : List String) (more : List Char) : State :=
  { rest := state.rest ++ ')' :: more
    verbose := state.verbose
    groups := state.groups + groups
    names := state.names ++ names }

/-- No comment can begin in what is left. -/
def Clear (state : State) : Prop := state.verbose = true → '#' ∉ state.rest

/-- Nothing but the text has changed, and of that a beginning was read. -/
structure Stays (state after : State) : Prop where
  rest : after.rest <:+ state.rest
  verbose : after.verbose = state.verbose
  groups : after.groups = state.groups
  names : after.names = state.names

namespace Stays

variable {state after later : State}

theorem refl (state : State) : state.Stays state := ⟨List.suffix_rfl, rfl, rfl, rfl⟩

theorem trans (h : state.Stays after) (hlater : after.Stays later) : state.Stays later :=
  ⟨hlater.rest.trans h.rest, hlater.verbose.trans h.verbose, hlater.groups.trans h.groups,
    hlater.names.trans h.names⟩

theorem clear (h : state.Stays after) (hclear : state.Clear) : after.Clear := by
  intro hverbose hmem
  exact hclear (h.verbose.symm.trans hverbose) (h.rest.subset hmem)

end Stays

end State

/-- Two readers one after the other read what both read. -/
theorem bind_eq_some {α β : Type} {reader : Reader α} {next : α → Reader β} {state after : State}
    {value : β} :
    (reader >>= next) state = some (value, after) ↔
      ∃ first between, reader state = some (first, between) ∧
        next first between = some (value, after) := by
  change (reader state).bind (fun read => next read.1 read.2) = _ ↔ _
  rw [Option.bind_eq_some_iff]
  constructor
  · rintro ⟨⟨first, between⟩, hfirst, hnext⟩
    exact ⟨first, between, hfirst, hnext⟩
  · rintro ⟨first, between, hfirst, hnext⟩
    exact ⟨(first, between), hfirst, hnext⟩

/-- What a reader has read is handed to the reader behind it. -/
theorem bind_run {α β : Type} {reader : Reader α} {next : α → Reader β} {state between : State}
    {value : α} (h : reader state = some (value, between)) :
    (reader >>= next) state = next value between := by
  change (reader state).bind _ = _
  rw [h]
  rfl

/-- A reader stays at a state, and another one reads the same inside of a pattern, up to a
change of what is read. -/
def Carries (groups : Nat) (names : List String) (more : List Char) {α β : Type} (change : α → β)
    (reader : Reader α) (inside : Reader β) (state : State) : Prop :=
  ∀ value after, reader state = some (value, after) →
    state.Stays after ∧
      (state.Clear → inside (state.within groups names more) =
        some (change value, after.within groups names more))

section Carrying

variable {groups : Nat} {names : List String} {more : List Char} {α β γ δ : Type}
  {change : α → β} {other : γ → δ} {state : State}

theorem carries_pure (value : α) :
    Carries groups names more change (pure value) (pure (change value)) state := by
  rintro _ _ ⟨⟩
  exact ⟨.refl state, fun _ => rfl⟩

theorem carries_refuse {inside : Reader β} :
    Carries groups names more change refuse inside state := by
  rintro _ _ ⟨⟩

theorem Carries.bind {reader : Reader α} {inside : Reader β} {next : α → Reader γ}
    {following : β → Reader δ} (h : Carries groups names more change reader inside state)
    (hnext : ∀ value after, reader state = some (value, after) →
      Carries groups names more other (next value) (following (change value)) after) :
    Carries groups names more other (reader >>= next) (inside >>= following) state := by
  intro value after hread
  obtain ⟨first, between, hfirst, hread⟩ := bind_eq_some.mp hread
  obtain ⟨hstays, hinside⟩ := h first between hfirst
  obtain ⟨hrest, hfollowing⟩ := hnext first between hfirst value after hread
  refine ⟨hstays.trans hrest, fun hclear => ?_⟩
  exact bind_eq_some.mpr ⟨_, _, hinside hclear, hfollowing (hstays.clear hclear)⟩

theorem carries_ite {condition : Prop} [Decidable condition] {first second : Reader α}
    {third fourth : Reader β}
    (htrue : condition → Carries groups names more change first third state)
    (hfalse : ¬ condition → Carries groups names more change second fourth state) :
    Carries groups names more change (if condition then first else second)
      (if condition then third else fourth) state := by
  by_cases h : condition
  · rw [if_pos h, if_pos h]
    exact htrue h
  · rw [if_neg h, if_neg h]
    exact hfalse h

/-! ### Single characters -/

theorem next_eq_some {value : Char} {after : State} :
    next state = some (value, after) ↔ after = state ∧ ∃ rest, state.rest = value :: rest := by
  obtain ⟨text, verbose, numbered, taken⟩ := state
  cases text with
  | nil =>
      constructor
      · rintro ⟨⟩
      · rintro ⟨-, rest, ⟨⟩⟩
  | cons c rest =>
      constructor
      · rintro ⟨⟩
        exact ⟨rfl, rest, rfl⟩
      · rintro ⟨rfl, _, ⟨⟩⟩
        rfl

theorem carries_next : Carries groups names more id next next state := by
  intro value after hread
  obtain ⟨rfl, rest, hrest⟩ := next_eq_some.mp hread
  refine ⟨.refl _, fun _ => next_eq_some.mpr ⟨rfl, rest ++ ')' :: more, ?_⟩⟩
  rw [State.within, hrest]
  rfl

theorem carries_drop {count : Nat} (h : count ≤ state.rest.length) :
    Carries groups names more id (drop count) (drop count) state := by
  rintro _ _ ⟨⟩
  refine ⟨⟨List.drop_suffix _ _, rfl, rfl, rfl⟩, fun _ => ?_⟩
  change some ((), _) = some ((), _)
  rw [State.within, List.drop_append_of_le_length h]
  rfl

/-- Blanks in front of a bracket are skipped up to the bracket. -/
theorem dropWhile_blank_append (text : List Char) :
    (text ++ ')' :: more).dropWhile Text.isBlank =
      text.dropWhile Text.isBlank ++ ')' :: more := by
  have hbracket : Text.isBlank ')' = false := by decide
  rw [List.dropWhile_append]
  split
  · rename_i hempty
    rw [List.isEmpty_iff.mp hempty, List.dropWhile_cons, hbracket]
    rfl
  · rfl

/-- Where no comment begins, only blanks are skipped. -/
theorem skipSpace_eq_dropWhile {bound : Nat} {text : List Char}
    (hcomment : (text.dropWhile Text.isBlank).head? ≠ some '#') (hbound : text.length ≤ bound) :
    skipSpace bound text = text.dropWhile Text.isBlank := by
  induction bound generalizing text with
  | zero =>
      obtain rfl := List.length_eq_zero_iff.mp (Nat.le_zero.mp hbound)
      rfl
  | succ bound ih =>
      cases text with
      | nil => rfl
      | cons c rest =>
          rw [skipSpace]
          by_cases hblank : Text.isBlank c = true
          · rw [List.dropWhile_cons, if_pos hblank] at hcomment ⊢
            rw [if_pos hblank]
            exact ih hcomment (Nat.le_of_succ_le_succ hbound)
          · rw [List.dropWhile_cons, if_neg hblank] at hcomment ⊢
            rw [if_neg hblank, if_neg]
            rintro rfl
            exact hcomment rfl

theorem skipSpace_suffix (bound : Nat) (text : List Char) : skipSpace bound text <:+ text := by
  have hcomment : ∀ text, skipComment text <:+ text := by
    intro text
    induction text with
    | nil => exact List.suffix_rfl
    | cons c rest ih =>
        rw [skipComment]
        split
        · exact List.suffix_cons c rest
        · exact ih.trans (List.suffix_cons c rest)
  induction bound generalizing text with
  | zero => exact List.suffix_rfl
  | succ bound ih =>
      cases text with
      | nil => exact List.suffix_rfl
      | cons c rest =>
          rw [skipSpace]
          split
          · exact (ih rest).trans (List.suffix_cons c rest)
          · split
            · exact ((ih _).trans (hcomment rest)).trans (List.suffix_cons c rest)
            · exact List.suffix_rfl

theorem carries_space : Carries groups names more id space space state := by
  rintro _ _ ⟨⟩
  cases hverbose : state.verbose with
  | false =>
      refine ⟨.refl _, fun _ => ?_⟩
      rw [space]
      simp only [State.within, hverbose, Bool.false_eq_true, if_false, id_eq]
  | true =>
      refine ⟨⟨skipSpace_suffix _ _, hverbose.symm, rfl, rfl⟩, fun hclear => ?_⟩
      have hfirst : (state.rest.dropWhile Text.isBlank).head? ≠ some '#' := fun hhead =>
        hclear hverbose ((List.dropWhile_suffix _).subset (List.mem_of_mem_head? hhead))
      have hbehind : ((state.rest ++ ')' :: more).dropWhile Text.isBlank).head? ≠ some '#' := by
        rw [dropWhile_blank_append]
        cases hrest : state.rest.dropWhile Text.isBlank with
        | nil => exact fun hhead => absurd (Option.some.inj hhead) (by decide)
        | cons c rest =>
            rw [hrest] at hfirst
            exact hfirst
      rw [space]
      simp only [State.within, hverbose, if_true, skipSpace_eq_dropWhile hfirst (Nat.le_refl _),
        skipSpace_eq_dropWhile hbehind (Nat.le_refl _), dropWhile_blank_append]

theorem carries_dropAndSpace (h : state.rest ≠ []) :
    Carries groups names more id dropAndSpace dropAndSpace state :=
  (carries_drop (List.length_pos_of_ne_nil h)).bind fun _ _ _ => carries_space

theorem length_lt_of_dropAndSpace {value : Unit} {after : State} (h : state.rest ≠ [])
    (hread : dropAndSpace state = some (value, after)) :
    after.rest.length < state.rest.length := by
  obtain ⟨_, dropped, hdrop, hspace⟩ := bind_eq_some.mp hread
  have hstays := (@carries_space 0 [] [] dropped _ _ hspace).1
  cases hdrop
  apply Nat.lt_of_le_of_lt hstays.rest.length_le
  rw [List.length_drop]
  have := List.length_pos_of_ne_nil h
  omega

/-- A reader may look at the text ahead if what it makes of it carries over. -/
theorem carries_ahead {next : List Char → Reader α} {following : List Char → Reader β}
    (h : Carries groups names more change (next state.rest)
      (following (state.rest ++ ')' :: more)) state) :
    Carries groups names more change (ahead >>= next) (ahead >>= following) state := h

/-- A reader may look at the next character if what it makes of the end of the text carries over
to the bracket. -/
theorem carries_peek {next : Option Char → Reader α} {following : Option Char → Reader β}
    (hnil : state.rest = [] →
      Carries groups names more change (next none) (following (some ')')) state)
    (hcons : ∀ c rest, state.rest = c :: rest →
      Carries groups names more change (next (some c)) (following (some c)) state) :
    Carries groups names more change (peek >>= next) (peek >>= following) state := by
  obtain ⟨text, verbose, numbered, taken⟩ := state
  cases text with
  | nil => exact hnil rfl
  | cons c rest => exact hcons c rest rfl

/-- A mark without a bracket begins a text if it begins it with a bracket behind. -/
theorem isPrefixOf_append_bracket {mark : List Char} (hmark : ')' ∉ mark) (text : List Char) :
    mark.isPrefixOf (text ++ ')' :: more) = mark.isPrefixOf text := by
  induction mark generalizing text with
  | nil => rfl
  | cons c mark ih =>
      obtain ⟨hne, hmark⟩ := not_or.mp (List.mem_cons.not.mp hmark)
      cases text with
      | nil =>
          have hfalse : (c == ')') = false := beq_false_of_ne (Ne.symm hne)
          simp [List.isPrefixOf, hfalse]
      | cons d text => simp [List.isPrefixOf, ih hmark]

theorem carries_dropIf {mark : List Char} (hmark : ')' ∉ mark) :
    Carries groups names more id (dropIf mark) (dropIf mark) state := by
  apply carries_ahead
  rw [isPrefixOf_append_bracket hmark]
  refine carries_ite (fun hbegins => ?_) fun _ => carries_pure false
  have hlength := (List.isPrefixOf_iff_prefix.mp hbegins).length_le
  exact (carries_drop hlength).bind fun _ _ _ => carries_pure true

theorem dropIf_eq_some_true {mark : List Char} {after : State} :
    dropIf mark state = some (true, after) ↔
      ∃ rest, state.rest = mark ++ rest ∧ after = { state with rest } := by
  change (if mark.isPrefixOf state.rest then drop mark.length >>= fun _ => pure true
    else pure false : Reader Bool) state = _ ↔ _
  constructor
  · intro h
    split at h
    · rename_i hbegins
      obtain ⟨rest, hrest⟩ := List.isPrefixOf_iff_prefix.mp hbegins
      cases h
      exact ⟨rest, hrest.symm, by rw [← hrest, List.drop_left]⟩
    · cases h
  · rintro ⟨rest, hrest, rfl⟩
    rw [hrest, if_pos (List.isPrefixOf_iff_prefix.mpr (List.prefix_append mark rest))]
    change some (true, _) = some (true, _)
    rw [hrest, List.drop_left]

theorem carries_greediness : Carries groups names more id greediness greediness state :=
  (carries_dropIf (by decide)).bind fun isLazy _ _ => carries_pure (!isLazy)

/-! ### Escapes -/

/-- Behind the next character there is one. -/
theorem rest_ne_nil_of_next {value : Char} {after : State} (h : next state = some (value, after)) :
    after.rest ≠ [] := by
  obtain ⟨rfl, rest, hrest⟩ := next_eq_some.mp h
  rw [hrest]
  exact List.cons_ne_nil _ _

theorem carries_hexDigits (count value : Nat) :
    Carries groups names more id (hexDigits count value) (hexDigits count value) state := by
  induction count generalizing value state with
  | zero => exact carries_pure value
  | succ count ih =>
      apply carries_next.bind
      intro c after hnext
      dsimp only [id]
      cases hexValue? c with
      | none => exact carries_refuse
      | some digit =>
          exact (carries_dropAndSpace (rest_ne_nil_of_next hnext)).bind fun _ _ _ => ih _

theorem carries_bracedHex {bound other : Nat} (hle : bound ≤ other) (digits : List Nat) :
    Carries groups names more id (bracedHex bound digits) (bracedHex other digits) state := by
  induction bound generalizing other digits state with
  | zero => exact carries_refuse
  | succ bound ih =>
      obtain ⟨other, rfl⟩ := Nat.exists_eq_succ_of_ne_zero (Nat.ne_zero_of_lt hle)
      apply carries_next.bind
      intro c after hnext
      have hrest := rest_ne_nil_of_next hnext
      refine carries_ite (fun _ => ?_) fun _ => ?_
      · exact (carries_dropAndSpace hrest).bind fun _ _ _ => carries_pure _
      · dsimp only [id]
        cases hexValue? c with
        | none => exact carries_refuse
        | some digit =>
            exact (carries_dropAndSpace hrest).bind fun _ _ _ =>
              ih (by omega) (digit :: digits)

theorem carries_hexLiteral (kind : Char) (h : state.rest ≠ []) :
    Carries groups names more id (hexLiteral kind) (hexLiteral kind) state := by
  apply (carries_dropAndSpace h).bind
  intro _ after _
  apply carries_next.bind
  intro c after hnext
  refine carries_ite (fun _ => ?_) fun _ => ?_
  · apply (carries_dropAndSpace (rest_ne_nil_of_next hnext)).bind
    intro _ after _
    refine carries_ahead ((carries_bracedHex ?_ []).bind fun digits after _ => ?_)
    · rw [List.length_append]
      omega
    · refine carries_ite (fun _ => carries_refuse) fun _ => ?_
      dsimp only [id]
      cases charOf? (digits.foldl (fun value digit => value * 16 + digit) 0) with
      | none => exact carries_refuse
      | some char => exact carries_pure _
  · apply (carries_hexDigits _ 0).bind
    intro code after _
    dsimp only [id]
    cases charOf? code with
    | none => exact carries_refuse
    | some char => exact carries_pure _

theorem carries_bracedName {bound other : Nat} (hle : bound ≤ other) (sofar : List Char) :
    Carries groups names more id (bracedName bound sofar) (bracedName other sofar) state := by
  induction bound generalizing other sofar state with
  | zero => exact carries_refuse
  | succ bound ih =>
      obtain ⟨other, rfl⟩ := Nat.exists_eq_succ_of_ne_zero (Nat.ne_zero_of_lt hle)
      apply carries_next.bind
      intro c after hnext
      have hrest := rest_ne_nil_of_next hnext
      refine carries_ite (fun _ => ?_) fun _ => ?_
      · exact (carries_drop (List.length_pos_of_ne_nil hrest)).bind fun _ _ _ => carries_pure _
      · exact (carries_dropAndSpace hrest).bind fun _ _ _ => ih (by omega) (c :: sofar)

theorem carries_propertyQuery (h : state.rest ≠ []) :
    Carries groups names more id propertyQuery propertyQuery state := by
  apply (carries_dropAndSpace h).bind
  intro _ after _
  apply carries_next.bind
  intro c after hnext
  have hrest := rest_ne_nil_of_next hnext
  refine carries_ite (fun _ => ?_) fun _ => carries_ite (fun _ => carries_refuse) fun _ => ?_
  · apply (carries_dropAndSpace hrest).bind
    intro _ after _
    refine carries_ahead ((carries_bracedName ?_ []).bind fun _ _ _ => carries_pure _)
    rw [List.length_append]
    omega
  · exact (carries_dropAndSpace hrest).bind fun _ _ _ => carries_pure _

/-- Letters and hyphens are read up to the bracket, with whatever bound that does not cut them
short. -/
theorem carries_boundaryName {bound other : Nat} (sofar : List Char)
    (hbound : state.rest.length ≤ bound) (hother : state.rest.length < other) :
    Carries groups names more id (boundaryName bound sofar) (boundaryName other sofar) state := by
  induction bound generalizing other sofar state with
  | zero =>
      obtain ⟨text, verbose, numbered, taken⟩ := state
      obtain rfl := List.length_eq_zero_iff.mp (Nat.le_zero.mp hbound)
      obtain ⟨other, rfl⟩ := Nat.exists_eq_succ_of_ne_zero (Nat.ne_zero_of_lt hother)
      rintro _ _ ⟨⟩
      exact ⟨.refl _, fun _ => rfl⟩
  | succ bound ih =>
      obtain ⟨other, rfl⟩ := Nat.exists_eq_succ_of_ne_zero (Nat.ne_zero_of_lt hother)
      refine carries_peek (fun _ => ?_) fun c rest hrest => ?_
      · exact carries_pure sofar.reverse
      · refine carries_ite (fun _ => ?_) fun _ => carries_pure sofar.reverse
        apply (carries_dropAndSpace (by simp [hrest])).bind
        intro _ after hread
        have hshorter := length_lt_of_dropAndSpace (by simp [hrest]) hread
        exact ih (c :: sofar) (by omega) (by omega)

theorem carries_boundaryKindName :
    Carries groups names more id boundaryKindName boundaryKindName state := by
  refine carries_ahead ((carries_boundaryName [] (Nat.le_refl _) ?_).bind fun name after _ => ?_)
  · rw [List.length_append, List.length_cons]
    omega
  · refine carries_peek (fun _ => ?_) fun c rest hrest => ?_
    · rw [if_neg (by simp), if_neg (by simp)]
      exact carries_refuse
    · refine carries_ite (fun _ => ?_) fun _ => carries_refuse
      apply (carries_drop (by simp [hrest])).bind
      intro _ after _
      dsimp only [id]
      cases namedBoundary? (String.ofList name) with
      | none => exact carries_refuse
      | some kind => exact carries_pure kind

/-- Where braces turn out to be a repetition, the reader goes back to where it was. -/
theorem carries_boundaryKind :
    Carries groups names more id boundaryKind boundaryKind state := by
  refine carries_peek (fun _ => ?_) fun brace rest hrest => ?_
  · rw [if_neg (by simp), if_neg (by simp)]
    exact carries_pure _
  · refine carries_ite (fun _ => ?_) fun _ => carries_pure _
    intro value after hread
    obtain ⟨start, same, hget, hread⟩ := bind_eq_some.mp hread
    cases hget
    obtain ⟨_, dropped, hdrop, hread⟩ := bind_eq_some.mp hread
    obtain ⟨c, behind, hnext, hread⟩ := bind_eq_some.mp hread
    obtain ⟨hdropped, hdropInside⟩ := carries_dropAndSpace (by simp [hrest]) _ _ hdrop
    obtain ⟨hbehind, hnextInside⟩ := carries_next _ _ hnext
    split at hread
    · rename_i hletter
      obtain ⟨hstays, hinside⟩ := carries_boundaryKindName _ _ hread
      refine ⟨(hdropped.trans hbehind).trans hstays, fun hclear => ?_⟩
      refine bind_eq_some.mpr ⟨_, _, rfl, bind_eq_some.mpr ⟨_, _, hdropInside hclear, ?_⟩⟩
      refine bind_eq_some.mpr ⟨_, _, hnextInside (hdropped.clear hclear), ?_⟩
      simp only [id, hletter, if_true]
      exact hinside ((hdropped.trans hbehind).clear hclear)
    · rename_i hletter
      cases hread
      refine ⟨.refl _, fun hclear => ?_⟩
      refine bind_eq_some.mpr ⟨_, _, rfl, bind_eq_some.mpr ⟨_, _, hdropInside hclear, ?_⟩⟩
      refine bind_eq_some.mpr ⟨_, _, hnextInside (hdropped.clear hclear), ?_⟩
      simp only [id, hletter]
      rfl

theorem carries_escape : Carries groups names more id escape escape state := by
  apply carries_next.bind
  intro c after hnext
  have hrest := rest_ne_nil_of_next hnext
  refine carries_ite (fun _ => ?_) fun _ => carries_ite (fun _ => ?_) fun _ => ?_
  · exact (carries_hexLiteral c hrest).bind fun _ _ _ => carries_pure _
  · exact (carries_propertyQuery hrest).bind fun _ _ _ => carries_pure _
  · apply (carries_drop (List.length_pos_of_ne_nil hrest)).bind
    intro _ after _
    dsimp only [id]
    cases letterClass? c with
    | some found => exact carries_pure _
    | none =>
        refine carries_ite (fun _ => carries_pure _) fun _ => ?_
        cases controlCharacter? c with
        | some char => exact carries_pure _
        | none =>
            refine carries_ite (fun _ => carries_pure _) fun _ => ?_
            refine carries_ite (fun _ => carries_pure _) fun _ => ?_
            refine carries_ite (fun _ => ?_) fun _ => ?_
            · exact carries_boundaryKind.bind fun _ _ _ => carries_pure _
            · refine carries_ite (fun _ => carries_pure _) fun _ => ?_
              refine carries_ite (fun _ => carries_pure _) fun _ => ?_
              exact carries_ite (fun _ => carries_pure _) fun _ => carries_refuse

/-! ### Classes in brackets -/

/-- Cutting a text at a character cuts it at the first such character. -/
theorem cutAt_eq_some {mark : Char} {text front back : List Char} :
    cutAt [mark] text = some (front, back) ↔ text = front ++ mark :: back ∧ mark ∉ front := by
  induction text generalizing front with
  | nil => simp [cutAt]
  | cons c rest ih =>
      rw [cutAt]
      by_cases hmark : mark = c
      · subst hmark
        cases front with
        | nil => simp [List.isPrefixOf, eq_comm]
        | cons d front =>
            simp only [List.isPrefixOf, beq_self_eq_true, Bool.and_self, if_true, List.cons_append,
              List.cons.injEq, List.mem_cons, Option.some.injEq, Prod.mk.injEq]
            constructor
            · rintro ⟨⟨⟩, _⟩
            · rintro ⟨⟨rfl, _⟩, hmem⟩
              exact absurd (Or.inl rfl) hmem
      · have hbegins : [mark].isPrefixOf (c :: rest) = false := by
          simp [List.isPrefixOf, hmark]
        rw [if_neg (by simp [hbegins]), Option.map_eq_some_iff]
        constructor
        · rintro ⟨⟨head, tail⟩, hcut, ⟨⟩⟩
          obtain ⟨rfl, hmem⟩ := ih.mp hcut
          exact ⟨rfl, by simp [hmark, hmem]⟩
        · rintro ⟨htext, hmem⟩
          cases front with
          | nil => exact absurd (List.cons.inj htext).1.symm hmark
          | cons d front =>
              obtain ⟨rfl, hrest⟩ := List.cons.inj htext
              exact ⟨(front, back), ih.mpr ⟨hrest, fun h => hmem (List.mem_cons_of_mem _ h)⟩, rfl⟩

/-- No class of ASCII characters has a bracket in its name. -/
theorem find?_asciiClasses_eq_none {name : List Char} (h : ')' ∈ name) :
    (asciiClasses.find? fun entry => entry.1 == String.ofList name) = none := by
  have hnames : ∀ entry ∈ asciiClasses, ')' ∉ entry.1.toList := by decide
  rw [List.find?_eq_none]
  intro entry hentry heq
  apply hnames entry hentry
  rw [eq_of_beq heq, String.toList_ofList]
  exact h

/-- The name of a class of ASCII characters is read behind the mark of negation. -/
def namedClass? (negated : Bool) (text : List Char) : Option (ClassTree × List Char) :=
  match cutAt [':'] text with
  | some (name, ']' :: behind) =>
    (asciiClasses.find? fun entry => entry.1 == String.ofList name).map fun entry =>
      (.ascii negated entry.2, behind)
  | _ => none

theorem namedClass?_append (negated : Bool) (text : List Char) :
    namedClass? negated (text ++ ')' :: more) =
      (namedClass? negated text).map fun found => (found.1, found.2 ++ ')' :: more) := by
  cases hcut : cutAt [':'] text with
  | none =>
      have hnone : namedClass? negated text = none := by rw [namedClass?, hcut]
      rw [hnone, namedClass?]
      cases hbehind : cutAt [':'] (text ++ ')' :: more) with
      | none => rfl
      | some found =>
          obtain ⟨name, back⟩ := found
          obtain ⟨htext, hname⟩ := cutAt_eq_some.mp hbehind
          have hbracket : ')' ∈ name := by
            rcases List.append_eq_append_iff.mp htext with
              ⟨inner, hinner, hrest⟩ | ⟨inner, hinner, _⟩
            · cases inner with
              | nil => exact absurd (List.cons.inj hrest).1 (by decide)
              | cons c inner =>
                  rw [hinner, (List.cons.inj hrest).1]
                  simp
            · cases inner with
              | nil => simp_all
              | cons c inner =>
                  rename_i hcons
                  have hc := (List.cons.inj hcons).1
                  subst hc
                  rw [cutAt_eq_some.mpr ⟨hinner, hname⟩] at hcut
                  cases hcut
          cases back with
          | nil => rfl
          | cons c back =>
              split
              · rename_i heq
                cases heq
                rw [find?_asciiClasses_eq_none hbracket]
                rfl
              · rfl
  | some found =>
      obtain ⟨name, back⟩ := found
      obtain ⟨rfl, hname⟩ := cutAt_eq_some.mp hcut
      have hbehind : cutAt [':'] ((name ++ ':' :: back) ++ ')' :: more) =
          some (name, back ++ ')' :: more) :=
        cutAt_eq_some.mpr ⟨by simp, hname⟩
      rw [namedClass?, namedClass?, hbehind, hcut]
      cases back with
      | nil => rfl
      | cons c back =>
          by_cases hc : c = ']'
          · subst hc
            simp only [List.cons_append]
            cases asciiClasses.find? fun entry => entry.1 == String.ofList name <;> rfl
          · simp [hc]

theorem asciiClass?_eq_namedClass? {rest : List Char} (h : rest.head? ≠ some '^') :
    asciiClass? ('[' :: ':' :: rest) = namedClass? false rest := by
  cases rest with
  | nil => rfl
  | cons c rest =>
      have hc : c ≠ '^' := fun hc => h (by rw [hc]; rfl)
      rw [asciiClass?]
      · rfl
      · rintro _ ⟨⟩
        exact hc rfl

/-- A text starts with a named class of ASCII characters if it does so with a bracket behind. -/
theorem asciiClass?_append (text : List Char) :
    asciiClass? (text ++ ')' :: more) =
      (asciiClass? text).map fun found => (found.1, found.2 ++ ')' :: more) := by
  match text with
  | [] => rfl
  | [c] =>
      have hnone : ∀ rest : List Char, rest.head? ≠ some ':' → asciiClass? (c :: rest) = none := by
        intro rest hrest
        unfold asciiClass?
        split
        · rename_i heq
          rw [(List.cons.inj heq).2] at hrest
          exact absurd rfl hrest
        · rfl
      rw [hnone [] (by simp)]
      exact hnone (')' :: more) (by simp)
  | c :: d :: rest =>
      by_cases hmark : c = '[' ∧ d = ':'
      · obtain ⟨rfl, rfl⟩ := hmark
        by_cases hhead : rest.head? = some '^'
        · cases rest with
          | nil => cases hhead
          | cons e rest =>
              cases hhead
              exact namedClass?_append true rest
        · have hbehind : (rest ++ ')' :: more).head? ≠ some '^' := by
            cases rest with
            | nil => exact fun h => absurd (Option.some.inj h) (by decide)
            | cons e rest => exact hhead
          rw [asciiClass?_eq_namedClass? hhead]
          exact (asciiClass?_eq_namedClass? hbehind).trans (namedClass?_append false rest)
      · have hnone : ∀ rest : List Char, asciiClass? (c :: d :: rest) = none := by
          intro rest
          unfold asciiClass?
          split
          · rename_i heq
            cases heq
            exact absurd ⟨rfl, rfl⟩ hmark
          · rfl
        rw [hnone rest]
        exact hnone _

/-- Behind the text of a pattern, the character behind the next one is the bracket. -/
theorem carries_peekBehind {next : Option Char → Reader α} {following : Option Char → Reader β}
    (h : state.rest ≠ [])
    (hnext : ∀ found, Carries groups names more change (next found)
      (following (found.or (some ')'))) state) :
    Carries groups names more change (peekBehind >>= next) (peekBehind >>= following) state := by
  intro value after hread
  obtain ⟨c, rest, hrest⟩ := List.exists_cons_of_ne_nil h
  obtain ⟨found, same, hpeek, hfollowing⟩ := bind_eq_some.mp hread
  have hsame : same = state := by
    cases hpeek
    rfl
  rw [hsame] at hpeek hfollowing
  obtain ⟨hstays, hinside⟩ := hnext found value after hfollowing
  refine ⟨hstays, fun hclear => bind_eq_some.mpr ⟨_, _, ?_, hinside hclear⟩⟩
  rw [peekBehind] at hpeek ⊢
  simp only [hrest, List.drop_succ_cons, List.drop_zero] at hpeek
  simp only [State.within, hrest, List.cons_append, List.drop_succ_cons, List.drop_zero]
  cases hverbose : state.verbose with
  | false =>
      simp only [hverbose, Bool.false_eq_true, if_false] at hpeek ⊢
      obtain ⟨rfl, _⟩ := Prod.mk.inj (Option.some.inj hpeek)
      cases rest <;> rfl
  | true =>
      have hno : '#' ∉ rest.dropWhile Text.isBlank := fun hmem =>
        hclear hverbose (hrest ▸ List.mem_cons_of_mem _ ((List.dropWhile_suffix _).subset hmem))
      simp only [hverbose, if_true, dropWhile_blank_append] at hpeek ⊢
      cases hblank : rest.dropWhile Text.isBlank with
      | nil =>
          rw [hblank] at hpeek
          obtain ⟨rfl, _⟩ := Prod.mk.inj (Option.some.inj hpeek)
          rfl
      | cons d behind =>
          rw [hblank] at hpeek hno
          have hd : d ≠ '#' := fun hd => hno (hd ▸ List.mem_cons_self)
          simp only [List.cons_append] at hpeek ⊢
          split at hpeek
          · rename_i heq
            exact absurd (List.cons.inj heq).1 hd
          · obtain ⟨rfl, _⟩ := Prod.mk.inj (Option.some.inj hpeek)
            split
            · rename_i heq
              exact absurd (List.cons.inj heq).1 hd
            · rfl

theorem carries_classItem : Carries groups names more id classItem classItem state := by
  apply carries_next.bind
  intro c after hnext
  apply (carries_drop (List.length_pos_of_ne_nil (rest_ne_nil_of_next hnext))).bind
  intro _ _ _
  exact carries_ite (fun _ => carries_escape) fun _ => carries_pure _

theorem carries_itemOf (tree : PatternTree) :
    Carries groups names more id (itemOf tree) (itemOf tree) state := by
  cases tree with
  | literal char => exact carries_pure _
  | property negated query => exact carries_pure _
  | letter negated kind => exact carries_pure _
  | _ => exact carries_refuse

theorem carries_classRange : Carries groups names more id classRange classRange state := by
  apply carries_classItem.bind
  intro first after _
  apply carries_space.bind
  intro _ after _
  apply carries_next.bind
  intro c after hnext
  have hrest := rest_ne_nil_of_next hnext
  apply carries_peekBehind hrest
  intro behind
  have hbracket : (behind.or (some ')') = some ']' ↔ behind = some ']') ∧
      (behind.or (some ')') = some '-' ↔ behind = some '-') := by
    cases behind <;> simp
  simp only [id, hbracket.1, hbracket.2]
  refine carries_ite (fun _ => carries_itemOf first) fun _ => ?_
  refine (carries_dropAndSpace hrest).bind fun _ after _ => ?_
  refine carries_next.bind fun _ after _ => ?_
  apply carries_classItem.bind
  intro last after _
  dsimp only [id]
  split
  · exact carries_ite (fun _ => carries_pure _) fun _ => carries_refuse
  · exact carries_refuse

/-- Hyphens are read up to the bracket, with whatever bound that does not cut them short. -/
theorem carries_leadingHyphens {bound other : Nat} (items : List ClassTree)
    (hbound : state.rest.length ≤ bound) (hother : state.rest.length < other) :
    Carries groups names more id (leadingHyphens bound items) (leadingHyphens other items)
      state := by
  induction bound generalizing other items state with
  | zero =>
      obtain ⟨text, verbose, numbered, taken⟩ := state
      obtain rfl := List.length_eq_zero_iff.mp (Nat.le_zero.mp hbound)
      obtain ⟨other, rfl⟩ := Nat.exists_eq_succ_of_ne_zero (Nat.ne_zero_of_lt hother)
      rintro _ _ ⟨⟩
      exact ⟨.refl _, fun _ => rfl⟩
  | succ bound ih =>
      obtain ⟨other, rfl⟩ := Nat.exists_eq_succ_of_ne_zero (Nat.ne_zero_of_lt hother)
      apply carries_next.bind
      intro c after hnext
      have hrest := rest_ne_nil_of_next hnext
      obtain ⟨rfl, _⟩ := next_eq_some.mp hnext
      refine carries_ite (fun _ => ?_) fun _ => carries_pure items
      apply (carries_dropAndSpace hrest).bind
      intro _ after hread
      have hshorter := length_lt_of_dropAndSpace hrest hread
      exact ih _ (by omega) (by omega)

theorem carries_classNegation :
    Carries groups names more id classNegation classNegation state := by
  apply carries_next.bind
  intro c after hnext
  refine carries_ite (fun _ => ?_) fun _ => carries_pure false
  exact (carries_dropAndSpace (rest_ne_nil_of_next hnext)).bind fun _ _ _ => carries_pure true

theorem carries_classOpen (h : state.rest ≠ []) :
    Carries groups names more id classOpen classOpen state := by
  apply (carries_dropAndSpace h).bind
  intro _ after _
  refine carries_classNegation.bind fun negated after _ => carries_ahead ?_
  refine (carries_leadingHyphens [] (Nat.le_refl _) ?_).bind fun items after _ => ?_
  · rw [List.length_append, List.length_cons]
    omega
  · apply carries_next.bind
    intro c after hnext
    refine carries_ite (fun _ => ?_) fun _ => carries_pure _
    apply (carries_dropAndSpace (rest_ne_nil_of_next hnext)).bind
    intro _ after _
    exact carries_next.bind fun _ _ _ => carries_pure _

theorem classOperation?_eq_ite (text : List Char) :
    classOperation? text =
      if ['&', '&'].isPrefixOf text then some .intersection
      else if ['-', '-'].isPrefixOf text then some .difference
      else if ['~', '~'].isPrefixOf text then some .symmetricDifference
      else none := by
  unfold classOperation?
  split
  · rfl
  · rfl
  · rfl
  · rename_i hintersection hdifference hsymmetric
    rw [if_neg, if_neg, if_neg]
    · intro hbegins
      obtain ⟨rest, hrest⟩ := List.isPrefixOf_iff_prefix.mp hbegins
      exact hsymmetric rest hrest.symm
    · intro hbegins
      obtain ⟨rest, hrest⟩ := List.isPrefixOf_iff_prefix.mp hbegins
      exact hdifference rest hrest.symm
    · intro hbegins
      obtain ⟨rest, hrest⟩ := List.isPrefixOf_iff_prefix.mp hbegins
      exact hintersection rest hrest.symm

/-- No operation on classes has a bracket in its sign. -/
theorem classOperation?_append (text : List Char) :
    classOperation? (text ++ ')' :: more) = classOperation? text := by
  rw [classOperation?_eq_ite, classOperation?_eq_ite, isPrefixOf_append_bracket (by decide),
    isPrefixOf_append_bracket (by decide), isPrefixOf_append_bracket (by decide)]

/-- The sign of an operation takes two characters. -/
theorem two_le_length_of_classOperation? {text : List Char} {operation : ClassOperation}
    (h : classOperation? text = some operation) : 2 ≤ text.length := by
  unfold classOperation? at h
  split at h
  · simp
  · simp
  · simp
  · cases h

/-- A bracket and the inside of a class carry over, with whatever bound that is not less. -/
theorem carries_bracket_and_classBody (bound : Nat) :
    (∀ other state, bound ≤ other → state.rest ≠ [] →
        Carries groups names more id (bracket bound) (bracket other) state) ∧
      ∀ other state waiting items, bound ≤ other →
        Carries groups names more id (classBody bound waiting items)
          (classBody other waiting items) state := by
  induction bound with
  | zero => exact ⟨fun _ _ _ _ => carries_refuse, fun _ _ _ _ _ => carries_refuse⟩
  | succ bound ih =>
      refine ⟨fun other state hle hrest => ?_, fun other state waiting items hle => ?_⟩
      · obtain ⟨other, rfl⟩ := Nat.exists_eq_succ_of_ne_zero (Nat.ne_zero_of_lt hle)
        apply (carries_classOpen hrest).bind
        intro opened after _
        exact (ih.2 other after none opened.2 (by omega)).bind fun inner _ _ => carries_pure _
      · obtain ⟨other, rfl⟩ := Nat.exists_eq_succ_of_ne_zero (Nat.ne_zero_of_lt hle)
        rw [classBody, classBody]
        apply carries_space.bind
        intro _ after _
        refine carries_peek (fun _ => carries_refuse) fun c rest hrest => ?_
        have hlength : after.rest.length = rest.length + 1 := by rw [hrest, List.length_cons]
        refine carries_ahead ?_
        rw [asciiClass?_append, classOperation?_append]
        refine carries_ite (fun _ => ?_) fun _ => carries_ite (fun _ => ?_) fun _ => ?_
        · cases asciiClass? after.rest with
          | none =>
              apply (ih.1 other after (by omega) (by simp [hrest])).bind
              intro read _ _
              exact ih.2 other _ waiting _ (by omega)
          | some found =>
              have hread : (after.rest ++ ')' :: more).length - (found.2 ++ ')' :: more).length =
                  after.rest.length - found.2.length := by
                simp only [List.length_cons, List.length_append]
                omega
              simp only [Option.map_some, hread]
              exact (carries_drop (by omega)).bind fun _ _ _ => ih.2 other _ waiting _ (by omega)
        · exact (carries_drop (by omega)).bind fun _ _ _ => carries_pure _
        · cases hoperation : classOperation? after.rest with
          | none => exact carries_classRange.bind fun _ _ _ => ih.2 other _ waiting _ (by omega)
          | some operation =>
              refine (carries_drop ?_).bind fun _ _ _ => ih.2 other _ _ _ (by omega)
              exact two_le_length_of_classOperation? hoperation

theorem carries_bracket {bound other : Nat} (hle : bound ≤ other) (h : state.rest ≠ []) :
    Carries groups names more id (bracket bound) (bracket other) state :=
  (carries_bracket_and_classBody bound).1 other state hle h

end Carrying

end PatternReader

end BotHost
