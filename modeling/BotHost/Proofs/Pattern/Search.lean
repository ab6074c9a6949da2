/-
# The search finds what there is to find

The search drops a thread that arrives where one has been before.  This loses nothing: what a
thread comes to depends on its node and its place alone, so the footprints of a search that ends
without a match are closed under steps and contain no node that accepts.

The bound on the number of threads is never met.  Every thread either is dropped or leaves a new
footprint and at most two more threads, so the threads that wait and twice the footprints that
are still free become fewer with every thread.
-/

import BotHost.Proofs.Pattern.Paths
import Mathlib.Data.Finset.Prod
import Mathlib.Data.Finset.Range
import Mathlib.Data.Finset.Card

namespace BotHost

namespace Pattern

/-! ### A match is one that the pattern allows -/

theorem Leads.start_eq {nodes : Array PatternNode} {steps : Nat} {thread final : Thread}
    (h : Leads nodes steps thread final) : final.start = thread.start := by
  induction h with
  | refl => rfl
  | @step _ thread second _ node _ hsecond _ ih =>
      rw [ih]
      cases node <;> grind [Thread.follow, Thread.goTo]

/-- What the search finds is a thread of those it has begun with, and where it is accepted. -/
theorem accepts_of_follow_eq_some {nodes : Array PatternNode} {bound : Nat} {threads : List Thread}
    {seen : Footprints} {found : Match} (h : follow nodes bound threads seen = some found) :
    ∃ thread ∈ threads, found.start = thread.start ∧ Accepts nodes thread found.stop := by
  induction bound generalizing threads seen with
  | zero => cases h
  | succ bound ih =>
      cases threads with
      | nil => cases h
      | cons thread others =>
          rw [follow] at h
          split at h
          · obtain ⟨other, hmem, hother⟩ := ih h
            exact ⟨other, List.mem_cons_of_mem _ hmem, hother⟩
          · split at h
            · obtain ⟨other, hmem, hother⟩ := ih h
              exact ⟨other, List.mem_cons_of_mem _ hmem, hother⟩
            · rename_i haccept
              cases h
              exact ⟨thread, List.mem_cons_self, rfl, 0, thread, .refl thread, haccept, rfl⟩
            · rename_i node _ hnode
              obtain ⟨other, hmem, hstart, steps, final, hleads, hfinal⟩ := ih h
              rcases List.mem_append.mp hmem with hmem | hmem
              · have hstep := Leads.single hnode hmem
                exact ⟨thread, List.mem_cons_self, hstart.trans hstep.start_eq, _, final,
                  hstep.trans hleads, hfinal⟩
              · exact ⟨other, List.mem_cons_of_mem _ hmem, hstart, steps, final, hleads, hfinal⟩

/-! ### Spots

A spot is a node and a place without what groups remember. -/

/-- Two threads at the same spot. -/
structure Thread.Same (first second : Thread) : Prop where
  node : first.node = second.node
  before : first.place.before = second.place.before
  after : first.place.after = second.place.after
  offset : first.place.offset = second.place.offset

theorem Thread.Same.symm {first second : Thread} (h : first.Same second) : second.Same first :=
  ⟨h.node.symm, h.before.symm, h.after.symm, h.offset.symm⟩

/-- Threads at the same spot go on to the same spots. -/
theorem Thread.Same.follow {first second third : Thread} {node : PatternNode}
    (h : first.Same second) (hthird : third ∈ first.follow node) :
    ∃ fourth ∈ second.follow node, third.Same fourth := by
  obtain ⟨hnode, hbefore, hafter, hoffset⟩ := h
  cases node with
  | accept => cases hthird
  | pass next =>
      obtain rfl := List.mem_singleton.mp hthird
      exact ⟨_, List.mem_singleton.mpr rfl, rfl, hbefore, hafter, hoffset⟩
  | take set next =>
      simp only [Thread.follow, ← hafter] at hthird ⊢
      split at hthird
      · cases hthird
      · rename_i c rest _
        split at hthird
        · rename_i hset
          obtain rfl := List.mem_singleton.mp hthird
          simp only [hset, if_true]
          exact ⟨_, List.mem_singleton.mpr rfl, rfl, congrArg (c :: ·) hbefore, rfl,
            congrArg (· + 1) hoffset⟩
        · cases hthird
  | check kind next =>
      simp only [Thread.follow, ← hafter, ← hbefore] at hthird ⊢
      split at hthird
      · rename_i hholds
        obtain rfl := List.mem_singleton.mp hthird
        rw [if_pos hholds]
        exact ⟨_, List.mem_singleton.mpr rfl, rfl, hbefore, hafter, hoffset⟩
      · cases hthird
  | enter next =>
      obtain rfl := List.mem_singleton.mp hthird
      exact ⟨_, List.mem_singleton.mpr rfl, rfl, hbefore, hafter, hoffset⟩
  | leave index next =>
      have hspot : third.node = next ∧ third.place.before = first.place.before ∧
          third.place.after = first.place.after ∧ third.place.offset = first.place.offset := by
        simp only [Thread.follow] at hthird
        split at hthird
        · obtain rfl := List.mem_singleton.mp hthird
          exact ⟨rfl, rfl, rfl, rfl⟩
        · obtain rfl := List.mem_singleton.mp hthird
          exact ⟨rfl, rfl, rfl, rfl⟩
      simp only [Thread.follow]
      split
      · exact ⟨_, List.mem_singleton.mpr rfl, hspot.1, hspot.2.1.trans hbefore,
          hspot.2.2.1.trans hafter, hspot.2.2.2.trans hoffset⟩
      · exact ⟨_, List.mem_singleton.mpr rfl, hspot.1, hspot.2.1.trans hbefore,
          hspot.2.2.1.trans hafter, hspot.2.2.2.trans hoffset⟩
  | fork left right =>
      simp only [Thread.follow, List.mem_cons, List.not_mem_nil, or_false] at hthird
      rcases hthird with rfl | rfl
      · exact ⟨_, List.mem_cons_self, rfl, hbefore, hafter, hoffset⟩
      · exact ⟨_, List.mem_cons_of_mem _ List.mem_cons_self, rfl, hbefore, hafter, hoffset⟩

/-- A thread moves in a text, not before a first place. -/
structure Thread.Within (text : List Char) (origin : Nat) (thread : Thread) : Prop where
  splits : thread.place.before.reverse ++ thread.place.after = text
  offset : thread.place.offset = thread.place.before.length
  origin : origin ≤ thread.place.offset

namespace Thread.Within

variable {text : List Char} {origin : Nat} {thread other : Thread} {node : PatternNode}

theorem offset_le (h : thread.Within text origin) : thread.place.offset ≤ text.length := by
  rw [← h.splits, List.length_append, List.length_reverse, h.offset]
  exact Nat.le_add_right _ _

/-- In one text, the number of a place decides what is before and behind it. -/
theorem same (h : thread.Within text origin) (hother : other.Within text origin)
    (hnode : thread.node = other.node) (hoffset : thread.place.offset = other.place.offset) :
    thread.Same other := by
  have hsplit := h.splits.trans hother.splits.symm
  have hlength : thread.place.before.reverse.length = other.place.before.reverse.length := by
    rw [List.length_reverse, List.length_reverse, ← h.offset, ← hother.offset, hoffset]
  obtain ⟨hbefore, hafter⟩ := List.append_inj hsplit hlength
  exact ⟨hnode, List.reverse_injective hbefore, hafter, hoffset⟩

theorem follow (h : thread.Within text origin) (hother : other ∈ thread.follow node) :
    other.Within text origin := by
  obtain ⟨hsplits, hoffset, horigin⟩ := h
  cases node with
  | accept => cases hother
  | pass next =>
      obtain rfl := List.mem_singleton.mp hother
      exact ⟨hsplits, hoffset, horigin⟩
  | take set next =>
      simp only [Thread.follow] at hother
      split at hother
      · cases hother
      · rename_i c rest hafter
        split at hother
        · obtain rfl := List.mem_singleton.mp hother
          refine ⟨?_, congrArg (· + 1) hoffset, Nat.le_succ_of_le horigin⟩
          rw [← hsplits, hafter]
          simp [Place.advance]
        · cases hother
  | check kind next =>
      simp only [Thread.follow] at hother
      split at hother
      · obtain rfl := List.mem_singleton.mp hother
        exact ⟨hsplits, hoffset, horigin⟩
      · cases hother
  | enter next =>
      obtain rfl := List.mem_singleton.mp hother
      exact ⟨hsplits, hoffset, horigin⟩
  | leave index next =>
      simp only [Thread.follow] at hother
      split at hother
      · obtain rfl := List.mem_singleton.mp hother
        exact ⟨hsplits, hoffset, horigin⟩
      · obtain rfl := List.mem_singleton.mp hother
        exact ⟨hsplits, hoffset, horigin⟩
  | fork left right =>
      simp only [Thread.follow, List.mem_cons, List.not_mem_nil, or_false] at hother
      rcases hother with rfl | rfl
      · exact ⟨hsplits, hoffset, horigin⟩
      · exact ⟨hsplits, hoffset, horigin⟩

end Thread.Within

theorem Thread.length_follow_le (thread : Thread) (node : PatternNode) :
    (thread.follow node).length ≤ 2 := by
  cases node <;> grind [Thread.follow]

/-! ### Footprints -/

namespace Footprints

/-- The footprints are those of a search in a text from a first place on. -/
structure Fits (seen : Footprints) (text : List Char) (origin : Nat) : Prop where
  begins : seen.origin = origin
  /-- There is a row for every place from there on. -/
  rows : seen.rows.size = text.length + 1 - origin

variable {seen : Footprints} {text : List Char} {origin : Nat} {thread other : Thread}

theorem Fits.add (h : seen.Fits text origin) (thread : Thread) :
    (seen.add thread).Fits text origin :=
  ⟨h.begins, by rw [Footprints.add, Array.size_modify, h.rows]⟩

/-- A footprint is added at the spot of its thread and nowhere else. -/
theorem contains_add (hfits : seen.Fits text origin) (h : thread.Within text origin)
    (hother : other.Within text origin) :
    (seen.add thread).contains other = true ↔
      seen.contains other = true ∨
        (thread.node = other.node ∧ thread.place.offset = other.place.offset) := by
  have hrow : thread.place.offset - seen.origin < seen.rows.size := by
    rw [hfits.begins, hfits.rows]
    have := h.offset_le
    have := h.origin
    omega
  have hrows : thread.place.offset - seen.origin = other.place.offset - seen.origin ↔
      thread.place.offset = other.place.offset := by
    rw [hfits.begins]
    have := h.origin
    have := hother.origin
    omega
  simp only [contains, add, Array.getD_eq_getD_getElem?, Array.getElem?_modify]
  by_cases hsame : thread.place.offset - seen.origin = other.place.offset - seen.origin
  · rw [if_pos hsame, ← hsame, Array.getElem?_eq_getElem hrow]
    simp only [Option.map_some, Option.getD_some, Nat.testBit_or, Nat.one_shiftLeft,
      Nat.testBit_two_pow, Bool.or_eq_true, decide_eq_true_eq, hrows.mp hsame, and_true]
  · rw [if_neg hsame]
    constructor
    · exact .inl
    · rintro (hseen | ⟨-, hplace⟩)
      · exact hseen
      · exact absurd (hrows.mpr hplace) hsame

/-- The spots of nodes and places at which no thread has been. -/
def free (seen : Footprints) (nodes : Nat) : Finset (Nat × Nat) :=
  (Finset.range seen.rows.size ×ˢ Finset.range nodes).filter fun spot =>
    (seen.rows.getD spot.1 0).testBit spot.2 = false

/-- Threads leave no spot free that was not free before. -/
theorem free_add_subset (seen : Footprints) (thread : Thread) (nodes : Nat) :
    (seen.add thread).free nodes ⊆ seen.free nodes := by
  intro spot hspot
  simp only [free, add, Finset.mem_filter, Finset.mem_product, Finset.mem_range,
    Array.size_modify] at hspot ⊢
  refine ⟨hspot.1, ?_⟩
  have hbit := hspot.2
  rw [Array.getD_eq_getD_getElem?, Array.getElem?_modify] at hbit
  rw [Array.getD_eq_getD_getElem?]
  split at hbit
  · cases hrow : seen.rows[spot.1]? with
    | none => exact Nat.zero_testBit _
    | some row =>
        simp only [hrow, Option.map_some, Option.getD_some, Nat.testBit_or,
          Bool.or_eq_false_iff] at hbit
        exact hbit.1
  · exact hbit

/-- A thread that was not seen before takes a free spot. -/
theorem card_free_add_lt (hfits : seen.Fits text origin) (h : thread.Within text origin)
    (hseen : ¬ seen.contains thread = true) {nodes : Nat} (hnode : thread.node < nodes) :
    ((seen.add thread).free nodes).card < (seen.free nodes).card := by
  refine Finset.card_lt_card ⟨free_add_subset seen thread nodes, fun hsubset => ?_⟩
  have hrow : thread.place.offset - seen.origin < seen.rows.size := by
    rw [hfits.begins, hfits.rows]
    have := h.offset_le
    have := h.origin
    omega
  have hfree : (thread.place.offset - seen.origin, thread.node) ∈ seen.free nodes := by
    simp only [free, Finset.mem_filter, Finset.mem_product, Finset.mem_range]
    exact ⟨⟨hrow, hnode⟩, Bool.eq_false_iff.mpr hseen⟩
  have htaken := (Finset.mem_filter.mp (hsubset hfree)).2
  have hcontains := (contains_add hfits h h).mpr (.inr ⟨rfl, rfl⟩)
  rw [contains] at hcontains
  exact Bool.false_ne_true (htaken.symm.trans hcontains)

end Footprints

/-! ### A search without a match has missed none -/

/-- The footprints are closed: no thread that left one is accepted there, and where it goes on
there is a footprint or a thread that waits. -/
def Closed (nodes : Array PatternNode) (text : List Char) (origin : Nat) (threads : List Thread)
    (seen : Footprints) : Prop :=
  ∀ thread, thread.Within text origin → seen.contains thread = true →
    nodes[thread.node]? ≠ some .accept ∧
      ∀ node, nodes[thread.node]? = some node → ∀ second ∈ thread.follow node,
        seen.contains second = true ∨ ∃ other ∈ threads, second.Same other

section Missing

variable {nodes : Array PatternNode} {text : List Char} {origin : Nat}

theorem contains_eq_of_same {seen : Footprints} {first second : Thread} (h : first.Same second) :
    seen.contains first = seen.contains second := by
  rw [Footprints.contains, Footprints.contains, h.node, h.offset]

/-- If no thread waits and the footprints are closed, no thread that left one comes to be
accepted. -/
theorem not_accepts_of_closed {seen : Footprints} (h : Closed nodes text origin [] seen)
    {thread : Thread} (hwithin : thread.Within text origin) (hseen : seen.contains thread = true)
    (place : Place) : ¬ Accepts nodes thread place := by
  rintro ⟨steps, final, hleads, haccept, -⟩
  induction hleads with
  | refl thread => exact (h thread hwithin hseen).1 haccept
  | step hnode hsecond _ ih =>
      rcases (h _ hwithin hseen).2 _ hnode _ hsecond with hnext | ⟨other, hother, -⟩
      · exact ih (hwithin.follow hsecond) hnext haccept
      · cases hother

/-- The footprints stay closed when a thread leaves one and the threads behind it wait. -/
theorem Closed.add {threads others : List Thread} {seen : Footprints} {thread : Thread}
    (h : Closed nodes text origin (thread :: others) seen) (hfits : seen.Fits text origin)
    (hwithin : thread.Within text origin) (haccept : nodes[thread.node]? ≠ some .accept)
    (hthreads : ∀ node, nodes[thread.node]? = some node → thread.follow node ⊆ threads)
    (hothers : others ⊆ threads) : Closed nodes text origin threads (seen.add thread) := by
  intro other hother hseen
  rcases (Footprints.contains_add hfits hwithin hother).mp hseen with hold | ⟨hnode, hoffset⟩
  · obtain ⟨hne, hnext⟩ := h other hother hold
    refine ⟨hne, fun node hnode second hsecond => ?_⟩
    have hinside := hother.follow hsecond
    rcases hnext node hnode second hsecond with hseen | ⟨waiting, hwaiting, hsame⟩
    · exact .inl ((Footprints.contains_add hfits hwithin hinside).mpr (.inl hseen))
    · rcases List.mem_cons.mp hwaiting with rfl | hwaiting
      · left
        refine (Footprints.contains_add hfits hwithin hinside).mpr (.inr ?_)
        exact ⟨hsame.node.symm, hsame.offset.symm⟩
      · exact .inr ⟨waiting, hothers hwaiting, hsame⟩
  · have hsame := hwithin.same hother hnode hoffset
    rw [← hnode]
    refine ⟨haccept, fun node hnode second hsecond => ?_⟩
    obtain ⟨fourth, hfourth, hfollow⟩ := hsame.symm.follow hsecond
    exact .inr ⟨fourth, hthreads node hnode hfourth, hfollow⟩

/-- The footprints stay closed when a thread is dropped where one has been. -/
theorem Closed.drop {others : List Thread} {seen : Footprints} {thread : Thread}
    (h : Closed nodes text origin (thread :: others) seen) (hseen : seen.contains thread = true) :
    Closed nodes text origin others seen := by
  intro other hother hcontains
  obtain ⟨hne, hnext⟩ := h other hother hcontains
  refine ⟨hne, fun node hnode second hsecond => ?_⟩
  rcases hnext node hnode second hsecond with hseen' | ⟨waiting, hwaiting, hsame⟩
  · exact .inl hseen'
  · rcases List.mem_cons.mp hwaiting with rfl | hwaiting
    · exact .inl ((contains_eq_of_same hsame).trans hseen)
    · exact .inr ⟨waiting, hwaiting, hsame⟩

/-- A search that finds nothing has followed all threads to where they end. -/
theorem not_accepts_of_follow_eq_none {bound : Nat} {threads : List Thread} {seen : Footprints}
    (h : follow nodes bound threads seen = none) (hfits : seen.Fits text origin)
    (hthreads : ∀ thread ∈ threads, thread.Within text origin)
    (hclosed : Closed nodes text origin threads seen)
    (hbound : threads.length + 2 * (seen.free nodes.size).card < bound) {thread : Thread}
    (hwithin : thread.Within text origin)
    (hthread : seen.contains thread = true ∨ thread ∈ threads) (place : Place) :
    ¬ Accepts nodes thread place := by
  induction bound generalizing threads seen with
  | zero => omega
  | succ bound ih =>
      cases threads with
      | nil =>
          have hseen := hthread.resolve_right List.not_mem_nil
          exact not_accepts_of_closed hclosed hwithin hseen place
      | cons head others =>
          obtain ⟨hhead, hothers⟩ := List.forall_mem_cons.mp hthreads
          rw [List.length_cons] at hbound
          rw [follow] at h
          split at h
          · rename_i hseen
            apply ih h hfits hothers (hclosed.drop hseen) (by omega)
            rcases hthread with hcontains | hmem
            · exact .inl hcontains
            · rcases List.mem_cons.mp hmem with rfl | hmem
              · exact .inl hseen
              · exact .inr hmem
          · rename_i hunseen
            have hadded : ∀ {other : Thread}, other.Within text origin →
                (seen.contains other = true ∨ other ∈ head :: others) →
                (seen.add head).contains other = true ∨ other ∈ others := by
              rintro other hother (hcontains | hmem)
              · exact .inl ((Footprints.contains_add hfits hhead hother).mpr (.inl hcontains))
              · rcases List.mem_cons.mp hmem with rfl | hmem
                · exact .inl ((Footprints.contains_add hfits hother hother).mpr (.inr ⟨rfl, rfl⟩))
                · exact .inr hmem
            split at h
            · rename_i hnone
              have hfree := Finset.card_le_card (seen.free_add_subset head nodes.size)
              refine ih h (hfits.add head) hothers ?_ (by omega) (hadded hwithin hthread)
              refine hclosed.add hfits hhead ?_ ?_ (List.Subset.refl _)
              · rw [hnone]
                exact (Option.some_ne_none _).symm
              · intro node hnode
                rw [hnone] at hnode
                cases hnode
            · cases h
            · rename_i node hne hnode
              have hlt : head.node < nodes.size := (Array.getElem?_eq_some_iff.mp hnode).1
              have hfree := Footprints.card_free_add_lt hfits hhead hunseen hlt
              have hlength := head.length_follow_le node
              refine ih h (hfits.add head) ?_ ?_ ?_ ?_
              · intro other hmem
                rcases List.mem_append.mp hmem with hmem | hmem
                · exact hhead.follow hmem
                · exact hothers other hmem
              · refine hclosed.add hfits hhead ?_ ?_ (List.subset_append_right _ _)
                · rw [hnode]
                  rintro ⟨⟩
                  exact hne rfl
                · intro other hother
                  rw [hnode] at hother
                  cases hother
                  exact List.subset_append_left _ _
              · rw [List.length_append]
                omega
              · rcases hadded hwithin hthread with hcontains | hmem
                · exact .inl hcontains
                · exact .inr (List.mem_append_right _ hmem)

end Missing

/-! ### The first match -/

/-- The places from a place on are those behind some of the characters. -/
theorem mem_placesFrom_iff {text : List Char} {place start : Place} (h : place.after = text) :
    start ∈ placesFrom text place ↔
      ∃ front back, text = front ++ back ∧
        start =
          ⟨front.reverse ++ place.before, back, place.offset + front.length, place.groups⟩ := by
  induction text generalizing place with
  | nil =>
      obtain ⟨before, after, offset, groups⟩ := place
      obtain rfl : after = [] := h
      rw [placesFrom, List.mem_singleton]
      constructor
      · rintro rfl
        exact ⟨[], [], rfl, rfl⟩
      · rintro ⟨front, back, hsplit, rfl⟩
        obtain ⟨rfl, rfl⟩ := List.append_eq_nil_iff.mp hsplit.symm
        rfl
  | cons c rest ih =>
      rw [placesFrom, List.mem_cons, ih rfl]
      constructor
      · rintro (rfl | ⟨front, back, rfl, rfl⟩)
        · exact ⟨[], c :: rest, rfl, by rw [← h]; rfl⟩
        · refine ⟨c :: front, back, rfl, ?_⟩
          simp [Place.advance, Nat.add_assoc, Nat.add_comm 1]
      · rintro ⟨front, back, hsplit, rfl⟩
        cases front with
        | nil =>
            left
            rw [List.nil_append] at hsplit
            rw [← hsplit, ← h]
            rfl
        | cons d front =>
            obtain ⟨rfl, rfl⟩ := List.cons.inj hsplit
            refine .inr ⟨front, back, rfl, ?_⟩
            simp [Place.advance, Nat.add_assoc, Nat.add_comm 1]

theorem length_placesFrom (text : List Char) (place : Place) :
    (placesFrom text place).length = text.length + 1 := by
  induction text generalizing place with
  | nil => rfl
  | cons c rest ih => rw [placesFrom, List.length_cons, ih, List.length_cons]

/-- Where a search can begin: at its place and behind it, with nothing remembered. -/
def startsFrom (place : Place) : List Place := placesFrom place.after { place with groups := [] }

/-- What is found begins at the place or behind it, and the pattern reaches its end. -/
theorem reaches_of_search_eq_some {pattern : Pattern} (hbounded : pattern.WellBounded)
    {place : Place} {found : Match} (h : search pattern.automaton place = some found) :
    found.start ∈ startsFrom place ∧ pattern.Reaches found.start found.stop := by
  obtain ⟨thread, hthread, hstart, haccepts⟩ := accepts_of_follow_eq_some h
  obtain ⟨start, hmem, rfl⟩ := List.mem_map.mp hthread
  rw [hstart]
  exact ⟨hmem, (accepts_iff_reaches hbounded rfl _).mp haccepts⟩

/-- If the pattern reaches anything from the place or behind it, something is found. -/
theorem search_ne_none_of_reaches {pattern : Pattern} (hbounded : pattern.WellBounded)
    {place start stop : Place} (hoffset : place.offset = place.before.length)
    (hstart : start ∈ startsFrom place) (hreaches : pattern.Reaches start stop) :
    search pattern.automaton place ≠ none := by
  intro hnone
  have hwithin : ∀ start ∈ startsFrom place, (Thread.begin start).Within
      (place.before.reverse ++ place.after) place.offset := by
    intro start hstart
    obtain ⟨front, back, hsplit, rfl⟩ := (mem_placesFrom_iff (by rfl)).mp hstart
    refine ⟨?_, ?_, Nat.le_add_right _ _⟩
    · simp [Thread.begin, hsplit]
    · simp [Thread.begin, hoffset, Nat.add_comm]
  have hcontains : ∀ thread, (Footprints.none place.offset (startsFrom place).length).contains
      thread = false := by
    intro thread
    rw [Footprints.contains, Footprints.none, Array.getD_eq_getD_getElem?,
      Array.getElem?_replicate]
    split
    · exact Nat.zero_testBit _
    · exact Nat.zero_testBit _
  have hfits : (Footprints.none place.offset (startsFrom place).length).Fits
      (place.before.reverse ++ place.after) place.offset := by
    refine ⟨rfl, ?_⟩
    change (Array.replicate _ _).size = _
    rw [Array.size_replicate, startsFrom, length_placesFrom, List.length_append,
      List.length_reverse, hoffset]
    omega
  refine not_accepts_of_follow_eq_none hnone hfits ?_ ?_ ?_ (hwithin start hstart)
    (.inr (List.mem_map_of_mem hstart)) stop ((accepts_iff_reaches hbounded rfl _).mpr hreaches)
  · intro thread hthread
    obtain ⟨start, hstart, rfl⟩ := List.mem_map.mp hthread
    exact hwithin start hstart
  · intro thread _ hseen
    exact absurd (hseen.symm.trans (hcontains thread)) Bool.noConfusion
  · have hfree := Finset.card_filter_le
      (Finset.range (startsFrom place).length ×ˢ Finset.range pattern.automaton.size) fun spot =>
        ((Footprints.none place.offset (startsFrom place).length).rows.getD spot.1 0).testBit
          spot.2 = false
    rw [Finset.card_product, Finset.card_range, Finset.card_range] at hfree
    rw [Footprints.free, Footprints.none, Array.size_replicate, List.length_map]
    calc _ ≤ (startsFrom place).length +
          2 * ((startsFrom place).length * pattern.automaton.size) :=
        Nat.add_le_add_left (Nat.mul_le_mul_left 2 hfree) _
      _ < (2 * pattern.automaton.size + 1) * (startsFrom place).length + 1 := by
        rw [Nat.add_mul, Nat.one_mul, Nat.mul_assoc, Nat.mul_comm pattern.automaton.size]
        omega

/-! ### The first match in a text -/

/-- A match in a text begins behind some of its characters. -/
theorem reaches_of_find?_eq_some {pattern : Pattern} (hbounded : pattern.WellBounded)
    {text : String} {found : Match} (h : pattern.find? text = some found) :
    (∃ front back, text.toList = front ++ back ∧
      found.start = ⟨front.reverse, back, front.length, []⟩) ∧
      pattern.Reaches found.start found.stop := by
  obtain ⟨hstart, hreaches⟩ := reaches_of_search_eq_some hbounded h
  obtain ⟨front, back, hsplit, hfound⟩ := (mem_placesFrom_iff (by rfl)).mp hstart
  refine ⟨⟨front, back, hsplit, ?_⟩, hreaches⟩
  simpa [Place.start] using hfound

/-- If the pattern reaches anything from behind some characters of a text, there is a match. -/
theorem find?_ne_none_of_reaches {pattern : Pattern} (hbounded : pattern.WellBounded)
    {text : String} {front back : List Char} {stop : Place} (hsplit : text.toList = front ++ back)
    (h : pattern.Reaches ⟨front.reverse, back, front.length, []⟩ stop) :
    pattern.find? text ≠ none := by
  refine search_ne_none_of_reaches hbounded rfl ?_ h
  refine (mem_placesFrom_iff (by rfl)).mpr ⟨front, back, hsplit, ?_⟩
  simp [Place.start]

end Pattern

end BotHost
