/-
# Ways through an automaton

`Leads` follows one thread through the nodes of an automaton, one node at a time.  The layout
of a pattern is right if the threads that enter it at its first node and leave it are those that
leave it for its next node, at a place that the pattern reaches.

Both halves go by the shape of the pattern.  For a repetition without bound, which leads back to
its own beginning, the way in `Sound` gets shorter with every round, and this is what the
induction is on.
-/

import BotHost.Pattern.Matcher

namespace BotHost

namespace Pattern

/-! ### Threads -/

namespace Thread

/-- The thread at another node and another place. -/
def moveTo (thread : Thread) (node : Nat) (place : Place) : Thread := { thread with node, place }

@[simp] theorem moveTo_node (thread : Thread) (node : Nat) (place : Place) :
    (thread.moveTo node place).node = node := rfl

theorem goTo_eq_moveTo (thread : Thread) (node : Nat) :
    thread.goTo node = thread.moveTo node thread.place := rfl

end Thread

/-- A thread leads to another in a number of steps. -/
inductive Leads (nodes : Array PatternNode) : Nat → Thread → Thread → Prop where
  | refl (thread : Thread) : Leads nodes 0 thread thread
  | step {steps : Nat} {thread second final : Thread} {node : PatternNode} :
      nodes[thread.node]? = some node → second ∈ thread.follow node →
      Leads nodes steps second final → Leads nodes (steps + 1) thread final

namespace Leads

variable {nodes : Array PatternNode} {steps : Nat} {thread second final : Thread}
  {node : PatternNode}

theorem trans {more : Nat} (h : Leads nodes steps thread second)
    (hmore : Leads nodes more second final) : Leads nodes (steps + more) thread final := by
  induction h with
  | refl thread => rwa [Nat.zero_add]
  | step hnode hsecond h ih =>
      rw [Nat.add_right_comm]
      exact .step hnode hsecond (ih hmore)

theorem single (hnode : nodes[thread.node]? = some node) (hsecond : second ∈ thread.follow node) :
    Leads nodes 1 thread second := .step hnode hsecond (.refl second)

/-- A way that ends elsewhere takes a first step. -/
theorem first_step (h : Leads nodes steps thread final) (hnode : nodes[thread.node]? = some node)
    (hne : thread.node ≠ final.node) :
    ∃ fewer second, steps = fewer + 1 ∧ second ∈ thread.follow node ∧
      Leads nodes fewer second final := by
  cases h with
  | refl => exact absurd rfl hne
  | @step fewer _ _ _ node' hnode' hsecond h =>
      rw [hnode] at hnode'
      cases hnode'
      exact ⟨fewer, _, rfl, hsecond, h⟩

end Leads

/-! ### Nodes in an automaton -/

/-- The nodes of a layout stand in an automaton from a number on. -/
def Placed (nodes : Array PatternNode) (start : Nat) (block : List PatternNode) : Prop :=
  ∀ index node, block[index]? = some node → nodes[start + index]? = some node

namespace Placed

variable {nodes : Array PatternNode} {start : Nat} {block rest : List PatternNode}
  {node : PatternNode}

theorem head (h : Placed nodes start (node :: block)) : nodes[start]? = some node :=
  h 0 node rfl

theorem tail (h : Placed nodes start (node :: block)) : Placed nodes (start + 1) block := by
  intro index other hother
  rw [Nat.add_assoc, Nat.add_comm 1 index]
  exact h (index + 1) other hother

theorem left (h : Placed nodes start (block ++ rest)) : Placed nodes start block := by
  intro index other hother
  have hlt : index < block.length := (List.getElem?_eq_some_iff.mp hother).1
  exact h index other (by rwa [List.getElem?_append_left hlt])

theorem right (h : Placed nodes start (block ++ rest)) :
    Placed nodes (start + block.length) rest := by
  intro index other hother
  rw [Nat.add_assoc]
  apply h (block.length + index) other
  rwa [List.getElem?_append_right (Nat.le_add_right _ _), Nat.add_sub_cancel_left]

end Placed

namespace Layout

/-! ### Right layouts -/

/-- Every thread that goes through the layout and beyond gets to the next node in fewer steps
than it has, at a place that the relation allows. -/
def Sound (block : Layout) (width : Nat) (relation : Place → Place → Prop) : Prop :=
  ∀ nodes start next, Placed nodes start (block start next) →
    ∀ steps thread final, thread.node = start → Leads nodes steps thread final →
      (final.node < start ∨ start + width ≤ final.node) →
      ∃ fewer place, fewer < steps ∧ relation thread.place place ∧
        Leads nodes fewer (thread.moveTo next place) final

/-- Every place that the relation allows can be reached through the layout. -/
def Complete (block : Layout) (relation : Place → Place → Prop) : Prop :=
  ∀ nodes start next, Placed nodes start (block start next) →
    ∀ thread place, thread.node = start → relation thread.place place →
      ∃ steps, Leads nodes steps thread (thread.moveTo next place)

/-- A layout of a width is right if it is sound and complete. -/
structure Right (block : Layout) (width : Nat) (relation : Place → Place → Prop) : Prop where
  length : ∀ start next, (block start next).length = width
  sound : Sound block width relation
  complete : Complete block relation

/-- Only what a relation says counts. -/
theorem Right.congr {block : Layout} {width : Nat} {relation other : Place → Place → Prop}
    (h : Right block width relation) (hsame : ∀ first second,
      relation first second ↔ other first second) : Right block width other := by
  have heq : relation = other := by
    funext first second
    exact propext (hsame first second)
  rwa [← heq]

/-- A single node is right if its threads are those that the relation allows. -/
theorem right_single {relation : Place → Place → Prop} {node : Nat → PatternNode}
    (hfollow : ∀ (thread : Thread) next second, second ∈ thread.follow (node next) ↔
      ∃ place, relation thread.place place ∧ second = thread.moveTo next place) :
    Right (fun _ next => [node next]) 1 relation where
  length _ _ := rfl
  sound := by
    intro nodes start next hplaced steps thread final hstart hleads hfinal
    subst hstart
    obtain ⟨fewer, second, rfl, hsecond, hrest⟩ := hleads.first_step hplaced.head (by omega)
    obtain ⟨place, hplace, rfl⟩ := (hfollow thread next second).mp hsecond
    exact ⟨fewer, place, Nat.lt_succ_self _, hplace, hrest⟩
  complete := by
    intro nodes start next hplaced thread place hstart hplace
    subst hstart
    exact ⟨1, .single hplaced.head ((hfollow _ _ _).mpr ⟨place, hplace, rfl⟩)⟩

section Combined

variable {block other : Layout} {width span : Nat} {relation following : Place → Place → Prop}

/-- One layout behind another. -/
theorem right_append (hblock : Right block width relation)
    (hother : Right other span following) :
    Right (fun start next => block start (start + width) ++ other (start + width) next)
      (width + span)
      fun first second => ∃ middle, relation first middle ∧ following middle second where
  length start next := by rw [List.length_append, hblock.length, hother.length]
  sound := by
    intro nodes start next hplaced steps thread final hstart hleads hfinal
    have hright := hplaced.right
    rw [hblock.length] at hright
    obtain ⟨fewer, middle, hfewer, hmiddle, hrest⟩ := hblock.sound nodes start _ hplaced.left
      steps thread final hstart hleads (by omega)
    obtain ⟨fewest, place, hfewest, hplace, hlast⟩ := hother.sound nodes _ next hright
      fewer _ final rfl hrest (by omega)
    exact ⟨fewest, place, by omega, ⟨middle, hmiddle, hplace⟩, hlast⟩
  complete := by
    rintro nodes start next hplaced thread place hstart ⟨middle, hmiddle, hplace⟩
    have hright := hplaced.right
    rw [hblock.length] at hright
    obtain ⟨steps, hfirst⟩ := hblock.complete nodes start _ hplaced.left thread middle hstart
      hmiddle
    obtain ⟨more, hsecond⟩ := hother.complete nodes _ next hright (thread.moveTo _ middle) place
      rfl hplace
    exact ⟨steps + more, hfirst.trans hsecond⟩

/-- A branch leads inside or outside. -/
theorem mem_follow_branch {thread second : Thread} {greedy : Bool} {inside outside : Nat} :
    second ∈ thread.follow (.branch greedy inside outside) ↔
      second = thread.moveTo inside thread.place ∨ second = thread.moveTo outside thread.place := by
  cases greedy with
  | true => simp [PatternNode.branch, Thread.follow, Thread.goTo_eq_moveTo]
  | false => simp [PatternNode.branch, Thread.follow, Thread.goTo_eq_moveTo, or_comm]

/-- A layout that may be left out. -/
theorem right_skip (greedy : Bool) (hblock : Right block width relation) :
    Right (fun start next => .branch greedy (start + 1) next :: block (start + 1) next)
      (width + 1) fun first second => second = first ∨ relation first second where
  length start next := by rw [List.length_cons, hblock.length]
  sound := by
    intro nodes start next hplaced steps thread final hstart hleads hfinal
    subst hstart
    obtain ⟨fewer, second, rfl, hsecond, hrest⟩ := hleads.first_step hplaced.head (by omega)
    rcases mem_follow_branch.mp hsecond with rfl | rfl
    · obtain ⟨fewest, place, hfewest, hplace, hlast⟩ := hblock.sound nodes _ next hplaced.tail
        fewer _ final rfl hrest (by omega)
      exact ⟨fewest, place, by omega, .inr hplace, hlast⟩
    · exact ⟨fewer, thread.place, Nat.lt_succ_self _, .inl rfl, hrest⟩
  complete := by
    rintro nodes start next hplaced thread place hstart (rfl | hplace)
    · subst hstart
      exact ⟨1, .single hplaced.head (mem_follow_branch.mpr (.inr rfl))⟩
    · subst hstart
      obtain ⟨steps, hrest⟩ := hblock.complete nodes _ next hplaced.tail
        (thread.moveTo _ thread.place) place rfl hplace
      exact ⟨steps + 1, .step hplaced.head (mem_follow_branch.mpr (.inl rfl)) hrest⟩

/-- One of two layouts. -/
theorem right_fork (hblock : Right block width relation) (hother : Right other span following) :
    Right (fun start next => .fork (start + 1) (start + 1 + width) ::
        (block (start + 1) next ++ other (start + 1 + width) next))
      (width + span + 1)
      fun first second => relation first second ∨ following first second where
  length start next := by rw [List.length_cons, List.length_append, hblock.length, hother.length]
  sound := by
    intro nodes start next hplaced steps thread final hstart hleads hfinal
    subst hstart
    have hright := hplaced.tail.right
    rw [hblock.length] at hright
    obtain ⟨fewer, second, rfl, hsecond, hrest⟩ := hleads.first_step hplaced.head (by omega)
    simp only [Thread.follow, Thread.goTo_eq_moveTo, List.mem_cons, List.not_mem_nil,
      or_false] at hsecond
    rcases hsecond with rfl | rfl
    · obtain ⟨fewest, place, hfewest, hplace, hlast⟩ := hblock.sound nodes _ next
        hplaced.tail.left fewer _ final rfl hrest (by omega)
      exact ⟨fewest, place, by omega, .inl hplace, hlast⟩
    · obtain ⟨fewest, place, hfewest, hplace, hlast⟩ := hother.sound nodes _ next
        hright fewer _ final rfl hrest (by omega)
      exact ⟨fewest, place, by omega, .inr hplace, hlast⟩
  complete := by
    rintro nodes start next hplaced thread place hstart (hplace | hplace)
    · subst hstart
      obtain ⟨steps, hrest⟩ := hblock.complete nodes _ next hplaced.tail.left
        (thread.moveTo _ thread.place) place rfl hplace
      exact ⟨steps + 1, .step hplaced.head (by simp [Thread.follow, Thread.goTo_eq_moveTo]) hrest⟩
    · subst hstart
      have hright := hplaced.tail.right
      rw [hblock.length] at hright
      obtain ⟨steps, hrest⟩ := hother.complete nodes _ next hright
        (thread.moveTo _ thread.place) place rfl hplace
      exact ⟨steps + 1, .step hplaced.head (by simp [Thread.follow, Thread.goTo_eq_moveTo]) hrest⟩

end Combined

/-! ### Repetitions -/

section Repeated

variable {block : Layout} {width : Nat} {relation : Place → Place → Prop}

theorem iterated_zero_iff {first second : Place} :
    Iterated relation 0 first second ↔ second = first := by
  constructor
  · intro h
    cases h
    rfl
  · rintro rfl
    exact .zero _

theorem iterated_succ_iff {count : Nat} {first third : Place} :
    Iterated relation (count + 1) first third ↔
      ∃ second, relation first second ∧ Iterated relation count second third := by
  constructor
  · intro h
    cases h with
    | succ hfirst hrest => exact ⟨_, hfirst, hrest⟩
  · rintro ⟨second, hfirst, hrest⟩
    exact .succ hfirst hrest

theorem iterated_add_iff {count more : Nat} {first third : Place} :
    Iterated relation (count + more) first third ↔
      ∃ second, Iterated relation count first second ∧ Iterated relation more second third := by
  induction count generalizing first with
  | zero => simp [iterated_zero_iff]
  | succ count ih =>
      rw [Nat.add_right_comm, iterated_succ_iff]
      simp only [ih, iterated_succ_iff]
      constructor
      · rintro ⟨second, hfirst, middle, hmiddle, hrest⟩
        exact ⟨middle, ⟨second, hfirst, hmiddle⟩, hrest⟩
      · rintro ⟨middle, ⟨second, hfirst, hmiddle⟩, hrest⟩
        exact ⟨second, hfirst, middle, hmiddle, hrest⟩

/-- The node that only goes on stays at its place. -/
theorem right_pass : Right (fun _ next => [.pass next]) 1 fun first second => second = first :=
  right_single fun thread next second => by simp [Thread.follow, Thread.goTo_eq_moveTo]

theorem right_chain (h : Right block width relation) (count : Nat) :
    Right (chain block width count) (count * width + 1) (Iterated relation count) := by
  induction count with
  | zero =>
      rw [Nat.zero_mul, Nat.zero_add]
      exact right_pass.congr fun first second => iterated_zero_iff.symm
  | succ count ih =>
      have hwidth : width + (count * width + 1) = (count + 1) * width + 1 := by
        rw [Nat.succ_mul]
        omega
      rw [← hwidth]
      exact (right_append h ih).congr fun first third => iterated_succ_iff.symm

theorem right_atMost (h : Right block width relation) (greedy : Bool) (count : Nat) :
    Right (atMost block width greedy count) (count * (width + 1) + 1)
      fun first second => ∃ rounds, rounds ≤ count ∧ Iterated relation rounds first second := by
  induction count with
  | zero =>
      rw [Nat.zero_mul, Nat.zero_add]
      apply right_pass.congr
      intro first second
      constructor
      · intro hsame
        exact ⟨0, Nat.le_refl 0, iterated_zero_iff.mpr hsame⟩
      · rintro ⟨rounds, hrounds, hplaces⟩
        obtain rfl := Nat.le_zero.mp hrounds
        exact iterated_zero_iff.mp hplaces
  | succ count ih =>
      have hwidth : width + (count * (width + 1) + 1) + 1 = (count + 1) * (width + 1) + 1 := by
        rw [Nat.succ_mul]
        omega
      rw [← hwidth]
      apply (right_skip greedy (right_append h ih)).congr
      intro first third
      constructor
      · rintro (hsame | ⟨second, hfirst, rounds, hrounds, hrest⟩)
        · exact ⟨0, Nat.zero_le _, iterated_zero_iff.mpr hsame⟩
        · exact ⟨rounds + 1, Nat.succ_le_succ hrounds, .succ hfirst hrest⟩
      · rintro ⟨rounds, hrounds, hplaces⟩
        cases hplaces with
        | zero => exact .inl rfl
        | succ hfirst hrest => exact .inr ⟨_, hfirst, _, Nat.le_of_succ_le_succ hrounds, hrest⟩

/-- A round that leads back to a branch between the next round and the way out.  The way to the
end gets shorter with every round. -/
theorem sound_loop (h : Right block width relation) {nodes : Array PatternNode}
    {entrance next steps : Nat} {thread final : Thread} {greedy : Bool} {branch : Nat}
    (hblock : Placed nodes entrance (block entrance branch))
    (hbranch : nodes[branch]? = some (.branch greedy entrance next))
    (hthread : thread.node = branch) (hleads : Leads nodes steps thread final)
    (hfinal : final.node < entrance ∨ entrance + width ≤ final.node) (hne : branch ≠ final.node) :
    ∃ fewer place, fewer < steps ∧ (∃ rounds, Iterated relation rounds thread.place place) ∧
      Leads nodes fewer (thread.moveTo next place) final := by
  induction steps using Nat.strongRecOn generalizing thread with
  | ind steps ih =>
      subst hthread
      obtain ⟨fewer, second, rfl, hsecond, hrest⟩ := hleads.first_step hbranch hne
      rcases mem_follow_branch.mp hsecond with rfl | rfl
      · obtain ⟨fewest, middle, hfewest, hmiddle, hround⟩ := h.sound nodes entrance _ hblock
          fewer _ final rfl hrest hfinal
        obtain ⟨last, place, hlast, ⟨rounds, hplaces⟩, hend⟩ :=
          ih fewest (by omega) (Thread.moveTo_node _ _ _) hround
        exact ⟨last, place, by omega, ⟨rounds + 1, .succ hmiddle hplaces⟩, hend⟩
      · exact ⟨fewer, thread.place, Nat.lt_succ_self _, ⟨0, .zero _⟩, hrest⟩

theorem complete_loop (h : Right block width relation) {nodes : Array PatternNode}
    {entrance next rounds : Nat} {thread : Thread} {place : Place} {greedy : Bool} {branch : Nat}
    (hblock : Placed nodes entrance (block entrance branch))
    (hbranch : nodes[branch]? = some (.branch greedy entrance next))
    (hthread : thread.node = branch) (hplaces : Iterated relation rounds thread.place place) :
    ∃ steps, Leads nodes steps thread (thread.moveTo next place) := by
  induction rounds generalizing thread with
  | zero =>
      obtain rfl := iterated_zero_iff.mp hplaces
      subst hthread
      exact ⟨1, .single hbranch (mem_follow_branch.mpr (.inr rfl))⟩
  | succ rounds ih =>
      obtain ⟨middle, hmiddle, hplaces⟩ := iterated_succ_iff.mp hplaces
      subst hthread
      obtain ⟨steps, hround⟩ := h.complete nodes entrance _ hblock
        (thread.moveTo entrance thread.place) middle rfl hmiddle
      obtain ⟨more, hrest⟩ := @ih (thread.moveTo _ middle) rfl hplaces
      exact ⟨steps + more + 1, .step hbranch (mem_follow_branch.mpr (.inl rfl))
        (hround.trans hrest)⟩

theorem right_onceOrMore (h : Right block width relation) (greedy : Bool) :
    Right (onceOrMore block width greedy) (width + 1)
      fun first second => ∃ rounds, 0 < rounds ∧ Iterated relation rounds first second where
  length start next := by rw [onceOrMore, List.length_append, h.length, List.length_singleton]
  sound := by
    intro nodes start next hplaced steps thread final hstart hleads hfinal
    have hbranch := hplaced.right.head
    rw [h.length] at hbranch
    obtain ⟨fewer, middle, hfewer, hmiddle, hround⟩ := h.sound nodes start _ hplaced.left
      steps thread final hstart hleads (by omega)
    obtain ⟨fewest, place, hfewest, ⟨rounds, hplaces⟩, hend⟩ :=
      sound_loop h hplaced.left hbranch rfl hround (by omega) (by omega)
    exact ⟨fewest, place, by omega, ⟨rounds + 1, Nat.succ_pos _, .succ hmiddle hplaces⟩, hend⟩
  complete := by
    rintro nodes start next hplaced thread place hstart ⟨rounds, hrounds, hplaces⟩
    have hbranch := hplaced.right.head
    rw [h.length] at hbranch
    obtain ⟨rounds, rfl⟩ := Nat.exists_eq_succ_of_ne_zero (Nat.ne_of_gt hrounds)
    obtain ⟨middle, hmiddle, hplaces⟩ := iterated_succ_iff.mp hplaces
    obtain ⟨steps, hround⟩ := h.complete nodes start _ hplaced.left thread middle hstart hmiddle
    obtain ⟨more, hrest⟩ := complete_loop h hplaced.left hbranch
      (Thread.moveTo_node thread _ middle) hplaces
    exact ⟨steps + more, hround.trans hrest⟩

theorem right_anyTimes (h : Right block width relation) (greedy alwaysTakes : Bool) :
    Right (anyTimes block width greedy alwaysTakes) (if alwaysTakes then width + 1 else width + 2)
      fun first second => ∃ rounds, Iterated relation rounds first second := by
  cases alwaysTakes with
  | false =>
      apply (right_skip greedy (right_onceOrMore h greedy)).congr
      intro first second
      constructor
      · rintro (rfl | ⟨rounds, -, hplaces⟩)
        · exact ⟨0, .zero _⟩
        · exact ⟨rounds, hplaces⟩
      · rintro ⟨rounds, hplaces⟩
        cases hplaces with
        | zero => exact .inl rfl
        | succ hfirst hrest => exact .inr ⟨_, Nat.succ_pos _, .succ hfirst hrest⟩
  | true =>
      exact
        { length := fun start next => by
            rw [anyTimes, List.length_cons, if_pos rfl, h.length, if_pos rfl]
          sound := fun nodes start next hplaced steps thread final hstart hleads hfinal =>
            sound_loop h hplaced.tail hplaced.head hstart hleads
              (by rw [if_pos rfl] at hfinal; omega) (by rw [if_pos rfl] at hfinal; omega)
          complete := fun nodes start next hplaced thread place hstart hplaces =>
            hplaces.elim fun rounds hplaces =>
              complete_loop h hplaced.tail hplaced.head hstart hplaces }

/-- A repetition whose least number of times is not above the most is laid out rightly. -/
theorem right_repeated (h : Right block width relation) (alwaysTakes greedy : Bool) (least : Nat)
    (most : Option Nat) (hbounds : ∀ bound, most = some bound → least ≤ bound) :
    Right (repeated block width alwaysTakes least most greedy)
      (repeatedWidth width alwaysTakes least most)
      fun first second => ∃ rounds, least ≤ rounds ∧ (∀ bound, most = some bound → rounds ≤ bound) ∧
        Iterated relation rounds first second := by
  cases most with
  | some most =>
      have hmost := hbounds most rfl
      refine (right_append (right_chain h least) (right_atMost h greedy (most - least))).congr
        fun first second => ?_
      constructor
      · rintro ⟨middle, hleast, rounds, hrounds, hplaces⟩
        refine ⟨least + rounds, Nat.le_add_right _ _, ?_, ?_⟩
        · rintro bound ⟨⟩
          omega
        · exact iterated_add_iff.mpr ⟨middle, hleast, hplaces⟩
      · rintro ⟨rounds, hrounds, hbound, hplaces⟩
        have hle := hbound most rfl
        obtain ⟨more, rfl⟩ := Nat.exists_eq_add_of_le hrounds
        obtain ⟨middle, hleast, hplaces⟩ := iterated_add_iff.mp hplaces
        exact ⟨middle, hleast, more, by omega, hplaces⟩
  | none =>
      cases least with
      | zero =>
          apply (right_anyTimes h greedy alwaysTakes).congr
          intro first second
          constructor
          · rintro ⟨rounds, hplaces⟩
            exact ⟨rounds, Nat.zero_le _, by rintro _ ⟨⟩, hplaces⟩
          · rintro ⟨rounds, -, -, hplaces⟩
            exact ⟨rounds, hplaces⟩
      | succ least =>
          refine (right_append (right_chain h least) (right_onceOrMore h greedy)).congr
            fun first second => ?_
          constructor
          · rintro ⟨middle, hleast, rounds, hrounds, hplaces⟩
            refine ⟨least + rounds, by omega, by rintro _ ⟨⟩, ?_⟩
            exact iterated_add_iff.mpr ⟨middle, hleast, hplaces⟩
          · rintro ⟨rounds, hrounds, -, hplaces⟩
            obtain ⟨more, rfl⟩ := Nat.exists_eq_add_of_le (Nat.le_of_succ_le hrounds)
            obtain ⟨middle, hleast, hplaces⟩ := iterated_add_iff.mp hplaces
            exact ⟨middle, hleast, more, by omega, hplaces⟩

end Repeated

end Layout

/-! ### Patterns -/

/-- Every repetition in a pattern has a least number of times that is not above the most. -/
def WellBounded : Pattern → Prop
  | empty => True
  | one _ => True
  | assertion _ => True
  | capture _ _ inner => inner.WellBounded
  | sequence first second => first.WellBounded ∧ second.WellBounded
  | alternative first second => first.WellBounded ∧ second.WellBounded
  | repetition inner least most _ =>
    inner.WellBounded ∧ ∀ bound, most = some bound → least ≤ bound

open Layout in
/-- A group remembers the text from where it began. -/
theorem right_capture {block : Layout} {width : Nat} {relation : Place → Place → Prop}
    (h : Right block width relation) (index : Nat) :
    Right (fun start next => .enter (start + 1) ::
        (block (start + 1) (start + 1 + width) ++ [.leave index next])) (width + 2)
      fun first second =>
        ∃ inside, relation first inside ∧ second = inside.remember index first where
  length start next := by
    rw [List.length_cons, List.length_append, h.length, List.length_singleton]
  sound := by
    intro nodes start next hplaced steps thread final hstart hleads hfinal
    subst hstart
    have hleave := hplaced.tail.right.head
    rw [h.length] at hleave
    obtain ⟨fewer, second, rfl, hsecond, hrest⟩ := hleads.first_step hplaced.head (by omega)
    obtain rfl := List.mem_singleton.mp hsecond
    obtain ⟨fewest, inside, hfewest, hinside, hend⟩ := h.sound nodes _ _ hplaced.tail.left
      fewer _ final rfl hrest (by omega)
    obtain ⟨last, third, rfl, hthird, hlast⟩ := hend.first_step hleave
      (by rw [Thread.moveTo_node]; omega)
    obtain rfl := List.mem_singleton.mp hthird
    exact ⟨last, _, by omega, ⟨inside, hinside, rfl⟩, hlast⟩
  complete := by
    rintro nodes start next hplaced thread place hstart ⟨inside, hinside, rfl⟩
    subst hstart
    have hleave := hplaced.tail.right.head
    rw [h.length] at hleave
    obtain ⟨steps, hrest⟩ := h.complete nodes _ _ hplaced.tail.left
      { thread with node := thread.node + 1, opened := thread.place :: thread.opened } inside rfl
      hinside
    refine ⟨1 + steps + 1, ((Leads.single hplaced.head ?_).trans hrest).trans
      (.single hleave ?_)⟩
    · exact List.mem_singleton.mpr rfl
    · exact List.mem_singleton.mpr rfl

/-- The layout of a pattern leads exactly where the pattern reaches. -/
theorem right_layout {pattern : Pattern} (hbounded : pattern.WellBounded) :
    Layout.Right pattern.layout pattern.width pattern.Reaches := by
  induction pattern with
  | empty => exact Layout.right_pass
  | one set =>
      apply Layout.right_single
      intro thread next second
      simp only [Thread.follow, Reaches]
      cases hafter : thread.place.after with
      | nil => simp
      | cons c rest =>
          by_cases hset : set.contains c = true
          · simp only [if_pos hset, List.mem_singleton]
            constructor
            · rintro rfl
              exact ⟨_, ⟨c, rest, rfl, hset, rfl⟩, rfl⟩
            · rintro ⟨_, ⟨_, _, ⟨⟩, -, rfl⟩, rfl⟩
              rfl
          · simp only [if_neg hset, List.not_mem_nil, false_iff]
            rintro ⟨_, ⟨_, _, ⟨⟩, hcontains, -⟩, -⟩
            exact absurd hcontains hset
  | assertion kind =>
      apply Layout.right_single
      intro thread next second
      simp only [Thread.follow, Reaches]
      by_cases hholds : kind.holds thread.place.before thread.place.after = true
      · simp [hholds, Thread.goTo_eq_moveTo]
      · simp [hholds]
  | capture index name inner ih => exact right_capture (ih hbounded) index
  | sequence first second ihFirst ihSecond =>
      exact Layout.right_append (ihFirst hbounded.1) (ihSecond hbounded.2)
  | alternative first second ihFirst ihSecond =>
      exact Layout.right_fork (ihFirst hbounded.1) (ihSecond hbounded.2)
  | repetition inner least most greedy ih =>
      exact Layout.right_repeated (ih hbounded.1) _ greedy least most hbounded.2

/-! ### The whole automaton -/

namespace Layout

/-- No thread is accepted within the layout. -/
def Passing (block : Layout) : Prop := ∀ start next, PatternNode.accept ∉ block start next

variable {block : Layout} {width : Nat}

theorem accept_ne_branch (greedy : Bool) (inside outside : Nat) :
    PatternNode.accept ≠ .branch greedy inside outside := by
  cases greedy <;> simp [PatternNode.branch]

theorem passing_chain (h : Passing block) (count : Nat) : Passing (chain block width count) := by
  induction count with
  | zero => simp [Passing, chain]
  | succ count ih =>
      intro start next
      simp [chain, h start, ih (start + width) next]

theorem passing_atMost (h : Passing block) (greedy : Bool) (count : Nat) :
    Passing (atMost block width greedy count) := by
  induction count with
  | zero => simp [Passing, atMost]
  | succ count ih =>
      intro start next
      simp [atMost, h (start + 1), ih (start + 1 + width) next, accept_ne_branch]

theorem passing_onceOrMore (h : Passing block) (greedy : Bool) :
    Passing (onceOrMore block width greedy) := by
  intro start next
  simp [onceOrMore, h start, accept_ne_branch]

theorem passing_repeated (h : Passing block) (alwaysTakes greedy : Bool) (least : Nat)
    (most : Option Nat) : Passing (repeated block width alwaysTakes least most greedy) := by
  intro start next
  cases most with
  | some most => simp [repeated, passing_chain h least _ _, passing_atMost h greedy _ _ _]
  | none =>
      cases least with
      | zero =>
          cases alwaysTakes with
          | true => simp [repeated, anyTimes, accept_ne_branch, h (start + 1) _]
          | false =>
              simp [repeated, anyTimes, accept_ne_branch, passing_onceOrMore h greedy (start + 1) _]
      | succ least =>
          simp [repeated, passing_chain h least _ _, passing_onceOrMore h greedy _ _]

end Layout

theorem passing_layout (pattern : Pattern) : Layout.Passing pattern.layout := by
  induction pattern with
  | empty => simp [Layout.Passing, layout]
  | one set => simp [Layout.Passing, layout]
  | assertion kind => simp [Layout.Passing, layout]
  | capture index name inner ih =>
      intro start next
      simp [layout, ih (start + 1) _]
  | sequence first second ihFirst ihSecond =>
      intro start next
      simp [layout, ihFirst start _, ihSecond _ next]
  | alternative first second ihFirst ihSecond =>
      intro start next
      simp [layout, ihFirst (start + 1) _, ihSecond _ next]
  | repetition inner least most greedy ih => exact Layout.passing_repeated ih _ greedy least most

theorem getElem?_automaton (pattern : Pattern) (index : Nat) :
    pattern.automaton[index]? =
      (pattern.layout 0 pattern.width ++ [PatternNode.accept])[index]? := by
  rw [automaton, List.getElem?_toArray]

theorem placed_automaton (pattern : Pattern) :
    Placed pattern.automaton 0 (pattern.layout 0 pattern.width ++ [PatternNode.accept]) := by
  intro index node hnode
  rwa [Nat.zero_add, getElem?_automaton]

/-- The only node that accepts is the one behind the layout. -/
theorem automaton_accept_iff (pattern : Pattern) (index : Nat) :
    pattern.automaton[index]? = some .accept ↔ index = pattern.width := by
  rw [getElem?_automaton]
  constructor
  · intro haccept
    by_cases hlt : index < pattern.width
    · rw [List.getElem?_append_left (by rwa [length_layout])] at haccept
      exact absurd (List.mem_of_getElem? haccept) (passing_layout pattern 0 _)
    · have hbound := (List.getElem?_eq_some_iff.mp haccept).1
      rw [List.length_append, length_layout, List.length_singleton] at hbound
      omega
  · rintro rfl
    rw [List.getElem?_append_right (by simp [length_layout]), length_layout, Nat.sub_self]
    rfl

/-- A thread comes to be accepted, at a place. -/
def Accepts (nodes : Array PatternNode) (thread : Thread) (place : Place) : Prop :=
  ∃ steps final, Leads nodes steps thread final ∧ nodes[final.node]? = some .accept ∧
    final.place = place

/-- The automaton of a pattern accepts a thread exactly where the pattern reaches. -/
theorem accepts_iff_reaches {pattern : Pattern} (hbounded : pattern.WellBounded) {thread : Thread}
    (hstart : thread.node = 0) (place : Place) :
    Accepts pattern.automaton thread place ↔ pattern.Reaches thread.place place := by
  have hright := right_layout hbounded
  have hplaced := (placed_automaton pattern).left
  constructor
  · rintro ⟨steps, final, hleads, haccept, rfl⟩
    have hfinal := (automaton_accept_iff pattern _).mp haccept
    obtain ⟨fewer, place, -, hplace, hrest⟩ := hright.sound _ 0 _ hplaced steps thread final hstart
      hleads (by omega)
    cases hrest with
    | refl => exact hplace
    | step hnode hsecond _ =>
        rw [Thread.moveTo_node, (automaton_accept_iff pattern _).mpr rfl] at hnode
        cases hnode
        cases hsecond
  · intro hplace
    obtain ⟨steps, hleads⟩ := hright.complete _ 0 _ hplaced thread place hstart hplace
    exact ⟨steps, _, hleads, (automaton_accept_iff pattern _).mpr rfl, rfl⟩

end Pattern

end BotHost
