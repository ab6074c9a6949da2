/-
# Structural subsets

`Json.leftEquals` compares a template with a value.  Numbers count as equal if they have the same
nearest double, so two values that are subsets of each other need not be the same value: they agree
once every number has been replaced by its double, `Json.rounded`.  Up to that, being a subset is an
order, `Json.leftEquals_preorder`.

A path leads through a value key by key.  Each step from a template to one of its parts can be taken
in a value of which the template is a subset as well, and leads to a value of which the part is a
subset.  So whatever a template states at a path is found there, `Json.resolve_of_leftEquals`.
-/

import BotHost.Command.Passive
import BotHost.Proofs.Json.Documents

namespace BotHost

/-- What is found is listed. -/
theorem Entries.mem_of_find? {κ α : Type} [DecidableEq κ] {entries : List (κ × α)} {key : κ}
    {value : α} (h : find? key entries = some value) : (key, value) ∈ entries := by
  induction entries with
  | nil => cases h
  | cons entry rest ih =>
      rw [find?] at h
      split at h
      · rename_i hkey
        cases h
        rw [← hkey]
        exact List.mem_cons_self
      · exact List.mem_cons_of_mem _ (ih h)

/-! ### Numbers as they are compared -/

namespace Binary64

/-- The number with one zero for both. -/
def withOneZero (number : Binary64) : Binary64 := if number.isZero then zero false else number

/-- Two doubles are the same number if they differ at most in the sign of zero. -/
theorem sameNumber_iff {first second : Binary64} :
    first.sameNumber second = true ↔ first.withOneZero = second.withOneZero := by
  have hnonzero {number : Binary64} (h : number.isZero = false) : number ≠ zero false := by
    rintro rfl
    cases h
  cases hfirst : first.isZero <;> cases hsecond : second.isZero
  · simp [sameNumber, withOneZero, hfirst, hsecond]
  · have hne : first ≠ second := by
      rintro rfl
      exact absurd (hfirst.symm.trans hsecond) Bool.false_ne_true
    simp [sameNumber, withOneZero, hfirst, hsecond, hne, hnonzero hfirst]
  · have hne : first ≠ second := by
      rintro rfl
      exact absurd (hsecond.symm.trans hfirst) Bool.false_ne_true
    simp [sameNumber, withOneZero, hfirst, hsecond, hne, (hnonzero hsecond).symm]
  · simp [sameNumber, withOneZero, hfirst, hsecond]

end Binary64

namespace Number

/-- The number as it is compared: its nearest double, with one zero. -/
def rounded (number : Number) : Number := .real number.toBinary64.withOneZero

/-- To have the same nearest double is to be equal once rounded. -/
theorem sameDouble_iff {first second : Number} :
    first.sameDouble second = true ↔ first.rounded = second.rounded := by
  rw [sameDouble, Binary64.sameNumber_iff, rounded, rounded, real.injEq]

theorem sameDouble_equivalence :
    Equivalence fun first second : Number => first.sameDouble second = true where
  refl _ := sameDouble_iff.mpr rfl
  symm h := sameDouble_iff.mpr (sameDouble_iff.mp h).symm
  trans h h' := sameDouble_iff.mpr ((sameDouble_iff.mp h).trans (sameDouble_iff.mp h'))

end Number

namespace Json

mutual

/-- The value with every number as it is compared. -/
def rounded : Json → Json
  | null => null
  | bool value => bool value
  | number value => number value.rounded
  | string value => string value
  | array items => array (roundedItems items)
  | object members => object (roundedMembers members)

/-- A list of values with every number as it is compared. -/
def roundedItems : List Json → List Json
  | [] => []
  | item :: rest => rounded item :: roundedItems rest

/-- A list of members with every number as it is compared. -/
def roundedMembers : List (String × Json) → List (String × Json)
  | [] => []
  | (key, item) :: rest => (key, rounded item) :: roundedMembers rest

end

theorem roundedMembers_eq_filterMap (members : List (String × Json)) :
    roundedMembers members = Entries.filterMap (fun _ value => some value.rounded) members := by
  induction members with
  | nil => rfl
  | cons member rest ih => rw [roundedMembers, ih]; rfl

/-! ### Subsets of arrays and of objects -/

variable {stated members others : List (String × Json)} {items listed : List Json}
  {value received : Json}

/-- An object is a structural subset if each of its members has a counterpart. -/
theorem leftEqualsMembers_iff :
    leftEqualsMembers stated members = true ↔ ∀ member ∈ stated, ∃ found,
      Entries.find? member.1 members = some found ∧ member.2.leftEquals found = true := by
  induction stated with
  | nil => simp [leftEqualsMembers]
  | cons member rest ih =>
      obtain ⟨key, value⟩ := member
      rw [leftEqualsMembers, Bool.and_eq_true, ih, List.forall_mem_cons]
      cases Entries.find? key members <;> simp

/-- An object is a structural subset if there is a counterpart of whatever is found in it. -/
theorem leftEqualsMembers_iff_find? (h : Entries.Ascending stated) :
    leftEqualsMembers stated members = true ↔ ∀ key value, Entries.find? key stated = some value →
      ∃ found, Entries.find? key members = some found ∧ value.leftEquals found = true := by
  rw [leftEqualsMembers_iff]
  constructor
  · intro hall key value hvalue
    exact hall (key, value) (Entries.mem_of_find? hvalue)
  · rintro hall ⟨key, value⟩ hmember
    exact hall key value ((Entries.mem_iff_find? h key value).mp hmember)

/-- Only an object is a structural subset of an object. -/
theorem exists_of_leftEquals_object (h : value.leftEquals (.object members) = true) :
    ∃ stated, value = .object stated ∧ leftEqualsMembers stated members = true := by
  cases value with
  | object stated => exact ⟨stated, rfl, h⟩
  | _ => cases h

theorem isNull_of_leftEquals (h : value.leftEquals received = true) :
    value.isNull = received.isNull := by
  cases value <;> cases received <;> first | rfl | cases h

theorem text?_of_leftEquals (h : value.leftEquals received = true) :
    value.text? = received.text? := by
  cases value <;> cases received <;> first | rfl | cases h | skip
  exact congrArg some (by simpa [leftEquals] using h)

/-! ### Subsets as an order -/

theorem leftEqualsItems_refl (h : ∀ item ∈ items, item.leftEquals item = true) :
    leftEqualsItems items items = true := by
  induction items with
  | nil => rfl
  | cons item rest ih =>
      obtain ⟨hitem, hrest⟩ := List.forall_mem_cons.mp h
      rw [leftEqualsItems, hitem, ih hrest]
      rfl

/-- A value is a structural subset of itself. -/
theorem leftEquals_refl (h : value.Ordered) : value.leftEquals value = true := by
  induction h with
  | null => rfl
  | bool value => exact beq_self_eq_true value
  | number value => exact Number.sameDouble_equivalence.refl value
  | string value => exact beq_self_eq_true value
  | array _ ih => exact leftEqualsItems_refl ih
  | object hascending _ ih =>
      refine leftEqualsMembers_iff.mpr fun member hmember => ⟨member.2, ?_, ih member hmember⟩
      exact (Entries.mem_iff_find? hascending member.1 member.2).mp hmember

mutual

/-- A structural subset of a structural subset is one. -/
theorem leftEquals_trans : ∀ {first second third : Json}, first.leftEquals second = true →
    second.leftEquals third = true → first.leftEquals third = true
  | null, null, _, _, h' => h'
  | bool _, bool _, third, h, h' => by
      cases third with
      | bool _ => exact beq_iff_eq.mpr ((beq_iff_eq.mp h).trans (beq_iff_eq.mp h'))
      | _ => cases h'
  | number _, number _, third, h, h' => by
      cases third with
      | number _ => exact Number.sameDouble_equivalence.trans h h'
      | _ => cases h'
  | string _, string _, third, h, h' => by
      cases third with
      | string _ => exact beq_iff_eq.mpr ((beq_iff_eq.mp h).trans (beq_iff_eq.mp h'))
      | _ => cases h'
  | array _, array _, third, h, h' => by
      cases third with
      | array _ => exact leftEqualsItems_trans h h'
      | _ => cases h'
  | object _, object _, third, h, h' => by
      cases third with
      | object _ => exact leftEqualsMembers_trans h h'
      | _ => cases h'

theorem leftEqualsItems_trans : ∀ {first second third : List Json},
    leftEqualsItems first second = true → leftEqualsItems second third = true →
      leftEqualsItems first third = true
  | [], [], _, _, h' => h'
  | _ :: _, _ :: _, third, h, h' => by
      cases third with
      | nil => cases h'
      | cons =>
          obtain ⟨hhead, hrest⟩ := Bool.and_eq_true_iff.mp h
          obtain ⟨hhead', hrest'⟩ := Bool.and_eq_true_iff.mp h'
          exact Bool.and_eq_true_iff.mpr
            ⟨leftEquals_trans hhead hhead', leftEqualsItems_trans hrest hrest'⟩

theorem leftEqualsMembers_trans : ∀ {first second third : List (String × Json)},
    leftEqualsMembers first second = true → leftEqualsMembers second third = true →
      leftEqualsMembers first third = true
  | [], _, _, _, _ => rfl
  | (key, item) :: rest, second, third, h, h' => by
      rw [leftEqualsMembers_iff, List.forall_mem_cons] at h
      obtain ⟨⟨between, hbetween, hitem⟩, hrest⟩ := h
      -- The counterpart of the member has a counterpart in turn.
      obtain ⟨found, hfound, hthere⟩ :=
        leftEqualsMembers_iff.mp h' (key, between) (Entries.mem_of_find? hbetween)
      refine leftEqualsMembers_iff.mpr (List.forall_mem_cons.mpr ⟨⟨found, hfound, ?_⟩, ?_⟩)
      · exact leftEquals_trans hitem hthere
      · exact leftEqualsMembers_iff.mp
          (leftEqualsMembers_trans (leftEqualsMembers_iff.mpr hrest) h')

end

/-- Two lists of values are structural subsets of each other exactly if they are equal once rounded,
if this holds of their items. -/
theorem leftEqualsItems_both_iff
    (h : ∀ item ∈ items, ∀ other ∈ listed,
      (item.leftEquals other = true ∧ other.leftEquals item = true ↔
        item.rounded = other.rounded)) :
    leftEqualsItems items listed = true ∧ leftEqualsItems listed items = true ↔
      roundedItems items = roundedItems listed := by
  induction items generalizing listed with
  | nil => cases listed <;> simp [leftEqualsItems, roundedItems]
  | cons item rest ih =>
      cases listed with
      | nil => simp [leftEqualsItems, roundedItems]
      | cons other others =>
          have hhead := h item List.mem_cons_self other List.mem_cons_self
          have hrest := ih fun item hitem other hother =>
            h item (List.mem_cons_of_mem _ hitem) other (List.mem_cons_of_mem _ hother)
          rw [roundedItems, roundedItems, List.cons.injEq, ← hhead, ← hrest]
          simp only [leftEqualsItems, Bool.and_eq_true]
          exact and_and_and_comm

/-- Members that ascend are equal once rounded if what is found under each key is. -/
theorem roundedMembers_eq_iff (h : Entries.Ascending members) (h' : Entries.Ascending others) :
    roundedMembers members = roundedMembers others ↔
      ∀ key, (Entries.find? key members).map rounded = (Entries.find? key others).map rounded := by
  have hfind {listed : List (String × Json)} (hlisted : Entries.Ascending listed) (key : String) :
      (Entries.find? key listed).map rounded = Entries.find? key (roundedMembers listed) := by
    rw [roundedMembers_eq_filterMap, Entries.find?_filterMap _ hlisted]
    cases Entries.find? key listed <;> rfl
  have hascending {listed : List (String × Json)} (hlisted : Entries.Ascending listed) :
      Entries.Ascending (roundedMembers listed) := by
    rw [roundedMembers_eq_filterMap]
    exact Entries.ascending_filterMap hlisted
  simp only [hfind h, hfind h']
  refine ⟨fun hsame key => by rw [hsame], fun hsame => ?_⟩
  have hmaps : (⟨_, hascending h⟩ : SortedMap String Json) = ⟨_, hascending h'⟩ :=
    SortedMap.ext_find? hsame
  exact congrArg SortedMap.toList hmaps

/-- Two lists of members are structural subsets of each other exactly if they are equal once
rounded, if this holds of their values. -/
theorem leftEqualsMembers_both_iff (hmembers : Entries.Ascending members)
    (hothers : Entries.Ascending others)
    (h : ∀ member ∈ members, ∀ other ∈ others,
      (member.2.leftEquals other.2 = true ∧ other.2.leftEquals member.2 = true ↔
        member.2.rounded = other.2.rounded)) :
    leftEqualsMembers members others = true ∧ leftEqualsMembers others members = true ↔
      roundedMembers members = roundedMembers others := by
  have hvalues {key : String} {value other : Json} (hvalue : Entries.find? key members = some value)
      (hother : Entries.find? key others = some other) :
      value.leftEquals other = true ∧ other.leftEquals value = true ↔
        value.rounded = other.rounded :=
    h (key, value) (Entries.mem_of_find? hvalue) (key, other) (Entries.mem_of_find? hother)
  rw [roundedMembers_eq_iff hmembers hothers, leftEqualsMembers_iff_find? hmembers,
    leftEqualsMembers_iff_find? hothers, ← forall_and]
  -- Under each key there is a value in both lists, or in one, or in none.
  refine forall_congr' fun key => ?_
  cases hvalue : Entries.find? key members <;> cases hother : Entries.find? key others
  · simp
  · simp
  · simp
  · simpa using hvalues hvalue hother

/-- Two values are structural subsets of each other exactly if they are equal once rounded. -/
theorem leftEquals_both_iff (h : value.Ordered) (h' : received.Ordered) :
    value.leftEquals received = true ∧ received.leftEquals value = true ↔
      value.rounded = received.rounded := by
  induction h generalizing received with
  | null => cases h' <;> simp [leftEquals, rounded]
  | bool value =>
      cases h' with
      | bool other => simpa [leftEquals, rounded] using fun h => h.symm
      | _ => simp [leftEquals, rounded]
  | number value =>
      cases h' with
      | number other => simpa [leftEquals, rounded, Number.sameDouble_iff] using fun h => h.symm
      | _ => simp [leftEquals, rounded]
  | string value =>
      cases h' with
      | string other => simpa [leftEquals, rounded] using fun h => h.symm
      | _ => simp [leftEquals, rounded]
  | @array items _ ih =>
      cases h' with
      | @array listed hlisted =>
          rw [rounded, rounded, array.injEq]
          exact leftEqualsItems_both_iff fun item hitem other hother =>
            ih item hitem (hlisted other hother)
      | _ => simp [leftEquals, rounded]
  | @object members hascending _ ih =>
      cases h' with
      | @object others hascending' hothers =>
          rw [rounded, rounded, object.injEq]
          exact leftEqualsMembers_both_iff hascending hascending' fun member hmember other hother =>
            ih member hmember (hothers other hother)
      | _ => simp [leftEquals, rounded]

/-! ### Paths -/

variable {key : String} {keys : List String} {found : Json}

/-- What stands at a place of an array is a structural subset of what stands there in the other. -/
theorem getElem?_of_leftEqualsItems {place : Nat} (h : leftEqualsItems items listed = true)
    (hvalue : items[place]? = some value) :
    ∃ other, listed[place]? = some other ∧ value.leftEquals other = true := by
  induction items generalizing listed place with
  | nil => simp at hvalue
  | cons item rest ih =>
      cases listed with
      | nil => cases h
      | cons other others =>
          obtain ⟨hitem, hrest⟩ := Bool.and_eq_true_iff.mp h
          cases place with
          | zero =>
              cases hvalue
              exact ⟨other, rfl, hitem⟩
          | succ place =>
              rw [List.getElem?_cons_succ] at hvalue ⊢
              exact ih hrest hvalue

/-- A key that leads somewhere in a structural subset leads to a counterpart in the other value. -/
theorem at?_of_leftEquals (h : value.leftEquals received = true)
    (hfound : value.at? key = some found) :
    ∃ other, received.at? key = some other ∧ found.leftEquals other = true := by
  cases value with
  | object stated =>
      cases received with
      | object members =>
          exact leftEqualsMembers_iff.mp h (key, found) (Entries.mem_of_find? hfound)
      | _ => cases h
  | array items =>
      cases received with
      | array listed =>
          obtain ⟨place, hplace, hitem⟩ := Option.bind_eq_some_iff.mp hfound
          obtain ⟨other, hother, hequals⟩ := getElem?_of_leftEqualsItems h hitem
          exact ⟨other, Option.bind_eq_some_iff.mpr ⟨place, hplace, hother⟩, hequals⟩
      | _ => cases h
  | _ => cases hfound

/-- So do any number of keys. -/
theorem walk_of_leftEquals (h : value.leftEquals received = true)
    (hfound : value.walk keys = some found) :
    ∃ other, received.walk keys = some other ∧ found.leftEquals other = true := by
  induction keys generalizing value received with
  | nil =>
      cases hfound
      exact ⟨received, rfl, h⟩
  | cons key keys ih =>
      obtain ⟨next, hnext, hrest⟩ := Option.bind_eq_some_iff.mp hfound
      obtain ⟨other, hother, hequals⟩ := at?_of_leftEquals h hnext
      obtain ⟨last, hlast, hsubset⟩ := ih hequals hrest
      exact ⟨last, Option.bind_eq_some_iff.mpr ⟨other, hother, hlast⟩, hsubset⟩

end Json

/-! ### Templates of passive commands -/

namespace PassiveMatcher

variable {matcher : PassiveMatcher} {event : Event} {template : Json}

/-- An event that a template lets through is let through by every structural subset of it. -/
theorem accepts_of_leftEquals {part : Json} (htemplate : matcher.template = some template)
    (hpart : part.leftEquals template = true) (h : matcher.accepts event = true) :
    { matcher with template := some part }.accepts event = true := by
  simp only [accepts, htemplate] at h ⊢
  exact Json.leftEquals_trans hpart h

/-- Whatever a template states at a path, an event that it lets through has there. -/
theorem resolve_of_accepts {stated : Json} {path : String}
    (htemplate : matcher.template = some template) (h : matcher.accepts event = true)
    (hstated : template.resolve path = some stated) :
    ∃ found, event.toJson.resolve path = some found ∧ stated.leftEquals found = true := by
  rw [accepts, htemplate] at h
  exact Json.walk_of_leftEquals h hstated

end PassiveMatcher

namespace Json

/-! ### Main statements -/

/-- Being a structural subset is a preorder of values: every value is a subset of itself, and a
subset of a subset is one, so that a template lets through whatever a larger one does.  Two values
are subsets of each other exactly if they are equal up to how equal numbers are written. -/
theorem leftEquals_preorder :
    (∀ value : Json, value.Ordered → value.leftEquals value = true) ∧
      (∀ first second third : Json, first.leftEquals second = true →
        second.leftEquals third = true → first.leftEquals third = true) ∧
      (∀ (matcher : PassiveMatcher) (event : Event) (template part : Json),
        matcher.template = some template → part.leftEquals template = true →
          matcher.accepts event = true →
            { matcher with template := some part }.accepts event = true) ∧
      ∀ first second : Json, first.Ordered → second.Ordered →
        (first.leftEquals second = true ∧ second.leftEquals first = true ↔
          first.rounded = second.rounded) := by
  refine ⟨fun value h => leftEquals_refl h, fun first second third h h' => leftEquals_trans h h',
    fun matcher event template part htemplate hpart h => ?_,
    fun first second h h' => leftEquals_both_iff h h'⟩
  exact PassiveMatcher.accepts_of_leftEquals htemplate hpart h

/-- A count that is written as an integer, and something else. -/
def counted : Json := .object [("count", .ofInt 1), ("notes", .array [.null])]

/-- The count written as a double. -/
def countedReal : Json :=
  .object [("count", .number (.real ⟨false, Nat.pow 2 52, -52⟩)), ("notes", .array [.null])]

/-- Nothing but the count. -/
def countOnly : Json := .object [("count", .ofInt 1)]

/-- A greeting. -/
def greeting : Event :=
  { eventId := "$1", eventType := roomMessage, sender := "@user:hs", roomId := "!room:hs"
    stateKey := none, originServerTs := 0, content := .message (.text "hi"), redacts := none
    unsigned := .empty }

/-- What lets the greetings of one user through. -/
def greetingMatcher : PassiveMatcher :=
  { name := "hi", pattern := .empty, field := "body"
    template := some (.object [("sender", .string "@user:hs"), ("type", .string roomMessage)]) }

/-- The two spellings of a count are subsets of each other, though they are not the same value, and
the count alone is a subset of both.  A greeting that a template lets through is let through by a
part of the template. -/
theorem leftEquals_counted :
    counted.leftEquals counted = true ∧
      (counted.leftEquals countedReal = true ∧ countedReal.leftEquals counted = true) ∧
      counted ≠ countedReal ∧ counted.rounded = countedReal.rounded ∧
      countOnly.leftEquals counted = true ∧ countOnly.leftEquals countedReal = true ∧
      greetingMatcher.accepts greeting = true ∧
      { greetingMatcher with
        template := some (.object [("type", .string roomMessage)]) }.accepts greeting = true := by
  obtain ⟨hrefl, htrans, haccepts, hboth⟩ := leftEquals_preorder
  have hordered : counted.Ordered :=
    Document.ordered_of_toJson? (rfl : (Document.ofJson counted).toJson? = some counted)
  have hordered' : countedReal.Ordered :=
    Document.ordered_of_toJson? (rfl : (Document.ofJson countedReal).toJson? = some countedReal)
  have hsubsets :
      counted.leftEquals countedReal = true ∧ countedReal.leftEquals counted = true := by
    decide +kernel
  have honly : countOnly.leftEquals counted = true := by decide +kernel
  have hgreeting : greetingMatcher.accepts greeting = true := by decide +kernel
  refine ⟨hrefl _ hordered, hsubsets, ?_, (hboth _ _ hordered hordered').mp hsubsets, honly,
    htrans _ _ _ honly hsubsets.1, hgreeting, haccepts _ _ _ _ rfl ?_ hgreeting⟩
  · simp [counted, countedReal, ofInt]
  · decide +kernel

/-- If a path leads somewhere in a structural subset, it leads to a counterpart in the other value.
So what a template states at a path, every event has there that the template lets through. -/
theorem resolve_of_leftEquals (path : String) :
    (∀ stated received found : Json, stated.leftEquals received = true →
      stated.resolve path = some found →
        ∃ value, received.resolve path = some value ∧ found.leftEquals value = true) ∧
      ∀ (matcher : PassiveMatcher) (event : Event) (template found : Json),
        matcher.template = some template → matcher.accepts event = true →
          template.resolve path = some found →
            ∃ value, event.toJson.resolve path = some value ∧ found.leftEquals value = true :=
  ⟨fun _ _ _ h hfound => walk_of_leftEquals h hfound,
    fun _ _ _ _ htemplate h hfound => PassiveMatcher.resolve_of_accepts htemplate h hfound⟩

/-- A relation to the first of two events, as a template states it. -/
def relating : Json :=
  .object [("m.relates_to", .object [("ids", .array [.ofInt 1, .object []])])]

/-- The relation as it is received, with more in it than the template states. -/
def related : Json :=
  .object [("body", .string "hi"), ("m.relates_to", .object [("ids",
    .array [.number (.real ⟨false, Nat.pow 2 52, -52⟩), .object [("id", .string "$a")]]),
    ("rel_type", .string "m.thread")])]

/-- A path with a key in brackets and a place in an array leads to a counterpart, and so does the
path to the sender that a template names. -/
theorem resolve_related :
    (relating.leftEquals related = true ∧
      relating.resolve "[m.relates_to].ids.1" = some (.object []) ∧
      ∃ value, related.resolve "[m.relates_to].ids.1" = some value ∧
        (Json.object []).leftEquals value = true) ∧
      greetingMatcher.accepts greeting = true ∧
      ∃ value, greeting.toJson.resolve "sender" = some value ∧
        (Json.string "@user:hs").leftEquals value = true := by
  have hsubset : relating.leftEquals related = true := by decide +kernel
  have hstated : relating.resolve "[m.relates_to].ids.1" = some (.object []) := by rfl
  have hgreeting : greetingMatcher.accepts greeting = true := by decide +kernel
  refine ⟨⟨hsubset, hstated, ?_⟩, hgreeting, ?_⟩
  · exact (resolve_of_leftEquals _).1 _ _ _ hsubset hstated
  · exact (resolve_of_leftEquals _).2 _ _ _ _ rfl hgreeting rfl

end Json

end BotHost
