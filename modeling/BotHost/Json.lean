/-
# JSON values

The value type of free-form JSON: event content the host does not decode, templates
that restrict a command, and plugin configuration.  The members of an object are
listed once each, in ascending key order.

`Json.same` is equality of values.  Numbers compare equal when they are the same
integer or the same double, and the two zeros of the doubles are one number; an
integer never equals a double here.
-/

import BotHost.SortedMap
import BotHost.Binary64

namespace BotHost

/-- A JSON number: an integer of the signed or unsigned 64-bit range, or a double. -/
inductive Number where
  /-- A number written without fraction and exponent that fits 64 bits. -/
  | integer (value : Int)
  /-- Any other number. -/
  | real (value : Binary64)
deriving Repr, Inhabited

namespace Number

/-- Equality of numbers: within the integers, or within the doubles. -/
def same : Number → Number → Bool
  | integer a, integer b => a == b
  | real a, real b => a.sameNumber b
  | _, _ => false

instance : BEq Number := ⟨same⟩

theorem same_refl (value : Number) : value.same value = true := by
  cases value with
  | integer value => exact beq_self_eq_true value
  | real value => simp [same, Binary64.sameNumber]

/-- The double nearest to a number. -/
def toBinary64 : Number → Binary64
  | integer value => (Binary64.ofInt value).getD (.zero (value < 0))
  | real value => value

/-- How many values 64 bits have. -/
def wordCount : Nat := Nat.pow 2 64

/-- How many values 64 bits have beside a sign: one more than the largest of them. -/
def signedCount : Nat := Nat.pow 2 63

/-- Whether an integer fits 64 bits with a sign. -/
def fitsSigned (value : Int) : Bool :=
  decide (-(signedCount : Int) ≤ value) && decide (value < signedCount)

/-- Whether an integer fits 64 bits, signed or unsigned. -/
def fits (value : Int) : Bool :=
  decide (-(signedCount : Int) ≤ value) && decide (value < wordCount)

end Number

/-- A JSON value. -/
inductive Json where
  | null
  | bool (value : Bool)
  | number (value : Number)
  | string (value : String)
  | array (items : List Json)
  /-- An object, its members by ascending key. -/
  | object (members : List (String × Json))
deriving Inhabited

namespace Json

mutual

/-- Equality of values. -/
def same : Json → Json → Bool
  | null, null => true
  | bool a, bool b => a == b
  | number a, number b => a.same b
  | string a, string b => a == b
  | array a, array b => sameItems a b
  | object a, object b => sameMembers a b
  | _, _ => false

/-- Equality of lists of values. -/
def sameItems : List Json → List Json → Bool
  | [], [] => true
  | a :: as, b :: bs => same a b && sameItems as bs
  | _, _ => false

/-- Equality of lists of members. -/
def sameMembers : List (String × Json) → List (String × Json) → Bool
  | [], [] => true
  | (k, a) :: as, (l, b) :: bs => k == l && same a b && sameMembers as bs
  | _, _ => false

end

instance : BEq Json := ⟨same⟩

mutual

theorem same_refl : ∀ value : Json, value.same value = true
  | null => rfl
  | bool value => beq_self_eq_true value
  | number value => value.same_refl
  | string value => beq_self_eq_true value
  | array items => sameItems_refl items
  | object members => sameMembers_refl members

theorem sameItems_refl : ∀ items : List Json, sameItems items items = true
  | [] => rfl
  | item :: rest => by
      rw [sameItems, same_refl item, sameItems_refl rest]
      rfl

theorem sameMembers_refl : ∀ members : List (String × Json), sameMembers members members = true
  | [] => rfl
  | (key, value) :: rest => by
      rw [sameMembers, same_refl value, sameMembers_refl rest, beq_self_eq_true]
      rfl

end

instance : ReflBEq Json := ⟨fun {value} => value.same_refl⟩

/-- The object without members. -/
def emptyObject : Json := object []

/-- The object with the given members; of a repeated key the last value stays. -/
def ofMembers (members : List (String × Json)) : Json :=
  object (SortedMap.ofList members).toList

/-- The object of a map. -/
def ofMap (map : SortedMap String Json) : Json := object map.toList

/-- A whole number. -/
def ofInt (value : Int) : Json := number (.integer value)

/-- A natural number. -/
def ofNat (value : Nat) : Json := ofInt value

/-- An optional value, absent as null. -/
def ofOption : Option Json → Json
  | none => null
  | some value => value

/-- An optional string, absent as null. -/
def ofText? (text : Option String) : Json := ofOption (text.map string)

/-- A list of strings. -/
def ofTexts (texts : List String) : Json := array (texts.map string)

/-- The text of a string value. -/
def text? : Json → Option String
  | string value => some value
  | _ => none

/-- The value of an object's member. -/
def member? (key : String) : Json → Option Json
  | object members => Entries.find? key members
  | _ => none

/-- Whether the value is null. -/
def isNull : Json → Bool
  | null => true
  | _ => false

/-- Whether the value is an object. -/
def isObject : Json → Bool
  | object _ => true
  | _ => false

end Json

end BotHost
