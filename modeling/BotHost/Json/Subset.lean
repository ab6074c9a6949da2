/-
# Templates and structural subsets

A template accepts a value when everything it states is found there: scalars are
equal, arrays have the same length and agree item by item, and every key of a
template object has an accepted value in the other object.  Further members of the
other object are ignored.

Numbers are compared as doubles, so `1` accepts `1.0`.
-/

import BotHost.Json

namespace BotHost

namespace Number

/-- Whether two numbers have the same nearest double. -/
def sameDouble (a b : Number) : Bool := a.toBinary64.sameNumber b.toBinary64

end Number

namespace Json

mutual

/-- Whether the left value is a structural subset of the right one. -/
def leftEquals : Json → Json → Bool
  | null, null => true
  | bool l, bool r => l == r
  | number l, number r => l.sameDouble r
  | string l, string r => l == r
  | array l, array r => leftEqualsItems l r
  | object l, object r => leftEqualsMembers l r
  | _, _ => false

/-- Whether two lists have the same length and the left items are subsets of the
right ones at the same positions. -/
def leftEqualsItems : List Json → List Json → Bool
  | [], [] => true
  | l :: ls, r :: rs => leftEquals l r && leftEqualsItems ls rs
  | _, _ => false

/-- Whether every left member is a subset of the right member of the same key. -/
def leftEqualsMembers : List (String × Json) → List (String × Json) → Bool
  | [], _ => true
  | (key, l) :: ls, r =>
    (match Entries.find? key r with
      | some found => leftEquals l found
      | none => false) && leftEqualsMembers ls r

end

end Json

end BotHost
