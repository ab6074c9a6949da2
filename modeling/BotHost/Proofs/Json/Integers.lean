/-
# Integers in templates

`Json.leftEquals` compares two integers through their doubles.  A double holds 53 bits, so an
integer with more of them stands for a multiple of a power of two, `Binary64.nearestWhole`, and
integers that are rounded to the same one count as equal, `Number.sameDouble_integer_iff`.

Within values this is taken place by place: `Json.Covers` relates what a template states to what
stands at the same place of another value, and `Json.leftEquals_integers` says which integers may
stand there.
-/

import BotHost.Proofs.Json.Subsets

namespace BotHost

namespace Binary64

/-! ### Whole numbers as doubles -/

/-- The doubles around a whole number lie this far apart, if it has more than 53 bits; below that,
every whole number is a double. -/
def spacing (whole : Nat) : Nat := Nat.pow 2 (whole.log2 - 52)

/-- The whole number that the double nearest to a whole number stands for. -/
def nearestWhole (whole : Nat) : Nat := roundHalfEven whole (spacing whole) * spacing whole

/-- Rounding goes down or up, and to the nearer side. -/
theorem roundHalfEven_cases (num den : Nat) :
    (roundHalfEven num den = num / den ∧ 2 * (num % den) ≤ den) ∨
      (roundHalfEven num den = num / den + 1 ∧ den ≤ 2 * (num % den)) := by
  grind [roundHalfEven]

theorem spacing_pos (whole : Nat) : 0 < spacing whole := Nat.two_pow_pos _

/-- A whole number of up to 53 bits is a double. -/
theorem nearestWhole_of_lt {whole : Nat} (h : whole < Nat.pow 2 53) :
    nearestWhole whole = whole := by
  have hlog : whole.log2 - 52 = 0 := by
    by_cases hzero : whole = 0
    · subst hzero
      rfl
    · have := (Nat.log2_lt hzero).mpr h
      omega
  rw [nearestWhole, spacing, hlog]
  simp [roundHalfEven, Nat.mod_one]

/-- The nearest double is off by at most half of the distance of two doubles. -/
theorem dist_nearestWhole (whole : Nat) :
    2 * (nearestWhole whole - whole) ≤ spacing whole ∧
      2 * (whole - nearestWhole whole) ≤ spacing whole := by
  have hsplit := Nat.div_add_mod whole (spacing whole)
  have hrest := Nat.mod_lt whole (spacing_pos whole)
  rw [nearestWhole]
  rw [Nat.mul_comm] at hsplit
  rcases roundHalfEven_cases whole (spacing whole) with ⟨hdown, hhalf⟩ | ⟨hup, hhalf⟩
  · rw [hdown]
    omega
  · rw [hup, Nat.add_mul, Nat.one_mul]
    omega

variable {whole : Nat}

/-- The significand of a whole number of at least 53 bits. -/
theorem roundHalfEven_bounds (h : 52 ≤ whole.log2) :
    Nat.pow 2 52 ≤ roundHalfEven whole (spacing whole) ∧
      roundHalfEven whole (spacing whole) ≤ Nat.pow 2 53 := by
  have hne : whole ≠ 0 := by
    rintro rfl
    cases h
  have hlow : Nat.pow 2 52 ≤ whole / spacing whole := by
    rw [Nat.le_div_iff_mul_le (spacing_pos whole)]
    calc Nat.pow 2 52 * spacing whole = 2 ^ (52 + (whole.log2 - 52)) := (Nat.pow_add ..).symm
      _ = 2 ^ whole.log2 := by rw [Nat.add_sub_cancel' h]
      _ ≤ whole := Nat.log2_self_le hne
  have hhigh : whole / spacing whole < Nat.pow 2 53 := by
    rw [Nat.div_lt_iff_lt_mul (spacing_pos whole)]
    calc whole < 2 ^ (whole.log2 + 1) := Nat.lt_log2_self
      _ = 2 ^ (53 + (whole.log2 - 52)) := by congr 1; omega
      _ = Nat.pow 2 53 * spacing whole := Nat.pow_add ..
  rcases roundHalfEven_cases whole (spacing whole) with ⟨hround, -⟩ | ⟨hround, -⟩ <;>
    rw [hround] <;> constructor <;> omega

theorem floorLog2_whole (h : 0 < whole) : floorLog2 whole 1 = whole.log2 := by
  have hle : 2 ^ whole.log2 ≤ whole := Nat.log2_self_le (Nat.ne_of_gt h)
  have hone : Nat.log2 1 = 0 := by decide
  simp [floorLog2, hone]
  omega

/-- A double in normal form that stands for a positive whole number. -/
structure StandsFor (double : Binary64) (whole : Nat) : Prop where
  /-- The significand has 53 bits. -/
  low : Nat.pow 2 52 ≤ double.mantissa
  high : double.mantissa < Nat.pow 2 53
  value : ∃ place : Nat, double.exponent = (place : Int) - 52 ∧
    double.mantissa * Nat.pow 2 place = whole * Nat.pow 2 52

/-- A significand of 53 bits has one place only. -/
theorem place_eq {first second place other : Nat} (hlow : Nat.pow 2 52 ≤ first)
    (hhigh : second < Nat.pow 2 53) (h : first * Nat.pow 2 place = second * Nat.pow 2 other) :
    place ≤ other := by
  refine Nat.le_of_not_lt fun hlt => ?_
  have hpos : 0 < Nat.pow 2 other := Nat.two_pow_pos other
  have hdouble : second * Nat.pow 2 other < first * Nat.pow 2 place :=
    calc second * Nat.pow 2 other < Nat.pow 2 53 * Nat.pow 2 other :=
          Nat.mul_lt_mul_of_pos_right hhigh hpos
      _ = Nat.pow 2 52 * Nat.pow 2 (other + 1) := by
          simp only [Nat.pow_eq, ← Nat.pow_add]
          congr 1
          omega
      _ ≤ first * Nat.pow 2 place :=
          Nat.mul_le_mul hlow (Nat.pow_le_pow_right (by decide) hlt)
  exact Nat.ne_of_gt hdouble h

namespace StandsFor

variable {double other : Binary64} {number : Nat}

/-- There is one double of each sign that stands for a whole number. -/
theorem eq (h : double.StandsFor whole) (hother : other.StandsFor whole)
    (hsign : double.negative = other.negative) : double = other := by
  obtain ⟨place, hexponent, hvalue⟩ := h.value
  obtain ⟨place', hexponent', hvalue'⟩ := hother.value
  have hsame := hvalue.trans hvalue'.symm
  have hplace : place = place' := Nat.le_antisymm (place_eq h.low hother.high hsame)
    (place_eq hother.low h.high hsame.symm)
  subst hplace
  have hmantissa : double.mantissa = other.mantissa :=
    Nat.eq_of_mul_eq_mul_right (Nat.two_pow_pos place) hsame
  cases double
  cases other
  simp_all

/-- It stands for that number only. -/
theorem whole_eq (h : double.StandsFor whole) (hother : double.StandsFor number) :
    whole = number := by
  obtain ⟨place, hexponent, hvalue⟩ := h.value
  obtain ⟨place', hexponent', hvalue'⟩ := hother.value
  have hplace : place = place' := by omega
  subst hplace
  exact Nat.eq_of_mul_eq_mul_right (Nat.two_pow_pos 52) (hvalue.symm.trans hvalue')

theorem isZero_eq (h : double.StandsFor whole) : double.isZero = false := by
  have hpos : 0 < double.mantissa := Nat.lt_of_lt_of_le (Nat.two_pow_pos 52) h.low
  simp [isZero, Nat.ne_of_gt hpos]

end StandsFor

/-- The rounding of a positive whole number, its exponent and significand written out. -/
theorem ofRatio_whole (negative : Bool) (hpos : 0 < whole) (hlt : whole < Number.wordCount) :
    ofRatio negative whole 1 =
      let significand := roundHalfEven (whole * Nat.pow 2 (52 - whole.log2)) (spacing whole)
      let exponent : Int := whole.log2 - 52
      if significand = Nat.pow 2 53 then some ⟨negative, Nat.pow 2 52, exponent + 1⟩
      else some ⟨negative, significand, exponent⟩ := by
  have hlog : whole.log2 < 64 := (Nat.log2_lt (Nat.ne_of_gt hpos)).mpr hlt
  have hexponent : max (floorLog2 whole 1 - 52) (-1074) = (whole.log2 : Int) - 52 := by
    rw [floorLog2_whole hpos]
    omega
  have hup : ((whole.log2 : Int) - 52).toNat = whole.log2 - 52 := by omega
  have hdown : (-((whole.log2 : Int) - 52)).toNat = 52 - whole.log2 := by omega
  have hspacing : Nat.pow 2 (whole.log2 - 52) = spacing whole := rfl
  have hsmall : ¬ 971 < (whole.log2 : Int) - 52 ∧ ¬ 971 < (whole.log2 : Int) - 52 + 1 := by omega
  simp only [ofRatio, Nat.ne_of_gt hpos, if_false, hexponent, hup, hdown, Nat.one_mul, hspacing]
  split
  · exact if_neg hsmall.2
  · exact if_neg hsmall.1

theorem pow_log2_mul (hfew : whole.log2 ≤ 52) :
    Nat.pow 2 whole.log2 * Nat.pow 2 (52 - whole.log2) = Nat.pow 2 52 := by
  simp only [Nat.pow_eq, ← Nat.pow_add, Nat.add_sub_cancel' hfew]

/-- A number of up to 53 bits that is filled up with zeros has 53 bits. -/
theorem filled_bounds (hpos : 0 < whole) (hfew : whole.log2 ≤ 52) :
    Nat.pow 2 52 ≤ whole * Nat.pow 2 (52 - whole.log2) ∧
      whole * Nat.pow 2 (52 - whole.log2) < Nat.pow 2 53 := by
  have hself : Nat.pow 2 whole.log2 ≤ whole := Nat.log2_self_le (Nat.ne_of_gt hpos)
  have hbits : whole < Nat.pow 2 (whole.log2 + 1) := Nat.lt_log2_self
  have hshift : Nat.pow 2 (whole.log2 + 1) * Nat.pow 2 (52 - whole.log2) = Nat.pow 2 53 := by
    rw [Nat.pow_eq, Nat.pow_succ, Nat.mul_right_comm, ← Nat.pow_eq, pow_log2_mul hfew]
  constructor
  · rw [← pow_log2_mul hfew]
    exact Nat.mul_le_mul_right _ hself
  · rw [← hshift]
    exact Nat.mul_lt_mul_of_pos_right hbits (Nat.two_pow_pos _)

/-- The double nearest to a positive whole number. -/
theorem standsFor_ofRatio (negative : Bool) (hpos : 0 < whole) (hlt : whole < Number.wordCount) :
    ∃ double, ofRatio negative whole 1 = some double ∧ double.negative = negative ∧
      double.StandsFor (nearestWhole whole) := by
  rw [ofRatio_whole negative hpos hlt]
  by_cases hfew : whole.log2 ≤ 52
  · -- The number is a double itself, and its significand is filled up with zeros.
    have hspacing : spacing whole = 1 := by
      rw [spacing, Nat.sub_eq_zero_of_le hfew]
    have hround : roundHalfEven (whole * Nat.pow 2 (52 - whole.log2)) 1 =
        whole * Nat.pow 2 (52 - whole.log2) := by
      simp [roundHalfEven, Nat.mod_one]
    obtain ⟨hlow, hhigh⟩ := filled_bounds hpos hfew
    have hwhole : whole < Nat.pow 2 53 :=
      Nat.lt_of_lt_of_le Nat.lt_log2_self (Nat.pow_le_pow_right (by decide) (by omega))
    simp only [hspacing, hround, Nat.ne_of_lt hhigh, if_false]
    refine ⟨_, rfl, rfl, hlow, hhigh, whole.log2, rfl, ?_⟩
    rw [nearestWhole_of_lt hwhole, Nat.mul_assoc, Nat.mul_comm (Nat.pow 2 _), pow_log2_mul hfew]
  · have hmany : 52 ≤ whole.log2 := by omega
    obtain ⟨hlow, hhigh⟩ := roundHalfEven_bounds hmany
    have hunscaled : whole * Nat.pow 2 (52 - whole.log2) = whole := by
      rw [Nat.sub_eq_zero_of_le hmany]
      exact Nat.mul_one whole
    have hshift : Nat.pow 2 whole.log2 = spacing whole * Nat.pow 2 52 := by
      simp only [spacing, Nat.pow_eq, ← Nat.pow_add, Nat.sub_add_cancel hmany]
    simp only [hunscaled]
    split
    · -- Rounding up has carried into a 54th bit; the double has one place more.
      rename_i hcarry
      have hplace : (whole.log2 : Int) - 52 + 1 = ((whole.log2 + 1 : Nat) : Int) - 52 := by omega
      refine ⟨_, rfl, rfl, Nat.le_refl _, Nat.pow_lt_pow_right (by decide) (by decide),
        whole.log2 + 1, hplace, ?_⟩
      rw [nearestWhole, hcarry, Nat.mul_assoc, ← hshift]
      simp only [Nat.pow_eq, ← Nat.pow_add]
      congr 1
      omega
    · rename_i hcarry
      refine ⟨_, rfl, rfl, hlow, Nat.lt_of_le_of_ne hhigh hcarry, whole.log2, rfl, ?_⟩
      rw [nearestWhole, Nat.mul_assoc, hshift]

/-- Nothing but zero is rounded to zero. -/
theorem nearestWhole_eq_zero_iff (hlt : whole < Number.wordCount) :
    nearestWhole whole = 0 ↔ whole = 0 := by
  constructor
  · refine fun hzero => Nat.eq_zero_of_not_pos fun hpos => ?_
    obtain ⟨double, -, -, hstands⟩ := standsFor_ofRatio false hpos hlt
    obtain ⟨place, -, hvalue⟩ := hstands.value
    have hmantissa : 0 < double.mantissa := Nat.lt_of_lt_of_le (Nat.two_pow_pos 52) hstands.low
    have hproduct : 0 < double.mantissa * Nat.pow 2 place :=
      Nat.mul_pos hmantissa (Nat.two_pow_pos place)
    rw [hvalue, hzero, Nat.zero_mul] at hproduct
    cases hproduct
  · rintro rfl
    decide

/-- What is not a double is rounded to a whole number of more than 53 bits. -/
theorem le_nearestWhole (h : Nat.pow 2 53 ≤ whole) : Nat.pow 2 53 ≤ nearestWhole whole := by
  have hlog : 53 ≤ whole.log2 :=
    (Nat.le_log2 (Nat.ne_of_gt (Nat.lt_of_lt_of_le (Nat.two_pow_pos 53) h))).mpr h
  have htwo : Nat.pow 2 1 ≤ spacing whole := Nat.pow_le_pow_right (by decide) (by omega)
  exact Nat.mul_le_mul (roundHalfEven_bounds (by omega)).1 htwo

/-- A whole number of up to 53 bits shares its double with no other one. -/
theorem eq_of_nearestWhole_eq {other : Nat} (h : nearestWhole whole = nearestWhole other)
    (hfew : whole < Nat.pow 2 53) : whole = other := by
  rw [nearestWhole_of_lt hfew] at h
  by_cases hother : other < Nat.pow 2 53
  · rwa [nearestWhole_of_lt hother] at h
  · have := le_nearestWhole (Nat.le_of_not_lt hother)
    omega

/-- The doubles around the whole numbers of 64 bits lie at most 2048 apart. -/
theorem spacing_le (hlt : whole < Number.wordCount) : spacing whole ≤ 2048 := by
  have hlog : whole.log2 ≤ 63 := by
    by_cases hzero : whole = 0
    · subst hzero
      decide
    · have := (Nat.log2_lt hzero).mpr hlt
      omega
  exact Nat.pow_le_pow_right (n := 2) (j := 11) (by decide) (by omega)

end Binary64

namespace Number

variable {first second : Int}

/-- The integer that the double nearest to an integer stands for. -/
def nearestInteger (value : Int) : Int :=
  if value < 0 then -Binary64.nearestWhole value.natAbs else Binary64.nearestWhole value.natAbs

theorem natAbs_lt_wordCount {value : Int} (h : fits value = true) : value.natAbs < wordCount := by
  have hcounts : (signedCount : Int) < wordCount := by decide
  simp only [fits, Bool.and_eq_true, decide_eq_true_eq] at h
  omega

theorem standsFor_toBinary64 {value : Int} (h : fits value = true) (hne : value ≠ 0) :
    (integer value).toBinary64.negative = decide (value < 0) ∧
      (integer value).toBinary64.StandsFor (Binary64.nearestWhole value.natAbs) := by
  obtain ⟨double, hround, hsign, hstands⟩ :=
    Binary64.standsFor_ofRatio (decide (value < 0)) (Int.natAbs_pos.mpr hne) (natAbs_lt_wordCount h)
  rw [toBinary64, Binary64.ofInt, hround]
  exact ⟨hsign, hstands⟩

/-- Integers are rounded to the same one if they have the same sign and their magnitudes are
rounded to the same one. -/
theorem nearestInteger_eq_iff (h : fits first = true) (h' : fits second = true) :
    nearestInteger first = nearestInteger second ↔ (first < 0 ↔ second < 0) ∧
      Binary64.nearestWhole first.natAbs = Binary64.nearestWhole second.natAbs := by
  have hzero := Binary64.nearestWhole_eq_zero_iff (natAbs_lt_wordCount h)
  have hzero' := Binary64.nearestWhole_eq_zero_iff (natAbs_lt_wordCount h')
  rw [nearestInteger, nearestInteger]
  constructor
  · intro hsame
    constructor <;> split at hsame <;> split at hsame <;> omega
  · rintro ⟨hsign, hwhole⟩
    simp only [hsign, hwhole]

theorem nearestInteger_eq_zero_iff {value : Int} (h : fits value = true) :
    nearestInteger value = nearestInteger 0 ↔ value = 0 := by
  have hzero := Binary64.nearestWhole_eq_zero_iff (natAbs_lt_wordCount h)
  have hnone : Binary64.nearestWhole (Int.natAbs 0) = 0 := by decide
  rw [nearestInteger_eq_iff h (by decide), hnone, hzero]
  omega

theorem sameDouble_zero_iff {value : Int} (h : fits value = true) :
    (integer value).sameDouble (integer 0) = true ↔ value = 0 := by
  constructor
  · refine fun hsame => Decidable.byContradiction fun hne => ?_
    have hstands := (standsFor_toBinary64 h hne).2
    have hzero : (integer 0).toBinary64 = .zero false := by decide
    have hother : (integer value).toBinary64 ≠ .zero false := fun heq =>
      absurd (heq ▸ hstands).isZero_eq (by decide)
    simp [sameDouble, hzero, Binary64.sameNumber, hstands.isZero_eq, hother] at hsame
  · intro hzero
    rw [hzero]
    exact sameDouble_equivalence.refl _

/-- Two integers of 64 bits count as equal exactly if the doubles nearest to them stand for the same
integer. -/
theorem sameDouble_integer_iff (h : fits first = true) (h' : fits second = true) :
    (integer first).sameDouble (integer second) = true ↔
      nearestInteger first = nearestInteger second := by
  by_cases hsecond : second = 0
  · rw [hsecond, sameDouble_zero_iff h, nearestInteger_eq_zero_iff h]
  by_cases hfirst : first = 0
  · have hsymm : (integer 0).sameDouble (integer second) = true ↔
        (integer second).sameDouble (integer 0) = true :=
      ⟨sameDouble_equivalence.symm, sameDouble_equivalence.symm⟩
    rw [hfirst, hsymm, sameDouble_zero_iff h', eq_comm (a := nearestInteger 0),
      nearestInteger_eq_zero_iff h']
  obtain ⟨hsign, hstands⟩ := standsFor_toBinary64 h hfirst
  obtain ⟨hsign', hstands'⟩ := standsFor_toBinary64 h' hsecond
  rw [nearestInteger_eq_iff h h', sameDouble, Binary64.sameNumber, hstands.isZero_eq,
    Bool.false_and, Bool.false_or, beq_iff_eq]
  constructor
  · intro hsame
    rw [hsame] at hsign hstands
    exact ⟨decide_eq_decide.mp (hsign.symm.trans hsign'), hstands.whole_eq hstands'⟩
  · rintro ⟨hnegative, hwhole⟩
    refine hstands.eq (hwhole ▸ hstands') ?_
    rw [hsign, hsign', decide_eq_decide.mpr hnegative]

/-- Integers that are rounded to the same one lie at most 2048 apart, and they are the same integer
if one of them has at most 53 bits. -/
theorem near_of_nearestInteger_eq (h : fits first = true) (h' : fits second = true)
    (hsame : nearestInteger first = nearestInteger second) :
    (first - second).natAbs ≤ 2048 ∧
      (first.natAbs < Nat.pow 2 53 ∨ second.natAbs < Nat.pow 2 53 → first = second) := by
  obtain ⟨hsign, hwhole⟩ := (nearestInteger_eq_iff h h').mp hsame
  have hdist := Binary64.dist_nearestWhole first.natAbs
  have hdist' := Binary64.dist_nearestWhole second.natAbs
  have hspacing := Binary64.spacing_le (natAbs_lt_wordCount h)
  have hspacing' := Binary64.spacing_le (natAbs_lt_wordCount h')
  refine ⟨by omega, fun hfew => ?_⟩
  have habs : first.natAbs = second.natAbs := by
    rcases hfew with hfew | hfew
    · exact Binary64.eq_of_nearestWhole_eq hwhole hfew
    · exact (Binary64.eq_of_nearestWhole_eq hwhole.symm hfew).symm
  omega

end Number

namespace Json

/-! ### Templates with integers -/

/-- All numbers in a value are integers with a property. -/
inductive Integers (allowed : Int → Prop) : Json → Prop where
  | null : Integers allowed null
  | bool (value : Bool) : Integers allowed (bool value)
  | integer {value : Int} : allowed value → Integers allowed (number (.integer value))
  | string (value : String) : Integers allowed (string value)
  | array {items : List Json} : (∀ item ∈ items, item.Integers allowed) →
      Integers allowed (array items)
  | object {members : List (String × Json)} :
      (∀ member ∈ members, member.2.Integers allowed) → Integers allowed (object members)

/-- Whatever a template states stands in another value at the same place, and its integers agree
with those at the same places. -/
inductive Covers (agree : Int → Int → Prop) : Json → Json → Prop where
  | null : Covers agree null null
  | bool (value : Bool) : Covers agree (bool value) (bool value)
  | integer {stated received : Int} : agree stated received →
      Covers agree (number (.integer stated)) (number (.integer received))
  | string (value : String) : Covers agree (string value) (string value)
  | array {items listed : List Json} : items.length = listed.length →
      (∀ (place : Nat) (item other : Json), items[place]? = some item →
        listed[place]? = some other → Covers agree item other) →
      Covers agree (array items) (array listed)
  | object {stated members : List (String × Json)} :
      (∀ member ∈ stated, (Entries.find? member.1 members).isSome) →
      (∀ member ∈ stated, ∀ found, Entries.find? member.1 members = some found →
        Covers agree member.2 found) → Covers agree (object stated) (object members)

variable {template event : Json} {items listed : List Json} {allowed permitted : Int → Prop}
  {agree : Int → Int → Prop}

theorem Integers.and {other : Int → Prop} (h : template.Integers allowed)
    (hother : template.Integers other) :
    template.Integers fun value => allowed value ∧ other value := by
  induction h with
  | null => exact .null
  | bool value => exact .bool value
  | integer hvalue =>
      cases hother with
      | integer hvalue' => exact .integer ⟨hvalue, hvalue'⟩
  | string value => exact .string value
  | array _ ih =>
      cases hother with
      | array hitems => exact .array fun item hitem => ih item hitem (hitems item hitem)
  | object _ ih =>
      cases hother with
      | object hmembers =>
          exact .object fun member hmember => ih member hmember (hmembers member hmember)

/-- Two lists of values are structural subsets place by place. -/
theorem leftEqualsItems_iff : leftEqualsItems items listed = true ↔
    items.length = listed.length ∧ ∀ (place : Nat) (item other : Json), items[place]? = some item →
      listed[place]? = some other → item.leftEquals other = true := by
  induction items generalizing listed with
  | nil => cases listed <;> simp [leftEqualsItems]
  | cons item rest ih =>
      cases listed with
      | nil => simp [leftEqualsItems]
      | cons other others =>
          rw [leftEqualsItems, Bool.and_eq_true, ih]
          constructor
          · rintro ⟨hitem, hlength, hrest⟩
            refine ⟨congrArg (· + 1) hlength, fun place => ?_⟩
            cases place with
            | zero => simpa using hitem
            | succ place => simpa using hrest place
          · rintro ⟨hlength, hall⟩
            refine ⟨hall 0 item other rfl rfl, Nat.succ.inj hlength, fun place => ?_⟩
            exact hall (place + 1)

/-- A template of integers is covered by every value of integers that it accepts. -/
theorem covers_of_leftEquals (h : template.Integers allowed) (h' : event.Integers permitted)
    (hagree : ∀ stated received, allowed stated → permitted received →
      (Number.integer stated).sameDouble (.integer received) = true → agree stated received)
    (hequals : template.leftEquals event = true) : template.Covers agree event := by
  induction h generalizing event with
  | null =>
      cases h' with
      | null => exact .null
      | _ => cases hequals
  | bool value =>
      cases h' with
      | bool other => exact beq_iff_eq.mp hequals ▸ .bool value
      | _ => cases hequals
  | integer hvalue =>
      cases h' with
      | integer hother => exact .integer (hagree _ _ hvalue hother hequals)
      | _ => cases hequals
  | string value =>
      cases h' with
      | string other => exact beq_iff_eq.mp hequals ▸ .string value
      | _ => cases hequals
  | array _ ih =>
      cases h' with
      | array hlisted =>
          obtain ⟨hlength, hall⟩ := leftEqualsItems_iff.mp hequals
          refine .array hlength fun place item other hitem hother => ?_
          exact ih item (List.mem_of_getElem? hitem) (hlisted other (List.mem_of_getElem? hother))
            (hall place item other hitem hother)
      | _ => cases hequals
  | object _ ih =>
      cases h' with
      | object hmembers =>
          have hall := leftEqualsMembers_iff.mp hequals
          refine .object (fun member hmember => ?_) fun member hmember found hfound => ?_
          · obtain ⟨found, hfound, -⟩ := hall member hmember
            exact Option.isSome_of_eq_some hfound
          · obtain ⟨other, hother, hsubset⟩ := hall member hmember
            cases hfound.symm.trans hother
            exact ih member hmember (hmembers _ (Entries.mem_of_find? hfound)) hsubset
      | _ => cases hequals

/-- It accepts every value by which it is covered. -/
theorem leftEquals_of_covers (hcovers : template.Covers agree event)
    (h : template.Integers allowed) (h' : event.Integers permitted)
    (hagree : ∀ stated received, allowed stated → permitted received → agree stated received →
      (Number.integer stated).sameDouble (.integer received) = true) :
    template.leftEquals event = true := by
  induction hcovers with
  | null => rfl
  | bool value => exact beq_self_eq_true value
  | integer hsame =>
      cases h with
      | integer hvalue =>
          cases h' with
          | integer hother => exact hagree _ _ hvalue hother hsame
  | string value => exact beq_self_eq_true value
  | array hlength _ ih =>
      cases h with
      | array hitems =>
          cases h' with
          | array hlisted =>
              refine leftEqualsItems_iff.mpr ⟨hlength, fun place item other hitem hother => ?_⟩
              exact ih place item other hitem hother (hitems _ (List.mem_of_getElem? hitem))
                (hlisted _ (List.mem_of_getElem? hother))
  | object hsome _ ih =>
      cases h with
      | object hstated =>
          cases h' with
          | object hmembers =>
              refine leftEqualsMembers_iff.mpr fun member hmember => ?_
              obtain ⟨found, hfound⟩ := Option.isSome_iff_exists.mp (hsome member hmember)
              exact ⟨found, hfound, ih member hmember found hfound (hstated member hmember)
                (hmembers _ (Entries.mem_of_find? hfound))⟩

/-! ### Main statements -/

/-- A template accepts a value, both with integers of 64 bits only, exactly if it is covered by the
value with integers at the same places that are rounded to the same one.  Such integers lie at most
2048 apart, and they are the same if one of them has up to 53 bits.  So a template without larger
integers accepts exactly the values that cover it with the same integers. -/
theorem leftEquals_integers {template event : Json}
    (h : template.Integers fun value => Number.fits value = true)
    (h' : event.Integers fun value => Number.fits value = true) :
    (template.leftEquals event = true ↔ template.Covers (fun stated received =>
        Number.nearestInteger stated = Number.nearestInteger received) event) ∧
      (template.leftEquals event = true → template.Covers (fun stated received =>
        (stated - received).natAbs ≤ 2048 ∧
          (stated.natAbs < Nat.pow 2 53 ∨ received.natAbs < Nat.pow 2 53 →
            stated = received)) event) ∧
      ((template.Integers fun value => value.natAbs < Nat.pow 2 53) →
        (template.leftEquals event = true ↔ template.Covers (· = ·) event)) := by
  have hrefl (value : Int) : (Number.integer value).sameDouble (.integer value) = true :=
    Number.sameDouble_equivalence.refl _
  refine ⟨⟨covers_of_leftEquals h h' ?_, fun hcovers => leftEquals_of_covers hcovers h h' ?_⟩,
    covers_of_leftEquals h h' ?_,
    fun hfew => ⟨covers_of_leftEquals (h.and hfew) h' ?_, fun hcovers =>
      leftEquals_of_covers hcovers h h' ?_⟩⟩
  · exact fun _ _ hstated hreceived => (Number.sameDouble_integer_iff hstated hreceived).mp
  · exact fun _ _ hstated hreceived => (Number.sameDouble_integer_iff hstated hreceived).mpr
  · intro _ _ hstated hreceived hsame
    exact Number.near_of_nearestInteger_eq hstated hreceived
      ((Number.sameDouble_integer_iff hstated hreceived).mp hsame)
  · intro _ _ hstated hreceived hsame
    exact (Number.near_of_nearestInteger_eq hstated.1 hreceived
      ((Number.sameDouble_integer_iff hstated.1 hreceived).mp hsame)).2 (.inl hstated.2)
  · rintro stated _ _ _ rfl
    exact hrefl stated

/-- What a template states about the time of an event and about the message it answers. -/
def awaited : Json :=
  .object [("answers", .array [.ofInt (-9007199254740995), .string "$a"]),
    ("origin_server_ts", .ofInt 1700000000000)]

/-- An event of that time, which answers another message. -/
def received : Json :=
  .object [("answers", .array [.ofInt (-9007199254740996), .string "$a"]), ("body", .string "hi"),
    ("origin_server_ts", .ofInt 1700000000000)]

/-- What a template states that is about the time only. -/
def timed : Json := .object [("origin_server_ts", .ofInt 1700000000000)]

/-- The first template accepts the event: one pair of integers is the same one, and the other pair
is rounded to the same one.  The second template accepts it with the same integer. -/
theorem leftEquals_awaited :
    (awaited.Integers fun value => Number.fits value = true) ∧
      (received.Integers fun value => Number.fits value = true) ∧
      awaited.leftEquals received = true ∧
      awaited.Covers (fun stated received =>
        Number.nearestInteger stated = Number.nearestInteger received) received ∧
      awaited.Covers (fun stated received => (stated - received).natAbs ≤ 2048 ∧
        (stated.natAbs < Nat.pow 2 53 ∨ received.natAbs < Nat.pow 2 53 →
          stated = received)) received ∧
      (timed.Integers fun value => value.natAbs < Nat.pow 2 53) ∧
      timed.leftEquals received = true ∧ timed.Covers (· = ·) received := by
  have hawaited : awaited.Integers fun value => Number.fits value = true := by
    refine .object (List.forall_mem_cons.mpr ⟨.array (List.forall_mem_cons.mpr ⟨?_, ?_⟩), ?_⟩)
    · exact .integer (by decide)
    · exact List.forall_mem_singleton.mpr (.string _)
    · exact List.forall_mem_singleton.mpr (.integer (by decide))
  have hreceived : received.Integers fun value => Number.fits value = true := by
    refine .object (List.forall_mem_cons.mpr ⟨.array (List.forall_mem_cons.mpr ⟨?_, ?_⟩),
      List.forall_mem_cons.mpr ⟨.string _, ?_⟩⟩)
    · exact .integer (by decide)
    · exact List.forall_mem_singleton.mpr (.string _)
    · exact List.forall_mem_singleton.mpr (.integer (by decide))
  have htimed {allowed : Int → Prop} (h : allowed 1700000000000) : timed.Integers allowed :=
    .object (List.forall_mem_singleton.mpr (.integer h))
  have hequals : awaited.leftEquals received = true := by decide +kernel
  have hequals' : timed.leftEquals received = true := by decide +kernel
  obtain ⟨hnearest, hnear, -⟩ := leftEquals_integers hawaited hreceived
  obtain ⟨-, -, hexact⟩ := leftEquals_integers (htimed (by decide)) hreceived
  have hfew : timed.Integers fun value => value.natAbs < Nat.pow 2 53 := htimed (by decide)
  exact ⟨hawaited, hreceived, hequals, hnearest.mp hequals, hnear hequals, hfew, hequals',
    (hexact hfew).mp hequals'⟩

/-- A template that states a count of one more than `2^53`. -/
def oneMore : Json := .object [("count", .ofInt 9007199254740993)]

/-- An event content with a count of `2^53`. -/
def oneLess : Json := .object [("count", .ofInt 9007199254740992)]

/-- The template accepts the content, though the counts are two integers. -/
theorem leftEquals_oneMore :
    (oneMore.Integers fun value => Number.fits value = true) ∧
      (oneLess.Integers fun value => Number.fits value = true) ∧
      oneMore.leftEquals oneLess = true ∧ ¬ oneMore.Covers (· = ·) oneLess := by
  have hcount (count : Int) (h : Number.fits count = true) :
      (object [("count", .ofInt count)]).Integers fun value => Number.fits value = true :=
    .object (List.forall_mem_singleton.mpr (.integer h))
  refine ⟨hcount _ (by decide), hcount _ (by decide), by decide +kernel, fun hcovers => ?_⟩
  cases hcovers with
  | object _ hall =>
      have hcounts := hall _ List.mem_cons_self _ rfl
      cases hcounts with
      | integer hsame => exact absurd hsame (by decide)

end Json

end BotHost
