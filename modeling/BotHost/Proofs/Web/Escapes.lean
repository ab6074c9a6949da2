/-
# Escapes can be taken back

A byte and its escape say the same, so a text whose percent signs are escaped decodes to its own
bytes, whatever else is escaped in it; and the bytes of a text tell the text.  What an escape is
written with is no slash, so a text has no slash behind its encoding unless one was let through.
-/

import BotHost.Web.Percent

namespace BotHost

namespace Percent

/-! ### Bytes of texts -/

/-- A text is known by its bytes. -/
theorem bytes_injective {text other : List Char} (h : bytes text = bytes other) :
    text = other := by
  have hencoded : text.utf8Encode = other.utf8Encode := congrArg List.toByteArray h
  have hdecoded : some text.toArray = some other.toArray := by
    rw [← List.utf8Decode?_utf8Encode, ← List.utf8Decode?_utf8Encode, hencoded]
  simpa using hdecoded

/-! ### Digits -/

/-- A digit has the value it was made from. -/
theorem hexValue?_digit {value : Nat} (h : value < 16) :
    Document.hexValue? (digit value) = some value := by
  have hall : ∀ value < 16, Document.hexValue? (digit value) = some value := by decide
  exact hall value h

/-- No digit is a slash. -/
theorem digit_ne_slash {value : Nat} (h : value < 16) : digit value ≠ '/' := by
  have hall : ∀ value < 16, digit value ≠ '/' := by decide
  exact hall value h

/-! ### Decoding what was encoded -/

variable {escapes : Char → Bool} {c : Char} {byte : UInt8} {text : List Char}

/-- An escape stands for its byte. -/
theorem decode_encodeByte (byte : UInt8) (rest : List Char) :
    decode (encodeByte byte ++ rest) = byte :: decode rest := by
  have hbound : byte.toNat < 256 := byte.toNat_lt
  have hhigh : Document.hexValue? (digit (byte.toNat / 16)) = some (byte.toNat / 16) :=
    hexValue?_digit (by omega)
  have hlow : Document.hexValue? (digit (byte.toNat % 16)) = some (byte.toNat % 16) :=
    hexValue?_digit (by omega)
  have hbyte : byte.toNat / 16 * 16 + byte.toNat % 16 = byte.toNat := by omega
  simp only [encodeByte, List.cons_append, List.nil_append, decode, hhigh, hlow, hbyte,
    UInt8.ofNat_toNat]

/-- Escapes stand for their bytes. -/
theorem decode_escapes (bytes : List UInt8) (rest : List Char) :
    decode (bytes.flatMap encodeByte ++ rest) = bytes ++ decode rest := by
  induction bytes with
  | nil => rfl
  | cons byte bytes ih =>
      rw [List.flatMap_cons, List.append_assoc, decode_encodeByte, ih, List.cons_append]

/-- A character other than the percent sign stands for itself. -/
theorem decode_cons (h : c ≠ '%') (rest : List Char) :
    decode (c :: rest) = String.utf8EncodeChar c ++ decode rest := by
  rw [decode]
  intro high low rest hc
  exact absurd hc h

/-- A text in which the percent sign is escaped decodes to its bytes. -/
theorem decode_encode (hpercent : escapes '%' = true) (text : List Char) :
    decode (encode escapes text) = bytes text := by
  induction text with
  | nil => rfl
  | cons c text ih =>
      have hrest : decode (encodeChar escapes c ++ encode escapes text)
          = String.utf8EncodeChar c ++ bytes text := by
        unfold encodeChar
        split
        case isTrue => rw [decode_escapes, ih]
        case isFalse hplain =>
          have hc : c ≠ '%' := by
            rintro rfl
            simp [hpercent] at hplain
          rw [List.singleton_append, decode_cons hc, ih]
      exact hrest

/-- Only the empty text decodes to nothing. -/
theorem decode_eq_nil_iff : decode text = [] ↔ text = [] := by
  refine ⟨fun h => ?_, fun h => h ▸ rfl⟩
  revert h
  fun_cases decode text <;> simp

/-! ### Slashes -/

/-- An escape has no slash. -/
theorem slash_notMem_encodeByte : '/' ∉ encodeByte byte := by
  have hbound : byte.toNat < 256 := byte.toNat_lt
  have hhigh : digit (byte.toNat / 16) ≠ '/' := digit_ne_slash (by omega)
  have hlow : digit (byte.toNat % 16) ≠ '/' := digit_ne_slash (by omega)
  simp [encodeByte, hhigh.symm, hlow.symm]

/-- An encoded text has a slash only if the text has one that is not escaped. -/
theorem slash_notMem_encode (h : '/' ∈ text → escapes '/' = true) :
    '/' ∉ encode escapes text := by
  intro hmem
  obtain ⟨c, hc, hslash⟩ := List.mem_flatMap.mp hmem
  unfold encodeChar at hslash
  split at hslash
  case isTrue =>
    obtain ⟨byte, -, hbyte⟩ := List.mem_flatMap.mp hslash
    exact slash_notMem_encodeByte hbyte
  case isFalse hplain =>
    obtain rfl : '/' = c := List.mem_singleton.mp hslash
    simp [h hc] at hplain

end Percent

end BotHost
