/-
# Texts from bytes

Bytes read as UTF-8.  What is no UTF-8 becomes replacement characters: one for each longest
beginning of a character that is broken off, and one for each byte that begins nothing.
-/

namespace BotHost

namespace Text

/-- The character that stands for what cannot be read. -/
def replacement : Char := '\ufffd'

/-- Whether a byte continues a character. -/
def continues (byte : UInt8) : Bool := 0x80 ≤ byte.toNat && byte.toNat < 0xC0

/-- Whether a second byte may follow the first one of a character. -/
def follows (first second : UInt8) : Bool :=
  continues second &&
    (match first.toNat with
    | 0xE0 => 0xA0 ≤ second.toNat
    | 0xED => second.toNat < 0xA0
    | 0xF0 => 0x90 ≤ second.toNat
    | 0xF4 => second.toNat < 0x90
    | _ => true)

/-- The number of bytes of a character by its first byte; zero if it begins none. -/
def width (first : UInt8) : Nat :=
  let code := first.toNat
  if code < 0x80 then 1
  else if 0xC2 ≤ code && code < 0xE0 then 2
  else if 0xE0 ≤ code && code < 0xF0 then 3
  else if 0xF0 ≤ code && code < 0xF5 then 4
  else 0

/-- The low bits of a byte that continues a character. -/
def lowBits (byte : UInt8) : Nat := byte.toNat % 64

/-- The character that bytes begin with, and how many bytes behind the first belong to it. -/
def firstChar (first : UInt8) (rest : List UInt8) : Char × Nat :=
  match width first, rest with
  | 1, _ => (Char.ofNat first.toNat, 0)
  | 2, b :: _ =>
    if follows first b then (Char.ofNat (first.toNat % 32 * 64 + lowBits b), 1)
    else (replacement, 0)
  | 3, [b] => (replacement, if follows first b then 1 else 0)
  | 3, b :: c :: _ =>
    if !follows first b then (replacement, 0)
    else if !continues c then (replacement, 1)
    else (Char.ofNat ((first.toNat % 16 * 64 + lowBits b) * 64 + lowBits c), 2)
  | 4, [b] => (replacement, if follows first b then 1 else 0)
  | 4, [b, c] =>
    (replacement, if !follows first b then 0 else if continues c then 2 else 1)
  | 4, b :: c :: d :: _ =>
    if !follows first b then (replacement, 0)
    else if !continues c then (replacement, 1)
    else if !continues d then (replacement, 2)
    else
      (Char.ofNat (((first.toNat % 8 * 64 + lowBits b) * 64 + lowBits c) * 64 + lowBits d), 3)
  | _, _ => (replacement, 0)

/-- The characters of bytes. -/
def charsOfBytes : List UInt8 → List Char
  | [] => []
  | first :: rest =>
    let (c, more) := firstChar first rest
    c :: charsOfBytes (rest.drop more)
termination_by bytes => bytes.length
decreasing_by
  simp only [List.length_drop, List.length_cons]
  omega

/-- The text of bytes, with replacements for what is no UTF-8. -/
def ofBytes (bytes : List UInt8) : String := String.ofList (charsOfBytes bytes)

/-- The text of bytes that are UTF-8. -/
def ofBytes? (bytes : List UInt8) : Option String := String.fromUTF8? ⟨bytes.toArray⟩

end Text

end BotHost
