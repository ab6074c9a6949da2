/-
# Percent-encoding

A text is percent-encoded by writing some of its ASCII characters, and all others, as the
bytes of their UTF-8 form, each a percent sign and two hexadecimal digits.  Decoding gives
bytes, because what was encoded need not have been a text.

Which characters are escaped depends on the part of a URL a text stands in; the sets follow
the URL standard.  The fields of a form have a rule of their own.
-/

import BotHost.Json.Reader

namespace BotHost

namespace Percent

/-- The UTF-8 bytes of characters. -/
def bytes (text : List Char) : List UInt8 := text.flatMap String.utf8EncodeChar

/-- The digit of a value below sixteen. -/
def digit (value : Nat) : Char :=
  if value < 10 then Char.ofNat (48 + value) else Char.ofNat (55 + value)

/-- A byte as a percent sign and two digits. -/
def encodeByte (byte : UInt8) : List Char :=
  ['%', digit (byte.toNat / 16), digit (byte.toNat % 16)]

/-- A character, encoded if it is to be escaped or is not ASCII. -/
def encodeChar (escapes : Char → Bool) (c : Char) : List Char :=
  if escapes c || 0x80 ≤ c.toNat then (String.utf8EncodeChar c).flatMap encodeByte else [c]

/-- A text with its characters encoded where they are to be. -/
def encode (escapes : Char → Bool) (text : List Char) : List Char :=
  text.flatMap (encodeChar escapes)

/-- The bytes an encoded text stands for; a percent sign without two digits stands for
itself. -/
def decode : List Char → List UInt8
  | [] => []
  | '%' :: high :: low :: rest =>
    match Document.hexValue? high, Document.hexValue? low with
    | some high, some low => UInt8.ofNat (high * 16 + low) :: decode rest
    | _, _ => String.utf8EncodeChar '%' ++ decode (high :: low :: rest)
  | c :: rest => String.utf8EncodeChar c ++ decode rest

/-- The text an encoded text stands for, if its bytes are UTF-8. -/
def decodeText? (text : List Char) : Option String := String.fromUTF8? ⟨(decode text).toArray⟩

/-! ### What is escaped where -/

/-- The control characters of ASCII. -/
def isControl (c : Char) : Bool := c.toNat < 0x20 || c == '\x7f'

/-- Whether a character is one of a text. -/
def isOneOf (characters : String) (c : Char) : Bool := characters.toList.contains c

/-- What is escaped in a fragment. -/
def inFragment (c : Char) : Bool := isControl c || isOneOf " \"<>`" c

/-- What is escaped in a query; `special` says whether the scheme is one of the web's. -/
def inQuery (special : Bool) (c : Char) : Bool :=
  isControl c || isOneOf " \"#<>" c || (special && c == '\'')

/-- What is escaped in a path. -/
def inPath (c : Char) : Bool := inFragment c || isOneOf "#?\x7b\x7d" c

/-- What is escaped in a segment that is added to a path. -/
def inSegment (special : Bool) (c : Char) : Bool :=
  inPath c || isOneOf "/%" c || (special && c == '\\')

/-- What is escaped in a user's name and password. -/
def inUserInfo (c : Char) : Bool := inPath c || isOneOf "/:;=@[\\]^|" c

/-! ### Forms -/

/-- Whether a character stands for itself in a form. -/
def isFormPlain (c : Char) : Bool := c.isAlphanum || isOneOf "*-._" c

/-- A text as a field of a form: a space becomes a plus sign. -/
def encodeField (text : String) : List Char :=
  text.toList.flatMap fun c =>
    if c == ' ' then ['+'] else encodeChar (fun c => !isFormPlain c) c

/-- Add a field to a form. -/
def addField (form : List Char) (name value : String) : List Char :=
  form ++ (if form.isEmpty then [] else ['&']) ++ encodeField name ++ '=' :: encodeField value

end Percent

end BotHost
