/-
# Reading URLs

A URL that stands for itself: a scheme, then perhaps an authority, a path, a query and a
fragment.  Control characters and blanks around a URL, and tabs and line breaks anywhere in
it, are passed over.  In the schemes of the web a backslash counts as a slash before the
query.
-/

import BotHost.Web.Url

namespace BotHost

namespace Url

/-- A text without the characters that a URL passes over. -/
def clean (text : String) : List Char :=
  let around (c : Char) : Bool := c.toNat ≤ 0x20
  let trimmed := ((text.toList.dropWhile around).reverse.dropWhile around).reverse
  trimmed.filter fun c => !vanishes c

/-- The text before a character and the text behind it, if it occurs. -/
def cut (c : Char) (text : List Char) : List Char × Option (List Char) :=
  let behind := text.dropWhile (· != c)
  (text.takeWhile (· != c), if behind.isEmpty then none else some (behind.drop 1))

/-- Whether a character may stand in a scheme behind its first one. -/
def inScheme (c : Char) : Bool := c.isAlphanum || c == '+' || c == '-' || c == '.'

/-- The scheme a text starts with, in lower case, and the text behind its colon. -/
def readScheme (text : List Char) : Option (String × List Char) :=
  match text.takeWhile inScheme, text.dropWhile inScheme with
  | first :: more, ':' :: rest =>
    if first.isAlpha then some (String.ofList ((first :: more).map Char.toLower), rest)
    else none
  | _, _ => none

/-- Whether a character is a slash; a backslash is one in the schemes of the web. -/
def isSlash (special : Bool) (c : Char) : Bool := c == '/' || (special && c == '\\')

/-- A user's name and password with their escapes. -/
def readUserInfo (text : List Char) : Option String :=
  let (name, password) := cut ':' text
  let encode := Percent.encode Percent.inUserInfo
  match password.filter fun password => !password.isEmpty with
  | some password => some (String.ofList (encode name ++ ':' :: encode password))
  | none => if name.isEmpty then none else some (String.ofList (encode name))

/-- Split an authority at its last at sign. -/
def splitUserInfo (text : List Char) : Option (List Char) × List Char :=
  if text.contains '@' then
    let backwards := text.reverse
    (some ((backwards.dropWhile (· != '@')).drop 1).reverse,
      (backwards.takeWhile (· != '@')).reverse)
  else (none, text)

/-- The host a text starts with, up to a colon outside of brackets or a slash, and the text
behind it. -/
def spanHost (special bracketed : Bool) : List Char → List Char × List Char
  | [] => ([], [])
  | c :: rest =>
    if (c == ':' && !bracketed) || isSlash special c then ([], c :: rest)
    else
      let bracketed := if c == '[' then true else if c == ']' then false else bracketed
      let (host, rest) := spanHost special bracketed rest
      (c :: host, rest)

/-- The port a text starts with, if any, and the text behind it. -/
def readPort (scheme : String) : List Char → Option (Option Nat × List Char)
  | ':' :: text =>
    let (digits, rest) := Document.spanDigits text
    let port := Document.digitsValue digits
    let ends := rest.head?.all fun c => c == '/' || c == '\\'
    if !ends || 65535 < port then none
    else if digits.isEmpty || usualPort scheme == some port then some (none, rest)
    else some (some port, rest)
  | rest => some (none, rest)

/-- The segments of a text, with their escapes. -/
def readPath (special : Bool) (text : List Char) : List String :=
  let slashes := text.map fun c => if isSlash special c then '/' else c
  let behind :=
    match slashes with
    | '/' :: rest => rest
    | rest => rest
  walk [] ((behind.splitOn '/').map fun segment =>
    String.ofList (Percent.encode Percent.inPath segment))

/-- Read an authority and the path behind it.  `more` says whether a query or a fragment
follows. -/
def readAuthority (scheme : String) (special more : Bool) (text : List Char) : Option Url := do
  let (userText, _) := splitUserInfo (text.takeWhile fun c => !isSlash special c)
  let behindUser := text.drop ((userText.map fun user => user.length + 1).getD 0)
  let userInfo := userText.bind readUserInfo
  let (hostText, rest) := spanHost special false behindUser
  let bare := (behindUser.head?.map (isSlash special)).getD more
  if userText == some [] && bare then none
  if hostText.isEmpty && (special || userInfo.isSome || rest.head? == some ':') then none
  let host ← if special then WebHost.read? hostText else WebHost.readElsewhere? hostText
  let (port, rest) ← readPort scheme rest
  let path := if !special && rest.isEmpty then [] else readPath special rest
  some ⟨scheme, userInfo, some host, port, .segments path, none, none⟩

/-- Whether a text names a drive. -/
def isDrive : List Char → Bool
  | [letter, mark] => letter.isAlpha && (mark == ':' || mark == '|')
  | _ => false

/-- Read the host and the path of a file, behind two slashes or none. -/
def readFile (text : List Char) : Option Url := do
  let hostless (path : List Char) : Url :=
    ⟨"file", none, some (.domain ""), none, .segments (readPath true path), none, none⟩
  match text with
  | first :: second :: rest =>
    if isSlash true first && isSlash true second then
      let hostText := rest.takeWhile fun c => !isSlash true c
      if hostText.isEmpty || isDrive hostText then some (hostless rest)
      else
        let host ← WebHost.read? hostText
        let shown := if host == .domain "localhost" then .domain "" else host
        some { hostless (rest.drop hostText.length) with host := some shown }
    else some (hostless text)
  | rest => some (hostless rest)

/-- Read what stands between a scheme's colon and the query. -/
def readBody (scheme : String) (more : Bool) (text : List Char) : Option Url :=
  if scheme = "file" then readFile text
  else if isWebScheme scheme then
    readAuthority scheme true more (text.dropWhile (isSlash true))
  else
    match text with
    | '/' :: '/' :: rest => readAuthority scheme false more rest
    | '/' :: rest =>
      some ⟨scheme, none, none, none, .segments (readPath false rest), none, none⟩
    | rest =>
      let whole := String.ofList (Percent.encode Percent.isControl rest)
      some ⟨scheme, none, none, none, .whole whole, none, none⟩

/-- Read a URL. -/
def read? (text : String) : Option Url := do
  let (scheme, rest) ← readScheme (clean text)
  let (rest, fragment) := cut '#' rest
  let (body, query) := cut '?' rest
  let url ← readBody scheme (query.isSome || fragment.isSome) body
  let encoded (escapes : Char → Bool) (text : List Char) : String :=
    String.ofList (Percent.encode escapes text)
  some
    { url with
      query := query.map (encoded (Percent.inQuery (isWebScheme scheme)))
      fragment := fragment.map (encoded Percent.inFragment) }

end Url

end BotHost
