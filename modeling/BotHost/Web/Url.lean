/-
# URLs

A URL after the standard of the web.  Its path is a list of segments, which keep their
escapes, or, for a URL that cannot be a base, one text.  `extend` adds segments to a path:
each is encoded as a whole, so that nothing in it can divide the path, except that a single
or a double dot has a meaning of its own.
-/

import BotHost.Web.Host

namespace BotHost

/-- The path of a URL. -/
inductive WebPath where
  /-- A text that is no list of segments. -/
  | whole (text : String)
  /-- Segments, each with a slash before it. -/
  | segments (list : List String)
deriving DecidableEq

/-- A URL. -/
structure Url where
  /-- The scheme in lower case. -/
  scheme : String
  /-- The user's name and password with their escapes, if there are any. -/
  userInfo : Option String
  host : Option WebHost
  /-- The port, if it is not the usual one of the scheme. -/
  port : Option Nat
  path : WebPath
  /-- The query with its escapes. -/
  query : Option String
  fragment : Option String
deriving DecidableEq

namespace WebPath

/-- A path as it stands in a URL. -/
def text : WebPath → String
  | whole text => text
  | segments list => String.join (list.map ("/" ++ ·))

end WebPath

namespace Url

/-! ### Schemes -/

/-- The schemes of the web with their usual ports. -/
def webPorts : List (String × Option Nat) :=
  [("http", some 80), ("https", some 443), ("ws", some 80), ("wss", some 443),
    ("ftp", some 21), ("file", none)]

/-- Whether a scheme is one of the web's. -/
def isWebScheme (scheme : String) : Bool := webPorts.any fun entry => entry.1 == scheme

/-- The usual port of a scheme. -/
def usualPort (scheme : String) : Option Nat :=
  (webPorts.find? fun entry => entry.1 == scheme).bind (·.2)

/-- Whether the scheme of a URL is one of the web's. -/
def isSpecial (url : Url) : Bool := isWebScheme url.scheme

/-- Whether a URL cannot be a base: its path is no list of segments. -/
def cannotBeBase (url : Url) : Bool :=
  match url.path with
  | .whole _ => true
  | .segments _ => false

/-! ### Texts -/

/-- What follows the scheme's colon up to the path. -/
def authority (url : Url) : String :=
  match url.host with
  | none => ""
  | some host =>
    let user := (url.userInfo.map (· ++ "@")).getD ""
    let port := (url.port.map fun port => ":" ++ toString port).getD ""
    "//" ++ user ++ host.text ++ port

/-- The path and the query, as a request states them. -/
def target (url : Url) : String := url.path.text ++ (url.query.map ("?" ++ ·)).getD ""

/-- A URL as it is written. -/
def text (url : Url) : String :=
  url.scheme ++ ":" ++ url.authority ++ url.target ++ (url.fragment.map ("#" ++ ·)).getD ""

/-! ### Paths -/

/-- The spellings of a single dot as a segment. -/
def singleDots : List String := [".", "%2e", "%2E"]

/-- The spellings of a double dot as a segment. -/
def doubleDots : List String :=
  ["..", "%2e%2e", "%2e%2E", "%2E%2e", "%2E%2E", "%2e.", "%2E.", ".%2e", ".%2E"]

/-- Add a segment with its escapes to a path.  A single dot adds nothing and a double dot
takes the last segment away; at the end of a path both leave an empty segment there. -/
def step (path : List String) (segment : String) (last : Bool) : List String :=
  if doubleDots.contains segment then path.dropLast ++ (if last then [""] else [])
  else if singleDots.contains segment then path ++ (if last then [""] else [])
  else path ++ [segment]

/-- Add segments with their escapes to a path. -/
def walk (path : List String) : List String → List String
  | [] => path
  | [segment] => step path segment true
  | segment :: rest => walk (step path segment false) rest

/-- Whether a character vanishes from a URL. -/
def vanishes (c : Char) : Bool := c == '\t' || c == '\n' || c == '\r'

/-- A text as a segment that is added to a path. -/
def encodeSegment (special : Bool) (segment : String) : String :=
  String.ofList (Percent.encode (Percent.inSegment special)
    (segment.toList.filter fun c => !vanishes c))

/-- Add a text as a segment to a path.  A single and a double dot are passed over. -/
def append (special : Bool) (path : List String) (segment : String) : List String :=
  if segment = "." ∨ segment = ".." then path
  else step path (encodeSegment special segment) true

/-- A path without an empty segment at its end; an empty path has a lone empty segment. -/
def dropEmpty (path : List String) : List String :=
  let shorter := if path.getLast? == some "" then path.dropLast else path
  if shorter == [""] then [] else shorter

/-- The segments of a URL's path. -/
def segments (url : Url) : List String :=
  match url.path with
  | .whole _ => []
  | .segments list => list

/-- Add texts as segments to a URL's path. -/
def extend (url : Url) (texts : List String) : Url :=
  { url with
    path := .segments (texts.foldl (append url.isSpecial) (dropEmpty url.segments)) }

/-- Add a field to a URL's query. -/
def addField (url : Url) (name value : String) : Url :=
  { url with
    query := some (String.ofList
      (Percent.addField ((url.query.getD "").toList) name value)) }

end Url

end BotHost
