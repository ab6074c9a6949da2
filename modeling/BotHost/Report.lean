/-
# Reports

How the results of a host are told to somebody outside, as JSON: an error by its kind and its
wording, an event by what the host knows about it, and a dispatch, a batch or a room by its
figures.
-/

import BotHost.Account.Acts
import BotHost.Host

namespace BotHost

namespace Report

/-- An error of which only the kind is told. -/
def kind (name : String) : Json := Json.ofMembers [("error", .string name)]

/-- An error by its kind and its wording. -/
def worded (name message : String) : Json :=
  Json.ofMembers [("error", .string name), ("message", .string message)]

/-- A text that is not the JSON that was asked for. -/
def unreadable : Json := kind "Json"

/-- A request that nobody understands. -/
def unknown : Json := kind "UnknownOp"

/-- A panic. -/
def panic (panic : Panic) : Json := worded "Panic" panic.message

/-- A transport error. -/
def transportError (error : TransportError) : Json :=
  worded
    (match error with
      | .http .. => "Http"
      | .connectionFailed .. => "ConnectionFailed"
      | .invalidResponse .. => "InvalidResponse"
      | .invalidConfig .. => "InvalidConfig")
    error.message

/-- A store error. -/
def storeError (error : StoreError) : Json :=
  worded
    (match error with
      | .notFound .. => "NotFound"
      | .serialization _ => "Serialization"
      | .backend _ => "Backend")
    error.message

/-- A sync error. -/
def syncError (error : SyncError) : Json :=
  worded
    (match error with
      | .transport _ => "Transport"
      | .store _ => "Store"
      | .batchPanicked _ => "BatchPanicked"
      | .identityMismatch .. => "IdentityMismatch")
    error.message

/-- A compile error. -/
def compileError (error : CompileError) : Json :=
  worded
    (match error with
      | .invalidPattern _ => "InvalidPattern"
      | .emptyTemplate => "EmptySyntax")
    error.message

/-- A registry error. -/
def registryError (error : RegistryError) : Json :=
  worded
    (match error with
      | .incompatibleInterface .. => "IncompatibleApi"
      | .duplicate _ => "Duplicate")
    error.message

/-- A configuration error; a malformed file is told by its kind only. -/
def configurationError (error : ConfigurationError) : Json :=
  match error with
  | .malformed => kind "ParseError"
  | .fileNotFound _ => worded "FileNotFound" error.message
  | .unsupportedFormat _ => worded "ParseError" error.message
  | .zero _ | .invalidTarget _ | .invalidUserId _ => worded "ValidationError" error.message
  | .missingField _ => worded "MissingField" error.message
  | .duplicateAccount _ => worded "DuplicateAccount" error.message
  | .duplicatePlugin _ => worded "DuplicatePlugin" error.message
  | .invalidUrl _ => worded "InvalidUrl" error.message

/-- An error of the host; one of its configuration is told as such. -/
def hostError (error : HostError) : Json :=
  match error with
  | .configuration error => configurationError error
  | .store _ => worded "Store" error.message
  | .registry _ => worded "Registry" error.message

/-- The end of a request: what it answered, or its error. -/
def transport {α : Type} (answer : α → Json) : Except TransportError α → Json
  | .ok value => answer value
  | .error error => transportError error

/-- The end of an operation of the store: what it answered, or its error. -/
def store {α : Type} (answer : α → Json) : Except StoreError α → Json
  | .ok value => answer value
  | .error error => storeError error

/-- Nothing to tell. -/
def nothing {α : Type} (_ : α) : Json := .null

/-- What the host knows about an event. -/
def event (event : Event) : Json :=
  Json.ofMembers
    [("kind", .string (match event.content with
        | .message _ => "message"
        | .member _ => "member"
        | .generic _ => "generic")),
      ("is_state", .bool event.isState), ("body", .ofText? event.body?),
      ("membership", .ofText? (event.membership?.map Membership.name)),
      ("wire", event.toJson)]

/-- The arguments of a matched command. -/
def arguments (arguments : SortedMap String String) : Json :=
  .object (arguments.toList.map fun (key, text) => (key, .string text))

/-- The matches of a passive command. -/
def captures (captures : List (List String)) : Json := .array (captures.map .ofTexts)

/-- What setting a spec did. -/
def update : SpecUpdate → Json
  | .changed => .string "Changed"
  | .unchanged => .string "Unchanged"

/-- What came of a dispatch. -/
def outcome (outcome : DispatchOutcome) : Json :=
  Json.ofMembers [("invoked", .ofNat outcome.invoked), ("stopped", .bool outcome.stopped)]

/-- What became of a batch. -/
def batch : Except SyncError BatchReport → Json
  | .error error => syncError error
  | .ok report =>
    Json.ofMembers
      [("discarded", .bool report.discarded), ("skipped", .ofNat report.skipped),
        ("dispatched", .ofNat report.dispatched)]

/-- A room: its figures, the memberships of the listed users and the state events of the
listed types and state keys. -/
def room (users : List String) (keys : List (String × String)) (state : RoomState) : Json :=
  Json.ofMembers
    [("room_id", .string state.roomId), ("len", .ofNat state.events.size),
      ("is_empty", .bool state.events.isEmpty), ("joined", .ofTexts state.joinedMembers),
      ("members", Json.ofMembers (users.map fun user =>
        (user, .ofText? ((state.membership? user).map Membership.name)))),
      ("get", .array (keys.map fun (eventType, key) =>
        .ofOption ((state.get? eventType key).map Event.toJson)))]

/-- The counts of a host. -/
def counts (counts : HostCounts) (running : Bool) : Json :=
  Json.ofMembers
    [("accounts", .ofNat counts.accounts), ("syncing", .ofNat counts.syncing),
      ("plugins", .ofNat counts.plugins), ("started", .ofNat counts.started),
      ("plugin_types", .ofNat counts.pluginTypes), ("running", .bool running)]

end Report

end BotHost
