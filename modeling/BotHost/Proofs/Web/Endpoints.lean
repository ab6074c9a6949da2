/-
# Which endpoint a request reaches

An endpoint's URL is that of the homeserver, extended by the root and the segments asked for.  So
each segment arrives as one piece of the path with its own bytes exactly if all of them are plain
texts, and plain segments are told by the URL.  A segment that is a dot or two dots is left out:
it leads to the endpoint that the other segments name.
-/

import BotHost.Proofs.Web.Segments
import BotHost.Web.Connection

namespace BotHost

namespace Connection

variable {homeserver token : String} {connection : Connection}

/-- The URL of a connection has a list of segments, and none of them has a slash. -/
theorem path_of_open? (opened : open? homeserver token = .ok connection) :
    ∃ path, connection.base.path = .segments path ∧ Url.Undivided path := by
  unfold open? at opened
  split at opened
  case h_1 => nomatch opened
  case h_2 base hread =>
    split at opened
    case isTrue => nomatch opened
    case isFalse hbase =>
      obtain rfl := Except.ok.inj opened
      cases hpath : base.path with
      | whole text => exact absurd (by rw [Url.cannotBeBase, hpath]) hbase
      | segments path => exact ⟨path, rfl, Url.separated_of_read? hread path hpath⟩

/-- The pieces of an endpoint are those of the homeserver's URL, less an empty one at the end, then
the root and the segments, exactly if the segments are plain and the homeserver's path is not `//`.
Different plain segments have different URLs, and dots among the segments leave no trace. -/
theorem endpoint_pieces (opened : open? homeserver token = .ok connection)
    (segments : List String) :
    ((connection.endpoint segments).pieces =
        Url.dropTrailing connection.base.pieces ++ (root ++ segments).map Url.piece ↔
      connection.base.path.text ≠ "//" ∧ ∀ segment ∈ segments, Url.Plain segment) ∧
    (∀ others, (∀ segment ∈ segments, Url.Plain segment) →
      (∀ segment ∈ others, Url.Plain segment) →
      connection.endpoint segments = connection.endpoint others → segments = others) ∧
    connection.endpoint (segments.filter Url.isNoDot) = connection.endpoint segments := by
  obtain ⟨path, hpath, hundivided⟩ := path_of_open? opened
  have hroot : ∀ segment ∈ root, Url.Plain segment := by decide
  have hplain (texts : List String) :
      (∀ text ∈ root ++ texts, Url.Plain text) ↔ ∀ text ∈ texts, Url.Plain text := by
    rw [List.forall_mem_append]
    exact and_iff_right hroot
  refine ⟨?_, fun others hsegments hothers hsame => ?_, ?_⟩
  · rw [endpoint, Url.pieces_extend_iff hpath hundivided, hplain]
  · have hwhole := Url.extend_injective hpath hundivided ((hplain segments).mpr hsegments)
      ((hplain others).mpr hothers) hsame
    exact List.append_cancel_left hwhole
  · have hkept : (root ++ segments).filter Url.isNoDot = root ++ segments.filter Url.isNoDot := by
      rw [List.filter_append]
      rfl
    rw [endpoint, endpoint, Url.extend, Url.extend, ← hkept, Url.foldl_append_filter]

/-- The connection with `token` to a homeserver whose URL has the given path. -/
def below (path : List String) : Connection :=
  ⟨⟨"https", none, some (.domain "hs.example.org"), none, .segments path, none, none⟩, "token"⟩

/-- Slashes, percent signs, blanks and what is not ASCII arrive below a path of the homeserver's,
and an empty segment is not lost. -/
theorem endpoint_pieces_of_odd :
    open? "https://hs.example.org/matrix/" "token" = .ok (below ["matrix", ""]) ∧
      ((below ["matrix", ""]).endpoint ["join", "#room/with?odd %2F\\é:hs"]).pieces =
        ["matrix", "_matrix", "client", "v3", "join", "#room/with?odd %2F\\é:hs"].map Url.piece ∧
      (below ["matrix", ""]).endpoint ["join", ""] ≠ (below ["matrix", ""]).endpoint ["join"] ∧
      (below ["matrix", ""]).endpoint ["join"] =
        (below ["matrix", ""]).endpoint ["..", "join", "."] := by
  have hopened : open? "https://hs.example.org/matrix/" "token" = .ok (below ["matrix", ""]) := rfl
  refine ⟨hopened, ?_, fun hsame => ?_, (endpoint_pieces hopened ["..", "join", "."]).2.2⟩
  · exact (endpoint_pieces hopened _).1.mpr ⟨by decide, by decide⟩
  · have hsegments := (endpoint_pieces hopened _).2.1 _ (by decide) (by decide) hsame
    exact absurd hsegments (by decide)

/-- A room named by a dot, a room named by two dots, a tab, two dots around a tab, and a homeserver
whose path is `//`. -/
theorem endpoint_of_dots :
    open? "https://hs.example.org" "token" = .ok (below [""]) ∧
      ((below [""]).endpoint ["join", "."]).pieces ≠
        Url.dropTrailing (below [""]).base.pieces ++ (root ++ ["join", "."]).map Url.piece ∧
      (below [""]).endpoint ["join", "."] = (below [""]).endpoint ["join"] ∧
      (below [""]).endpoint ["rooms", "..", "event", "$1"] =
        (below [""]).endpoint ["rooms", "event", "$1"] ∧
      (below [""]).endpoint ["join", "!a\tb:hs"] = (below [""]).endpoint ["join", "!ab:hs"] ∧
      ((below [""]).endpoint ["join", ".\t."]).pieces =
        ["_matrix", "client", "v3", ""].map Url.piece ∧
      open? "https://hs.example.org//" "token" = .ok (below ["", ""]) ∧
      (below ["", ""]).base.pieces = ["", ""].map Url.piece ∧
      ((below ["", ""]).endpoint ["sync"]).pieces = (root ++ ["sync"]).map Url.piece :=
  ⟨rfl, by decide, by decide, by decide, by decide, by decide, rfl, by decide, by decide⟩

end Connection

end BotHost
