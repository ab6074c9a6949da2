/-
# What texts add to the path of a URL

The pieces of a path are what stands between its slashes, with the escapes taken back.  A text
that is added to a path becomes one piece with its own bytes, whatever slashes, percent signs or
blanks it has, unless it is a dot or two dots, which are passed over, or has a tab or a line
break, which vanishes: `Url.Plain` excludes just these.

Texts that extend a URL each add their own piece exactly if they are plain,
`Url.pieces_extend_iff`.  They stand behind the pieces of the URL, which lose an empty one at the
end; only `//` loses both that it has.
-/

import BotHost.Proofs.Web.Escapes
import BotHost.Web.Reader
import Mathlib.Data.List.Induction

namespace BotHost

namespace Url

/-- The bytes that the pieces of a URL's path stand for. -/
def pieces (url : Url) : List (List UInt8) :=
  ((url.path.text.toList.splitOn '/').drop 1).map Percent.decode

/-- Pieces without an empty one at their end. -/
def dropTrailing (pieces : List (List UInt8)) : List (List UInt8) :=
  if pieces.getLast? = some [] then pieces.dropLast else pieces

/-- The bytes of a text. -/
def piece (text : String) : List UInt8 := Percent.bytes text.toList

/-- A text that is no dot and no two dots. -/
def isNoDot (text : String) : Bool := text != "." && text != ".."

/-- A text that is added to a path as it is. -/
structure Plain (text : String) : Prop where
  single : text ≠ "."
  double : text ≠ ".."
  lasts : ∀ c ∈ text.toList, vanishes c = false

/-- The bytes that the segments of a path stand for. -/
def decoded (path : List String) : List (List UInt8) :=
  path.map fun segment => Percent.decode segment.toList

/-- Whether no segment of a path has a slash. -/
def Undivided (path : List String) : Prop := ∀ segment ∈ path, '/' ∉ segment.toList

variable {special last : Bool} {path segments texts : List String} {text segment : String}

/-! ### Plain texts -/

theorem plain_iff :
    isNoDot text = true ∧ (text.toList.all fun c => !vanishes c) = true ↔ Plain text := by
  rw [isNoDot, Bool.and_eq_true, bne_iff_ne, bne_iff_ne, List.all_eq_true]
  constructor
  · rintro ⟨⟨hsingle, hdouble⟩, hlasts⟩
    exact ⟨hsingle, hdouble, fun c hc => by simpa using hlasts c hc⟩
  · intro h
    exact ⟨⟨h.single, h.double⟩, fun c hc => by simp [h.lasts c hc]⟩

instance (text : String) : Decidable (Plain text) := decidable_of_iff _ plain_iff

/-! ### Pieces and segments -/

theorem piece_injective {other : String} (h : piece text = piece other) : text = other :=
  String.toList_inj.mp (Percent.bytes_injective h)

@[simp] theorem decoded_append : decoded (path ++ segments) = decoded path ++ decoded segments :=
  List.map_append

theorem decoded_concat_eq_iff {front : List (List UInt8)} {final : List UInt8} :
    decoded (path ++ [segment]) = front ++ [final] ↔
      decoded path = front ∧ Percent.decode segment.toList = final := by
  rw [decoded_append]
  constructor
  · intro h
    obtain ⟨hfront, hfinal⟩ := List.append_inj' h rfl
    exact ⟨hfront, (List.cons.inj hfinal).1⟩
  · rintro ⟨rfl, rfl⟩
    rfl

@[simp] theorem length_decoded : (decoded path).length = path.length := List.length_map ..

/-- A path is written with a slash before each segment. -/
theorem intercalate_segments (first : List Char) :
    ['/'].intercalate (first :: path.map String.toList) =
      first ++ (WebPath.segments path).text.toList := by
  induction path generalizing first with
  | nil => simp [WebPath.text]
  | cons segment path ih =>
      rw [List.map_cons, List.intercalate_cons_cons, ih]
      simp [WebPath.text, String.toList_join]

/-- A path is split into its segments. -/
theorem splitOn_text (h : Undivided path) :
    (WebPath.segments path).text.toList.splitOn '/' = [] :: path.map String.toList := by
  have hpieces : ∀ piece ∈ [] :: path.map String.toList, '/' ∉ piece := by
    simpa [Undivided] using h
  have hsplit := List.splitOn_intercalate '/' hpieces (by simp)
  rwa [intercalate_segments, List.nil_append] at hsplit

/-- The pieces of a path are what its segments stand for. -/
theorem pieces_eq {url : Url} (hpath : url.path = .segments path) (h : Undivided path) :
    url.pieces = decoded path := by
  rw [pieces, hpath, splitOn_text h, List.drop_one, List.tail_cons, List.map_map]
  rfl

/-! ### Adding a text -/

/-- What a text that is added stands for: its bytes, but for what vanishes. -/
theorem decode_encodeSegment :
    Percent.decode (encodeSegment special text).toList =
      Percent.bytes (text.toList.filter fun c => !vanishes c) := by
  rw [encodeSegment, String.toList_ofList,
    Percent.decode_encode (by simp [Percent.inSegment, Percent.isOneOf])]

theorem Plain.decode_encodeSegment (h : Plain text) :
    Percent.decode (encodeSegment special text).toList = piece text := by
  rw [Url.decode_encodeSegment, List.filter_eq_self.mpr fun c hc => by simp [h.lasts c hc]]
  rfl

theorem slash_notMem_encodeSegment : '/' ∉ (encodeSegment special text).toList := by
  rw [encodeSegment, String.toList_ofList]
  exact Percent.slash_notMem_encode fun _ => by simp [Percent.inSegment, Percent.isOneOf]

/-- What a text adds to a path. -/
inductive Appended (special : Bool) (path : List String) (text : String) : List String → Prop where
  | passed : text = "." ∨ text = ".." → Appended special path text path
  /-- What becomes two dots takes a segment back and leaves an empty one. -/
  | backed : encodeSegment special text ∈ doubleDots →
      Appended special path text (path.dropLast ++ [""])
  /-- What becomes one dot leaves an empty segment. -/
  | cleared : encodeSegment special text ∈ singleDots → Appended special path text (path ++ [""])
  | added : text ≠ "." → text ≠ ".." →
      Appended special path text (path ++ [encodeSegment special text])

theorem appended_append (special : Bool) (path : List String) (text : String) :
    Appended special path text (append special path text) := by
  unfold append step
  split
  case isTrue hdots => exact .passed hdots
  case isFalse hdots =>
    obtain ⟨hsingle, hdouble⟩ := not_or.mp hdots
    split
    case isTrue hback => exact .backed (List.contains_iff_mem.mp hback)
    case isFalse =>
      split
      case isTrue hclear => exact .cleared (List.contains_iff_mem.mp hclear)
      case isFalse => exact .added hsingle hdouble

/-- A text adds at most one segment. -/
theorem Appended.length_le (h : Appended special path text segments) :
    segments.length ≤ path.length + 1 := by
  cases h <;> simp

/-- Every spelling of a dot stands for a dot. -/
theorem decode_singleDots : ∀ dot ∈ singleDots, Percent.decode dot.toList = piece "." := by
  decide

/-- Every spelling of two dots stands for two dots. -/
theorem decode_doubleDots : ∀ dots ∈ doubleDots, Percent.decode dots.toList = piece ".." := by
  decide

/-- A plain text adds a segment. -/
theorem Plain.append (h : Plain text) :
    append special path text = path ++ [encodeSegment special text] := by
  have hdecoded : Percent.decode (encodeSegment special text).toList = piece text :=
    h.decode_encodeSegment
  have hsingle : encodeSegment special text ∉ singleDots := fun hdot =>
    h.single (piece_injective (hdecoded.symm.trans (decode_singleDots _ hdot)))
  have hdouble : encodeSegment special text ∉ doubleDots := fun hdots =>
    h.double (piece_injective (hdecoded.symm.trans (decode_doubleDots _ hdots)))
  rw [Url.append, if_neg (not_or.mpr ⟨h.single, h.double⟩), step,
    if_neg (mt List.contains_iff_mem.mp hdouble), if_neg (mt List.contains_iff_mem.mp hsingle)]

/-- A text whose own piece was added is plain. -/
theorem Appended.plain {front : List (List UInt8)} (h : Appended special path text segments)
    (hdecoded : decoded segments = front ++ [piece text]) (hlength : path.length ≤ front.length) :
    Plain text := by
  have hempty : encodeSegment special "" = "" := rfl
  cases h with
  | passed =>
      have hlengths := congrArg List.length hdecoded
      rw [length_decoded, List.length_append, List.length_singleton] at hlengths
      omega
  | backed hback =>
      have htext : "" = text := piece_injective (decoded_concat_eq_iff.mp hdecoded).2
      rw [← htext, hempty] at hback
      exact absurd hback (by decide)
  | cleared hclear =>
      have htext : "" = text := piece_injective (decoded_concat_eq_iff.mp hdecoded).2
      rw [← htext, hempty] at hclear
      exact absurd hclear (by decide)
  | added hsingle hdouble =>
      have hkept := (decoded_concat_eq_iff.mp hdecoded).2
      rw [decode_encodeSegment] at hkept
      have hall := List.filter_eq_self.mp (Percent.bytes_injective hkept)
      exact ⟨hsingle, hdouble, fun c hc => by simpa using hall c hc⟩

/-! ### Adding texts -/

/-- Texts add at most one segment each. -/
theorem length_foldl_append_le (special : Bool) (path texts : List String) :
    (texts.foldl (append special) path).length ≤ path.length + texts.length := by
  induction texts generalizing path with
  | nil => exact Nat.le_refl _
  | cons text texts ih =>
      have hfirst := (appended_append special path text).length_le
      have hrest := ih (append special path text)
      rw [List.foldl_cons, List.length_cons]
      omega

/-- Texts add their own pieces exactly if they are plain. -/
theorem decoded_foldl_append_iff :
    decoded (texts.foldl (append special) path) = decoded path ++ texts.map piece ↔
      ∀ text ∈ texts, Plain text := by
  -- From the end: only for the last text is it known what stands before its piece.
  induction texts using List.reverseRecOn with
  | nil => simp
  | append_singleton texts text ih =>
      rw [List.foldl_append, List.foldl_cons, List.foldl_nil, List.map_append, List.map_singleton,
        ← List.append_assoc, List.forall_mem_append, List.forall_mem_singleton, ← ih]
      constructor
      · intro hdecoded
        have hlength := length_foldl_append_le special path texts
        have hplain : Plain text :=
          (appended_append special _ text).plain hdecoded (by simpa using hlength)
        rw [hplain.append] at hdecoded
        exact ⟨(decoded_concat_eq_iff.mp hdecoded).1, hplain⟩
      · rintro ⟨hdecoded, hplain⟩
        rw [hplain.append]
        exact decoded_concat_eq_iff.mpr ⟨hdecoded, hplain.decode_encodeSegment⟩

/-! ### Slashes -/

theorem undivided_append (hpath : Undivided path) (hsegments : Undivided segments) :
    Undivided (path ++ segments) :=
  List.forall_mem_append.mpr ⟨hpath, hsegments⟩

theorem undivided_dropLast (hpath : Undivided path) : Undivided path.dropLast :=
  fun other hother => hpath other (List.dropLast_subset path hother)

theorem undivided_step (hpath : Undivided path) (hsegment : '/' ∉ segment.toList) :
    Undivided (step path segment last) := by
  have hending : Undivided (if last then [""] else []) := by
    cases last <;> simp [Undivided]
  unfold step
  split
  case isTrue => exact undivided_append (undivided_dropLast hpath) hending
  case isFalse =>
    split
    case isTrue => exact undivided_append hpath hending
    case isFalse => exact undivided_append hpath (List.forall_mem_singleton.mpr hsegment)

theorem undivided_walk (hpath : Undivided path) (hsegments : Undivided segments) :
    Undivided (walk path segments) := by
  fun_induction walk path segments with
  | case1 path => exact hpath
  | case2 path segment => exact undivided_step hpath (hsegments segment List.mem_cons_self)
  | case3 path segment rest _ ih =>
      obtain ⟨hsegment, hrest⟩ := List.forall_mem_cons.mp hsegments
      exact ih (undivided_step hpath hsegment) hrest

theorem undivided_foldl_append (hpath : Undivided path) (texts : List String) :
    Undivided (texts.foldl (append special) path) := by
  induction texts generalizing path with
  | nil => exact hpath
  | cons text texts ih =>
      refine ih ?_
      unfold append
      split
      case isTrue => exact hpath
      case isFalse => exact undivided_step hpath slash_notMem_encodeSegment

theorem undivided_dropEmpty (hpath : Undivided path) : Undivided (dropEmpty path) := by
  unfold dropEmpty
  extract_lets shorter
  have hshorter : Undivided shorter := by
    unfold shorter
    split
    case isTrue => exact undivided_dropLast hpath
    case isFalse => exact hpath
  split
  case isTrue => exact List.forall_mem_nil _
  case isFalse => exact hshorter

/-- What stands between slashes has none. -/
theorem slash_notMem_splitOn (text : List Char) : ∀ part ∈ text.splitOn '/', '/' ∉ part := by
  induction text with
  | nil => simp
  | cons c text ih =>
      rw [List.splitOn_cons_eq_if_modifyHead]
      split
      case isTrue => simpa using ih
      case isFalse hc =>
        obtain ⟨first, more, hsplit⟩ := List.exists_cons_of_ne_nil (List.splitOn_ne_nil '/' text)
        rw [hsplit] at ih ⊢
        obtain ⟨hfirst, hmore⟩ := List.forall_mem_cons.mp ih
        refine List.forall_mem_cons.mpr ⟨?_, hmore⟩
        have hslash : '/' ≠ c := by
          rintro rfl
          exact hc (BEq.refl _)
        exact fun hmem => (List.mem_cons.mp hmem).elim hslash hfirst

theorem undivided_readPath (special : Bool) (text : List Char) :
    Undivided (readPath special text) := by
  unfold readPath
  dsimp only
  refine undivided_walk (List.forall_mem_nil _) ?_
  intro segment hsegment
  obtain ⟨part, hpart, rfl⟩ := List.mem_map.mp hsegment
  rw [String.toList_ofList]
  exact Percent.slash_notMem_encode fun hslash => absurd hslash (slash_notMem_splitOn _ part hpart)

/-! ### URLs that are read -/

variable {url : Url} {scheme : String} {more : Bool} {characters : List Char}

/-- Whether a URL's path, if it is a list of segments, has no slash in them. -/
def Separated (url : Url) : Prop := ∀ path, url.path = .segments path → Undivided path

theorem separated_of_path (hpath : url.path = .segments path) (h : Undivided path) :
    url.Separated := by
  intro other hother
  rw [hpath] at hother
  rwa [← WebPath.segments.inj hother]

theorem separated_of_readAuthority (h : readAuthority scheme special more characters = some url) :
    url.Separated := by
  simp only [readAuthority, Option.bind_eq_bind, Option.bind_none,
    Option.ite_none_left_eq_some] at h
  obtain ⟨-, -, h⟩ := h
  have hpath (rest : List Char) :
      Undivided (if !special && rest.isEmpty then [] else readPath special rest) := by
    split
    case isTrue => exact List.forall_mem_nil _
    case isFalse => exact undivided_readPath special rest
  -- The two ways to read a host lead on in the same way.
  split at h
  all_goals
    simp only [Option.bind_eq_some_iff] at h
    obtain ⟨_, -, ⟨_, rest⟩, -, h⟩ := h
    obtain rfl := Option.some.inj h
    exact separated_of_path rfl (hpath rest)

theorem separated_of_readFile (h : readFile characters = some url) : url.Separated := by
  unfold readFile at h
  extract_lets hostless at h
  have hpath (text : List Char) : (hostless text).Separated :=
    separated_of_path rfl (undivided_readPath true text)
  split at h
  case h_1 first second rest =>
    split at h
    case isTrue =>
      extract_lets hostText at h
      split at h
      case isTrue =>
        obtain rfl := Option.some.inj h
        exact hpath _
      case isFalse =>
        obtain ⟨host, -, h⟩ := Option.bind_eq_some_iff.mp h
        obtain rfl := Option.some.inj h
        exact fun path hsegments => hpath _ path hsegments
    case isFalse =>
      obtain rfl := Option.some.inj h
      exact hpath _
  case h_2 =>
    obtain rfl := Option.some.inj h
    exact hpath _

theorem separated_of_readBody (h : readBody scheme more characters = some url) :
    url.Separated := by
  unfold readBody at h
  split at h
  case isTrue => exact separated_of_readFile h
  case isFalse =>
    split at h
    case isTrue => exact separated_of_readAuthority h
    case isFalse =>
      split at h
      case h_1 => exact separated_of_readAuthority h
      case h_2 =>
        obtain rfl := Option.some.inj h
        exact separated_of_path rfl (undivided_readPath _ _)
      case h_3 =>
        obtain rfl := Option.some.inj h
        intro path hpath
        nomatch hpath

/-- No segment of a URL that is read has a slash. -/
theorem separated_of_read? {text : String} (h : read? text = some url) : url.Separated := by
  simp only [read?, Option.bind_eq_bind, Option.bind_eq_some_iff] at h
  obtain ⟨_, -, _, hbody, h⟩ := h
  obtain rfl := Option.some.inj h
  exact fun path hpath => separated_of_readBody hbody path hpath

/-! ### Extending a URL -/

/-- Only `//` loses more than an empty segment at its end. -/
theorem decoded_dropEmpty (h : path ≠ ["", ""]) :
    decoded (dropEmpty path) = dropTrailing (decoded path) := by
  have hlast : (decoded path).getLast? = some [] ↔ path.getLast? = some "" := by
    simp [decoded, List.getLast?_map, Percent.decode_eq_nil_iff]
  unfold dropEmpty dropTrailing
  simp only [hlast, beq_iff_eq]
  by_cases hend : path.getLast? = some ""
  · rw [if_pos hend, if_pos hend]
    obtain ⟨front, rfl⟩ := List.getLast?_eq_some_iff.mp hend
    have hshorter : front ≠ [""] := by
      rintro rfl
      exact h rfl
    rw [List.dropLast_concat, if_neg hshorter, decoded_append]
    exact List.dropLast_concat.symm
  · rw [if_neg hend, if_neg hend, if_neg]
    rintro rfl
    exact hend rfl

/-- The path `//` is the one with two empty segments. -/
theorem text_eq_slashes_iff (h : Undivided path) :
    (WebPath.segments path).text = "//" ↔ path = ["", ""] := by
  refine ⟨fun htext => ?_, fun hpath => hpath ▸ rfl⟩
  have hsplit := splitOn_text h
  rw [htext] at hsplit
  have hmap : path.map String.toList = ["", ""].map String.toList := (List.cons.inj hsplit).2.symm
  exact (List.map_inj_right fun _ _ => String.toList_inj.mp).mp hmap

/-- The pieces of a URL that was extended. -/
theorem pieces_extend (hpath : url.path = .segments path) (h : Undivided path)
    (texts : List String) :
    (url.extend texts).pieces = decoded (texts.foldl (append url.isSpecial) (dropEmpty path)) := by
  have hsegments : url.segments = path := by rw [Url.segments, hpath]
  have hextended : (url.extend texts).path =
      .segments (texts.foldl (append url.isSpecial) (dropEmpty path)) := by
    rw [extend, hsegments]
  exact pieces_eq hextended (undivided_foldl_append (undivided_dropEmpty h) texts)

/-- Exactly plain texts extend a URL by their own pieces, unless the path is `//`. -/
theorem pieces_extend_iff (hpath : url.path = .segments path) (h : Undivided path) :
    (url.extend texts).pieces = dropTrailing url.pieces ++ texts.map piece ↔
      url.path.text ≠ "//" ∧ ∀ text ∈ texts, Plain text := by
  rw [pieces_extend hpath h, pieces_eq hpath h, hpath, Ne, text_eq_slashes_iff h]
  by_cases hslashes : path = ["", ""]
  · subst hslashes
    have hlength := length_foldl_append_le url.isSpecial [] texts
    refine iff_of_false (fun hpieces => ?_) fun hplain => hplain.1 rfl
    have hlengths := congrArg List.length hpieces
    rw [length_decoded, List.length_append, List.length_map] at hlengths
    have hkept : (dropTrailing (decoded ["", ""])).length = 1 := rfl
    have hnone : (dropEmpty ["", ""]) = [] := rfl
    rw [hkept, hnone] at hlengths
    simp only [List.length_nil] at hlength
    omega
  · rw [← decoded_dropEmpty hslashes, decoded_foldl_append_iff]
    exact (and_iff_right hslashes).symm

/-- A URL and plain texts that extend it tell the texts. -/
theorem extend_injective {others : List String} (hpath : url.path = .segments path)
    (h : Undivided path) (htexts : ∀ text ∈ texts, Plain text)
    (hothers : ∀ text ∈ others, Plain text)
    (hextend : url.extend texts = url.extend others) : texts = others := by
  have hpieces := congrArg pieces hextend
  rw [pieces_extend hpath h, pieces_extend hpath h, decoded_foldl_append_iff.mpr htexts,
    decoded_foldl_append_iff.mpr hothers] at hpieces
  exact (List.map_inj_right fun _ _ => piece_injective).mp (List.append_cancel_left hpieces)

/-- Dots leave no trace. -/
theorem foldl_append_filter (path : List String) :
    (texts.filter isNoDot).foldl (append special) path = texts.foldl (append special) path := by
  induction texts generalizing path with
  | nil => rfl
  | cons text texts ih =>
      rw [List.foldl_cons, List.filter_cons]
      split
      case isTrue => rw [List.foldl_cons, ih]
      case isFalse hdot =>
        have hpassed : text = "." ∨ text = ".." := by
          simpa [isNoDot, Classical.or_iff_not_imp_left] using hdot
        rw [ih, append, if_pos hpassed]

end Url

end BotHost
