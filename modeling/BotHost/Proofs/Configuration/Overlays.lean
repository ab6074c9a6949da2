/-
# Which overlays a search lays below the main file

A search for the main file ends with the first candidate that has one, `Candidate.Hit`.  The
overlays of the profile are looked for on the way: the one beside the main file, and those beside
the candidates that were tried in vain as well, so the overlay of another folder, or of the other
name in the same folder, is laid below the main file too.  What lies behind the hit is never
looked at, and changing it changes nothing, `Sources.load_congr`.
-/

import BotHost.Configuration.Sources

namespace BotHost

namespace Candidate

/-- The overlays of a profile that are there beside candidates, in the same order. -/
def overlays (tree : FileTree) (profile : Profile) (candidates : List Candidate) : List String :=
  (candidates.filter fun candidate => tree.holds (candidate.overlay profile)).map
    fun candidate => candidate.overlay profile

/-- The first candidate that has a main file. -/
structure Hit (tree : FileTree) (candidates : List Candidate) where
  before : List Candidate
  found : Candidate
  behind : List Candidate
  split : candidates = before ++ found :: behind
  missed : ∀ candidate ∈ before, tree.holds candidate.main = false
  holds : tree.holds found.main = true

variable {tree other : FileTree} {profile : Profile} {candidates more : List Candidate}

theorem overlays_append :
    overlays tree profile (candidates ++ more) =
      overlays tree profile candidates ++ overlays tree profile more := by
  rw [overlays, List.filter_append, List.map_append, overlays, overlays]

theorem overlays_cons (candidate : Candidate) :
    overlays tree profile (candidate :: candidates) =
      (if tree.holds (candidate.overlay profile) then [candidate.overlay profile] else []) ++
        overlays tree profile candidates := by
  rw [overlays, List.filter_cons, overlays]
  split <;> rfl

theorem overlays_eq_nil_iff :
    overlays tree profile candidates = [] ↔
      ∀ candidate ∈ candidates, tree.holds (candidate.overlay profile) = false := by
  simp [overlays, List.filter_eq_nil_iff]

theorem overlays_congr (h : ∀ candidate ∈ candidates,
    other.holds (candidate.overlay profile) = tree.holds (candidate.overlay profile)) :
    overlays other profile candidates = overlays tree profile candidates := by
  rw [overlays, overlays, List.filter_congr h]

/-- Before the first hit, only overlays are found. -/
theorem search_append (hmissed : ∀ candidate ∈ candidates, tree.holds candidate.main = false) :
    search tree profile (candidates ++ more) =
      overlays tree profile candidates ++ search tree profile more := by
  induction candidates with
  | nil => rfl
  | cons candidate candidates ih =>
      obtain ⟨hmain, hrest⟩ := List.forall_mem_cons.mp hmissed
      rw [List.cons_append, search, overlays_cons, ih hrest, List.append_assoc]
      simp [hmain]

namespace Hit

variable (hit : Hit tree candidates)

/-- The candidates that were tried, the hit last. -/
def tried : List Candidate := hit.before ++ [hit.found]

/-- The search finds the overlays beside all candidates that were tried, and then the main file. -/
theorem search_eq : search tree profile candidates =
    overlays tree profile hit.tried ++ [hit.found.main] := by
  have hsearch : search tree profile (hit.before ++ hit.found :: hit.behind) =
      overlays tree profile hit.tried ++ [hit.found.main] := by
    rw [search_append hit.missed, tried, overlays_append, overlays_cons, search]
    simp [hit.holds, overlays]
  rw [← hsearch, ← hit.split]

/-- The overlay beside the main file is the only one exactly if there is none beside a candidate
that was tried before. -/
theorem search_eq_own_iff :
    search tree profile candidates = overlays tree profile [hit.found] ++ [hit.found.main] ↔
      ∀ candidate ∈ hit.before, tree.holds (candidate.overlay profile) = false := by
  rw [hit.search_eq, tried, overlays_append, List.append_assoc, List.append_left_eq_self,
    overlays_eq_nil_iff]

/-- A hit stays one if the main files of the candidates that were tried stay where they are. -/
def transfer (h : ∀ candidate ∈ hit.tried, other.holds candidate.main = tree.holds candidate.main) :
    Hit other candidates where
  before := hit.before
  found := hit.found
  behind := hit.behind
  split := hit.split
  missed candidate hmem := (h candidate (List.mem_append_left _ hmem)).trans (hit.missed _ hmem)
  holds := (h hit.found (List.mem_append_right _ List.mem_cons_self)).trans hit.holds

/-- The search looks at nothing but the main files and the overlays of the candidates that are
tried. -/
theorem search_congr
    (hmain : ∀ candidate ∈ hit.tried, other.holds candidate.main = tree.holds candidate.main)
    (hoverlay : ∀ candidate ∈ hit.tried,
      other.holds (candidate.overlay profile) = tree.holds (candidate.overlay profile)) :
    search other profile candidates = search tree profile candidates := by
  have hother : search other profile candidates =
      overlays other profile hit.tried ++ [hit.found.main] := (hit.transfer hmain).search_eq
  rw [hother, hit.search_eq]
  exact congrArg (· ++ [hit.found.main]) (overlays_congr hoverlay)

end Hit

end Candidate

namespace Sources

/-- Files that are read alike are read alike in order. -/
theorem mapM_settingOf_congr {sources : Sources} {other : FileTree} {found : List String}
    (h : ∀ path ∈ found, other.text? path = sources.tree.text? path) :
    found.mapM { sources with tree := other }.settingOf = found.mapM sources.settingOf := by
  induction found with
  | nil => rfl
  | cons path found ih =>
      obtain ⟨hpath, hrest⟩ := List.forall_mem_cons.mp h
      have hsetting : { sources with tree := other }.settingOf path = sources.settingOf path := by
        rw [settingOf, settingOf, hpath]
      rw [List.mapM_cons, List.mapM_cons, hsetting, ih hrest]

/-- Sources that differ in their files load the same if the same files are found and state the
same. -/
theorem load_congr {sources : Sources} {other : FileTree} {found : List String}
    (hpaths : sources.paths = .ok found) (hother : { sources with tree := other }.paths = .ok found)
    (htext : ∀ path ∈ found, other.text? path = sources.tree.text? path) :
    { sources with tree := other }.load = sources.load := by
  have hlayers : { sources with tree := other }.layers = sources.layers := by
    rw [layers, layers, hpaths, hother]
    change (do
      let files ← found.mapM { sources with tree := other }.settingOf
      return sources.builtIn ++ files ++ sources.environmentLayers) =
        (do
          let files ← found.mapM sources.settingOf
          return sources.builtIn ++ files ++ sources.environmentLayers)
    rw [mapM_settingOf_congr htext]
  rw [load, load, hlayers]

/-- If a main file is found, the files that are sources are the overlays beside all candidates that
were tried, in order, and the main file above them.  The overlay of the main file is the only one
exactly if there is none beside a candidate that was tried before.  No other file has an effect: as
long as the same files are there for the candidates that were tried and those state the same, the
configuration that is loaded is the same. -/
theorem load_of_hit (sources : Sources) (hfile : sources.file = none)
    (hit : Candidate.Hit sources.tree (Candidate.ofFolders sources.folders)) :
    sources.paths = .ok (Candidate.overlays sources.tree sources.profile hit.tried ++
      [hit.found.main]) ∧
    (sources.paths = .ok (Candidate.overlays sources.tree sources.profile [hit.found] ++
        [hit.found.main]) ↔
      ∀ candidate ∈ hit.before, sources.tree.holds (candidate.overlay sources.profile) = false) ∧
    ∀ other : FileTree,
      (∀ candidate ∈ hit.tried, other.holds candidate.main = sources.tree.holds candidate.main ∧
        other.holds (candidate.overlay sources.profile) =
          sources.tree.holds (candidate.overlay sources.profile)) →
      (∀ path ∈ Candidate.overlays sources.tree sources.profile hit.tried ++ [hit.found.main],
        other.text? path = sources.tree.text? path) →
      { sources with tree := other }.load = sources.load := by
  have hpaths (tree : FileTree) : { sources with tree }.paths =
      .ok (Candidate.search tree sources.profile (Candidate.ofFolders sources.folders)) := by
    simp only [paths, hfile]
  have hsearch := hpaths sources.tree
  rw [hit.search_eq] at hsearch
  refine ⟨hsearch, ?_, fun other hholds htext => ?_⟩
  · rw [← hit.search_eq_own_iff]
    exact ⟨fun h => Except.ok.inj ((hpaths sources.tree).symm.trans h),
      fun h => (hpaths sources.tree).trans (congrArg _ h)⟩
  · have hother := hpaths other
    rw [hit.search_congr (fun candidate hmem => (hholds candidate hmem).1)
      fun candidate hmem => (hholds candidate hmem).2, hit.search_eq] at hother
    exact load_congr hsearch hother htext

/-- The retry delay that is loaded. -/
def delay? (sources : Sources) : Option Nat :=
  sources.load.toOption.map fun configuration => configuration.sync.retryDelay

/-- Two folders are searched: the first one has an overlay and no main file, and the second one has
the main file. -/
def strayed : Sources where
  tree := .ofFiles [("a/weft.staging.toml", "[sync]\nretry_delay_secs = 1\n"),
    ("b/weft.toml", "")] []
  environment := .empty
  profile := .custom "staging"
  folders := ["a", "b"]
  file := none
  given := none
  usesEnvironment := false

/-- The main file is found in the second folder, where it has no overlay. -/
def strayedHit : Candidate.Hit strayed.tree (Candidate.ofFolders strayed.folders) where
  before := [⟨"a", "weft"⟩, ⟨"a", "config"⟩]
  found := ⟨"b", "weft"⟩
  behind := [⟨"b", "config"⟩]
  split := by decide +kernel
  missed := by decide +kernel
  holds := by decide +kernel

/-- A main file in the first folder with its overlay, and an overlay in the second folder. -/
def settled : Sources :=
  { strayed with tree := .ofFiles [("a/weft.staging.toml", "[sync]\nretry_delay_secs = 1\n"),
      ("a/weft.toml", ""), ("b/weft.staging.toml", "[sync]\nretry_delay_secs = 2\n")] [] }

/-- The main file is found at once. -/
def settledHit : Candidate.Hit settled.tree (Candidate.ofFolders settled.folders) where
  before := []
  found := ⟨"a", "weft"⟩
  behind := [⟨"a", "config"⟩, ⟨"b", "weft"⟩, ⟨"b", "config"⟩]
  split := by decide +kernel
  missed := by decide +kernel
  holds := by decide +kernel

/-- The overlay in the second folder has no effect: the configuration is the one that the first
folder by itself states. -/
theorem load_of_settledHit :
    settled.file = none ∧
      settled.paths = .ok ["a/weft.staging.toml", "a/weft.toml"] ∧
      { settled with tree := .ofFiles [("a/weft.staging.toml", "[sync]\nretry_delay_secs = 1\n"),
        ("a/weft.toml", "")] [] }.load = settled.load ∧
      settled.delay? = some 1 := by
  obtain ⟨hpaths, -, hload⟩ := load_of_hit settled rfl settledHit
  refine ⟨rfl, hpaths.trans (congrArg Except.ok ?_), hload _ ?_ ?_, ?_⟩
  all_goals decide +kernel

/-- The overlay in the first folder has an effect on the configuration, though the main file is
found in the second one: without it, the delay is the default one. -/
theorem load_of_strayedHit :
    strayedHit.found = ⟨"b", "weft"⟩ ∧
      strayed.tree.holds (strayedHit.found.overlay strayed.profile) = false ∧
      strayed.delay? = some 1 ∧
      { strayed with tree := .ofFiles [("b/weft.toml", "")] [] }.delay? = some 10 := by
  refine ⟨rfl, ?_, ?_, ?_⟩ <;> decide +kernel

end Sources

end BotHost
