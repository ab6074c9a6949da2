/-
# Which layer decides a setting

A configuration has five layers: the defaults, what the program gives, the overlay of the profile,
the main file, and the environment.  Where one folder is searched, with at most one main file and at
most one overlay in it, the layers that are there are laid over one another in this order.  At every
path the topmost layer that decides the path decides what stands there: its value as a whole, or its
table, key by key over what the layers below it come to, `Sources.load_of_singleFolder`.

The two names of main files are tried in turn, and the search ends at the main file.  So the overlay
beside the second name is no layer if the main file has the first one.
-/

import BotHost.Proofs.Configuration.Overlays
import BotHost.Proofs.Configuration.Stating
import BotHost.Proofs.Toml.Order
import Mathlib.Data.List.Basic

namespace BotHost

/-! ### Layers -/

/-- The layers of a configuration. -/
inductive Layer where
  | defaults
  | given
  | overlay
  | main
  | environment
deriving DecidableEq

namespace Layer

/-- All layers, the lowest first. -/
def all : List Layer := [defaults, given, overlay, main, environment]

/-- The layers below one. -/
def below (layer : Layer) : List Layer := all.takeWhile (· != layer)

/-- The layers above one. -/
def above (layer : Layer) : List Layer := (all.dropWhile (· != layer)).tail

/-- What layers come to that are laid over one another; one that states nothing is left out. -/
def merged (states : Layer → Option Setting) (layers : List Layer) : Setting :=
  Setting.layered (layers.filterMap states)

theorem all_eq (layer : Layer) : all = layer.below ++ layer :: layer.above := by
  cases layer <;> rfl

theorem mem_all (layer : Layer) : layer ∈ all := by
  rw [layer.all_eq]
  exact List.mem_append_right _ List.mem_cons_self

variable {states : Layer → Option Setting} {path : List String}

theorem ordered_of_mem {layers : List Layer}
    (hordered : ∀ layer, ∀ stated ∈ states layer, stated.Ordered) :
    ∀ stated ∈ layers.filterMap states, stated.Ordered := by
  intro stated hmem
  obtain ⟨layer, _, hstated⟩ := List.mem_filterMap.mp hmem
  exact hordered layer stated hstated

/-- The topmost layer that decides a path decides what stands there. -/
theorem decided_merged (hordered : ∀ layer, ∀ stated ∈ states layer, stated.Ordered)
    {layer : Layer} {stated : Setting} (hstated : states layer = some stated)
    (hdecides : stated.Decides path)
    (hsilent : ∀ higher ∈ layer.above, ∀ other ∈ states higher, ¬ other.Decides path) :
    Setting.Decided (merged states all) (merged states layer.below) stated path := by
  have hsplit : all.filterMap states =
      layer.below.filterMap states ++ stated :: layer.above.filterMap states := by
    rw [layer.all_eq, List.filterMap_append, List.filterMap_cons_some hstated]
  rw [merged, hsplit, merged]
  refine Setting.decided_layered ?_ hdecides fun other hmem => ?_
  · exact List.forall_mem_cons.mpr ⟨hordered layer stated hstated, ordered_of_mem hordered⟩
  · obtain ⟨higher, hhigher, hother⟩ := List.mem_filterMap.mp hmem
    exact hsilent higher hhigher other hother

/-- Where no layer decides, nothing stands. -/
theorem at?_merged_of_silent (hordered : ∀ layer, ∀ stated ∈ states layer, stated.Ordered)
    {layer : Layer} {stated : Setting} (hstated : states layer = some stated)
    (hsilent : ∀ layer, ∀ stated ∈ states layer, ¬ stated.Decides path) :
    (merged states all).at? path = none := by
  refine Setting.at?_layered_of_silent (ordered_of_mem hordered) ?_ fun other hmem => ?_
  · exact List.ne_nil_of_mem (List.mem_filterMap.mpr ⟨layer, layer.mem_all, hstated⟩)
  · obtain ⟨layer, _, hother⟩ := List.mem_filterMap.mp hmem
    exact hsilent layer other hother

end Layer

namespace Candidate

/-- How many names of main files are tried before a candidate's own. -/
def rank (candidate : Candidate) : Nat := stems.idxOf candidate.stem

theorem rank_first (folder : String) : (Candidate.mk folder "weft").rank = 0 := by
  simp [rank, stems]

theorem rank_second (folder : String) : (Candidate.mk folder "config").rank = 1 := by
  simp [rank, stems]

end Candidate

/-- The configuration that merged layers state, if it is one and is accepted. -/
def Configuration.extract (merged : Setting) : Except ConfigurationError Configuration :=
  match decode merged.toDocument with
  | none => .error .malformed
  | some configuration => do
    configuration.check
    return configuration

namespace Sources

/-! ### Reading files -/

theorem ordered_of_settingOf {sources : Sources} {path : String} {setting : Setting}
    (h : setting ∈ (sources.settingOf path).toOption) : setting.Ordered := by
  rw [settingOf] at h
  split at h
  · cases h
    exact Setting.ordered_empty
  · split at h
    · cases h
    · rename_i found hfound
      cases h
      exact Toml.ordered_of_read? hfound

/-- Files are read in order, or one of them is malformed. -/
theorem mapM_settingOf (sources : Sources) (found : List String) :
    found.mapM sources.settingOf =
      if found.all fun path => (sources.settingOf path).isOk then
        .ok (found.filterMap fun path => (sources.settingOf path).toOption)
      else .error .malformed := by
  induction found with
  | nil => rfl
  | cons path found ih =>
      have hpath : sources.settingOf path = .error .malformed ∨
          ∃ setting, sources.settingOf path = .ok setting := by
        rw [settingOf]
        split
        · exact .inr ⟨_, rfl⟩
        · split
          · exact .inl rfl
          · exact .inr ⟨_, rfl⟩
      rw [List.mapM_cons, ih]
      rcases hpath with hpath | ⟨setting, hpath⟩
      · simp only [List.all_cons, hpath]
        rfl
      · have hfirst : (sources.settingOf path).toOption = some setting := by
          rw [hpath]
          rfl
        rw [List.filterMap_cons, hfirst, List.all_cons, hpath]
        cases found.all fun path => (sources.settingOf path).isOk <;> rfl

/-! ### One folder -/

/-- One folder is searched, and at most one main file and at most one overlay of the profile are
there. -/
structure SingleFolder (sources : Sources) where
  path : String
  main : Option Candidate
  overlay : Option Candidate
  unnamed : sources.file = none
  folders : sources.folders = [path]
  mains : ((Candidate.ofFolders [path]).filter fun candidate =>
    sources.tree.holds candidate.main) = main.toList
  overlays : ((Candidate.ofFolders [path]).filter fun candidate =>
    sources.tree.holds (candidate.overlay sources.profile)) = overlay.toList

namespace SingleFolder

variable {sources : Sources} (folder : SingleFolder sources)

/-- Whose overlay is laid below the main file: its name is tried before that of the main file, or is
the same. -/
def reached : Option Candidate :=
  folder.overlay.filter fun candidate =>
    folder.main.all fun found => candidate.rank ≤ found.rank

/-- The files that are layers. -/
def files : List String :=
  (folder.reached.map fun candidate => candidate.overlay sources.profile).toList ++
    (folder.main.map Candidate.main).toList

/-- Whether the files that are layers can be read. -/
def readable : Bool := folder.files.all fun path => (sources.settingOf path).isOk

/-- What each layer states. -/
def states : Layer → Option Setting
  | .defaults => some (.ofJson Configuration.default.toJson)
  | .given => sources.given.map fun configuration => .ofJson configuration.toJson
  | .overlay => folder.reached.bind fun candidate =>
      (sources.settingOf (candidate.overlay sources.profile)).toOption
  | .main => folder.main.bind fun candidate => (sources.settingOf candidate.main).toOption
  | .environment => if sources.usesEnvironment then some sources.environment.settings else none

/-- What the layers come to. -/
def merged : Setting := Layer.merged folder.states Layer.all

/-- Everything that a layer states is ordered. -/
theorem ordered_states (hgiven : ∀ configuration ∈ sources.given, configuration.Ordered) :
    ∀ layer, ∀ stated ∈ folder.states layer, stated.Ordered
  | .defaults, stated, h => by
      cases h
      exact Setting.ordered_ofJson Configuration.ordered_default.toJson
  | .given, stated, h => by
      obtain ⟨configuration, hmem, rfl⟩ := Option.map_eq_some_iff.mp h
      exact Setting.ordered_ofJson (hgiven configuration hmem).toJson
  | .overlay, stated, h => by
      obtain ⟨candidate, _, h⟩ := Option.bind_eq_some_iff.mp h
      exact ordered_of_settingOf h
  | .main, stated, h => by
      obtain ⟨candidate, _, h⟩ := Option.bind_eq_some_iff.mp h
      exact ordered_of_settingOf h
  | .environment, stated, h => by
      rw [states] at h
      split at h <;> cases h
      exact sources.environment.ordered_settings

theorem main_eq_some_iff {candidate : Candidate} : folder.main = some candidate ↔
    candidate ∈ Candidate.ofFolders [folder.path] ∧
      sources.tree.holds candidate.main = true := by
  rw [← Option.mem_toList, ← folder.mains, List.mem_filter]

theorem overlay_eq_some_iff {candidate : Candidate} : folder.overlay = some candidate ↔
    candidate ∈ Candidate.ofFolders [folder.path] ∧
      sources.tree.holds (candidate.overlay sources.profile) = true := by
  rw [← Option.mem_toList, ← folder.overlays, List.mem_filter]

theorem holds_main {candidate : Candidate} (h : candidate ∈ Candidate.ofFolders [folder.path]) :
    sources.tree.holds candidate.main = decide (folder.main = some candidate) := by
  rw [Bool.eq_iff_iff, decide_eq_true_iff, folder.main_eq_some_iff]
  exact ⟨fun hholds => ⟨h, hholds⟩, fun hholds => hholds.2⟩

theorem holds_overlay {candidate : Candidate}
    (h : candidate ∈ Candidate.ofFolders [folder.path]) :
    sources.tree.holds (candidate.overlay sources.profile) =
      decide (folder.overlay = some candidate) := by
  rw [Bool.eq_iff_iff, decide_eq_true_iff, folder.overlay_eq_some_iff]
  exact ⟨fun hholds => ⟨h, hholds⟩, fun hholds => hholds.2⟩

/-- There is no candidate, or it is one of the two. -/
theorem eq_of_subset {found : Option Candidate}
    (h : ∀ candidate, found = some candidate → candidate ∈ Candidate.ofFolders [folder.path]) :
    found = none ∨ found = some ⟨folder.path, "weft"⟩ ∨ found = some ⟨folder.path, "config"⟩ := by
  cases found with
  | none => exact .inl rfl
  | some candidate =>
      have hmem : candidate ∈ [⟨folder.path, "weft"⟩, ⟨folder.path, "config"⟩] := h candidate rfl
      simpa using hmem

/-- The search finds the files that are layers. -/
theorem paths_eq : sources.paths = .ok folder.files := by
  have hcandidates : Candidate.ofFolders [folder.path] =
      [⟨folder.path, "weft"⟩, ⟨folder.path, "config"⟩] := rfl
  simp only [paths, folder.unnamed, folder.folders]
  refine congrArg Except.ok ?_
  -- Nothing is there, or the file of the first name, or that of the second one.
  rcases folder.eq_of_subset fun _ h => (folder.overlay_eq_some_iff.mp h).1 with
    hoverlay | hoverlay | hoverlay <;>
  rcases folder.eq_of_subset fun _ h => (folder.main_eq_some_iff.mp h).1 with
    hmain | hmain | hmain <;>
  simp [hcandidates, Candidate.search, folder.holds_main, folder.holds_overlay, files, reached,
    Candidate.rank_first, Candidate.rank_second, Option.filter_some, hoverlay, hmain]

theorem filterMap_states : Layer.all.filterMap folder.states = sources.builtIn ++
    (folder.files.filterMap fun path => (sources.settingOf path).toOption) ++
      sources.environmentLayers := by
  have hgiven : sources.builtIn =
      (folder.states .defaults).toList ++ (folder.states .given).toList := by
    rw [builtIn]
    cases hgiven : sources.given <;> simp [states, hgiven]
  have hfiles : (folder.files.filterMap fun path => (sources.settingOf path).toOption) =
      (folder.states .overlay).toList ++ (folder.states .main).toList := by
    rw [files, List.filterMap_append]
    cases hreached : folder.reached <;> cases hmain : folder.main <;>
      simp [states, hreached, hmain, List.filterMap_eq_flatMap_toList]
  have henvironment : sources.environmentLayers = (folder.states .environment).toList := by
    rw [environmentLayers, states]
    split <;> rfl
  rw [hgiven, hfiles, henvironment, List.filterMap_eq_flatMap_toList]
  simp [Layer.all]

/-- The layers are read, or one of the files is malformed. -/
theorem layers_eq : sources.layers =
    if folder.readable then .ok (Layer.all.filterMap folder.states) else .error .malformed := by
  rw [layers, folder.paths_eq, folder.filterMap_states]
  change (do
      let files ← folder.files.mapM sources.settingOf
      return sources.builtIn ++ files ++ sources.environmentLayers) = _
  rw [mapM_settingOf]
  change (if folder.readable then _ else _) >>= _ = _
  split <;> rfl

end SingleFolder

/-- The configuration is extracted from what the layers come to, if the files can be read.  At every
path the topmost layer that decides the path decides what stands there, and where no layer decides,
nothing stands. -/
theorem load_of_singleFolder (sources : Sources) (folder : SingleFolder sources)
    (hgiven : ∀ configuration ∈ sources.given, configuration.Ordered) :
    sources.load =
        (if folder.readable then Configuration.extract folder.merged else .error .malformed) ∧
      (∀ layer stated path, folder.states layer = some stated → stated.Decides path →
        (∀ higher ∈ layer.above, ∀ other ∈ folder.states higher, ¬ other.Decides path) →
        Setting.Decided folder.merged (Layer.merged folder.states layer.below) stated path) ∧
      ∀ path, (∀ layer, ∀ stated ∈ folder.states layer, ¬ stated.Decides path) →
        folder.merged.at? path = none := by
  have hordered : ∀ layer, ∀ stated ∈ folder.states layer, stated.Ordered :=
    folder.ordered_states hgiven
  refine ⟨?_, fun layer stated path hstated hdecides hsilent => ?_, fun path hsilent => ?_⟩
  · rw [load, folder.layers_eq]
    split <;> rfl
  · exact Layer.decided_merged hordered hstated hdecides hsilent
  · have hdefaults : folder.states .defaults =
        some (.ofJson Configuration.default.toJson) := rfl
    exact Layer.at?_merged_of_silent hordered hdefaults hsilent

/-- All five layers are there; the overlay and the main file state a list at the same place. -/
def stacked : Sources where
  tree := .ofFiles [("d/weft.toml", "[plugin_config.echo]\nwords = [\"c\"]\n"),
    ("d/weft.staging.toml",
      "[sync]\nretry_delay_secs = 1\n[plugin_config.echo]\nwords = [\"a\", \"b\"]\n")] []
  environment := .ofList [("WEFT_SYNC__TIMEOUT_MS", "5")]
  profile := .custom "staging"
  folders := ["d"]
  file := none
  given := some { Configuration.default with sync := ⟨9, 8, 7⟩ }
  usesEnvironment := true

/-- The main file and its overlay. -/
def stackedFolder : SingleFolder stacked where
  path := "d"
  main := some ⟨"d", "weft"⟩
  overlay := some ⟨"d", "weft"⟩
  unnamed := rfl
  folders := rfl
  mains := by decide +kernel
  overlays := by decide +kernel

/-- The list of the main file stands as a whole, though the overlay states one too, and the delay of
the overlay counts, though the program gives one. -/
theorem load_of_stackedFolder :
    (∀ configuration ∈ stacked.given, configuration.Ordered) ∧
      stacked.load = Configuration.extract stackedFolder.merged ∧
      stacked.delay? = some 1 ∧
      (∀ stated ∈ stackedFolder.states .overlay,
        stated.Decides ["plugin_config", "echo", "words"]) ∧
      ∃ value, (stackedFolder.states .main).bind (Setting.at? ["plugin_config", "echo", "words"]) =
          some value ∧ value.isTable = false ∧
        stackedFolder.merged.at? ["plugin_config", "echo", "words"] = some value := by
  have hgiven : ∀ configuration ∈ stacked.given, configuration.Ordered := by
    rintro _ ⟨⟩
    exact Configuration.ordered_default
  have hreadable : stackedFolder.readable = true := by decide +kernel
  have hsilent : ∀ higher ∈ Layer.main.above, ∀ other ∈ stackedFolder.states higher,
      ¬ other.Decides ["plugin_config", "echo", "words"] := by decide +kernel
  have hvalue : ((stackedFolder.states .main).bind
      (Setting.at? ["plugin_config", "echo", "words"])).map Setting.isTable = some false := by
    decide +kernel
  obtain ⟨hload, hdecided, -⟩ := load_of_singleFolder stacked stackedFolder hgiven
  obtain ⟨value, hstands, htable⟩ := Option.map_eq_some_iff.mp hvalue
  obtain ⟨stated, hstated, hat⟩ := Option.bind_eq_some_iff.mp hstands
  refine ⟨hgiven, ?_, by decide +kernel, by decide +kernel, value, hstands, htable, ?_⟩
  · rw [hload, if_pos hreadable]
  · exact (hdecided .main stated _ hstated (.inl ⟨value, hat⟩) hsilent).whole value hat htable

/-- A main file of the first name and an overlay of the second one. -/
def mixed : Sources :=
  { strayed with
    tree := .ofFiles [("d/weft.toml", ""),
      ("d/config.staging.toml", "[sync]\nretry_delay_secs = 1\n")] []
    folders := ["d"] }

/-- The main file, and an overlay that is not its own. -/
def mixedFolder : SingleFolder mixed where
  path := "d"
  main := some ⟨"d", "weft"⟩
  overlay := some ⟨"d", "config"⟩
  unnamed := rfl
  folders := rfl
  mains := by decide +kernel
  overlays := by decide +kernel

/-- The overlay of the second name states a delay and no layer above it does, but the delay that is
loaded is the default one: the overlay is no layer. -/
theorem load_of_mixedFolder :
    mixedFolder.overlay = some ⟨"d", "config"⟩ ∧
      ((mixed.settingOf (Candidate.overlay ⟨"d", "config"⟩ mixed.profile)).toOption.bind
        fun stated => (Configuration.decode stated.toDocument).map
          fun configuration => configuration.sync.retryDelay) = some 1 ∧
      (∀ higher ∈ Layer.overlay.above, ∀ other ∈ mixedFolder.states higher,
        ¬ other.Decides ["sync", "retry_delay_secs"]) ∧
      mixedFolder.reached = none ∧ mixed.delay? = some 10 := by
  refine ⟨rfl, ?_, ?_, ?_, ?_⟩ <;> decide +kernel

end Sources

end BotHost
