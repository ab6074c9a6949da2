/-
# Loading a configuration from its sources

Five sources are laid over one another, each above those before it: the defaults, values
given by the program, the overlay file of the profile, the main file, and the environment.

A main file that is named has to be there and has to be TOML; it has no overlay.  Otherwise
the folders are searched in order, and in each the main file's two possible names.  The
search ends with the first main file.  The overlay beside each name that was tried is laid
below it, whether or not there is a main file of that name.
-/

import BotHost.Configuration.Environment
import BotHost.Configuration.Files
import BotHost.Configuration.Profile
import BotHost.Configuration.Validation
import BotHost.Toml.Reader

namespace BotHost

/-- A place where a main file may be. -/
structure Candidate where
  folder : String
  /-- The name of the main file without its extension. -/
  stem : String
deriving DecidableEq

namespace Candidate

/-- The names of main files without their extension, in the order in which they are tried. -/
def stems : List String := ["weft", "config"]

/-- The extension of the files that can be read. -/
def extension : String := "toml"

/-- The path of the main file. -/
def main (candidate : Candidate) : String :=
  FileTree.join candidate.folder (candidate.stem ++ "." ++ extension)

/-- The path of a profile's overlay. -/
def overlay (candidate : Candidate) (profile : Profile) : String :=
  FileTree.join candidate.folder
    (candidate.stem ++ "." ++ profile.name ++ "." ++ extension)

/-- The candidates of folders, in the order in which they are tried. -/
def ofFolders (folders : List String) : List Candidate :=
  folders.flatMap fun folder => stems.map fun stem => ⟨folder, stem⟩

/-- The paths of the files a search finds, the lowest source first. -/
def search (tree : FileTree) (profile : Profile) : List Candidate → List String
  | [] => []
  | candidate :: rest =>
    let overlay :=
      if tree.holds (candidate.overlay profile) then [candidate.overlay profile] else []
    if tree.holds candidate.main then overlay ++ [candidate.main]
    else overlay ++ search tree profile rest

end Candidate

/-- Where a configuration is loaded from. -/
structure Sources where
  tree : FileTree
  environment : Variables
  profile : Profile
  folders : List String
  file : Option String
  /-- The values the program gives, if any. -/
  given : Option Configuration
  usesEnvironment : Bool

namespace Sources

/-- The sources of a host that says nothing about them: the current folder and the host's
own folder among the user's settings are searched, and the environment names the profile. -/
def usual (tree : FileTree) (environment : Variables) (current user : String) : Sources :=
  { tree, environment
    profile := ((environment.find? Variables.profileName).map Profile.ofName).getD .development
    folders := [current, FileTree.join user "weft"]
    file := none
    given := none
    usesEnvironment := true }

/-- The paths of the files that are sources, the lowest first. -/
def paths (sources : Sources) : Except ConfigurationError (List String) :=
  match sources.file with
  | none =>
    .ok (Candidate.search sources.tree sources.profile (Candidate.ofFolders sources.folders))
  | some path =>
    if !sources.tree.holds path then .error (.fileNotFound path)
    else if FileTree.extension path != Candidate.extension then
      .error (.unsupportedFormat (FileTree.extension path))
    else .ok [path]

/-- What a file states.  A folder states nothing: the folders above the current one are not
searched for a file of the same relative path. -/
def settingOf (sources : Sources) (path : String) : Except ConfigurationError Setting :=
  match sources.tree.text? path with
  | none => .ok .empty
  | some text =>
    match Toml.read? text with
    | none => .error .malformed
    | some setting => .ok setting

/-- The defaults and what the program gives. -/
def builtIn (sources : Sources) : List Setting :=
  (Configuration.default :: sources.given.toList).map fun configuration =>
    .ofJson configuration.toJson

/-- What the environment states. -/
def environmentLayers (sources : Sources) : List Setting :=
  if sources.usesEnvironment then [sources.environment.settings] else []

/-- What every source states, the lowest first. -/
def layers (sources : Sources) : Except ConfigurationError (List Setting) := do
  let files ← (← sources.paths).mapM sources.settingOf
  return sources.builtIn ++ files ++ sources.environmentLayers

/-- Load the configuration and check it. -/
def load (sources : Sources) : Except ConfigurationError Configuration := do
  match Configuration.decode (Setting.layered (← sources.layers)).toDocument with
  | none => .error .malformed
  | some configuration =>
    configuration.check
    return configuration

end Sources

end BotHost
