/-
# The files a configuration may be read from

A tree of files with texts and of folders.  A path is followed name by name from the place
where relative paths start, or from the root; every name but the last has to lead to a
folder.  The root may lie below the real one, and then an absolute path leads nowhere.
-/

namespace BotHost

/-- Files, by the names that lead to them, and folders that exist without a file in them. -/
structure FileTree where
  /-- The files with their texts; the last of those at one place counts. -/
  files : List (List String × String)
  folders : List (List String)
  /-- Where relative paths start. -/
  start : List String
  /-- Whether absolute paths lead into the tree. -/
  absolute : Bool

namespace FileTree

/-- The names of a path. -/
def names (path : String) : List String :=
  ((path.toList.splitOn '/').map String.ofList)

/-- The place that names lead to, if nobody asks whether there is anything. -/
def place (path : String) : List String :=
  ((names path).foldl (fun back name =>
    if name = "" ∨ name = "." then back
    else if name = ".." then back.drop 1
    else name :: back) []).reverse

/-- The tree of files with the given paths, which start at its root, as all paths do. -/
def ofFiles (files : List (String × String)) (folders : List String) : FileTree :=
  { files := files.map fun (path, text) => (place path, text)
    folders := folders.map place
    start := []
    absolute := false }

/-- Whether there is a folder at a place. -/
def hasFolder (tree : FileTree) (place : List String) : Bool :=
  place.isEmpty || tree.folders.any place.isPrefixOf ||
    tree.files.any fun file => place.isPrefixOf file.1 && place.length < file.1.length

/-- The text of the file at a place. -/
def textAt? (tree : FileTree) (place : List String) : Option String :=
  (tree.files.reverse.find? fun file => file.1 == place).map (·.2)

/-- Follow names from a place; every place on the way has to be a folder. -/
def follow (tree : FileTree) (place : List String) : List String → Option (List String)
  | [] => some place
  | name :: rest =>
    if !tree.hasFolder place then none
    else if name = "" ∨ name = "." then follow tree place rest
    else if name = ".." then follow tree place.dropLast rest
    else follow tree (place ++ [name]) rest

/-- The place a path leads to. -/
def resolve? (tree : FileTree) (path : String) : Option (List String) :=
  if path.toList.head? == some '/' then
    if tree.absolute then follow tree [] (names path) else none
  else follow tree tree.start (names path)

/-- Whether a path leads to a file or a folder. -/
def holds (tree : FileTree) (path : String) : Bool :=
  match tree.resolve? path with
  | none => false
  | some place => tree.hasFolder place || (tree.textAt? place).isSome

/-- The text of the file a path leads to. -/
def text? (tree : FileTree) (path : String) : Option String :=
  (tree.resolve? path).bind tree.textAt?

/-- A path below another one. -/
def join (folder name : String) : String := if folder = "" then name else folder ++ "/" ++ name

/-- The extension of a path: what follows the last point of its last name, if something
stands before that point. -/
def extension (path : String) : String :=
  match ((names path).filter fun name => name != "" && name != ".").getLast? with
  | none => ""
  | some name =>
    if name = ".." then ""
    else
      match (name.toList.splitOn '.').reverse with
      | [] => ""
      | [_] => ""
      | [behind, before] => if before.isEmpty then "" else String.ofList behind
      | behind :: _ => String.ofList behind

end FileTree

end BotHost
