import OrdinalDispatch.CommandLine.Program
import OrdinalDispatch.CommandLine.SystemFault

/-!
Contract: a host whose files are values.

Owns: a tree of files, walks along a path, and the host over a tree and a fixed
environment.

Does not own: the command line, which sees a host only.

A place is the list of the names that lead to it from the root, and the root is
its own parent. A path starts at the root if a slash comes first, and at the
working directory otherwise. A directory is there when the working directory or
a file is in it or below it; the root holds its usual directories besides, and
the null device.
-/

set_option autoImplicit false

namespace OrdinalDispatch.CommandLine

/-- A working directory, and files at their places. -/
structure FileTree where
  workingDirectory : List String := []
  files : List (List String × String) := []
deriving DecidableEq, Repr

namespace FileTree

/-- The names of the directories that the root always holds. -/
def rootDirectories : List String :=
  ["bin", "boot", "dev", "etc", "home", "lib", "media", "mnt", "opt", "proc", "root", "run",
    "sbin", "srv", "sys", "tmp", "usr", "var"]

/-- The place of the file that is always empty and keeps nothing. -/
def nullDevice : List String := ["dev", "null"]

def holdsDirectory (tree : FileTree) (place : List String) : Bool :=
  place.isPrefixOf tree.workingDirectory
    || (match place with
        | [name] => rootDirectories.contains name
        | _ => false)
    || tree.files.any fun file => place.length < file.1.length && place.isPrefixOf file.1

def content? (tree : FileTree) (place : List String) : Option String :=
  if place == nullDevice then some "" else tree.files.lookup place

/-- The tree with a content at a place, in place of one that is there. -/
def put (tree : FileTree) (place : List String) (content : String) : FileTree :=
  if place == nullDevice then tree
  else { tree with files := (place, content) :: tree.files.filter (·.1 != place) }

/-- The place that names lead to from a place. All places on the way must be directories; the
last need not exist. -/
def walk (tree : FileTree) : (place names : List String) → Except SystemFault (List String)
  | place, [] => .ok place
  | place, name :: rest =>
      if !tree.holdsDirectory place then
        .error (if (tree.content? place).isSome then .notDirectory else .missing)
      else if name = "" || name = "." then tree.walk place rest
      else if name = ".." then tree.walk place.dropLast rest
      else if maximumNameBytes < name.utf8ByteSize then .error .nameTooLong
      else tree.walk (place ++ [name]) rest

/-- The place that some names on a path lead to. The path itself may be neither empty nor too
long. -/
def locate (tree : FileTree) (path : String) (names : List String) :
    Except SystemFault (List String) :=
  if path.isEmpty then .error .missing
  else if maximumPathBytes < path.utf8ByteSize then .error .nameTooLong
  else tree.walk (if path.startsWith "/" then [] else tree.workingDirectory) names

def read (tree : FileTree) (path : String) : Except SystemFault String := do
  let place ← tree.locate path (path.splitOn "/")
  if tree.holdsDirectory place then .error .isDirectory
  else
    match tree.content? place with
    | some content => .ok content
    | none => .error .missing

/-- The names before the last name of a path, which must lead to a directory. -/
def parentNames (path : String) : List String :=
  (((path.splitOn "/").reverse.dropWhile (· == "")).tail.reverse) ++ ["."]

/-- Writes a file, in place of one that is there. A slash at the end stands for a directory,
whatever the last name is. -/
def write (tree : FileTree) (path content : String) : Except SystemFault FileTree := do
  if path.endsWith "/" then
    let _ ← tree.locate path (parentNames path)
    .error .isDirectory
  else
    let place ← tree.locate path (path.splitOn "/")
    if tree.holdsDirectory place then .error .isDirectory else .ok (tree.put place content)

/-- Adds a file by its path from the working directory, whatever the tree holds. -/
def add (tree : FileTree) (path content : String) : FileTree :=
  tree.put
    (tree.workingDirectory ++ (path.splitOn "/").filter fun name => name != "" && name != ".")
    content

def host (environment : String → Option String) : Host (StateM FileTree) where
  readFile path := do return ((← get).read path).mapError SystemFault.message
  writeFile path content := do
    match (← get).write path content with
    | .error fault => return .error fault.message
    | .ok tree =>
        set tree
        return .ok ()
  environment name := return environment name
  outputIsTerminal := return false

end FileTree

end OrdinalDispatch.CommandLine
