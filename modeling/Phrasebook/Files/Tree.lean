import Phrasebook.Files.Basic

/-!
# File trees

A file tree is a set of files below the current directory. Directories are those
that files lie in. A path is followed name by name: an empty name and a single dot
stay where they are, two dots go one directory up, and any other name must be
there. Outside the current directory there is nothing but directories on the way
to it. A name that is too long for a directory is refused before it is looked up.
-/

namespace Phrasebook

/-- Files below the current directory. -/
structure FileTree where
  /-- The names on the way to each file, and its text; no text when the bytes of
  the file are not UTF-8. -/
  files : List (List String × Option String) := []

namespace FileTree

/-- A place that a path leads to. -/
inductive Place where
  /-- Above the current directory. -/
  | outside
  /-- A directory, given by the names on the way to it. -/
  | directory (names : List String)
  /-- A file. -/
  | file (names : List String)
deriving DecidableEq, Repr

/-- The longest name of a directory entry in bytes. -/
def nameBound : Nat := 255

/-- Paths of this many bytes or more are refused. -/
def pathBound : Nat := 4096

/-- Whether a file with exactly these names is there. -/
def hasFile (tree : FileTree) (names : List String) : Bool :=
  tree.files.any fun file => file.1 == names

/-- Whether a file lies somewhere below these names. -/
def hasDirectory (tree : FileTree) (names : List String) : Bool :=
  tree.files.any fun file => names.isPrefixOf file.1 && names.length < file.1.length

/-- Whether a name stays at the directory it is read in. -/
def staysPut (name : String) : Bool := name.isEmpty || name == "."

/-- The place that a name leads to from another place. -/
def enter (tree : FileTree) (place : Place) (name : String) : Except FileFailure Place :=
  match place with
  | .file _ => .error .notDirectory
  | .outside =>
    if staysPut name || name == ".." then .ok .outside
    else if nameBound < name.utf8ByteSize then .error .nameTooLong
    else .error .notFound
  | .directory names =>
    if staysPut name then .ok place
    else if name == ".." then
      .ok (if names.isEmpty then .outside else .directory names.dropLast)
    else if nameBound < name.utf8ByteSize then .error .nameTooLong
    else
      let entered := names ++ [name]
      if tree.hasFile entered then .ok (.file entered)
      else if tree.hasDirectory entered then .ok (.directory entered)
      else .error .notFound

/-- Where a path starts: outside when it begins with a slash. -/
def start (path : String) : Place :=
  if path.toList.head? == some '/' then .outside else .directory []

/-- Refuses what no file system is asked about. -/
def checkPath (path : String) : Except FileFailure Unit :=
  if path.toList.contains '\x00' then .error .nullInName
  else if path.isEmpty then .error .notFound
  else if pathBound ≤ path.utf8ByteSize then .error .nameTooLong
  else .ok ()

/-- The place that a path leads to. -/
def locate (tree : FileTree) (path : String) : Except FileFailure Place := do
  checkPath path
  (splitText '/' path).foldlM tree.enter (start path)

/-- The text of the file at a path. -/
def read (tree : FileTree) (path : String) : Except FileFailure String := do
  match ← tree.locate path with
  | .file names =>
    match tree.files.find? fun file => file.1 == names with
    | some (_, some text) => .ok text
    | _ => .error .notText
  | _ => .error .isDirectory

/-- Whether there is anything at a path. -/
def isPresent (tree : FileTree) (path : String) : Bool := (tree.locate path).isOk

/-- What can be asked about the files of the tree. -/
def access (tree : FileTree) : FileAccess := ⟨tree.read, tree.isPresent⟩

/-- The names of a path without empty ones at its end, and whether there were
any, that is, whether the path ends with a slash. -/
def namesOf (path : String) : List String × Bool :=
  let names := splitText '/' path
  let kept := (names.reverse.dropWhile String.isEmpty).reverse
  (kept, kept.length < names.length)

/-- The tree after opening the file at a path for writing at its end, which
creates the file when its directory is there. A path that ends with a slash is
taken for a directory, before anything is known of its last name. -/
def openForAppending (tree : FileTree) (path : String) : Except FileFailure FileTree := do
  checkPath path
  let (names, endsWithSlash) := namesOf path
  let above ← names.dropLast.foldlM tree.enter (start path)
  let name := names.getLast?.getD "."
  match above, endsWithSlash, tree.enter above name with
  | .file _, _, _ => .error .notDirectory
  | _, true, _ => .error .isDirectory
  | _, false, .ok (.directory _) => .error .isDirectory
  | _, false, .ok .outside => .error .isDirectory
  | _, false, .ok (.file _) => .ok tree
  | .outside, false, .error .notFound => .ok tree
  | .directory directory, false, .error .notFound =>
    .ok ⟨tree.files ++ [(directory ++ [name], some "")]⟩
  | _, false, .error failure => .error failure

/-- The tree of files given by their paths and texts. -/
def ofFiles (files : List (String × Option String)) : FileTree :=
  ⟨files.map fun file => ((splitText '/' file.1).filter fun name => !staysPut name, file.2)⟩

end FileTree

end Phrasebook
