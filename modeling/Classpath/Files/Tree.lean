import Classpath.Failure

/-!
# File trees

The files below a working directory, and how the path to a file is followed part by part, as an
operating system does it.

## Main definitions

* `Place` — where a path leads
* `FileTree` — the files below a working directory
* `FileTree.locate` — the place that a path leads to, or why it leads nowhere
* `FileTree.access` — the same, for a path of bounded length
* `FileTree.read`, `FileTree.canonicalize` — the content of a file, and its path without detours

## Design notes

Of what lies above the working directory only the root is known to exist.

A file is read, or found to exist, by a path that is handed over as a whole. The path without
detours is put together part by part, so that the given path may be of any length.
-/

namespace Classpath

/-- Where a path leads. -/
inductive Place
  /-- A directory below the working directory, or the working directory itself. -/
  | directory (names : List String)
  | file (names : List String) (content : String)
  /-- The root of the file system. -/
  | top
  /-- A directory above the working directory. -/
  | above (levels : Nat)
deriving DecidableEq, Repr

/-- What a program that is given a path finds there. -/
inductive Item
  | file (content : String)
  /-- A directory, or a file that cannot be read. -/
  | unreadable (fault : FileFault)
deriving DecidableEq, Repr

namespace Place

/-- What is found at a place. -/
def item : Place → Item
  | file _ content => .file content
  | _ => .unreadable .isDirectory

end Place

/-- Files by the names that lead to them from the working directory. -/
structure FileTree where
  workingDirectory : String
  files : List (List String × String) := []
deriving DecidableEq, Repr

namespace FileTree

/-- The number of bytes that a name may have. -/
def maxNameBytes : Nat := 255

/-- The number of bytes that a path has to stay below if it is handed over as a whole. -/
def maxPathBytes : Nat := 4096

/-- The names on a path, with detours left out. -/
def namesOf (p : Path) : List String :=
  p.components.filterMap fun
    | .name n => some n
    | _ => none

/-- The tree with these files. -/
def ofFiles (workingDirectory : String) (files : List (Path × String)) : FileTree :=
  { workingDirectory, files := files.map fun (path, content) => (namesOf path, content) }

/-- The place that names lead to from the working directory. -/
def child (t : FileTree) (names : List String) : Except FileFault Place :=
  match t.files.find? fun (other, _) => other = names with
  | some (_, content) => .ok (.file names content)
  | none =>
    if t.files.any fun (other, _) => names.isPrefixOf other then .ok (.directory names)
    else .error .missing

/-- Follows one part of a path. -/
def follow (t : FileTree) (place : Place) (part : List Char) : Except FileFault Place :=
  match place, Path.component? part with
  -- Even an empty part, such as the one behind a last slash, needs a directory in front of it.
  | .file .., _ => .error .notDirectory
  | place, none => .ok place
  | .directory [], some .up => .ok (.above 1)
  | .directory names, some .up => .ok (.directory names.dropLast)
  | .above levels, some .up => .ok (.above (levels + 1))
  | .top, some .up => .ok .top
  | .directory names, some (.name name) =>
    if maxNameBytes < name.utf8ByteSize then .error .nameTooLong else t.child (names ++ [name])
  | _, some (.name name) =>
    if maxNameBytes < name.utf8ByteSize then .error .nameTooLong else .error .missing
  | place, some _ => .ok place

/-- The place that a path leads to if it is followed part by part. -/
def locate (t : FileTree) (p : Path) : Except FileFault Place :=
  if p.text.toList.contains '\x00' then .error .nullInName
  else if p.text.isEmpty then .error .missing
  else (Path.segments p.text).foldlM t.follow (if p.isAbsolute then .top else .directory [])

/-- The place that a path leads to if it is handed over as a whole, which bounds its length. -/
def access (t : FileTree) (p : Path) : Except FileFault Place :=
  if maxPathBytes ≤ p.text.utf8ByteSize && !p.text.toList.contains '\x00' then .error .nameTooLong
  else t.locate p

/-- What is found under a path. -/
def item (t : FileTree) (p : Path) : Except FileFault Item :=
  Place.item <$> t.access p

/-- Whether a path leads anywhere. -/
def contains (t : FileTree) (p : Path) : Bool :=
  (t.access p).isOk

/-- The path of a place without detours. -/
def pathOf (t : FileTree) : Place → Path
  | .directory names | .file names _ => ⟨"/".intercalate (t.workingDirectory :: names)⟩
  | .top => ⟨"/"⟩
  | .above levels => ⟨"/".intercalate (t.workingDirectory :: List.replicate levels "..")⟩

/-- The path without detours. -/
def canonicalize (t : FileTree) (p : Path) : Except Failure Path :=
  match t.locate p with
  | .ok place => .ok (t.pathOf place)
  | .error fault => .error { circumstances := [.canonicalizing p], cause := .file fault }

end FileTree

/-- The content of what was found under a path. -/
def readItem (p : Path) (found : Except FileFault Item) : Except Failure String :=
  match found with
  | .ok (.file content) => .ok content
  | .ok (.unreadable fault) | .error fault =>
    .error { circumstances := [.reading p], cause := .file fault }

namespace FileTree

/-- The content of a file. -/
def read (t : FileTree) (p : Path) : Except Failure String :=
  readItem p (t.item p)

end FileTree

end Classpath
