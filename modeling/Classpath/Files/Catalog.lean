import Classpath.Failure

/-!
# Catalogs

Files that are kept in memory, under paths that are compared by their components.
-/

namespace Classpath

/-- Files by path; the newest comes first. -/
structure Catalog where
  files : List (Path × String) := []
deriving DecidableEq, Repr

namespace Catalog

/-- The content under a path. -/
def find? (c : Catalog) (path : Path) : Option String :=
  (c.files.find? fun (other, _) => other.same path).map (·.2)

/-- Whether there is a file under a path. -/
def contains (c : Catalog) (path : Path) : Bool :=
  (c.find? path).isSome

/-- The catalog without the file under a path. -/
def remove (c : Catalog) (path : Path) : Catalog :=
  ⟨c.files.filter fun (other, _) => !other.same path⟩

/-- Puts a file under a path, in place of the one that was there. -/
def add (c : Catalog) (path : Path) (content : String) : Catalog :=
  ⟨(path, content) :: (c.remove path).files⟩

/-- The content under a path. -/
def read (c : Catalog) (path : Path) : Except Failure String :=
  match c.find? path with
  | some content => .ok content
  | none => .error { circumstances := [.readingCatalog path], cause := .notInCatalog }

end Catalog

end Classpath
