/-!
# Paths

A path is kept as the text it was written with, because that text is what is printed. Two paths
are the same when their components are: doubled slashes, slashes at the end and inner `.`
components do not count, while `..` is kept as it stands.

## Main definitions

* `Path.components` — what a path is compared by
* `Path.same` — equality of components
* `Path.join` — a path taken relative to another
* `Path.parent`, `Path.fileName` — all but the last component, and the last
-/

namespace Classpath

/-- One component of a path. -/
inductive Component
  | root
  | current
  | up
  | name (text : String)
deriving DecidableEq, Hashable, Repr

/-- A path, by its text. -/
structure Path where
  text : String
deriving DecidableEq, Repr

namespace Path

/-- The parts of a text between slashes. -/
def segments (s : String) : List (List Char) :=
  s.toList.splitOn '/'

/-- What a part between slashes stands for; an empty part and `.` stand for nothing. -/
def component? : List Char → Option Component
  | [] => none
  | ['.'] => none
  | ['.', '.'] => some .up
  | cs => some (.name (.ofList cs))

/-- The part of a path before its first ordinary component: the root, if the text starts with a
slash, or the current directory, if its first part is `.`. -/
def anchor (p : Path) : Option Component :=
  match p.text.toList with
  | '/' :: _ => some .root
  | ['.'] => some .current
  | '.' :: '/' :: _ => some .current
  | _ => none

/-- The components of a path. -/
def components (p : Path) : List Component :=
  p.anchor.toList ++ (segments p.text).filterMap component?

/-- Whether two paths have the same components. -/
def same (p q : Path) : Bool :=
  p.components == q.components

/-- Whether a path starts at the root. -/
def isAbsolute (p : Path) : Bool :=
  p.anchor == some .root

/-- `p` taken relative to `base`: an absolute path stands for itself, any other is written behind
the base and a slash. An empty base adds nothing, and a base that ends in a slash no second one. -/
def join (base p : Path) : Path :=
  if p.isAbsolute then p
  else if base.text.toList.getLast?.all (· == '/') then ⟨base.text ++ p.text⟩
  else ⟨base.text ++ "/" ++ p.text⟩

/-- The last component, if it is a name. -/
def fileName (p : Path) : Option String :=
  match p.components.getLast? with
  | some (.name n) => some n
  | _ => none

/-- The text of the anchor and the parts behind it, last part first. -/
def partsFromEnd (p : Path) : String × List (List Char) :=
  match p.anchor with
  | some .root => ("/", (segments (.ofList p.text.toList.tail)).reverse)
  | some _ => (".", (segments (.ofList p.text.toList.tail)).reverse)
  | none => ("", (segments p.text).reverse)

/-- The path without its last component, and without the slashes and `.` parts that then end it.
The root and the empty path have no parent. -/
def parent (p : Path) : Option Path :=
  let isNothing := fun part => (component? part).isNone
  let (start, parts) := p.partsFromEnd
  match parts.dropWhile isNothing with
  | _ :: before =>
    -- What stood between the last two components goes with the last one.
    let kept := (before.dropWhile isNothing).reverse
    some ⟨start ++ .ofList (['/'].intercalate kept)⟩
  -- Nothing but the anchor is left: `.` lies in the empty path, the root in nothing.
  | [] => if p.anchor = some .current then some ⟨""⟩ else none

end Path

end Classpath
