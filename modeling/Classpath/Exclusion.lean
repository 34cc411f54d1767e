import Classpath.Failure
import Classpath.Glob.Basis
import Classpath.Glob.Nesting
import Classpath.Project.Dependency

/-!
# Exclusions

Names that are left out, by patterns.

## Main definitions

* `Exclusion` — a list of patterns
* `Exclusion.parse?` — the exclusion of texts, or the first text that is no pattern
* `Exclusion.admits` — whether an edge may be listed
-/

namespace Classpath

/-- Patterns for names that are left out. -/
structure Exclusion where
  patterns : List Glob.Pattern
deriving Repr

namespace Exclusion

/-- Whether some pattern matches a name. -/
def covers (e : Exclusion) (name : String) : Bool :=
  e.patterns.any (Glob.isMatch · name)

/-- Whether no pattern matches the name of what an edge points at; the sources of a module have no
name. -/
def admits (e : Exclusion) (d : Dependency) : Bool :=
  d.target.name?.all fun name => !e.covers name

/-- The pattern of a text. -/
def parsePattern (text : String) : Except Failure Glob.Pattern :=
  match Glob.parse text with
  | .ok p => .ok p
  | .error fault => .error { circumstances := [.excluding text], cause := .glob text fault }

/-- Refuses patterns that are too deep, given behind their texts. Patterns of which an extension is
looked at first are compiled one by one and named by their text; those that always need the whole
name are compiled together after them and named by their place. -/
def checkDepth (patterns : List (String × Glob.Pattern)) : Except Failure Unit :=
  match patterns.find? fun (_, p) => Glob.basis p = .extensionFirst && Glob.isTooDeep p with
  | some (text, _) => .error { cause := .glob text .tooDeep }
  | none =>
    match (patterns.filter fun (_, p) => Glob.basis p = .everything).findIdx? fun (_, p) =>
        Glob.isTooDeep p with
    | some place => .error { cause := .globAt place }
    | none => .ok ()

/-- The exclusion of a list of texts; an empty list leaves nothing out. -/
def parse? (texts : List String) : Except Failure (Option Exclusion) :=
  if texts.isEmpty then .ok none
  else do
    let patterns ← texts.mapM parsePattern
    checkDepth (texts.zip patterns)
    return some ⟨patterns⟩

end Exclusion

end Classpath
