import Classpath.Text.Basic
import Classpath.Text.Lowercase

/-!
# Scopes, classpath kinds and root kinds

The words by which dependencies and classpaths are described, and the table that says which
dependencies belong to which classpath.

## Main definitions

* `ClasspathKind` — production or tests, compiling or running
* `Scope` — when a dependency is needed
* `Scope.isIncludedIn` — the classpaths that a scope belongs to
* `RootKind` — compiled classes or sources
* `ExportFilter` — what the exported flag of a dependency decides

## Design notes

Words are read in any case and with blanks around them. A word that names nothing is refused with
the word as it was understood, that is trimmed and in small letters.
-/

namespace Classpath

/-- The sets of words that are read from a text. -/
inductive Vocabulary
  | classpathKind
  | scope
  | rootKind
deriving DecidableEq, Repr

/-- A word that is not in its vocabulary. -/
structure UnknownWord where
  vocabulary : Vocabulary
  word : String
deriving DecidableEq, Repr

namespace UnknownWord

/-- What is said about an unknown word. -/
def message (u : UnknownWord) : String :=
  match u.vocabulary with
  | .classpathKind => "invalid classpath kind: " ++ u.word ++
      " (expected \"production-compile\", \"production-runtime\", \"test-compile\" or \"test-runtime\")"
  | .scope => "invalid scope: " ++ u.word ++
      " (expected \"compile\", \"test\", \"runtime\" or \"provided\")"
  | .rootKind => "invalid root kind: " ++ u.word ++ " (expected \"classes\" or \"sources\")"

end UnknownWord

/-- A word as it is looked up: without blanks around it and in small letters. -/
def normalizedWord (s : String) : String :=
  Text.lowercase (Text.trim s)

/-- The classpaths of a project. -/
inductive ClasspathKind
  | productionCompile
  | productionRuntime
  | testCompile
  | testRuntime
deriving DecidableEq, Repr

namespace ClasspathKind

/-- Whether a classpath is one of production code. -/
def isProduction : ClasspathKind → Bool
  | productionCompile | productionRuntime => true
  | testCompile | testRuntime => false

/-- The word for a classpath. -/
def name : ClasspathKind → String
  | productionCompile => "production-compile"
  | productionRuntime => "production-runtime"
  | testCompile => "test-compile"
  | testRuntime => "test-runtime"

/-- The classpath a text names; underscores count as hyphens. -/
def parse (s : String) : Except UnknownWord ClasspathKind :=
  let word : String :=
    .ofList ((normalizedWord s).toList.map fun c => if c = '_' then '-' else c)
  match word with
  | "production-compile" => .ok productionCompile
  | "production-runtime" => .ok productionRuntime
  | "test-compile" => .ok testCompile
  | "test-runtime" => .ok testRuntime
  | _ => .error ⟨.classpathKind, word⟩

end ClasspathKind

/-- When a dependency is needed. -/
inductive Scope
  | compile
  | test
  | runtime
  | provided
deriving DecidableEq, Repr

namespace Scope

/-- The word for a scope. -/
def name : Scope → String
  | compile => "compile"
  | test => "test"
  | runtime => "runtime"
  | provided => "provided"

/-- The scope with exactly this word. -/
def ofName? : String → Option Scope
  | "compile" => some compile
  | "test" => some test
  | "runtime" => some runtime
  | "provided" => some provided
  | _ => none

/-- The scope a text names. -/
def parse (s : String) : Except UnknownWord Scope :=
  let word := normalizedWord s
  match ofName? word with
  | some scope => .ok scope
  | none => .error ⟨.scope, word⟩

/-- The classpaths that dependencies of a scope belong to. -/
def isIncludedIn : Scope → ClasspathKind → Bool
  | compile, _ => true
  | test, kind => !kind.isProduction
  | runtime, .productionRuntime | runtime, .testRuntime => true
  | runtime, _ => false
  | provided, .productionRuntime => false
  | provided, _ => true

end Scope

/-- What the roots of a classpath hold. -/
inductive RootKind
  /-- Output directories and binary libraries. -/
  | compiled
  /-- Source directories and source archives. -/
  | sources
deriving DecidableEq, Repr

namespace RootKind

/-- The label under which a root kind is shown. -/
def label : RootKind → String
  | compiled => "Compiled"
  | sources => "Sources"

/-- The root kind a text names. -/
def parse (s : String) : Except UnknownWord RootKind :=
  let word := normalizedWord s
  match word with
  | "classes" | "compiled" => .ok compiled
  | "sources" => .ok sources
  | _ => .error ⟨.rootKind, word⟩

end RootKind

/-- What the exported flag of a dependency decides. -/
inductive ExportFilter
  /-- Nothing. -/
  | none
  /-- A dependency that is not exported is refused. -/
  | exported
  /-- A dependency that is not exported is refused unless a root module declares it. -/
  | recursivelyExported
deriving DecidableEq, Repr

end Classpath
