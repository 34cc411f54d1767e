import Classpath.NameTable
import Classpath.Project.Model

/-!
# Project files

What a project file says: the project with its root modules, the SDKs, libraries and modules, and
the handlers. Nothing is checked yet; names may refer to nothing.

## Main definitions

* `ProjectFile` — the five sections of a file
* `DependencyEntry` — one dependency as a file writes it
-/

namespace Classpath

/-- The section about the project as a whole. -/
structure ProjectSection where
  name : Option String := none
  /-- The modules that are enumerated when none is asked for. -/
  roots : List String := []
deriving DecidableEq, Repr

/-- A section of a library or an SDK. -/
structure BundleSection where
  classes : List Path := []
  sources : List Path := []
deriving DecidableEq, Repr

/-- A dependency as it is written. It is meant to name exactly one of a module, a library and an
SDK. -/
structure DependencyEntry where
  module : Option String := none
  library : Option String := none
  sdk : Option String := none
  scope : Option Scope := none
  exported : Option Bool := none
deriving DecidableEq, Repr

namespace DependencyEntry

/-- The things that an entry names. -/
def targets (e : DependencyEntry) : List Target :=
  (e.module.map .module).toList ++ (e.library.map .library).toList ++ (e.sdk.map .sdk).toList

/-- What a message calls an entry. -/
def describe (e : DependencyEntry) : String :=
  match e.targets with
  | [.module name] => "module '" ++ name ++ "'"
  | [.library name] => "library '" ++ name ++ "'"
  | [.sdk name] => "sdk '" ++ name ++ "'"
  | _ => "<ambiguous dependency>"

end DependencyEntry

/-- A section of a module. -/
structure ModuleSection where
  output : Option Path := none
  testOutput : Option Path := none
  sources : List Path := []
  testSources : List Path := []
  dependencies : List DependencyEntry := []
deriving DecidableEq, Repr

/-- A section of a handler. Without settings the handler changes nothing. -/
structure HandlerSection where
  /-- The root modules it is for; none means all sessions. -/
  appliesTo : List String := []
  processRecursively : Bool := true
  includeTestsFromDependents : Bool := true
  addRuntimeToTestCompile : Bool := false
  /-- The modules whose edges are taken for edges to tests. -/
  productionOnTests : List String := []
deriving DecidableEq, Repr

/-- The sections of a project file. -/
structure ProjectFile where
  project : ProjectSection := {}
  sdks : NameTable BundleSection := .empty
  libraries : NameTable BundleSection := .empty
  modules : NameTable ModuleSection := .empty
  handlers : NameTable HandlerSection := .empty

end Classpath
