import Classpath.Project.Model

/-!
# Modules by convention

Modules, libraries and SDKs that follow a layout given by their name, and modules put together
edge by edge.

## Main definitions

* `Module.conventional` — sources and outputs below directories named for the module
* `Module.dependsOn` — the module with a further edge
* `Bundle.conventionalLibrary`, `Bundle.conventionalSdk` — archives named for what they hold
-/

namespace Classpath

namespace Module

/-- The module with a further edge, whatever module it is said to belong to. -/
def addDependency (m : Module) (d : Dependency) : Module :=
  { m with dependencies := m.dependencies ++ [d] }

/-- The module with a further edge of its own. -/
def dependsOn (m : Module) (target : Target) (extension : Option Extension) : Module :=
  m.addDependency ⟨m.name, target, extension⟩

/-- The module with a further source directory. -/
def addSourceRoot (m : Module) (path : Path) (kind : SourceKind) : Module :=
  { m with sourceRoots := m.sourceRoots ++ [⟨path, kind⟩] }

/-- The module with an edge to its own sources and with the conventional directories: outputs
below `out`, sources in `src` and `test` below a directory with the module's name. -/
def conventional (m : Module) : Module :=
  { m.dependsOn .source none with
    output := some ⟨"out/" ++ m.name⟩
    testOutput := some ⟨"out/" ++ m.name ++ "-test"⟩
    sourceRoots := [⟨⟨m.name ++ "/src"⟩, .production⟩, ⟨⟨m.name ++ "/test"⟩, .test⟩] }

end Module

namespace Bundle

/-- A library of one archive of classes and one of sources. -/
def conventionalLibrary (name : String) : Bundle :=
  { name, classes := [⟨name ++ ".jar"⟩], sources := [⟨name ++ "-sources.jar"⟩] }

/-- An SDK of one archive of classes and one of sources, below a directory with its name. -/
def conventionalSdk (name : String) : Bundle :=
  { name, classes := [⟨name ++ "/rt.jar"⟩], sources := [⟨name ++ "/src.zip"⟩] }

end Bundle

end Classpath
