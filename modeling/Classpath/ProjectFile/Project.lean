import Classpath.Handler
import Classpath.ProjectFile.Basic

/-!
# The project of a file

What the sections of a project file stand for: modules, libraries and SDKs with paths taken
relative to a directory, and the factories of the handlers.

## Main definitions

* `DependencyEntry.toDependency?` — the edge of a dependency as it is written
* `ProjectFile.toProject` — the project
* `ProjectFile.registry` — the factories of the handlers
-/

namespace Classpath

namespace DependencyEntry

/-- The edge that an entry of `owner` stands for. An edge to a module or a library has a scope and
an exported flag, by default `compile` and not exported; an edge to an SDK has them if one of them
is written. -/
def toDependency? (owner : String) (e : DependencyEntry) : Option Dependency :=
  let written := e.scope.isSome || e.exported.isSome
  let extension : Extension := { scope := e.scope.getD .compile, exported := e.exported.getD false }
  e.targets.head?.map fun target =>
    { owner, target, extension := if target.isSdk && !written then none else some extension }

end DependencyEntry

namespace BundleSection

/-- The library or SDK under a name. -/
def toBundle (base : Path) (name : String) (s : BundleSection) : Bundle :=
  { name, classes := s.classes.map base.join, sources := s.sources.map base.join }

end BundleSection

namespace ModuleSection

/-- The module under a name. Its first dependency is the one on its own sources. -/
def toModule (base : Path) (name : String) (s : ModuleSection) : Module :=
  { name
    dependencies := ⟨name, .source, none⟩ ::
      s.dependencies.filterMap (·.toDependency? name)
    output := s.output.map base.join
    testOutput := s.testOutput.map base.join
    sourceRoots :=
      s.sources.map (fun p => ⟨base.join p, .production⟩) ++
        s.testSources.map (fun p => ⟨base.join p, .test⟩) }

end ModuleSection

namespace HandlerSection

/-- The handler with these settings. -/
def toHandler (s : HandlerSection) : Handler :=
  { recursive := s.processRecursively
    testsFromDependents := s.includeTestsFromDependents
    runtimeOnTestCompile := s.addRuntimeToTestCompile
    productionOnTests := Handler.pointsAtOneOf s.productionOnTests }

/-- Whether the handler is for a session with these roots. -/
def isFor (s : HandlerSection) (roots : List Module) : Bool :=
  s.appliesTo.isEmpty || roots.any fun m => s.appliesTo.contains m.name

/-- The factory that makes the handler for the sessions it is for. -/
def factory (name : String) (s : HandlerSection) : Factory :=
  { label := some name, create := fun roots => if s.isFor roots then some s.toHandler else none }

end HandlerSection

namespace ProjectFile

/-- The project, with its paths taken relative to `base`. -/
def toProject (f : ProjectFile) (base : Path) : Project :=
  { modules := f.modules.entries.map fun (name, s) => s.toModule base name
    libraries := f.libraries.entries.map fun (name, s) => s.toBundle base name
    sdks := f.sdks.entries.map fun (name, s) => s.toBundle base name }

/-- The factories of the handlers, in name order. -/
def registry (f : ProjectFile) : Registry :=
  ⟨f.handlers.entries.map fun (name, s) => s.factory name⟩

end ProjectFile

end Classpath
