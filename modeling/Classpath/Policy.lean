import Classpath.Vocabulary
import Classpath.Text.Quoted

/-!
# Policies

Which dependencies a session accepts by their scope and exported flag, and which kinds of
dependencies it looks at.

## Main definitions

* `ScopePolicy` — the filters on scope and export
* `ScopePolicy.acceptsScope`, `ScopePolicy.acceptsExport` — their decisions
* `Traversal` — the kinds of dependencies looked at, and whether modules are followed
-/

namespace Classpath

/-- The filters of a session on scope and export. -/
structure ScopePolicy where
  productionOnly : Bool := false
  compileOnly : Bool := false
  runtimeOnly : Bool := false
  exportFilter : ExportFilter := .none
  /-- The one classpath that dependencies have to belong to. -/
  kind : Option ClasspathKind := none
deriving DecidableEq, Repr

namespace ScopePolicy

/-- Whether content of tests is left out: by the flag or because the classpath is one of
production code. -/
def isProductionOnly (p : ScopePolicy) : Bool :=
  p.productionOnly || p.kind.any (·.isProduction)

/-- Whether the answer of the handlers about runtime dependencies matters for a scope. -/
def asksPromotion (scope : Scope) : Bool :=
  !scope.isIncludedIn .testCompile && scope = .runtime

/-- Whether a scope is accepted. `promoted` says that runtime dependencies are also needed where
tests are compiled. -/
def acceptsScope (p : ScopePolicy) (scope : Scope) (promoted : Bool) : Bool :=
  let onTestCompile := scope.isIncludedIn .testCompile || (scope = .runtime && promoted)
  let compiles := scope.isIncludedIn .productionCompile
  let runs := scope.isIncludedIn .productionRuntime
  (!p.compileOnly || compiles || onTestCompile) &&
  (!p.runtimeOnly || runs || scope.isIncludedIn .testRuntime) &&
  (match p.kind with
    | none => true
    | some kind => scope.isIncludedIn kind || (kind = .testCompile && onTestCompile)) &&
  -- Production code needs the scope by itself, whatever tests need it for.
  (!p.productionOnly ||
    ((compiles || runs) && (!p.compileOnly || compiles) && (!p.runtimeOnly || runs)))

/-- Whether a dependency is accepted by its exported flag and by whether a root module declares
it. -/
def acceptsExport (p : ScopePolicy) (exported declaredByRoot : Bool) : Bool :=
  exported ||
    match p.exportFilter with
    | .none => true
    | .exported => false
    | .recursivelyExported => declaredByRoot

/-- How a policy is shown in the log. -/
def display (p : ScopePolicy) : String :=
  Text.record "ScopePolicy" [
    ("production_only", toString p.productionOnly),
    ("compile_only", toString p.compileOnly),
    ("runtime_only", toString p.runtimeOnly),
    ("export", match p.exportFilter with
      | .none => "None"
      | .exported => "Exported"
      | .recursivelyExported => "RecursivelyExported"),
    ("classpath_kind", match p.kind with
      | none => "None"
      | some .productionCompile => "Some(ProductionCompile)"
      | some .productionRuntime => "Some(ProductionRuntime)"
      | some .testCompile => "Some(TestCompile)"
      | some .testRuntime => "Some(TestRuntime)")]

end ScopePolicy

/-- The kinds of dependencies a session looks at, and whether modules are followed. -/
structure Traversal where
  recursive : Bool := false
  withoutSdk : Bool := false
  withoutLibraries : Bool := false
  /-- Leaves out the own content of modules that are no roots and, in a session that does not
  follow modules, the edges to modules. -/
  withoutDepModules : Bool := false
  withoutModuleSources : Bool := false
deriving DecidableEq, Repr

namespace Traversal

/-- How the options are shown in the log. -/
def display (t : Traversal) : String :=
  Text.record "TraversalOptions" [
    ("recursive", toString t.recursive),
    ("without_sdk", toString t.withoutSdk),
    ("without_libraries", toString t.withoutLibraries),
    ("without_dep_modules", toString t.withoutDepModules),
    ("without_module_sources", toString t.withoutModuleSources)]

end Traversal

end Classpath
