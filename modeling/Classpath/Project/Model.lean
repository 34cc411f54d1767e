import Classpath.Path
import Classpath.Project.Dependency

/-!
# Projects

A project holds modules, libraries and SDKs under their names. A module lists its dependencies in
the order in which they go onto a classpath.

## Main definitions

* `Module` — a unit that is compiled
* `Position` — where an edge is declared: a module and a position in its list
* `Bundle` — a library or an SDK: class roots and source roots under a name
* `Project` — all of them
* `Project.module?`, `Project.library?`, `Project.sdk?` — what a name stands for

## Design notes

Declarations are kept newest first and a name stands for the newest declaration of it, so that
declaring a name again replaces what it stood for. Names may be used without being declared.
-/

namespace Classpath

/-- What a source directory of a module holds. -/
inductive SourceKind
  | production
  | test
deriving DecidableEq, Repr

/-- A source directory of a module. -/
structure SourceRoot where
  path : Path
  kind : SourceKind
deriving DecidableEq, Repr

/-- A unit that is compiled, with its dependencies in classpath order. -/
structure Module where
  name : String
  dependencies : List Dependency := []
  output : Option Path := none
  testOutput : Option Path := none
  sourceRoots : List SourceRoot := []
deriving DecidableEq, Repr

/-- Where an edge is declared. Equal edges of one module are told apart by their positions. -/
structure Position where
  module : Module
  index : Fin module.dependencies.length
deriving DecidableEq, Repr

/-- The edge declared at a position. -/
def Position.dependency (p : Position) : Dependency :=
  p.module.dependencies[p.index]

namespace Module

/-- The source directories of one kind, in declaration order. -/
def sourcesOf (m : Module) (kind : SourceKind) : List Path :=
  (m.sourceRoots.filter (·.kind = kind)).map (·.path)

/-- The positions of a module's edges, in declaration order. -/
def positions (m : Module) : List Position :=
  (List.finRange m.dependencies.length).map (Position.mk m)

@[simp] theorem length_positions (m : Module) : m.positions.length = m.dependencies.length := by
  simp [positions]

theorem getElem_positions (m : Module) (i : Nat) (h : i < m.positions.length) :
    m.positions[i] = ⟨m, i, by simpa using h⟩ := by
  simp [positions]

theorem drop_positions_of_lt {m : Module} {next : Nat} (h : next < m.dependencies.length) :
    m.positions.drop next = ⟨m, next, h⟩ :: m.positions.drop (next + 1) := by
  have bound : next < m.positions.length := by simpa using h
  rw [List.drop_eq_getElem_cons bound, getElem_positions]

theorem drop_positions_of_le {m : Module} {next : Nat} (h : m.dependencies.length ≤ next) :
    m.positions.drop next = [] :=
  List.drop_eq_nil_of_le (by simpa using h)

theorem module_of_mem_positions {m : Module} {p : Position} (h : p ∈ m.positions) :
    p.module = m := by
  obtain ⟨i, -, rfl⟩ := List.mem_map.1 h
  rfl

theorem mem_positions (p : Position) : p ∈ p.module.positions :=
  List.mem_map.2 ⟨p.index, List.mem_finRange _, rfl⟩

end Module

/-- A library or an SDK. -/
structure Bundle where
  name : String
  classes : List Path := []
  sources : List Path := []
deriving DecidableEq, Repr

namespace Bundle

/-- The roots of one kind. -/
def roots (b : Bundle) : RootKind → List Path
  | .compiled => b.classes
  | .sources => b.sources

end Bundle

/-- Modules, libraries and SDKs, newest declaration first. -/
structure Project where
  modules : List Module := []
  libraries : List Bundle := []
  sdks : List Bundle := []
deriving DecidableEq, Repr

/-- The different members of a list of names, in increasing order. -/
def sortedNames (names : List String) : List String :=
  names.eraseDups.mergeSort

namespace Project

/-- Declares a module. -/
def addModule (p : Project) (m : Module) : Project :=
  { p with modules := m :: p.modules }

/-- Declares a library. -/
def addLibrary (p : Project) (b : Bundle) : Project :=
  { p with libraries := b :: p.libraries }

/-- Declares an SDK. -/
def addSdk (p : Project) (b : Bundle) : Project :=
  { p with sdks := b :: p.sdks }

/-- The module a name stands for. -/
def module? (p : Project) (name : String) : Option Module :=
  p.modules.find? (·.name = name)

/-- The library a name stands for. -/
def library? (p : Project) (name : String) : Option Bundle :=
  p.libraries.find? (·.name = name)

/-- The SDK a name stands for. -/
def sdk? (p : Project) (name : String) : Option Bundle :=
  p.sdks.find? (·.name = name)

/-- The names of all modules, in increasing order. -/
def moduleNames (p : Project) : List String :=
  sortedNames (p.modules.map (·.name))

/-- The names of all libraries, in increasing order. -/
def libraryNames (p : Project) : List String :=
  sortedNames (p.libraries.map (·.name))

/-- The names of all SDKs, in increasing order. -/
def sdkNames (p : Project) : List String :=
  sortedNames (p.sdks.map (·.name))

/-- The modules that names stand for, in the order of the names, or the first name that stands for
none. -/
def resolveModules (p : Project) : List String → Except String (List Module)
  | [] => .ok []
  | n :: rest =>
    match p.module? n with
    | none => .error n
    | some m => (p.resolveModules rest).map (m :: ·)

theorem name_of_module? {p : Project} {n : String} {m : Module} (h : p.module? n = some m) :
    m.name = n := by
  simpa using List.find?_some h

theorem name_mem_moduleNames {p : Project} {m : Module} (h : m ∈ p.modules) :
    m.name ∈ p.moduleNames := by
  simp only [moduleNames, sortedNames, List.mem_mergeSort, List.mem_eraseDups]
  exact List.mem_map_of_mem h

theorem mem_of_module? {p : Project} {n : String} {m : Module} (h : p.module? n = some m) :
    m ∈ p.modules :=
  List.mem_of_find?_eq_some h

end Project

end Classpath
