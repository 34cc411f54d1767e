import Classpath.Proofs.ProjectFile.Resolution
import Classpath.Proofs.Filters
import Classpath.Proofs.Views

/-!
# Whose content a session shows

A session may be asked to leave dependency modules out, so that of all modules only the
roots show content of their own.  Content of another module could enter in two ways: with
the edge of that module to its own sources, or with an edge to that module which is
listed and not followed.  The first way is closed by the root check on edges to own
sources, the second because edges to modules are either not looked at or followed.

Which of the two holds for edges to modules is decided by what the session asks for, and
whether they are followed by what it does.  The two come apart when a handler forbids the
following of modules that the session asks for: then an edge to a module is looked at and
not followed, and the module shows its content.

## Main definitions

* `Session.Vetoed` — a handler forbids what the session asks for
* `Session.OfRootOrBundle` — an entry stands for a root module, a library or an SDK

## Main statements

* `Session.foreign_content_needs_veto` — which modules show content, and which roots there
  are
* `Vetoing.dependency_shows` — a handler lets a dependency module in
-/

namespace Classpath

/-- Every edge belongs to the module that declares it. -/
def Project.OwnsEdges (p : Project) : Prop :=
  ∀ m ∈ p.modules, ∀ d ∈ m.dependencies, d.owner = m.name

theorem DependencyEntry.owner_of_toDependency? {e : DependencyEntry} {owner : String}
    {d : Dependency} (given : e.toDependency? owner = some d) : d.owner = owner := by
  obtain ⟨target, -, rfl⟩ := Option.map_eq_some_iff.1 given
  rfl

/-- In the project of a file, checked or not, every edge belongs to its module. -/
theorem ProjectFile.ownsEdges_toProject (f : ProjectFile) (base : Path) :
    (f.toProject base).OwnsEdges := by
  intro m member d declared
  obtain ⟨⟨name, s⟩, -, rfl⟩ := List.mem_map.1 member
  rcases List.mem_cons.1 declared with rfl | given
  · rfl
  · obtain ⟨e, -, given⟩ := List.mem_filterMap.1 given
    exact DependencyEntry.owner_of_toDependency? given

namespace Session

/-- The session asks for modules to be followed, and a handler forbids it. -/
def Vetoed (s : Session) : Prop :=
  s.traversal.recursive = true ∧ s.handlers.recursive = false

instance (s : Session) : Decidable s.Vetoed :=
  inferInstanceAs (Decidable (_ ∧ _))

/-- An entry stands for the content of a root module, for a library or for an SDK. -/
inductive OfRootOrBundle (s : Session) (e : Enumerated) : Prop
  | root {m : Module} (member : m ∈ s.roots) (projected : s.ProjectsOnto e m)
  | library {name : String} (points : e.edge.target = .library name)
  | sdk {name : String} (points : e.edge.target = .sdk name)

variable {s : Session} {e : Enumerated} {m : Module}

/-- What is reached is what its name stands for. -/
theorem Reaches.module?_name (declared : s.RootsDeclared) (reached : s.Reaches m) :
    s.project.module? m.name = some m := by
  cases reached with
  | root member => exact declared m member
  | edge _ _ _ _ _ found =>
    rw [Project.name_of_module? found]
    exact found

/-- A session that follows no modules reaches its roots alone. -/
theorem Reaches.mem_roots (direct : s.recurses = false) (reached : s.Reaches m) :
    m ∈ s.roots := by
  cases reached with
  | root member => exact member
  | edge _ follows _ _ _ _ =>
    rw [recurses_iff.2 follows] at direct
    contradiction

/-- A session on one root that follows no modules lists what the edges of the root give. -/
theorem dependencies_of_direct (direct : s.recurses = false) (root : s.roots = [m])
    (declared : s.RootsDeclared) : s.dependencies = s.entries m.positions := by
  have reached : s.Reaches m := .root (root ▸ List.mem_singleton_self m)
  have alone : s.dependencies.filter (·.position.module = m) = s.dependencies := by
    refine List.filter_eq_self.2 fun e listed => decide_eq_true ?_
    have member := ((mem_dependencies_iff declared).1 listed).1.mem_roots direct
    rwa [root, List.mem_singleton] at member
  rw [← alone, filter_dependencies declared, if_pos ((mem_entered_walk_iff declared).2 reached)]

/-- A module with the name of a root is that root. -/
theorem mem_roots_of_isRoot (declared : s.RootsDeclared)
    (known : s.project.module? m.name = some m) (root : s.isRoot m = true) : m ∈ s.roots := by
  obtain ⟨r, member, same⟩ := isRoot_iff.1 root
  have found := declared r member
  rw [same, known] at found
  rwa [Option.some.inj found]

/-- An edge to a known module that is not followed is in a session that follows none. -/
theorem recurses_of_unfollowed (declared : s.RootsDeclared) (listed : e ∈ s.dependencies)
    {name : String} (points : e.edge.target = .module name) (unfollowed : e.expanded = false)
    (found : s.project.module? name = some m) : s.recurses = false := by
  obtain ⟨-, -, same⟩ := (mem_dependencies_iff declared).1 listed
  by_contra follows
  rw [Bool.not_eq_false] at follows
  have expanded : e.expanded = true := by
    rw [same]
    exact expanded_entry_iff.2 ⟨recurses_iff.1 follows, name, m, points, found⟩
  rw [unfollowed] at expanded
  contradiction

/-- **Content of a module that is no root enters through a veto**, with an edge of a root
to that module. -/
theorem root_or_vetoed_of_projectsOnto (owns : s.project.OwnsEdges) (declared : s.RootsDeclared)
    (without : s.traversal.withoutDepModules = true) (listed : e ∈ s.dependencies)
    (projected : s.ProjectsOnto e m) :
    m ∈ s.roots ∨
      s.Vetoed ∧ e.position.module ∈ s.roots ∧ e.edge.target = .module m.name := by
  obtain ⟨reached, taken, -⟩ := (mem_dependencies_iff declared).1 listed
  obtain ⟨-, looked, -, -⟩ := takes_iff.1 taken
  have known := reached.module?_name declared
  obtain ⟨points, found⟩ | ⟨points, unfollowed, found⟩ := projected
  · -- The edge to its own sources is looked at in root modules alone.
    have owner : e.edge.owner = e.position.module.name :=
      owns _ (Project.mem_of_module? known) _ (List.getElem_mem _)
    rw [owner, known] at found
    obtain rfl := Option.some.inj found
    have own : e.position.dependency.target = .source := points
    rw [own] at looked
    exact .inl (mem_roots_of_isRoot declared known (looked.2 without))
  · -- An edge to a module is looked at if following is asked for, and was not followed.
    rename_i name
    have direct := recurses_of_unfollowed declared listed points unfollowed found
    have onto : e.position.dependency.target = .module name := points
    rw [onto] at looked
    have asked : s.traversal.recursive = true := looked without
    rw [recurses, asked, Bool.true_and] at direct
    refine .inr ⟨⟨asked, direct⟩, reached.mem_roots ?_, ?_⟩
    · rw [recurses, direct, Bool.and_false]
    · rw [Project.name_of_module? found]
      exact points

/-- What contributes a path stands for a module, a library or an SDK. -/
theorem source_of_mem_contribution {q : RootQuery} {path : Path}
    (member : path ∈ s.contribution q e) :
    (∃ m, s.ProjectsOnto e m) ∨ (∃ name, e.edge.target = .library name) ∨
      ∃ name, e.edge.target = .sdk name := by
  by_cases projected : ∃ m, s.ProjectsOnto e m
  · exact .inl projected
  · have none : s.contributor e = none := by
      rw [Option.eq_none_iff_forall_ne_some]
      exact fun m found => projected ⟨m, contributor_eq_some_iff.1 found⟩
    cases points : e.edge.target with
    | library name => exact .inr (.inl ⟨name, rfl⟩)
    | sdk name => exact .inr (.inr ⟨name, rfl⟩)
    | source | module _ => simp [contribution, points, none] at member

section WithoutDepModules

variable (owns : s.project.OwnsEdges) (declared : s.RootsDeclared)
  (without : s.traversal.withoutDepModules = true)
include owns declared without

/-- A module that shows content and is no root owes this to a veto. -/
theorem root_or_vetoed_of_mem_modules (shown : m ∈ s.modules) :
    m ∈ s.roots ∨ s.Vetoed ∧
      ∃ e ∈ s.dependencies, e.position.module ∈ s.roots ∧ e.edge.target = .module m.name := by
  obtain ⟨e, listed, found⟩ := mem_modules_iff.1 shown
  obtain root | ⟨vetoed, byRoot, points⟩ :=
    root_or_vetoed_of_projectsOnto owns declared without listed (contributor_eq_some_iff.1 found)
  · exact .inl root
  · exact .inr ⟨vetoed, e, listed, byRoot, points⟩

/-- Without a veto, what contributes a path is a root, a library or an SDK. -/
theorem ofRootOrBundle_of_mem_contribution (free : ¬ s.Vetoed) (listed : e ∈ s.dependencies)
    {q : RootQuery} {path : Path} (given : path ∈ s.contribution q e) : s.OfRootOrBundle e := by
  obtain ⟨m, projected⟩ | ⟨name, points⟩ | ⟨name, points⟩ := source_of_mem_contribution given
  · obtain root | ⟨vetoed, -⟩ :=
      root_or_vetoed_of_projectsOnto owns declared without listed projected
    · exact .root root projected
    · contradiction
  · exact .library points
  · exact .sdk points

end WithoutDepModules

/-- After a veto, a listed edge to a known module is not followed, and the module shows
its content. -/
theorem mem_modules_of_vetoed (declared : s.RootsDeclared) (vetoed : s.Vetoed)
    (listed : e ∈ s.dependencies) (points : e.edge.target = .module m.name)
    (known : s.project.module? m.name = some m) : m ∈ s.modules := by
  have direct : s.recurses = false := by rw [recurses, vetoed.2, Bool.and_false]
  have unfollowed : e.expanded = false := by
    obtain ⟨-, -, same⟩ := (mem_dependencies_iff declared).1 listed
    rw [same]
    simp [entry, target?, direct]
  exact mem_modules_iff.2 ⟨e, listed, contributor_eq_some_iff.2 (.other points unfollowed known)⟩

/-- What shows content is the module its name stands for. -/
theorem module?_name_of_mem_modules (shown : m ∈ s.modules) :
    s.project.module? m.name = some m := by
  obtain ⟨e, -, found⟩ := mem_modules_iff.1 shown
  exact module?_name_of_contributor found

/-- **Without dependency modules, the modules that show content are the roots**, and
every path on the classpath is there because of a root, a library or an SDK, unless a
handler vetoes what the session asks for.  After a veto the session shows just as well
the modules that an accepted edge of a root points at. -/
theorem foreign_content_needs_veto (f : ProjectFile) (base : Path) (s : Session)
    (loaded : s.project = f.toProject base) (declared : s.RootsDeclared)
    (without : s.traversal.withoutDepModules = true) :
    (¬ s.Vetoed →
      (∀ m ∈ s.modules, m ∈ s.roots) ∧
      ∀ q, ∀ path ∈ s.rootPaths q,
        (∃ e ∈ s.dependencies, path ∈ s.contribution q e) ∧
        ∀ e ∈ s.dependencies, path ∈ s.contribution q e → s.OfRootOrBundle e) ∧
    ∀ m ∉ s.roots, m ∈ s.modules ↔
      s.Vetoed ∧ s.project.module? m.name = some m ∧
        ∃ e ∈ s.dependencies, e.position.module ∈ s.roots ∧ e.edge.target = .module m.name := by
  have owns : s.project.OwnsEdges := by
    rw [loaded]
    exact f.ownsEdges_toProject base
  refine ⟨fun free => ⟨?_, ?_⟩, ?_⟩
  · intro m shown
    obtain root | ⟨vetoed, -⟩ := root_or_vetoed_of_mem_modules owns declared without shown
    · exact root
    · contradiction
  · intro q path member
    exact ⟨exists_contribution_of_mem_rootPaths member, fun e listed given =>
      ofRootOrBundle_of_mem_contribution owns declared without free listed given⟩
  · intro m foreign
    constructor
    · intro shown
      obtain root | ⟨vetoed, entry⟩ := root_or_vetoed_of_mem_modules owns declared without shown
      · contradiction
      · exact ⟨vetoed, module?_name_of_mem_modules shown, entry⟩
    · rintro ⟨vetoed, known, e, listed, -, points⟩
      exact mem_modules_of_vetoed declared vetoed listed points known

end Session

/-! ## A veto in a file -/

namespace Vetoing

/-- A module that depends on another one, and a handler that forbids the following of
modules. -/
def file : ProjectFile where
  project := { roots := ["app"] }
  modules := .ofList [
    ("app", { output := some ⟨"out/app"⟩, dependencies := [{ module := some "core" }] }),
    ("core", { output := some ⟨"out/core"⟩ })]
  handlers := .ofList [("veto", { processRecursively := false })]

/-- The module that depends on the other one. -/
def app : Module where
  name := "app"
  dependencies := [⟨"app", .source, none⟩, ⟨"app", .module "core", some {}⟩]
  output := some ⟨"/work/out/app"⟩

/-- The module that is depended on. -/
def core : Module where
  name := "core"
  dependencies := [⟨"core", .source, none⟩]
  output := some ⟨"/work/out/core"⟩

/-- A session on the project of the file that leaves dependency modules out. -/
def session (recursive : Bool) : Session where
  project := { modules := [app, core] }
  roots := [app]
  handlers := file.registry.handlersFor [app]
  traversal := { recursive, withoutDepModules := true }

theorem project_session (recursive : Bool) :
    (session recursive).project = file.toProject ⟨"/work"⟩ := by
  change (⟨[app, core], [], []⟩ : Project) = file.toProject ⟨"/work"⟩
  decide +kernel

/-- A session that asks for nothing to be followed meets no veto, and shows the root alone. -/
theorem root_shows_alone :
    (session false).project = file.toProject ⟨"/work"⟩ ∧ (session false).RootsDeclared ∧
      ¬ (session false).Vetoed ∧ ∀ m ∈ (session false).modules, m ∈ [app] :=
  have declared : (session false).RootsDeclared := by decide
  have free : ¬ (session false).Vetoed := by decide
  have shown := Session.foreign_content_needs_veto file ⟨"/work"⟩ (session false)
    (project_session false) declared rfl
  ⟨project_session false, declared, free, (shown.1 free).1⟩

/-- The session asks for modules to be followed, the handler forbids it, and the module
that is no root shows its content. -/
theorem dependency_shows :
    (session true).project = file.toProject ⟨"/work"⟩ ∧ (session true).RootsDeclared ∧
      (session true).traversal.withoutDepModules = true ∧
      core ∈ (session true).modules ∧ core ∉ (session true).roots := by
  have shown : (session true).modules = [app, core] := by cbv
  refine ⟨project_session true, by decide, rfl, ?_, by decide⟩
  rw [shown]
  decide

end Vetoing

end Classpath
