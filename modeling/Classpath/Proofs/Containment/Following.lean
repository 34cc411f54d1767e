import Classpath.Exclusion
import Classpath.Proofs.Containment
import Classpath.Proofs.Roots.Provenance

/-!
# Following modules takes nothing away

The content of a module gets into a session by one of two edges.  A session that follows no
modules takes it from the edge that points at the module, one that does takes it from the
edge of the module to its own sources.  The first edge is subject to what the handlers say
about tests of dependents, the second is not, and the options treat the two differently.

Whenever a session shows a module by the first edge, the same session with modules followed
has a stand-in: the edge itself, if a handler forbids the following, and otherwise the edge
of the module to its own sources, which no pattern excludes and no policy refuses
(`Session.exists_stand_in`).  The stand-in gives no less, unless a handler takes the first
edge for one to tests.

## Main definitions

* `Project.ListsSources` — every module depends on its own sources
* `Session.following` — a session with modules followed or not
* `Session.OpenedOn` — a session on the project of a file, with names excluded by patterns

## Main statements

* `Session.exists_stand_in` — what gives a module in a session that follows modules
* `Session.following_only_adds` — such a session shows all that is shown without
-/

namespace Classpath

/-- Every module depends on its own sources, in every scope. -/
def Project.ListsSources (p : Project) : Prop :=
  ∀ m ∈ p.modules, (⟨m.name, .source, none⟩ : Dependency) ∈ m.dependencies

/-- In the project of a file, checked or not, every module depends on its own sources. -/
theorem ProjectFile.listsSources_toProject (f : ProjectFile) (base : Path) :
    (f.toProject base).ListsSources := by
  intro m member
  obtain ⟨⟨name, s⟩, -, rfl⟩ := List.mem_map.1 member
  exact List.mem_cons_self

/-- Own sources have no name that a pattern could match. -/
theorem Exclusion.admits_of_source (x : Exclusion) {d : Dependency} (own : d.target = .source) :
    x.admits d = true := by
  rw [admits, own]
  rfl

namespace Session

/-- The same session, which asks for modules to be followed or not. -/
def following (s : Session) (recursive : Bool) : Session :=
  { s with traversal := { s.traversal with recursive } }

/-- A session on the project of a file: the roots are modules of the project, an edge has the
scope and the exported flag that it is declared with, and the condition, if there is one,
is an exclusion by patterns. -/
structure OpenedOn (s : Session) (f : ProjectFile) (base : Path) : Prop where
  project : s.project = f.toProject base
  declared : s.RootsDeclared
  extensionOf : s.extensionOf = Dependency.extension
  excluding : ∃ exclusion : Option Exclusion, s.condition = exclusion.map Exclusion.admits

variable {s : Session} {f : ProjectFile} {base : Path} {p : Position} {e : Enumerated}
  {m : Module}

theorem OpenedOn.following (opened : s.OpenedOn f base) (recursive : Bool) :
    (s.following recursive).OpenedOn f base :=
  { opened with }

/-! ## Positions -/

/-- Asking for modules to be followed makes no edge refused. -/
theorem takes_following (taken : (s.following false).takes p = true) :
    (s.following true).takes p = true := by
  obtain ⟨satisfied, looked, admitted, exported⟩ := takes_iff.1 taken
  refine takes_iff.2 ⟨satisfied, ?_, admitted, exported⟩
  generalize p.dependency.target = target at looked ⊢
  cases target with
  | module name => exact fun _ => rfl
  | source | library _ | sdk _ => exact looked

theorem reaches_following (reached : (s.following false).Reaches m) :
    (s.following true).Reaches m := by
  have project : (s.following false).project = (s.following true).project := rfl
  refine reached.mono project (fun _ member => member) ?_ fun _ => takes_following
  -- The direct session does not ask for modules to be followed.
  rintro ⟨asked, -⟩
  contradiction

/-- What is listed without following is listed, at the same position, with it. -/
theorem entry_mem_following (opened : s.OpenedOn f base)
    (listed : e ∈ (s.following false).dependencies) :
    (s.following true).entry e.position ∈ (s.following true).dependencies := by
  obtain ⟨reached, taken, -⟩ := (mem_dependencies_iff (opened.following false).declared).1 listed
  exact (mem_dependencies_iff (opened.following true).declared).2
    ⟨reaches_following reached, takes_following taken, rfl⟩

/-! ## Stand-ins -/

/-- In a session that shows own sources, also those of dependencies, nothing refuses the
edge of a module to its own sources. -/
theorem takes_own_sources (opened : s.OpenedOn f base)
    (sources : s.traversal.withoutModuleSources = false)
    (dependencies : s.traversal.withoutDepModules = false)
    (own : p.dependency = ⟨m.name, .source, none⟩) : s.takes p = true := by
  rw [takes_iff, own]
  refine ⟨?_, ?_, ?_, ?_⟩
  · intro condition set
    obtain ⟨exclusion, given⟩ := opened.excluding
    obtain ⟨x, -, rfl⟩ := Option.map_eq_some_iff.1 (given.symm.trans set)
    exact x.admits_of_source rfl
  · refine ⟨sources, fun without => ?_⟩
    rw [dependencies] at without
    contradiction
  · intro x extension
    rw [opened.extensionOf] at extension
    contradiction
  · refine .inl ?_
    rw [isExported, opened.extensionOf]
    rfl

section Following

variable (opened : s.OpenedOn f base) (sources : s.traversal.withoutModuleSources = false)
include opened sources

/-- A module that is reached by following gives its content by the edge to its own
sources. -/
theorem exists_own_sources (dependencies : s.traversal.withoutDepModules = false)
    (reached : (s.following true).Reaches m) :
    ∃ e ∈ (s.following true).dependencies, e.edge.target = .source ∧
      (s.following true).ProjectsOnto e m := by
  have opened' := opened.following true
  have known : (s.following true).project.module? m.name = some m :=
    reached.module?_name opened'.declared
  have lists : s.project.ListsSources := by
    rw [opened.project]
    exact f.listsSources_toProject base
  obtain ⟨i, bound, here⟩ := List.mem_iff_getElem.1 (lists m (Project.mem_of_module? known))
  let p : Position := ⟨m, i, bound⟩
  have own : p.dependency = ⟨m.name, .source, none⟩ := here
  have taken : (s.following true).takes p = true :=
    takes_own_sources opened' sources dependencies own
  have listed : (s.following true).entry p ∈ (s.following true).dependencies :=
    (mem_dependencies_iff opened'.declared).2 ⟨reached, taken, rfl⟩
  refine ⟨(s.following true).entry p, listed, ?_, ?_⟩
  · exact congrArg Dependency.target own
  · refine .own (congrArg Dependency.target own) ?_
    rw [Enumerated.edge, entry, own]
    exact known

/-- **A module that is shown without following has a stand-in**, which selects no less of
it.  An edge to the module that is not followed either way stands in for itself; where it
is followed, the edge of the module to its own sources does. -/
theorem exists_stand_in
    (production : ∀ m ∈ s.project.modules, ∀ d ∈ m.dependencies, ¬ s.OnTests d)
    (listed : e ∈ (s.following false).dependencies)
    (projected : (s.following false).ProjectsOnto e m) :
    ∃ e' ∈ (s.following true).dependencies, (s.following true).ProjectsOnto e' m ∧
      ((s.following false).selection e.edge).Within ((s.following true).selection e'.edge) := by
  have here := entry_mem_following opened listed
  have itself : ((s.following false).selection e.edge).Within
      ((s.following true).selection ((s.following true).entry e.position).edge) :=
    fun _ wanted => wanted
  obtain ⟨points, found⟩ | ⟨points, -, found⟩ := projected
  · exact ⟨_, here, .own points found, itself⟩
  rename_i name
  by_cases follows : (s.following true).Follows
  case neg =>
    have unfollowed : ((s.following true).entry e.position).expanded = false := by
      simp [entry, target?, recurses_iff, follows]
    exact ⟨_, here, .other points unfollowed found, itself⟩
  case pos =>
    obtain ⟨reached, taken, -⟩ :=
      (mem_dependencies_iff (opened.following false).declared).1 listed
    obtain ⟨looked, accepted⟩ := Bool.and_eq_true_iff.1 (takes_following taken)
    have reached' : (s.following true).Reaches m :=
      .edge (reaches_following reached) follows looked accepted points found
    -- The edge to the module would not have been looked at otherwise.
    have dependencies : s.traversal.withoutDepModules = false := by
      obtain ⟨-, asked, -, -⟩ := takes_iff.1 taken
      have onto : e.position.dependency.target = .module name := points
      rw [onto] at asked
      rw [← Bool.not_eq_true]
      intro without
      exact absurd (asked without) Bool.false_ne_true
    obtain ⟨e', listed', own, projected'⟩ :=
      exists_own_sources opened sources dependencies reached'
    refine ⟨e', listed', projected', ?_⟩
    have proper : s.handlers.productionOnTests e.edge = false := by
      have member : e.position.module ∈ s.project.modules :=
        reached.mem_modules (opened.following false).declared
      rw [← Bool.not_eq_true, productionOnTests_iff]
      exact production _ member e.edge (List.getElem_mem _)
    intro kind wanted
    unfold selection at wanted ⊢
    rw [points] at wanted
    rw [own]
    cases kind with
    | production => rfl
    | test =>
      simp only [Selection.wants, following, proper, Bool.or_false, Bool.and_eq_true] at wanted
      exact wanted.1

/-- A path that is given without following is given with it. -/
theorem exists_contribution_following
    (production : ∀ m ∈ s.project.modules, ∀ d ∈ m.dependencies, ¬ s.OnTests d)
    (listed : e ∈ (s.following false).dependencies) {q q' : RootQuery}
    (stricter : q.StricterThan q') {path : Path}
    (given : path ∈ (s.following false).contribution q e) :
    ∃ e' ∈ (s.following true).dependencies, path ∈ (s.following true).contribution q' e' := by
  have here := entry_mem_following opened listed
  have edge : ((s.following true).entry e.position).edge = e.edge := rfl
  obtain ⟨m, projected⟩ | bundle := source_of_mem_contribution given
  · obtain ⟨e', listed', projected', within⟩ :=
      exists_stand_in opened sources production listed projected
    rw [contribution_of_projectsOnto projected] at given
    refine ⟨e', listed', ?_⟩
    rw [contribution_of_projectsOnto projected']
    exact moduleRoots_subset rfl stricter within given
  · refine ⟨_, here, ?_⟩
    rcases bundle with ⟨name, points⟩ | ⟨name, points⟩
    all_goals
      simp only [contribution, edge, points, stricter.kind] at given ⊢
      exact given

end Following

/-- **Following modules takes nothing away.**  Take a session on the project of a file that
shows own sources, with any other options, any patterns of names to exclude, and any
handlers of which none takes an edge of the project for one to tests.  Whatever position it lists without
following modules it lists if it asks for them to be followed; so are the modules and
libraries that it shows without among those that it shows with, and its roots, in some
spelling, among the roots, also if the outputs of root modules are left out in both or in
the first alone. -/
theorem following_only_adds (f : ProjectFile) (base : Path) (s : Session)
    (opened : s.OpenedOn f base) (sources : s.traversal.withoutModuleSources = false)
    (production : ∀ m ∈ s.project.modules, ∀ d ∈ m.dependencies, ¬ s.OnTests d) :
    (s.following false).dependencies.map Enumerated.position ⊆
        (s.following true).dependencies.map Enumerated.position ∧
      (s.following false).modules ⊆ (s.following true).modules ∧
      (s.following false).libraries ⊆ (s.following true).libraries ∧
      ∀ q q', q.StricterThan q' →
        PathsWithin ((s.following false).rootPaths q) ((s.following true).rootPaths q') := by
  refine ⟨?_, ?_, ?_, ?_⟩
  · intro position member
    obtain ⟨e, listed, rfl⟩ := List.mem_map.1 member
    exact List.mem_map.2 ⟨_, entry_mem_following opened listed, rfl⟩
  · intro m shown
    obtain ⟨e, listed, found⟩ := mem_modules_iff.1 shown
    obtain ⟨e', listed', projected', -⟩ :=
      exists_stand_in opened sources production listed (contributor_eq_some_iff.1 found)
    exact mem_modules_iff.2 ⟨e', listed', contributor_eq_some_iff.2 projected'⟩
  · intro b shown
    obtain ⟨e, listed, found⟩ := mem_libraries_iff.1 shown
    exact mem_libraries_iff.2 ⟨_, entry_mem_following opened listed, found⟩
  · intro q q' stricter path member
    obtain ⟨e, listed, given⟩ := exists_contribution_of_mem_rootPaths member
    obtain ⟨e', listed', given'⟩ :=
      exists_contribution_following opened sources production listed stricter given
    exact exists_same_root listed' given'

end Session

/-! ## Tests held back -/

namespace HeldBack

/-- A module that depends on another one with tests, and on a library. -/
def file : ProjectFile where
  project := { roots := ["app"] }
  modules := .ofList [
    ("app", { output := some ⟨"out/app"⟩,
              dependencies := [{ module := some "core" }, { library := some "junit" }] }),
    ("core", { output := some ⟨"out/core"⟩, testOutput := some ⟨"out/core-test"⟩ })]
  libraries := .ofList [("junit", { classes := [⟨"lib/junit.jar"⟩] })]

/-- The module that depends on the other one. -/
def app : Module where
  name := "app"
  dependencies := [⟨"app", .source, none⟩, ⟨"app", .module "core", some {}⟩,
    ⟨"app", .library "junit", some {}⟩]
  output := some ⟨"/work/out/app"⟩

/-- The module that is depended on. -/
def core : Module where
  name := "core"
  dependencies := [⟨"core", .source, none⟩]
  output := some ⟨"/work/out/core"⟩
  testOutput := some ⟨"/work/out/core-test"⟩

/-- The project of the file. -/
def project : Project where
  modules := [app, core]
  libraries := [{ name := "junit", classes := [⟨"/work/lib/junit.jar"⟩] }]

theorem project_eq : project = file.toProject ⟨"/work"⟩ := by
  decide +kernel

/-- A session whose handlers hold tests back from dependents, and take edges to a module that
is not there for edges to tests. -/
def session (exclusion : Option Exclusion) : Session where
  project := project
  roots := [app]
  handlers := ⟨[{ testsFromDependents := false }, .reclassifying ["ghost"]]⟩
  condition := exclusion.map Exclusion.admits

/-- Names that begin with `j`. -/
def beginningWithJ : Exclusion :=
  ⟨[[.literal 'j', .anything]]⟩

variable {exclusion : Option Exclusion}

theorem openedOn_session : (session exclusion).OpenedOn file ⟨"/work"⟩ where
  project := project_eq
  declared := by
    have here : project.module? app.name = some app := by decide
    intro root member
    rwa [List.mem_singleton.1 member]
  extensionOf := rfl
  excluding := ⟨exclusion, rfl⟩

theorem not_onTests_session :
    ∀ m ∈ (session exclusion).project.modules, ∀ d ∈ m.dependencies,
      ¬ (session exclusion).OnTests d := by
  change ∀ m ∈ project.modules, ∀ d ∈ m.dependencies,
    ¬ ∃ h ∈ [{ testsFromDependents := false }, Handler.reclassifying ["ghost"]],
      h.productionOnTests d = true
  decide +kernel

theorem dependencies_direct : ((session none).following false).dependencies =
    [⟨⟨app, ⟨0, by decide⟩⟩, false⟩, ⟨⟨app, ⟨1, by decide⟩⟩, false⟩,
      ⟨⟨app, ⟨2, by decide⟩⟩, false⟩] := by
  cbv

theorem dependencies_followed : ((session none).following true).dependencies =
    [⟨⟨app, ⟨0, by decide⟩⟩, false⟩, ⟨⟨app, ⟨1, by decide⟩⟩, true⟩,
      ⟨⟨core, ⟨0, by decide⟩⟩, false⟩, ⟨⟨app, ⟨2, by decide⟩⟩, false⟩] := by
  cbv

/-- Without following, `core` is given by the edge of `app`, and without its tests; with
following, by its own edge, and with them. -/
theorem session_following_only_adds :
    (session beginningWithJ).OpenedOn file ⟨"/work"⟩ ∧
      (session beginningWithJ).traversal.withoutModuleSources = false ∧
      (session beginningWithJ).OnTests ⟨"app", .module "ghost", none⟩ ∧
      (∀ m ∈ (session beginningWithJ).project.modules, ∀ d ∈ m.dependencies,
        ¬ (session beginningWithJ).OnTests d) ∧
      ((session beginningWithJ).following false).modules ⊆
        ((session beginningWithJ).following true).modules ∧
      PathsWithin (((session none).following false).rootPaths { kind := .compiled })
        (((session none).following true).rootPaths { kind := .compiled }) ∧
      ((session none).following false).rootPaths { kind := .compiled } =
        [⟨"/work/out/app"⟩, ⟨"/work/out/core"⟩, ⟨"/work/lib/junit.jar"⟩] ∧
      ((session none).following true).rootPaths { kind := .compiled } =
        [⟨"/work/out/app"⟩, ⟨"/work/out/core-test"⟩, ⟨"/work/out/core"⟩,
          ⟨"/work/lib/junit.jar"⟩] := by
  have excluding := Session.following_only_adds file ⟨"/work"⟩ (session beginningWithJ)
    openedOn_session rfl not_onTests_session
  have all := Session.following_only_adds file ⟨"/work"⟩ (session none) openedOn_session rfl
    not_onTests_session
  refine ⟨openedOn_session, rfl, by decide, not_onTests_session, excluding.2.1, all.2.2.2 _ _ ⟨rfl, id⟩,
    ?_, ?_⟩
  · rw [Session.rootPaths_eq_distinct, dependencies_direct]
    decide +kernel
  · rw [Session.rootPaths_eq_distinct, dependencies_followed]
    decide +kernel

end HeldBack

end Classpath
