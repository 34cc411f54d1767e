import Classpath.Proofs.Containment
import Classpath.Proofs.Views

/-!
# The views of one session agree

Modules, libraries and roots are put together by three passes over the listed edges.  Each
pass tells the edges apart by itself, and each has a table of its own of what it has seen.
That the results fit together rests on two facts.  What a pass takes from an edge depends
on the edge alone, so that an edge gives roots of a library exactly if it gives the library.
And of equal things a pass keeps the first, so that nothing is lost but spellings of paths.

Nothing is assumed of the session.  The project may be any, names may stand for nothing, and
roots need not be modules of the project.

## Main definitions

* `Module.paths` — all directories of a module of one kind
* `Session.PointsAtLibrary`, `Session.PointsAtSdk` — what an edge to a bundle gives
* `Session.ListsInOrder` — a view holds what listed edges give, each once and in their order
* `Session.Backed` — what other views show has a path

## Main statements

* `Session.ListsInOrder.of_distinct` — first occurrences make such a view
* `Session.backed_of_mem_contribution` — a path that an edge gives is backed
* `Session.views_agree` — the agreement
-/

namespace Classpath

/-- The directories of a module that hold content of one kind, whether of production or of
tests. -/
def Module.paths (m : Module) : RootKind → List Path
  | .compiled => m.output.toList ++ m.testOutput.toList
  | .sources => m.sourceRoots.map (·.path)

namespace Module

variable {m : Module} {sel : Selection}

theorem selectedSources_subset_paths : m.selectedSources sel ⊆ m.paths .sources :=
  List.map_subset _ (List.filter_subset_self _)

theorem selectedOutputs_subset_paths : m.selectedOutputs sel ⊆ m.paths .compiled := by
  intro path selected
  rw [selectedOutputs, List.mem_append, Option.mem_toList, Option.mem_toList,
    Option.filter_eq_some_iff, Option.filter_eq_some_iff] at selected
  rw [paths, List.mem_append, Option.mem_toList, Option.mem_toList]
  exact selected.symm.imp And.left And.left

end Module

namespace Session

/-- An entry points at a library of the project. -/
def PointsAtLibrary (s : Session) (e : Enumerated) (b : Bundle) : Prop :=
  ∃ name, e.edge.target = .library name ∧ s.project.library? name = some b

/-- An entry points at an SDK of the project. -/
def PointsAtSdk (s : Session) (e : Enumerated) (b : Bundle) : Prop :=
  ∃ name, e.edge.target = .sdk name ∧ s.project.sdk? name = some b

/-- A view holds what the listed edges give, no name twice, and in the order of the edges that
give something first: of two things in the view, some beginning of the listing gives the
one and not yet the other. -/
structure ListsInOrder {α : Type} (s : Session) (gives : Enumerated → α → Prop)
    (name : α → String) (view : List α) : Prop where
  mem_iff : ∀ a, a ∈ view ↔ ∃ e ∈ s.dependencies, gives e a
  once : (view.map name).Nodup
  ordered : view.Pairwise fun a b =>
    ∃ first, first <+: s.dependencies ∧ (∃ e ∈ first, gives e a) ∧ ∀ e ∈ first, ¬ gives e b

/-- A path is one of a library or a module that is shown, or of an SDK that a listed edge
points at. -/
inductive Backed (s : Session) (q : RootQuery) (path : Path) : Prop
  | library {b : Bundle} (shown : b ∈ s.libraries) (root : path ∈ b.roots q.kind)
  | sdk {e : Enumerated} {b : Bundle} (listed : e ∈ s.dependencies) (points : s.PointsAtSdk e b)
      (root : path ∈ b.roots q.kind)
  | module {m : Module} (shown : m ∈ s.modules) (own : path ∈ m.paths q.kind)

variable {s : Session} {q : RootQuery} {e : Enumerated} {m : Module} {b : Bundle} {path : Path}

/-! ## Views of modules and libraries -/

/-- **First occurrences make a view in order**, where a name stands for one thing. -/
theorem ListsInOrder.of_distinct {α : Type} {give : Enumerated → Option α}
    {gives : Enumerated → α → Prop} (name : α → String) (find : String → Option α)
    (gives_iff : ∀ e a, give e = some a ↔ gives e a)
    (stands : ∀ e a, give e = some a → find (name a) = some a) :
    s.ListsInOrder gives name (distinct name (s.dependencies.filterMap give)) where
  mem_iff := by
    intro a
    have known : ∀ a ∈ s.dependencies.filterMap give, find (name a) = some a := by
      intro a member
      obtain ⟨e, -, given⟩ := List.mem_filterMap.1 member
      exact stands e a given
    simp only [mem_distinct_of_stands name known, List.mem_filterMap, gives_iff]
  once := nodup_map_distinct _
  ordered := by
    simp only [← gives_iff]
    exact pairwise_distinct_filterMap name give s.dependencies

theorem listsInOrder_libraries (s : Session) :
    s.ListsInOrder s.PointsAtLibrary Bundle.name s.libraries :=
  .of_distinct Bundle.name s.project.library? (fun _ _ => libraryOf_eq_some_iff)
    fun _ _ => library?_name_of_libraryOf

theorem listsInOrder_modules (s : Session) :
    s.ListsInOrder s.ProjectsOnto Module.name s.modules :=
  .of_distinct Module.name s.project.module? (fun _ _ => contributor_eq_some_iff)
    fun _ _ => module?_name_of_contributor

/-! ## Roots and the other views -/

/-- What a session takes of a module are directories of the module. -/
theorem moduleRoots_subset_paths (sel : Selection) : s.moduleRoots q m sel ⊆ m.paths q.kind := by
  unfold moduleRoots
  cases q.kind with
  | sources => exact Module.selectedSources_subset_paths
  | compiled =>
    dsimp only
    split
    · split
      · exact List.subset_append_left _ _
      · exact List.nil_subset _
    · exact Module.selectedOutputs_subset_paths

/-- **A path that a listed edge gives is backed.** -/
theorem backed_of_mem_contribution (listed : e ∈ s.dependencies)
    (given : path ∈ s.contribution q e) : s.Backed q path := by
  obtain ⟨paths, contributes⟩ := exists_contributes s q e
  have same := contributes.eq_contribution
  cases contributes with
  | followed | unknown =>
    rw [← same] at given
    contradiction
  | @archives b behind | @sourceArchives b behind =>
    rw [contribution_of_pointsAt behind] at given
    obtain ⟨points, found⟩ | ⟨points, found⟩ := behind
    · exact .library ((s.listsInOrder_libraries.mem_iff b).2 ⟨e, listed, _, points, found⟩) given
    · exact .sdk listed ⟨_, points, found⟩ given
  | @sources m projected | @outputs m projected | @selfOutput m projected =>
    rw [contribution_of_projectsOnto projected] at given
    exact .module ((s.listsInOrder_modules.mem_iff m).2 ⟨e, listed, projected⟩)
      (moduleRoots_subset_paths _ given)

/-- The roots of a library or an SDK that a listed edge points at are among the roots, in some
spelling. -/
theorem pathsWithin_of_pointsAt {b : Bundle} (listed : e ∈ s.dependencies)
    (behind : s.PointsAt e.edge b) : PathsWithin (b.roots q.kind) (s.rootPaths q) := by
  rw [← contribution_of_pointsAt behind]
  exact fun _ given => exists_same_root listed given

/-- **The views of one session agree**, whatever the project and the options are.  Every root
is, as it is spelt, one of a library that is shown, of an SDK that a listed edge points at,
or a directory of a module that is shown.  The other way round, all roots of these
libraries and SDKs are among the roots of the session, in some spelling.  The libraries are
those that listed edges point at, the modules those that listed edges stand for; none is
there twice, and both come in the order of the first edge that gives them. -/
theorem views_agree (s : Session) (q : RootQuery) :
    (∀ path ∈ s.rootPaths q, s.Backed q path) ∧
    (∀ b ∈ s.libraries, PathsWithin (b.roots q.kind) (s.rootPaths q)) ∧
    (∀ e ∈ s.dependencies, ∀ b, s.PointsAtSdk e b →
      PathsWithin (b.roots q.kind) (s.rootPaths q)) ∧
    s.ListsInOrder s.PointsAtLibrary Bundle.name s.libraries ∧
    s.ListsInOrder s.ProjectsOnto Module.name s.modules := by
  refine ⟨?_, ?_, ?_, s.listsInOrder_libraries, s.listsInOrder_modules⟩
  · intro path member
    obtain ⟨e, listed, given⟩ := exists_contribution_of_mem_rootPaths member
    exact backed_of_mem_contribution listed given
  · intro b shown
    obtain ⟨e, listed, name, points, found⟩ := (s.listsInOrder_libraries.mem_iff b).1 shown
    exact pathsWithin_of_pointsAt listed (.library points found)
  · rintro e listed b ⟨name, points, found⟩
    exact pathsWithin_of_pointsAt listed (.sdk points found)

end Session

/-! ## A path in two spellings -/

namespace Sharing

/-- A library. -/
def guava : Bundle where
  name := "guava"
  classes := [⟨"lib/guava.jar"⟩, ⟨"lib/shared.jar"⟩]

/-- Another library, with one path in common. -/
def asm : Bundle where
  name := "asm"
  classes := [⟨"lib//shared.jar"⟩, ⟨"lib/asm.jar"⟩]

/-- An SDK. -/
def jdk : Bundle where
  name := "jdk"
  classes := [⟨"jdk/rt.jar"⟩]

/-- A module that depends on all of them, on one of them twice, and on a library that does
not exist. -/
def app : Module where
  name := "app"
  dependencies := [⟨"app", .source, none⟩, ⟨"app", .library "guava", some {}⟩,
    ⟨"app", .library "ghost", some {}⟩, ⟨"app", .sdk "jdk", none⟩,
    ⟨"app", .library "asm", some {}⟩, ⟨"app", .library "guava", some {}⟩]
  output := some ⟨"out/app"⟩

/-- A session without filters. -/
def session : Session where
  project := { modules := [app], libraries := [asm, guava], sdks := [jdk] }
  roots := [app]

theorem dependencies_session :
    session.dependencies = app.positions.map fun p => ⟨p, false⟩ := by
  cbv

/-- The path that both libraries have is a root once, as the first of them spells it. -/
theorem session_views_agree :
    session.libraries = [guava, asm] ∧
      session.rootPaths { kind := .compiled } =
        [⟨"out/app"⟩, ⟨"lib/guava.jar"⟩, ⟨"lib/shared.jar"⟩, ⟨"jdk/rt.jar"⟩, ⟨"lib/asm.jar"⟩] ∧
      PathsWithin asm.classes (session.rootPaths { kind := .compiled }) ∧
      PathsWithin jdk.classes (session.rootPaths { kind := .compiled }) ∧
      session.Backed { kind := .compiled } ⟨"jdk/rt.jar"⟩ := by
  obtain ⟨backed, libraries, sdks, -, -⟩ := Session.views_agree session { kind := .compiled }
  have shown : session.libraries = [guava, asm] := by
    rw [Session.libraries, dependencies_session]
    decide +kernel
  have roots : session.rootPaths { kind := .compiled } =
      [⟨"out/app"⟩, ⟨"lib/guava.jar"⟩, ⟨"lib/shared.jar"⟩, ⟨"jdk/rt.jar"⟩, ⟨"lib/asm.jar"⟩] := by
    rw [Session.rootPaths_eq_distinct, dependencies_session]
    decide +kernel
  refine ⟨shown, roots, libraries asm ?_, sdks ⟨⟨app, 3, by decide⟩, false⟩ ?_ jdk ⟨"jdk", rfl, rfl⟩,
    backed _ ?_⟩
  · rw [shown]
    decide
  · rw [dependencies_session]
    decide
  · rw [roots]
    decide

end Sharing

end Classpath
