import Classpath.Project.Layout
import Classpath.Proofs.Filters
import Classpath.Proofs.Views
import Classpath.Proofs.Walk.Reach

/-!
# One session inside another

A session that accepts fewer edges visits fewer modules, and the modules it does
visit in another order, so that the listings of two sessions need not even be
sublists of one another.  What is compared is therefore what is reached: if every
edge that the first session accepts is accepted by the second, the second reaches
all that the first reaches (`Session.Reaches.mono`), and lists all that the first
lists.  The views follow, because they hold what some listed edge gives.

## Main definitions

* `Selection.Within`, `RootQuery.StricterThan` — one selection or query asks for
  less than another
* `Session.Narrows` — one session accepts and selects less than another
* `Session.ContainedIn` — what one session shows, another shows as well
* `Session.layered` — a session whose walk takes another way when it is narrowed

## Main statements

* `Session.Narrows.containedIn` — accepting and selecting less shows less
-/

namespace Classpath

/-- Every path of the first list is, in some spelling, in the second. -/
def PathsWithin (ps qs : List Path) : Prop :=
  ∀ p ∈ ps, ∃ q ∈ qs, q.same p = true

/-- The content selected first is selected second. -/
def Selection.Within (sel sel' : Selection) : Prop :=
  ∀ kind, sel.wants kind = true → sel'.wants kind = true

/-- The first query asks for roots of the same kind as the second, and leaves out the
outputs of root modules if the second does. -/
structure RootQuery.StricterThan (q q' : RootQuery) : Prop where
  kind : q.kind = q'.kind
  withoutSelfOutput : q'.withoutSelfOutput = true → q.withoutSelfOutput = true

namespace Module

variable {m : Module} {sel sel' : Selection}

theorem selectedSources_subset (within : sel.Within sel') :
    m.selectedSources sel ⊆ m.selectedSources sel' := by
  intro path member
  obtain ⟨root, selected, rfl⟩ := List.mem_map.1 member
  obtain ⟨declared, wanted⟩ := List.mem_filter.1 selected
  exact List.mem_map_of_mem (List.mem_filter.2 ⟨declared, within _ wanted⟩)

/-- Production output is selected with production content. -/
theorem mem_selectedOutputs_of_output {path : Path} (wanted : sel.production = true)
    (output : path ∈ m.output.toList) : path ∈ m.selectedOutputs sel := by
  rw [selectedOutputs_eq, if_pos wanted]
  exact List.mem_append_right _ output

theorem selectedOutputs_subset (within : sel.Within sel') :
    m.selectedOutputs sel ⊆ m.selectedOutputs sel' := by
  intro path member
  rw [selectedOutputs_eq, List.mem_append] at member
  rcases member with inTests | inProduction
  · split at inTests
    · next wanted =>
      rw [selectedOutputs_eq, if_pos ⟨within .test wanted.1, wanted.2⟩]
      exact List.mem_append_left _ inTests
    · contradiction
  · split at inProduction
    · next wanted => exact mem_selectedOutputs_of_output (within .production wanted) inProduction
    · contradiction

end Module

namespace Session

/-- The first session accepts and selects no more than the second: both are about
the same project and the same roots, and follow modules alike. -/
structure Narrows (s t : Session) : Prop where
  project : s.project = t.project
  roots : s.roots = t.roots
  recurses : s.recurses = t.recurses
  takes : ∀ p, s.takes p = true → t.takes p = true
  selects : ∀ d, (s.selection d).Within (t.selection d)

/-- All that the first session shows, the second shows as well: the same entries
with the same expanded flags, the same modules and libraries, and the same roots,
in some spelling, for every query that the first query is at least as strict as. -/
structure ContainedIn (s t : Session) : Prop where
  dependencies : s.dependencies ⊆ t.dependencies
  modules : s.modules ⊆ t.modules
  libraries : s.libraries ⊆ t.libraries
  roots : ∀ q q', q.StricterThan q' → PathsWithin (s.rootPaths q) (t.rootPaths q')

variable {s t : Session}

/-- A session with the same handlers that leaves out tests whenever `t` does selects
no more than `t`. -/
theorem selection_within (handlers : s.handlers = t.handlers)
    (omits : t.isProductionOnly = true → s.isProductionOnly = true) (d : Dependency) :
    (s.selection d).Within (t.selection d) := by
  have shown : (!s.isProductionOnly) = true → (!t.isProductionOnly) = true := by
    simp only [Bool.not_eq_true', ← Bool.not_eq_true]
    exact mt omits
  intro kind wanted
  unfold selection at wanted ⊢
  rw [handlers] at wanted
  generalize d.target = target at wanted ⊢
  cases target with
  | module name =>
    cases kind with
    | production => exact wanted
    | test =>
      simp only [Selection.wants, Bool.or_eq_true, Bool.and_eq_true] at wanted ⊢
      exact wanted.imp_left (And.imp_left shown)
  | source | library _ | sdk _ =>
    cases kind with
    | production => exact wanted
    | test => exact shown wanted

/-- **Reaching is monotone.**  A session that starts from all the roots of another,
follows modules if the other does, and accepts all that the other accepts, reaches
all that the other reaches. -/
theorem Reaches.mono (project : s.project = t.project) (roots : s.roots ⊆ t.roots)
    (follow : s.Follows → t.Follows)
    (takes : ∀ p, s.takes p = true → t.takes p = true) {m : Module} (reached : s.Reaches m) :
    t.Reaches m := by
  induction reached with
  | root member => exact .root (roots member)
  | @edge p target name _ follows looked accepted points found ih =>
    have taken : t.takes p = true := takes p (by simp [Session.takes, looked, accepted])
    obtain ⟨looked', accepted'⟩ := Bool.and_eq_true_iff.1 taken
    rw [project] at found
    exact .edge ih (follow follows) looked' accepted' points found

/-- A session has the same roots under every name as another. -/
theorem isRoot_congr (roots : s.roots = t.roots) (m : Module) : s.isRoot m = t.isRoot m := by
  rw [isRoot, isRoot, roots]

theorem contributor_congr (project : s.project = t.project) (e : Enumerated) :
    s.contributor e = t.contributor e := by
  simp only [contributor, project]

theorem libraryOf_congr (project : s.project = t.project) (e : Enumerated) :
    s.libraryOf e = t.libraryOf e := by
  simp only [libraryOf, project]

section Contribution

variable {e : Enumerated} {m : Module} {q q' : RootQuery}

/-- The roots of a module that are selected first are selected second.  Where only
the first query leaves out the outputs of root modules, what it keeps of them is
the production output, which the second query gives with production content. -/
theorem moduleRoots_subset (isRoot : s.isRoot m = t.isRoot m) (stricter : q.StricterThan q')
    {sel sel' : Selection} (within : sel.Within sel') :
    s.moduleRoots q m sel ⊆ t.moduleRoots q' m sel' := by
  intro path member
  unfold moduleRoots at member ⊢
  rw [isRoot, stricter.kind] at member
  cases asked : q'.kind with
  | sources =>
    rw [asked] at member
    exact Module.selectedSources_subset within member
  | compiled =>
    simp only [asked] at member ⊢
    by_cases hidden : (q.withoutSelfOutput && t.isRoot m) = true
    · -- The first session hides the outputs of a root module, and shows its production
      -- output only where it wants production and tests.
      rw [if_pos hidden] at member
      by_cases both : (sel.production && sel.tests) = true
      · rw [if_pos both] at member
        obtain ⟨production, tests⟩ := Bool.and_eq_true_iff.1 both
        have production' : sel'.production = true := within .production production
        have tests' : sel'.tests = true := within .test tests
        split
        · rwa [if_pos (by simp [production', tests'])]
        · exact Module.mem_selectedOutputs_of_output production' member
      · rw [if_neg both] at member
        contradiction
    · -- What the first session does not hide, the second does not hide either.
      have shown : ¬ (q'.withoutSelfOutput && t.isRoot m) = true := by
        intro hidden'
        obtain ⟨without, root⟩ := Bool.and_eq_true_iff.1 hidden'
        exact hidden (by simp [stricter.withoutSelfOutput without, root])
      rw [if_neg hidden] at member
      rw [if_neg shown]
      exact Module.selectedOutputs_subset within member

/-- What an entry contributes to the first session it contributes to the second, if no
more is selected of the module behind it. -/
theorem contribution_subset (project : s.project = t.project)
    (isRoot : ∀ m, s.isRoot m = t.isRoot m) (stricter : q.StricterThan q')
    (within : (s.selection e.edge).Within (t.selection e.edge)) :
    s.contribution q e ⊆ t.contribution q' e := by
  intro path member
  unfold contribution at member ⊢
  rw [project, stricter.kind] at member
  split at member
  · exact member
  · exact member
  · rw [contributor_congr project] at member
    cases found : t.contributor e with
    | none => simp [found] at member
    | some m =>
      simp only [found, Option.map_some, Option.getD_some] at member ⊢
      exact moduleRoots_subset (isRoot m) stricter within member

end Contribution

/-- A session shows what another shows if it lists all that the other lists, and each
entry contributes no less. -/
theorem ContainedIn.of_dependencies (project : s.project = t.project)
    (listed : s.dependencies ⊆ t.dependencies)
    (contributed : ∀ q q', q.StricterThan q' → ∀ e ∈ s.dependencies,
      s.contribution q e ⊆ t.contribution q' e) : s.ContainedIn t := by
  refine ⟨listed, ?_, ?_, ?_⟩
  · intro m member
    obtain ⟨e, here, found⟩ := mem_modules_iff.1 member
    rw [contributor_congr project] at found
    exact mem_modules_iff.2 ⟨e, listed here, found⟩
  · intro b member
    obtain ⟨e, here, found⟩ := mem_libraries_iff.1 member
    rw [libraryOf_congr project] at found
    exact mem_libraries_iff.2 ⟨e, listed here, found⟩
  · intro q q' stricter path member
    obtain ⟨e, here, given⟩ := exists_contribution_of_mem_rootPaths member
    exact exists_same_root (listed here) (contributed q q' stricter e here given)

namespace Narrows

variable {m : Module}

theorem reaches (narrows : s.Narrows t) (reached : s.Reaches m) : t.Reaches m := by
  refine reached.mono narrows.project (fun _ member => ?_) (fun on => ?_) narrows.takes
  · rwa [← narrows.roots]
  · rwa [← recurses_iff, ← narrows.recurses, recurses_iff]

theorem rootsDeclared (narrows : s.Narrows t) (declared : s.RootsDeclared) : t.RootsDeclared := by
  intro root member
  rw [← narrows.roots] at member
  rw [← narrows.project]
  exact declared root member

theorem entry_eq (narrows : s.Narrows t) (p : Position) : s.entry p = t.entry p := by
  simp only [entry, target?, narrows.recurses, narrows.project]

/-- An entry that the first session lists is listed by the second. -/
theorem dependencies_subset (narrows : s.Narrows t) (declared : s.RootsDeclared) :
    s.dependencies ⊆ t.dependencies := by
  intro e listed
  obtain ⟨reached, taken, same⟩ := (mem_dependencies_iff declared).1 listed
  refine (mem_dependencies_iff (narrows.rootsDeclared declared)).2
    ⟨narrows.reaches reached, narrows.takes _ taken, ?_⟩
  rw [← narrows.entry_eq]
  exact same

/-- **Accepting and selecting less shows less.** -/
theorem containedIn (narrows : s.Narrows t) (declared : s.RootsDeclared) : s.ContainedIn t := by
  have listed : s.dependencies ⊆ t.dependencies := narrows.dependencies_subset declared
  refine .of_dependencies narrows.project listed ?_
  intro q q' stricter e _
  exact contribution_subset narrows.project (isRoot_congr narrows.roots) stricter
    (narrows.selects e.edge)

end Narrows

/-- Three modules that depend on each other in a circle.  The way from `app` to `util`
over `core` is read first, and is open at run time only. -/
def layered : Session :=
  let app : Module :=
    { name := "app"
      dependencies := [⟨"app", .source, none⟩, ⟨"app", .sdk "jdk", none⟩,
        ⟨"app", .module "core", some { scope := .runtime }⟩,
        ⟨"app", .module "util", some { exported := true }⟩,
        ⟨"app", .library "junit", some { scope := .test }⟩]
      output := some ⟨"out/app"⟩
      testOutput := some ⟨"out/app-test"⟩ }
  let core : Module :=
    { name := "core"
      dependencies := [⟨"core", .source, none⟩, ⟨"core", .module "util", some {}⟩]
      output := some ⟨"out/core"⟩ }
  let util : Module :=
    { name := "util"
      dependencies := [⟨"util", .source, none⟩, ⟨"util", .module "app", some {}⟩]
      output := some ⟨"out/util"⟩ }
  { project :=
      { modules := [app, core, util]
        libraries := [.conventionalLibrary "junit"]
        sdks := [.conventionalSdk "jdk"] }
    roots := [app]
    traversal := { recursive := true } }

end Session

end Classpath
