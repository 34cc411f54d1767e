import Classpath.Proofs.Distinct
import Mathlib.Data.List.Forall2

/-!
# What a listed edge contributes

Which roots stand behind a listed edge depends on what the edge points at, on
whether it was followed, on the handlers, on whether tests are left out, and on
the module's outputs.  `Session.Contributes` says so case by case, in terms of the
declarations alone, and the roots are the first occurrences of what the listed
edges contribute in order.

## Main definitions

* `Session.OmitsTests` — the session leaves out the content of tests
* `Session.Wants` — the content that is taken of the module behind an edge
* `Session.ProjectsOnto` — the module whose content stands behind an entry
* `Session.PointsAt` — the library or SDK behind an edge
* `Session.Contributes` — the roots behind an entry

## Main statements

* `Session.contributes_iff` — the relation is the function
* `Session.roots_are_first_occurrences` — the roots of a session
-/

namespace Classpath

/-- The module has one directory for production and test output. -/
def Module.SharesOutput (m : Module) : Prop :=
  ∃ tests ∈ m.testOutput, ∃ production ∈ m.output, tests.components = production.components

instance (m : Module) : Decidable m.SharesOutput :=
  inferInstanceAs (Decidable (∃ tests ∈ m.testOutput, ∃ production ∈ m.output,
    tests.components = production.components))

namespace Module

theorem sharesOutput_iff {m : Module} {tests : Path} (known : m.testOutput = some tests) :
    m.output.any tests.same = true ↔ m.SharesOutput := by
  simp [SharesOutput, known, Option.any_eq_true, Path.same_iff]

/-- The outputs that are wanted, by whether the module has two. -/
theorem selectedOutputs_eq (m : Module) (sel : Selection) :
    m.selectedOutputs sel =
      (if sel.tests = true ∧ ¬ m.SharesOutput then m.testOutput.toList else []) ++
        if sel.production = true then m.output.toList else [] := by
  have tests : (m.testOutput.filter fun path => sel.tests && !m.output.any path.same).toList =
      if sel.tests = true ∧ ¬ m.SharesOutput then m.testOutput.toList else [] := by
    cases known : m.testOutput with
    | none => simp
    | some path =>
      have wanted : (sel.tests && !m.output.any path.same) = true ↔
          sel.tests = true ∧ ¬ m.SharesOutput := by
        rw [← sharesOutput_iff known, Bool.and_eq_true, Bool.not_eq_true', Bool.not_eq_true]
      simp only [Option.filter_some, wanted]
      split <;> rfl
  have production : (m.output.filter fun _ => sel.production).toList =
      if sel.production = true then m.output.toList else [] := by
    cases m.output <;> cases sel.production <;> simp
  rw [selectedOutputs, tests, production]

end Module

namespace Session

/-- The content of tests is left out: by the flag, or because the session asks for
a classpath of production code. -/
def OmitsTests (s : Session) : Prop :=
  s.policy.productionOnly = true ∨ s.policy.kind = some .productionCompile ∨
    s.policy.kind = some .productionRuntime

/-- Some handler says that production code depends on the tests behind an edge. -/
def OnTests (s : Session) (d : Dependency) : Prop :=
  ∃ h ∈ s.handlers.handlers, h.productionOnTests d = true

/-- Content of a kind is taken of the module behind an edge.  The handlers have a
say in what is taken of another module, and none in what a module takes of itself. -/
def Wants (s : Session) (d : Dependency) : SourceKind → Prop
  | .production => d.target = .source ∨ ¬ s.OnTests d
  | .test =>
    d.target = .source ∧ ¬ s.OmitsTests ∨
    d.target ≠ .source ∧
      ((¬ s.OmitsTests ∧ ∀ h ∈ s.handlers.handlers, h.testsFromDependents = true) ∨ s.OnTests d)

instance (s : Session) : Decidable s.OmitsTests :=
  inferInstanceAs (Decidable (_ ∨ _ ∨ _))

instance (s : Session) (d : Dependency) : Decidable (s.OnTests d) :=
  inferInstanceAs (Decidable (∃ h ∈ s.handlers.handlers, h.productionOnTests d = true))

instance (s : Session) (d : Dependency) : DecidablePred (s.Wants d)
  | .production => inferInstanceAs (Decidable (_ ∨ _))
  | .test => inferInstanceAs (Decidable (_ ∧ _ ∨ _ ∧ _))

/-- The module whose content stands behind an entry: the owner of an edge to its
own sources, or the target of an edge that was not followed. -/
inductive ProjectsOnto (s : Session) (e : Enumerated) (m : Module) : Prop
  | own (points : e.edge.target = .source) (found : s.project.module? e.edge.owner = some m)
  | other {name : String} (points : e.edge.target = .module name) (unfollowed : e.expanded = false)
      (found : s.project.module? name = some m)

/-- The name behind an edge stands for nothing. -/
def Unknown (s : Session) (d : Dependency) : Prop :=
  match d.target with
  | .source => s.project.module? d.owner = none
  | .module name => s.project.module? name = none
  | .library name => s.project.library? name = none
  | .sdk name => s.project.sdk? name = none

/-- The library or SDK that an edge points at. -/
inductive PointsAt (s : Session) (d : Dependency) (b : Bundle) : Prop
  | library {name : String} (points : d.target = .library name)
      (found : s.project.library? name = some b)
  | sdk {name : String} (points : d.target = .sdk name) (found : s.project.sdk? name = some b)

/-- The roots behind an entry. -/
inductive Contributes (s : Session) (q : RootQuery) (e : Enumerated) : List Path → Prop
  /-- The content of a followed module is listed among its own edges. -/
  | followed {name : String} (points : e.edge.target = .module name)
      (expanded : e.expanded = true) : s.Contributes q e []
  | unknown (unknown : s.Unknown e.edge) : s.Contributes q e []
  | archives {b : Bundle} (behind : s.PointsAt e.edge b) (asked : q.kind = .compiled) :
      s.Contributes q e b.classes
  | sourceArchives {b : Bundle} (behind : s.PointsAt e.edge b) (asked : q.kind = .sources) :
      s.Contributes q e b.sources
  | sources {m : Module} (projected : s.ProjectsOnto e m) (asked : q.kind = .sources) :
      s.Contributes q e ((m.sourceRoots.filter (s.Wants e.edge ·.kind)).map (·.path))
  /-- Tests come before production. -/
  | outputs {m : Module} (projected : s.ProjectsOnto e m) (asked : q.kind = .compiled)
      (shown : ¬ (q.withoutSelfOutput = true ∧ ∃ root ∈ s.roots, root.name = m.name)) :
      s.Contributes q e
        ((if s.Wants e.edge .test ∧ ¬ m.SharesOutput then m.testOutput.toList else []) ++
          if s.Wants e.edge .production then m.output.toList else [])
  /-- The outputs of a root are left out where this is asked for, unless production and
  tests are both wanted. -/
  | selfOutput {m : Module} (projected : s.ProjectsOnto e m) (asked : q.kind = .compiled)
      (hidden : q.withoutSelfOutput = true) (member : ∃ root ∈ s.roots, root.name = m.name) :
      s.Contributes q e
        (if s.Wants e.edge .production ∧ s.Wants e.edge .test then m.output.toList else [])

variable {s : Session} {q : RootQuery} {e : Enumerated} {m : Module} {paths : List Path}

theorem isProductionOnly_iff : s.isProductionOnly = true ↔ s.OmitsTests := by
  simp only [isProductionOnly, ScopePolicy.isProductionOnly, OmitsTests, Bool.or_eq_true]
  refine or_congr_right ?_
  cases s.policy.kind with
  | none => simp
  | some kind => cases kind <;> simp [ClasspathKind.isProduction]

theorem productionOnTests_iff {d : Dependency} :
    s.handlers.productionOnTests d = true ↔ s.OnTests d := by
  simp [HandlerSet.productionOnTests, HandlerSet.anyAgrees, OnTests]

theorem testsFromDependents_iff :
    s.handlers.testsFromDependents = true ↔
      ∀ h ∈ s.handlers.handlers, h.testsFromDependents = true := by
  simp [HandlerSet.testsFromDependents, HandlerSet.allAgree]

theorem isRoot_iff : s.isRoot m = true ↔ ∃ root ∈ s.roots, root.name = m.name := by
  simp [isRoot]

theorem contributor_eq_some_iff : s.contributor e = some m ↔ s.ProjectsOnto e m := by
  constructor
  · intro found
    unfold contributor at found
    split at found
    · next points => exact .own points found
    · next name points =>
      split at found
      · contradiction
      · next unfollowed => exact .other points (by simpa using unfollowed) found
    · contradiction
  · rintro (⟨points, found⟩ | ⟨points, unfollowed, found⟩)
    · simp [contributor, points, found]
    · simp [contributor, points, unfollowed, found]

/-- The content asked for is the content wanted, where there is a module to take it
from. -/
theorem wants_selection_iff (projected : s.ProjectsOnto e m) (kind : SourceKind) :
    (s.selection e.edge).wants kind = true ↔ s.Wants e.edge kind := by
  obtain ⟨points, -⟩ | ⟨points, -, -⟩ := projected
  · cases kind with
    | production => simp [selection, Selection.wants, Wants, points]
    | test =>
      simp [selection, Selection.wants, Wants, points, ← isProductionOnly_iff]
  · cases kind with
    | production =>
      simp [selection, Selection.wants, Wants, points, ← productionOnTests_iff]
    | test =>
      simp [selection, Selection.wants, Wants, points, ← productionOnTests_iff,
        ← isProductionOnly_iff, testsFromDependents_iff]

theorem selectedSources_eq (projected : s.ProjectsOnto e m) :
    m.selectedSources (s.selection e.edge) =
      (m.sourceRoots.filter (s.Wants e.edge ·.kind)).map (·.path) := by
  rw [Module.selectedSources]
  congr 1
  apply List.filter_congr
  intro root _
  rw [Bool.eq_iff_iff, wants_selection_iff projected, decide_eq_true_iff]

theorem selectedOutputs_eq (projected : s.ProjectsOnto e m) :
    m.selectedOutputs (s.selection e.edge) =
      (if s.Wants e.edge .test ∧ ¬ m.SharesOutput then m.testOutput.toList else []) ++
        if s.Wants e.edge .production then m.output.toList else [] := by
  rw [Module.selectedOutputs_eq]
  simp only [← wants_selection_iff projected, Selection.wants]

theorem moduleRoots_self (projected : s.ProjectsOnto e m) (asked : q.kind = .compiled)
    (hidden : q.withoutSelfOutput = true) (member : ∃ root ∈ s.roots, root.name = m.name) :
    s.moduleRoots q m (s.selection e.edge) =
      if s.Wants e.edge .production ∧ s.Wants e.edge .test then m.output.toList else [] := by
  have root : s.isRoot m = true := isRoot_iff.2 member
  simp only [moduleRoots, asked, hidden, root, ← wants_selection_iff projected, Selection.wants,
    Bool.and_self, if_true, Bool.and_eq_true]

theorem moduleRoots_outputs (asked : q.kind = .compiled)
    (shown : ¬ (q.withoutSelfOutput = true ∧ ∃ root ∈ s.roots, root.name = m.name))
    (sel : Selection) : s.moduleRoots q m sel = m.selectedOutputs sel := by
  rw [← isRoot_iff, ← Bool.and_eq_true] at shown
  simp only [moduleRoots, asked, if_neg shown]

/-! ### The relation and the function -/

theorem contribution_of_projectsOnto (projected : s.ProjectsOnto e m) :
    s.contribution q e = s.moduleRoots q m (s.selection e.edge) := by
  have contributor := contributor_eq_some_iff.2 projected
  obtain ⟨points, -⟩ | ⟨points, -, -⟩ := projected <;> simp [contribution, contributor, points]

theorem contribution_of_unknown (unknown : s.Unknown e.edge) : s.contribution q e = [] := by
  unfold Unknown at unknown
  split at unknown
  · next points => simp [contribution, contributor, points, unknown]
  · next name points => simp [contribution, contributor, points, unknown]
  · next name points => simp [contribution, points, unknown]
  · next name points => simp [contribution, points, unknown]

theorem contribution_of_pointsAt {b : Bundle} (behind : s.PointsAt e.edge b) :
    s.contribution q e = b.roots q.kind := by
  obtain ⟨points, found⟩ | ⟨points, found⟩ := behind <;> simp [contribution, points, found]

/-- The relation holds of nothing but what the function gives. -/
theorem Contributes.eq_contribution (contributes : s.Contributes q e paths) :
    paths = s.contribution q e := by
  cases contributes with
  | followed points expanded => simp [contribution, contributor, points, expanded]
  | unknown unknown => rw [contribution_of_unknown unknown]
  | archives behind asked =>
    rw [contribution_of_pointsAt behind, asked]
    rfl
  | sourceArchives behind asked =>
    rw [contribution_of_pointsAt behind, asked]
    rfl
  | sources projected asked =>
    rw [contribution_of_projectsOnto projected, ← selectedSources_eq projected]
    simp only [moduleRoots, asked]
  | outputs projected asked shown =>
    rw [contribution_of_projectsOnto projected, moduleRoots_outputs asked shown,
      selectedOutputs_eq projected]
  | selfOutput projected asked hidden member =>
    rw [contribution_of_projectsOnto projected, moduleRoots_self projected asked hidden member]

/-- A module that an entry is projected onto contributes. -/
theorem exists_contributes_of_projectsOnto (q : RootQuery) (projected : s.ProjectsOnto e m) :
    ∃ paths, s.Contributes q e paths := by
  cases asked : q.kind with
  | sources => exact ⟨_, .sources projected asked⟩
  | compiled =>
    by_cases self : q.withoutSelfOutput = true ∧ ∃ root ∈ s.roots, root.name = m.name
    · exact ⟨_, .selfOutput projected asked self.1 self.2⟩
    · exact ⟨_, .outputs projected asked self⟩

/-- A library or an SDK contributes. -/
theorem exists_contributes_of_pointsAt (q : RootQuery) {b : Bundle}
    (behind : s.PointsAt e.edge b) : ∃ paths, s.Contributes q e paths := by
  cases asked : q.kind with
  | compiled => exact ⟨_, .archives behind asked⟩
  | sources => exact ⟨_, .sourceArchives behind asked⟩

/-- Every entry is one of the cases. -/
theorem exists_contributes (s : Session) (q : RootQuery) (e : Enumerated) :
    ∃ paths, s.Contributes q e paths := by
  by_cases unknown : s.Unknown e.edge
  · exact ⟨_, .unknown unknown⟩
  rw [Unknown] at unknown
  split at unknown
  · next points =>
    obtain ⟨m, found⟩ := Option.ne_none_iff_exists'.1 unknown
    exact exists_contributes_of_projectsOnto q (.own points found)
  · next name points =>
    obtain ⟨m, found⟩ := Option.ne_none_iff_exists'.1 unknown
    cases expanded : e.expanded with
    | true => exact ⟨_, .followed points expanded⟩
    | false => exact exists_contributes_of_projectsOnto q (.other points expanded found)
  · next name points =>
    obtain ⟨b, found⟩ := Option.ne_none_iff_exists'.1 unknown
    exact exists_contributes_of_pointsAt q (.library points found)
  · next name points =>
    obtain ⟨b, found⟩ := Option.ne_none_iff_exists'.1 unknown
    exact exists_contributes_of_pointsAt q (.sdk points found)

/-- **The relation is the function.** -/
theorem contributes_iff : s.Contributes q e paths ↔ paths = s.contribution q e := by
  constructor
  · exact Contributes.eq_contribution
  · rintro rfl
    obtain ⟨paths, contributes⟩ := exists_contributes s q e
    rwa [← contributes.eq_contribution]

/-- **The roots are the first occurrences of what the listed edges contribute.**
What an edge contributes is determined by the declarations.  Of the paths that all
listed edges contribute in order, those are roots that no earlier path has the
components of, in the spelling in which they first come. -/
theorem roots_are_first_occurrences (s : Session) (q : RootQuery) :
    (∀ e, ∃! paths, s.Contributes q e paths) ∧
    ∃ parts : List (List Path), List.Forall₂ (s.Contributes q) s.dependencies parts ∧
      s.rootPaths q = parts.flatten.eraseDupsBy Path.same ∧
      ∀ p, p ∈ s.rootPaths q ↔
        ∃ before after, parts.flatten = before ++ p :: after ∧
          ∀ earlier ∈ before, earlier.components ≠ p.components := by
  have roots : s.rootPaths q =
      distinct Path.components (s.dependencies.map (s.contribution q)).flatten := by
    rw [rootPaths_eq_distinct, List.flatMap_def]
  refine ⟨fun e => ⟨s.contribution q e, contributes_iff.2 rfl, fun _ => contributes_iff.1⟩,
    s.dependencies.map (s.contribution q), ?_, ?_, fun p => ?_⟩
  · rw [List.forall₂_map_right_iff]
    exact List.forall₂_same.2 fun e _ => contributes_iff.2 rfl
  · rw [roots, eraseDupsBy_same]
  · rw [roots, mem_distinct_iff]

end Session

end Classpath
