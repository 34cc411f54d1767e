import Classpath.ProjectFile.Project
import Classpath.Proofs.Containment
import Classpath.Proofs.Walk.Decisions

/-!
# The list of root modules

A session is opened on a list of root modules, and three things depend on the list: where
the walk starts, which modules count as roots, and which handlers there are.  The walk
enters a module that is a root and a dependency at different moments, and from different
modules, in different orders of the list.  Still the list counts as a set.  What is
reached does not depend on the order, roots are recognised by their names, and so do the
factories look at the names of roots and at nothing else.

Repeated modules do not count either, and leave even the order of what is shown as it is.

## Main definitions

* `SameNames` — two lists of modules hold the same names
* `Factory.Standard` — the factories that look at the names of roots
* `Session.reopened` — the session with other roots and the handlers made for them

## Main statements

* `Session.perm_dependencies_withRoots` — roots in another order list the same edges
* `Session.roots_count_as_a_set` — root lists with the same names, and repeated roots
-/

namespace Classpath

/-- Two lists of modules hold the same names, in whatever order and number. -/
def SameNames (ms ms' : List Module) : Prop :=
  ∀ name, name ∈ ms.map Module.name ↔ name ∈ ms'.map Module.name

namespace SameNames

variable {ms ms' : List Module}

theorem symm (same : SameNames ms ms') : SameNames ms' ms :=
  fun name => (same name).symm

/-- A question about names is answered alike for both lists. -/
theorem any_name (same : SameNames ms ms') (question : String → Bool) :
    (ms.any fun m => question m.name) = ms'.any fun m => question m.name := by
  have answers : ∀ l : List Module,
      (l.any fun m => question m.name) = (l.map Module.name).any question := by
    intro l
    rw [List.any_map]
    rfl
  rw [answers, answers, Bool.eq_iff_iff, List.any_eq_true, List.any_eq_true]
  constructor
  · rintro ⟨name, member, yes⟩
    exact ⟨name, (same name).1 member, yes⟩
  · rintro ⟨name, member, yes⟩
    exact ⟨name, (same name).2 member, yes⟩

/-- Lists of modules that a project declares hold the same modules if they hold the same
names. -/
theorem subset_of_declared {p : Project} (same : SameNames ms ms')
    (declared : ∀ m ∈ ms, p.module? m.name = some m)
    (declared' : ∀ m ∈ ms', p.module? m.name = some m) : ms ⊆ ms' := by
  intro m member
  obtain ⟨m', member', named⟩ := List.mem_map.1 ((same m.name).1 (List.mem_map_of_mem member))
  have found := declared' m' member'
  rw [named, declared m member] at found
  rwa [Option.some.inj found]

end SameNames

/-- First occurrences hold the names of the whole list. -/
theorem sameNames_distinct (ms : List Module) : SameNames ms (distinct Module.name ms) :=
  fun _ => mem_map_distinct.symm

/-! ## Handlers for the roots -/

/-- The factories that there are: one makes its handler for all roots, one for root lists
that hold a certain name, and one is declared in a file. -/
inductive Factory.Standard : Factory → Prop
  | always (h : Handler) : Standard (.always h)
  | onlyFor (h : Handler) (root : String) : Standard (.onlyFor h root)
  | declared (name : String) (s : HandlerSection) : Standard (s.factory name)

section

variable {roots roots' : List Module}

/-- A factory looks at the names of roots alone. -/
theorem Factory.Standard.create_congr {f : Factory} (standard : f.Standard)
    (same : SameNames roots roots') : f.create roots = f.create roots' := by
  cases standard with
  | always h => rfl
  | onlyFor h root =>
    have named := same.any_name fun name => decide (name = root)
    simp only [Factory.onlyFor, named]
  | declared name s =>
    have applies : s.isFor roots = s.isFor roots' := by
      rw [HandlerSection.isFor, HandlerSection.isFor]
      exact congrArg (s.appliesTo.isEmpty || ·) (same.any_name s.appliesTo.contains)
    simp only [HandlerSection.factory, applies]

/-- So a registry makes the same handlers for root lists with the same names. -/
theorem Registry.handlersFor_congr {r : Registry} (standard : ∀ f ∈ r.factories, f.Standard)
    (same : SameNames roots roots') : r.handlersFor roots = r.handlersFor roots' := by
  rw [handlersFor, handlersFor]
  congr 1
  apply List.filterMap_congr
  intro f member
  exact (standard f member).create_congr same

end

namespace Session

/-- The same session with other roots. -/
def withRoots (s : Session) (roots : List Module) : Session :=
  { s with roots }

/-- The session with other roots, and with the handlers that a registry makes for them. -/
def reopened (s : Session) (r : Registry) (roots : List Module) : Session :=
  { s with roots, handlers := r.handlersFor roots }

variable {s : Session} {roots : List Module} {m : Module} {d : Dependency}

/-! ## What an edge depends on -/

section SameNames

variable (same : SameNames s.roots roots)
include same

/-- The same modules count as roots. -/
theorem isRoot_withRoots (m : Module) : (s.withRoots roots).isRoot m = s.isRoot m :=
  (same.any_name fun name => decide (name = m.name)).symm

theorem isCandidate_withRoots : (s.withRoots roots).isCandidate m d = s.isCandidate m d := by
  unfold isCandidate looksAt
  rw [isRoot_withRoots same]
  rfl

theorem accepts_withRoots : (s.withRoots roots).accepts m d = s.accepts m d := by
  unfold accepts
  rw [isRoot_withRoots same]
  rfl

theorem takes_withRoots (p : Position) : (s.withRoots roots).takes p = s.takes p := by
  rw [takes, takes, isCandidate_withRoots same, accepts_withRoots same]

theorem entries_withRoots (ps : List Position) :
    (s.withRoots roots).entries ps = s.entries ps := by
  have takes : (s.withRoots roots).takes = s.takes := funext (takes_withRoots same)
  have entry : (s.withRoots roots).entry = s.entry := rfl
  rw [entries, entries, takes, entry]

theorem verdict_withRoots (m : Module) (d : Dependency) :
    (s.withRoots roots).verdict m d = s.verdict m d := by
  unfold verdict
  rw [isCandidate_withRoots same, accepts_withRoots same]
  rfl

/-- The same stands behind an entry. -/
theorem contribution_withRoots (q : RootQuery) (e : Enumerated) :
    (s.withRoots roots).contribution q e = s.contribution q e := by
  have moduleRoots : (s.withRoots roots).moduleRoots q = s.moduleRoots q := by
    funext m sel
    unfold Session.moduleRoots
    rw [isRoot_withRoots same]
  unfold contribution
  rw [moduleRoots]
  rfl

/-! ## Roots in another order -/

section Declared

variable (declared : s.RootsDeclared) (declared' : (s.withRoots roots).RootsDeclared)
include declared declared'

/-- The same modules are reached. -/
theorem reaches_withRoots_iff : (s.withRoots roots).Reaches m ↔ s.Reaches m := by
  have project : (s.withRoots roots).project = s.project := rfl
  have takes : ∀ p, (s.withRoots roots).takes p = s.takes p := takes_withRoots same
  constructor
  · intro reached
    have fewer : (s.withRoots roots).roots ⊆ s.roots :=
      same.symm.subset_of_declared declared' declared
    refine reached.mono project fewer id ?_
    intro p taken
    rwa [takes] at taken
  · intro reached
    have fewer : s.roots ⊆ (s.withRoots roots).roots :=
      same.subset_of_declared declared declared'
    refine reached.mono project.symm fewer id ?_
    intro p taken
    rwa [takes]

/-- **Roots in another order list the same edges**, with the same expanded flags and as
often.  Both listings are, up to order, what the reached modules give. -/
theorem perm_dependencies_withRoots :
    s.dependencies.Perm (s.withRoots roots).dependencies := by
  have entered : s.walk.entered.toFinset = (s.withRoots roots).walk.entered.toFinset := by
    ext m
    rw [List.mem_toFinset, List.mem_toFinset, mem_entered_walk_iff declared,
      mem_entered_walk_iff declared', reaches_withRoots_iff same declared declared']
  rw [← Multiset.coe_eq_coe, coe_dependencies declared, coe_dependencies declared', entered]
  refine Finset.sum_congr rfl ?_
  intro m _
  rw [entries_withRoots same]

/-- Roots in another order show nothing else. -/
theorem containedIn_withRoots :
    s.ContainedIn (s.withRoots roots) ∧ (s.withRoots roots).ContainedIn s := by
  have perm := perm_dependencies_withRoots same declared declared'
  have isRoot : ∀ m, (s.withRoots roots).isRoot m = s.isRoot m := isRoot_withRoots same
  have itself : ∀ sel : Selection, sel.Within sel := fun _ _ wanted => wanted
  constructor
  · refine .of_dependencies rfl perm.subset ?_
    intro q q' stricter e _
    exact contribution_subset rfl (fun m => (isRoot m).symm) stricter (itself _)
  · refine .of_dependencies rfl perm.symm.subset ?_
    intro q q' stricter e _
    exact contribution_subset rfl isRoot stricter (itself _)

end Declared

end SameNames

/-! ## Repeated roots -/

/-- The walk is the same, step for step, without repeated roots. -/
theorem walk_distinct (s : Session) :
    (s.withRoots (distinct Module.name s.roots)).walk = s.walk := by
  have verdicts := verdict_withRoots (sameNames_distinct s.roots)
  calc Walk.runAll (s.withRoots (distinct Module.name s.roots)) {} (distinct Module.name s.roots)
      = Walk.runAll s {} (distinct Module.name s.roots) := Walk.runAll_congr verdicts _ _
    _ = Walk.runAll s {} s.roots := Walk.runAll_distinct rfl s.roots

/-- **Repeated roots do not count**, not even for the order of what is shown. -/
theorem showsLike_distinct (s : Session) :
    s.ShowsLike (s.withRoots (distinct Module.name s.roots)) := by
  refine .of_dependencies ?_ (fun _ _ => rfl) (fun _ _ => rfl) ?_
  · rw [dependencies, dependencies, walk_distinct]
  · intro q e _
    exact (contribution_withRoots (sameNames_distinct s.roots) q e).symm

/-- A session that is reopened on roots with the same names has the same handlers. -/
theorem reopened_eq_withRoots {r : Registry} (standard : ∀ f ∈ r.factories, f.Standard)
    {roots' : List Module} (same : SameNames roots roots') :
    s.reopened r roots' = (s.reopened r roots).withRoots roots' := by
  unfold reopened withRoots
  rw [Registry.handlersFor_congr standard same]

/-- **The root modules count as a set.**  Take any session and any registry, and open the
session on two lists of modules of the project that hold the same names.  Then the same
edges are listed, as often and with the same expanded flags, and the same modules,
libraries and roots are shown, the roots in some spelling.  Opened on a list without its
repeated modules, the session shows the same in the same order. -/
theorem roots_count_as_a_set (s : Session) (r : Registry)
    (standard : ∀ f ∈ r.factories, f.Standard) (roots : List Module) :
    (∀ roots', SameNames roots roots' → (s.reopened r roots).RootsDeclared →
      (s.reopened r roots').RootsDeclared →
      (s.reopened r roots).dependencies.Perm (s.reopened r roots').dependencies ∧
      (s.reopened r roots).ContainedIn (s.reopened r roots') ∧
      (s.reopened r roots').ContainedIn (s.reopened r roots)) ∧
    (s.reopened r roots).ShowsLike (s.reopened r (distinct Module.name roots)) := by
  constructor
  · intro roots' same declared declared'
    rw [reopened_eq_withRoots standard same] at declared' ⊢
    exact ⟨perm_dependencies_withRoots same declared declared',
      containedIn_withRoots same declared declared'⟩
  · rw [reopened_eq_withRoots standard (sameNames_distinct roots)]
    exact showsLike_distinct _

/-- A registry with a factory of every kind.  The one for `web` declines for the roots of
the layered project, and the one that is declared answers for `util`. -/
def opinions : Registry where
  factories := [.always .promotingRuntime, .onlyFor .nonRecursive "web",
    HandlerSection.factory "build" { appliesTo := ["util"], includeTestsFromDependents := false }]

/-- The three modules of the layered project depend on each other, so that from each of
them the walk goes another way.  With `util` first, and with `app` repeated, they show what
they show in the order of the project. -/
theorem layered_roots_count_as_a_set :
    let roots := layered.project.modules
    let turned := roots.reverse ++ layered.roots
    (∀ f ∈ opinions.factories, f.Standard) ∧ SameNames roots turned ∧
      (layered.reopened opinions roots).dependencies.Perm
        (layered.reopened opinions turned).dependencies ∧
      (layered.reopened opinions roots).ContainedIn (layered.reopened opinions turned) ∧
      (layered.reopened opinions turned).ContainedIn (layered.reopened opinions roots) ∧
      (layered.reopened opinions turned).ShowsLike
        (layered.reopened opinions (distinct Module.name turned)) := by
  intro roots turned
  have standard : ∀ f ∈ opinions.factories, f.Standard := by
    intro f member
    simp only [opinions, List.mem_cons, List.not_mem_nil, or_false] at member
    rcases member with rfl | rfl | rfl
    · exact .always _
    · exact .onlyFor _ _
    · exact .declared _ _
  have same : SameNames roots turned := by
    intro name
    have names : turned.map Module.name = ["util", "core", "app", "app"] := rfl
    have names' : roots.map Module.name = ["app", "core", "util"] := rfl
    rw [names, names']
    simp only [List.mem_cons, List.not_mem_nil, or_false]
    tauto
  have declared : (layered.reopened opinions roots).RootsDeclared := by decide
  have declared' : (layered.reopened opinions turned).RootsDeclared := by decide
  obtain ⟨perm, within, within'⟩ :=
    (roots_count_as_a_set layered opinions standard roots).1 turned same declared declared'
  exact ⟨standard, same, perm, within, within',
    (roots_count_as_a_set layered opinions standard turned).2⟩

end Session

end Classpath
