import Classpath.Proofs.Roots.Contribution

/-!
# What the views hold

The views of a session take something from every listed edge and keep first
occurrences.  Which modules, libraries and roots a view holds does not depend on
the order of the walk: it holds what some listed edge gives.  A name stands for one
module and one library, so that these are kept as they are; of a path some
spelling is kept.

In which order they are held does depend on the walk.  Two sessions that list the same,
and take the same from what they list, show the same in the same order.

## Main definitions

* `Session.ShowsLike` — two sessions show the same, in the same order

## Main statements

* `Session.mem_modules_iff`, `Session.mem_libraries_iff` — the modules and the
  libraries of a session
* `Session.exists_contribution_of_mem_rootPaths`, `Session.exists_same_root` — the
  roots of a session, up to spelling
* `Session.ShowsLike.of_dependencies` — what it takes to show the same
-/

namespace Classpath

namespace Session

variable {s : Session} {q : RootQuery} {m : Module} {b : Bundle}

/-- A module that contributes is the one its name stands for. -/
theorem module?_name_of_contributor {e : Enumerated} (found : s.contributor e = some m) :
    s.project.module? m.name = some m := by
  obtain ⟨-, known⟩ | ⟨-, -, known⟩ := contributor_eq_some_iff.1 found
  all_goals
    rw [Project.name_of_module? known]
    exact known

theorem libraryOf_eq_some_iff {e : Enumerated} :
    s.libraryOf e = some b ↔
      ∃ name, e.edge.target = .library name ∧ s.project.library? name = some b := by
  unfold libraryOf
  cases points : e.edge.target <;> simp

/-- A library that an edge points at is the one its name stands for. -/
theorem library?_name_of_libraryOf {e : Enumerated} (found : s.libraryOf e = some b) :
    s.project.library? b.name = some b := by
  obtain ⟨name, -, known⟩ := libraryOf_eq_some_iff.1 found
  have same : b.name = name := by simpa using List.find?_some known
  rw [same]
  exact known

/-- **The modules of a session** are those that some listed edge takes content of. -/
theorem mem_modules_iff : m ∈ s.modules ↔ ∃ e ∈ s.dependencies, s.contributor e = some m := by
  have stands : ∀ m ∈ s.dependencies.filterMap s.contributor,
      s.project.module? m.name = some m := by
    intro m member
    obtain ⟨e, -, found⟩ := List.mem_filterMap.1 member
    exact module?_name_of_contributor found
  exact (mem_distinct_of_stands Module.name stands).trans List.mem_filterMap

/-- **The libraries of a session** are those that some listed edge points at. -/
theorem mem_libraries_iff : b ∈ s.libraries ↔ ∃ e ∈ s.dependencies, s.libraryOf e = some b := by
  have stands : ∀ b ∈ s.dependencies.filterMap s.libraryOf,
      s.project.library? b.name = some b := by
    intro b member
    obtain ⟨e, -, found⟩ := List.mem_filterMap.1 member
    exact library?_name_of_libraryOf found
  exact (mem_distinct_of_stands Bundle.name stands).trans List.mem_filterMap

/-- Every root stands behind some listed edge, in the same spelling. -/
theorem exists_contribution_of_mem_rootPaths {p : Path} (member : p ∈ s.rootPaths q) :
    ∃ e ∈ s.dependencies, p ∈ s.contribution q e := by
  rw [rootPaths_eq_distinct] at member
  exact List.mem_flatMap.1 (distinct_subset _ member)

/-- **What stands behind a listed edge is a root**, in some spelling. -/
theorem exists_same_root {e : Enumerated} (listed : e ∈ s.dependencies) {p : Path}
    (member : p ∈ s.contribution q e) : ∃ root ∈ s.rootPaths q, root.same p = true := by
  have kept : p.components ∈ (s.rootPaths q).map Path.components := by
    rw [rootPaths_eq_distinct, mem_map_distinct]
    exact List.mem_map_of_mem (List.mem_flatMap.2 ⟨e, listed, member⟩)
  obtain ⟨root, memberHere, same⟩ := List.mem_map.1 kept
  exact ⟨root, memberHere, Path.same_iff.2 same⟩

/-- Both sessions show the same: the same entries with the same expanded flags, the same
modules and libraries, and the same roots in the same spelling for every query, all in the
same order. -/
structure ShowsLike (s t : Session) : Prop where
  dependencies : s.dependencies = t.dependencies
  modules : s.modules = t.modules
  libraries : s.libraries = t.libraries
  rootPaths : ∀ q, s.rootPaths q = t.rootPaths q

/-- **Sessions that list the same show the same**, if they take the same from each entry
that they list. -/
theorem ShowsLike.of_dependencies {t : Session} (listed : s.dependencies = t.dependencies)
    (contributor : ∀ e ∈ s.dependencies, s.contributor e = t.contributor e)
    (libraryOf : ∀ e ∈ s.dependencies, s.libraryOf e = t.libraryOf e)
    (contribution : ∀ q, ∀ e ∈ s.dependencies, s.contribution q e = t.contribution q e) :
    s.ShowsLike t where
  dependencies := listed
  modules := by
    rw [Session.modules, Session.modules, ← listed, List.filterMap_congr contributor]
  libraries := by
    rw [Session.libraries, Session.libraries, ← listed, List.filterMap_congr libraryOf]
  rootPaths q := by
    rw [rootPaths_eq_distinct, rootPaths_eq_distinct, ← listed,
      List.flatMap_congr (contribution q)]

end Session

end Classpath
