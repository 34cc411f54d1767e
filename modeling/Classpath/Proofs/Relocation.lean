import Classpath.Proofs.FirstVisits
import Classpath.Proofs.Paths
import Classpath.Proofs.RootModules
import Classpath.Proofs.Roots.Provenance
import Classpath.Proofs.Walk.Outline

/-!
# A project that is moved

The relative paths of a project file are taken relative to the directory that the file lies
in.  If the file is moved to another directory, a session on it lists the same edges, as no
walk sees directories, and the roots behind these edges are the same paths of the file below
the new directory.

Two decisions are made about paths that were taken relative to the directory: whether a
root has been collected before, and whether a test output is the production output.  Both
compare components, and below a directory the components of two paths are the same if the
paths add the same to it.  So both turn out alike wherever the file lies.

## Main definitions

* `ProjectFile.paths` — the paths that a file names
* `Session.MovedTo` — the same session on the file in another directory
* `ProjectFile.Relocates` — two lists of paths are one list of paths of the file, below
  either directory

## Main statements

* `Session.relocates_contribution` — what a listed edge gives is relocated
* `Session.moved_roots` — so are the roots, and repetitions and shared outputs stay what
  they are
-/

namespace Classpath

/-! ## First occurrences of what is built from a list -/

/-- First occurrences are found before or after a list is mapped, if the keys make the same
distinctions. -/
theorem distinct_map_of_iff {α β κ κ' : Type} [DecidableEq κ] [DecidableEq κ'] {key : β → κ}
    {key' : α → κ'} {g : α → β} {l : List α}
    (alike : ∀ a ∈ l, ∀ a' ∈ l, key (g a) = key (g a') ↔ key' a = key' a') :
    distinct key (l.map g) = (distinct key' l).map g := by
  induction l using List.reverseRecOn with
  | nil => rfl
  | append_singleton l a ih =>
    have before : ∀ a ∈ l, ∀ a' ∈ l, key (g a) = key (g a') ↔ key' a = key' a' :=
      fun b member c member' =>
        alike b (List.mem_append_left _ member) c (List.mem_append_left _ member')
    have known : key (g a) ∈ (l.map g).map key ↔ key' a ∈ l.map key' := by
      simp only [List.mem_map, exists_exists_and_eq_and]
      refine exists_congr fun b => and_congr_right fun member => ?_
      exact alike b (List.mem_append_left _ member) a (by simp)
    rw [List.map_append, List.map_singleton, distinct_concat, distinct_concat, ih before]
    by_cases repeated : key' a ∈ l.map key'
    · rw [if_pos repeated, if_pos (known.2 repeated)]
    · rw [if_neg repeated, if_neg (mt known.1 repeated), List.map_append, List.map_singleton]

/-! ## The paths of a file -/

/-- The paths that a section of a module names. -/
def ModuleSection.paths (s : ModuleSection) : List Path :=
  s.output.toList ++ s.testOutput.toList ++ s.sources ++ s.testSources

/-- The paths that a section of a library or an SDK names. -/
def BundleSection.paths (s : BundleSection) : List Path :=
  s.classes ++ s.sources

namespace ProjectFile

/-- The paths that a file names. -/
def paths (f : ProjectFile) : List Path :=
  f.modules.entries.flatMap (·.2.paths) ++ f.libraries.entries.flatMap (·.2.paths) ++
    f.sdks.entries.flatMap (·.2.paths)

section

variable {f : ProjectFile} {name : String} {path : Path}

theorem mem_paths_of_module {m : ModuleSection} (owned : f.modules.get? name = some m)
    (member : path ∈ m.paths) : path ∈ f.paths :=
  List.mem_append_left _ (List.mem_append_left _
    (List.mem_flatMap.2 ⟨_, NameTable.get?_eq_some_iff.1 owned, member⟩))

theorem mem_paths_of_library {b : BundleSection} (owned : f.libraries.get? name = some b)
    (member : path ∈ b.paths) : path ∈ f.paths :=
  List.mem_append_left _ (List.mem_append_right _
    (List.mem_flatMap.2 ⟨_, NameTable.get?_eq_some_iff.1 owned, member⟩))

theorem mem_paths_of_sdk {b : BundleSection} (owned : f.sdks.get? name = some b)
    (member : path ∈ b.paths) : path ∈ f.paths :=
  List.mem_append_right _ (List.mem_flatMap.2 ⟨_, NameTable.get?_eq_some_iff.1 owned, member⟩)

end

/-- Two lists of paths are one list of paths of the file, taken relative to the one directory
and to the other. -/
def Relocates (f : ProjectFile) (base base' : Path) (paths paths' : List Path) : Prop :=
  ∃ named : List Path, (∀ p ∈ named, p ∈ f.paths) ∧
    paths = named.map base.join ∧ paths' = named.map base'.join

variable {f : ProjectFile} {base base' : Path} {paths paths' others others' : List Path}

namespace Relocates

theorem nil : f.Relocates base base' [] [] :=
  ⟨[], by simp, rfl, rfl⟩

theorem map {named : List Path} (known : ∀ p ∈ named, p ∈ f.paths) :
    f.Relocates base base' (named.map base.join) (named.map base'.join) :=
  ⟨named, known, rfl, rfl⟩

theorem append (first : f.Relocates base base' paths paths')
    (second : f.Relocates base base' others others') :
    f.Relocates base base' (paths ++ others) (paths' ++ others') := by
  obtain ⟨named, known, rfl, rfl⟩ := first
  obtain ⟨named', known', rfl, rfl⟩ := second
  rw [← List.map_append, ← List.map_append]
  exact .map fun p member => (List.mem_append.1 member).elim (known p) (known' p)

/-- Paths that are wanted or not wanted on both sides. -/
theorem ite {wanted wanted' : Prop} [Decidable wanted] [Decidable wanted']
    (alike : wanted ↔ wanted') (relocates : f.Relocates base base' paths paths') :
    f.Relocates base base' (if wanted then paths else []) (if wanted' then paths' else []) := by
  by_cases asked : wanted
  · rw [if_pos asked, if_pos (alike.1 asked)]
    exact relocates
  · rw [if_neg asked, if_neg (mt alike.2 asked)]
    exact .nil

/-- What entries give one by one, they give together. -/
theorem flatMap {ε : Type} {es es' : List ε} {R : ε → ε → Prop} {give give' : ε → List Path}
    (each : ∀ e e', R e e' → f.Relocates base base' (give e) (give' e'))
    (related : List.Forall₂ R es es') :
    f.Relocates base base' (es.flatMap give) (es'.flatMap give') := by
  induction related with
  | nil => exact .nil
  | cons here _ ih =>
    rw [List.flatMap_cons, List.flatMap_cons]
    exact (each _ _ here).append ih

end Relocates

section Directories

variable (relative : ∀ p ∈ f.paths, p.isAbsolute = false) (nonempty : base.text ≠ "")
  (nonempty' : base'.text ≠ "")
include relative nonempty nonempty'

/-- Below either directory the same paths are the same. -/
theorem same_join_congr {p p' : Path} (named : p ∈ f.paths) (named' : p' ∈ f.paths) :
    (base.join p).same (base.join p') = (base'.join p).same (base'.join p') := by
  rw [Bool.eq_iff_iff, Path.same_join_iff (relative p named) (relative p' named') nonempty,
    Path.same_join_iff (relative p named) (relative p' named') nonempty']

/-- Below either directory the same modules have one directory for production and test output. -/
theorem sharesOutput_toModule {name : String} {m : ModuleSection}
    (owned : f.modules.get? name = some m) :
    (m.toModule base name).SharesOutput ↔ (m.toModule base' name).SharesOutput := by
  have below : ∀ base : Path, (m.toModule base name).SharesOutput ↔
      ∃ tests ∈ m.testOutput, ∃ production ∈ m.output,
        (base.join tests).same (base.join production) = true := by
    simp [Module.SharesOutput, ModuleSection.toModule, Path.same_iff]
  rw [below, below]
  refine exists_congr fun tests => and_congr_right fun given => ?_
  refine exists_congr fun production => and_congr_right fun given' => ?_
  have named : tests ∈ f.paths :=
    mem_paths_of_module owned (by simp [ModuleSection.paths, Option.mem_def.1 given])
  have named' : production ∈ f.paths :=
    mem_paths_of_module owned (by simp [ModuleSection.paths, Option.mem_def.1 given'])
  rw [same_join_congr relative nonempty nonempty' named named']

/-- Below either directory the same outputs of a module are selected. -/
theorem relocates_selectedOutputs {name : String} {m : ModuleSection}
    (owned : f.modules.get? name = some m) (sel : Selection) :
    f.Relocates base base' ((m.toModule base name).selectedOutputs sel)
      ((m.toModule base' name).selectedOutputs sel) := by
  rw [Module.selectedOutputs_eq, Module.selectedOutputs_eq]
  have shares := sharesOutput_toModule relative nonempty nonempty' owned
  refine .append (.ite (and_congr_right fun _ => not_congr shares) ?_) (.ite Iff.rfl ?_)
  · rw [ModuleSection.toModule, ModuleSection.toModule, Option.toList_map, Option.toList_map]
    exact .map fun p member => mem_paths_of_module owned (by simp [ModuleSection.paths, member])
  · rw [ModuleSection.toModule, ModuleSection.toModule, Option.toList_map, Option.toList_map]
    exact .map fun p member => mem_paths_of_module owned (by simp [ModuleSection.paths, member])

end Directories

/-- Directories of one kind are all selected or none of them is. -/
theorem map_filter_wants (sel : Selection) (base : Path) (kind : SourceKind) (paths : List Path) :
    ((paths.map fun p => (⟨base.join p, kind⟩ : SourceRoot)).filter (sel.wants ·.kind)).map
      (·.path) = if sel.wants kind = true then paths.map base.join else [] := by
  rw [List.filter_map, List.map_map]
  cases wanted : sel.wants kind <;> simp [Function.comp_def, wanted]

/-- Below either directory the same sources of a module are selected. -/
theorem relocates_selectedSources {name : String} {m : ModuleSection}
    (owned : f.modules.get? name = some m) (sel : Selection) :
    f.Relocates base base' ((m.toModule base name).selectedSources sel)
      ((m.toModule base' name).selectedSources sel) := by
  simp only [Module.selectedSources, ModuleSection.toModule, List.filter_append, List.map_append,
    map_filter_wants]
  refine .append (.ite Iff.rfl (.map fun p member => ?_)) (.ite Iff.rfl (.map fun p member => ?_))
  all_goals exact mem_paths_of_module owned (by simp [ModuleSection.paths, member])

/-- Below either directory a library or an SDK has the same roots. -/
theorem relocates_roots {b : BundleSection} {name : String} (known : ∀ p ∈ b.paths, p ∈ f.paths)
    (kind : RootKind) :
    f.Relocates base base' ((b.toBundle base name).roots kind)
      ((b.toBundle base' name).roots kind) := by
  cases kind
  all_goals exact .map fun p member => known p (by simp [BundleSection.paths, member])

end ProjectFile

/-! ## Selected names -/

/-- Names are resolved to modules of these names. -/
theorem Project.map_name_of_resolveModules {p : Project} {names : List String}
    {roots : List Module} (resolved : p.resolveModules names = .ok roots) :
    roots.map Module.name = names := by
  induction names generalizing roots with
  | nil =>
    obtain rfl : [] = roots := Except.ok.inj resolved
    rfl
  | cons name rest ih =>
    rw [resolveModules] at resolved
    cases found : p.module? name with
    | none => simp [found] at resolved
    | some m =>
      cases later : p.resolveModules rest with
      | error missing => simp [found, later, Except.map] at resolved
      | ok others =>
        obtain rfl : m :: others = roots := by simpa [found, later, Except.map] using resolved
        rw [List.map_cons, name_of_module? found, ih later]

/-! ## The session on the file in another directory -/

namespace Session

/-- Two sessions on a file that lies in one directory and in another: their roots have the same
names, and their handlers, options and conditions are the same. -/
structure MovedTo (s t : Session) (f : ProjectFile) (base base' : Path) : Prop where
  project : s.project = f.toProject base
  project' : t.project = f.toProject base'
  declared : s.RootsDeclared
  declared' : t.RootsDeclared
  roots : t.roots.map Module.name = s.roots.map Module.name
  handlers : t.handlers = s.handlers
  policy : t.policy = s.policy
  traversal : t.traversal = s.traversal
  condition : t.condition = s.condition
  extensionOf : t.extensionOf = s.extensionOf

variable {s t : Session} {f : ProjectFile} {base base' : Path} {q : RootQuery} {e e' : Enumerated}

/-- Roots without directories are what their names stand for in the project without them. -/
theorem map_outline_roots (project : s.project = f.toProject base) (declared : s.RootsDeclared) :
    (s.roots.map Module.outline).map some =
      (s.roots.map Module.name).map (f.toProject base).outline.module? := by
  rw [List.map_map, List.map_map]
  refine List.map_congr_left fun root member => ?_
  have known := declared root member
  rw [project] at known
  rw [Function.comp_apply, Function.comp_apply, Project.module?_outline, known]
  rfl

namespace MovedTo

/-- **The sessions differ in directories alone.** -/
theorem outline_eq (moved : s.MovedTo t f base base') : s.outline = t.outline := by
  have project : (f.toProject base').outline = (f.toProject base).outline := by
    simp only [Project.outline, ProjectFile.toProject, List.map_map]
    rfl
  have roots : t.roots.map Module.outline = s.roots.map Module.outline := by
    apply List.map_injective_iff.2 (Option.some_injective Module)
    rw [map_outline_roots moved.project moved.declared,
      map_outline_roots moved.project' moved.declared', moved.roots, project]
  rw [outline, outline, moved.project, moved.project', project, roots, moved.handlers,
    moved.policy, moved.traversal, moved.condition, moved.extensionOf]

/-- The same names are those of roots. -/
theorem isRoot_eq (moved : s.MovedTo t f base base') (m : ModuleSection) (name : String) :
    t.isRoot (m.toModule base' name) = s.isRoot (m.toModule base name) := by
  have same : SameNames t.roots s.roots := fun name => by rw [moved.roots]
  exact same.any_name fun root => decide (root = name)

/-- An edge asks for the same content. -/
theorem selection_eq (moved : s.MovedTo t f base base') (d : Dependency) :
    t.selection d = s.selection d := by
  unfold selection isProductionOnly
  rw [moved.handlers, moved.policy]

end MovedTo

/-- **The same arguments open the same session** on the file in either directory. -/
theorem movedTo_of_openSession {a : Arguments} (opened : f.openSession base a = .ok s)
    (opened' : f.openSession base' a = .ok t) : s.MovedTo t f base base' := by
  have declared := (openedOn_of_openSession opened).declared
  have declared' := (openedOn_of_openSession opened').declared
  obtain ⟨roots, exclusion, selected, parsed, rfl⟩ := ProjectFile.parts_of_openSession opened
  obtain ⟨roots', exclusion', selected', parsed', rfl⟩ := ProjectFile.parts_of_openSession opened'
  obtain rfl : exclusion = exclusion' := Except.ok.inj (parsed.symm.trans parsed')
  have named : roots'.map Module.name = roots.map Module.name := by
    rw [Project.map_name_of_resolveModules (ProjectFile.resolveModules_of_selectRoots selected),
      Project.map_name_of_resolveModules (ProjectFile.resolveModules_of_selectRoots selected')]
  have handlers : f.registry.handlersFor roots' = f.registry.handlersFor roots := by
    refine Registry.handlersFor_congr (fun factory member => ?_) fun name => by rw [named]
    obtain ⟨⟨name, settings⟩, -, rfl⟩ := List.mem_map.1 member
    exact .declared name settings
  exact ⟨rfl, rfl, declared, declared', named, handlers, rfl, rfl, rfl, rfl⟩

section Directories

variable (relative : ∀ p ∈ f.paths, p.isAbsolute = false) (nonempty : base.text ≠ "")
  (nonempty' : base'.text ≠ "") (moved : s.MovedTo t f base base')
include relative nonempty nonempty' moved

/-- The roots of a module's content are relocated. -/
theorem relocates_moduleRoots {name : String} {m : ModuleSection}
    (owned : f.modules.get? name = some m) (q : RootQuery) (sel : Selection) :
    f.Relocates base base' (s.moduleRoots q (m.toModule base name) sel)
      (t.moduleRoots q (m.toModule base' name) sel) := by
  unfold moduleRoots
  rw [moved.isRoot_eq]
  cases q.kind with
  | sources => exact f.relocates_selectedSources owned sel
  | compiled =>
    cases q.withoutSelfOutput && s.isRoot (m.toModule base name) with
    | false => exact f.relocates_selectedOutputs relative nonempty nonempty' owned sel
    | true =>
      refine .ite Iff.rfl ?_
      rw [ModuleSection.toModule, ModuleSection.toModule, Option.toList_map, Option.toList_map]
      refine .map fun p member => ProjectFile.mem_paths_of_module owned ?_
      simp [ModuleSection.paths, member]

/-- **What a listed edge gives is relocated.** -/
theorem relocates_contribution (q : RootQuery) {e e' : Enumerated}
    (same : e.edge = e'.edge ∧ e.expanded = e'.expanded) :
    f.Relocates base base' (s.contribution q e) (t.contribution q e') := by
  obtain ⟨edge, expanded⟩ := same
  have content : ∀ name, f.Relocates base base'
      (((s.project.module? name).map (s.moduleRoots q · (s.selection e.edge))).getD [])
      (((t.project.module? name).map (t.moduleRoots q · (t.selection e.edge))).getD []) := by
    intro name
    rw [moved.selection_eq, moved.project, moved.project', ProjectFile.module?_toProject,
      ProjectFile.module?_toProject]
    cases owned : f.modules.get? name with
    | none => exact .nil
    | some m => exact relocates_moduleRoots relative nonempty nonempty' moved owned q _
  unfold contribution contributor
  rw [← edge, ← expanded]
  cases e.edge.target with
  | source => exact content e.edge.owner
  | module name =>
    cases e.expanded with
    | true => exact .nil
    | false => exact content name
  | library name =>
    simp only [moved.project, moved.project', ProjectFile.library?_toProject]
    cases owned : f.libraries.get? name with
    | none => exact .nil
    | some b =>
      have named : ∀ p ∈ b.paths, p ∈ f.paths := fun _ => ProjectFile.mem_paths_of_library owned
      exact ProjectFile.relocates_roots named q.kind
  | sdk name =>
    simp only [moved.project, moved.project', ProjectFile.sdk?_toProject]
    cases owned : f.sdks.get? name with
    | none => exact .nil
    | some b =>
      have named : ∀ p ∈ b.paths, p ∈ f.paths := fun _ => ProjectFile.mem_paths_of_sdk owned
      exact ProjectFile.relocates_roots named q.kind

end Directories

/-- The roots of a session are given by paths of the file, of which the first below each part of
the directory is kept. -/
theorem rootPaths_of_given {given : List Path} (relative : ∀ p ∈ given, p.isAbsolute = false)
    (nonempty : base.text ≠ "")
    (gives : s.dependencies.flatMap (s.contribution q) = given.map base.join) :
    s.rootPaths q = (distinct Path.below given).map base.join := by
  rw [rootPaths_eq_distinct, gives]
  refine distinct_map_of_iff fun p member p' member' => ?_
  rw [← Path.same_iff]
  exact Path.same_join_iff (relative p member) (relative p' member') nonempty

/-- **A project that is moved has its roots moved.**  Take a file, checked or not, whose
paths are all relative, two directories that are not the empty path, and a session on the
project of the file in either of them, with the same root modules, handlers, filters and
conditions.  What the listed edges give, repetitions included, is one list of paths of the
file, below the one directory and below the other; and the roots are what is kept of that
list when of the paths that add the same to a directory the first is kept.  In particular
the two have equally many roots, and each is one path of the file below either directory.

Whether a root repeats another one, and whether the test output of a module is its
production output, is the same in both directories. -/
theorem moved_roots (s t : Session) (f : ProjectFile) (base base' : Path) (q : RootQuery)
    (relative : ∀ p ∈ f.paths, p.isAbsolute = false) (nonempty : base.text ≠ "")
    (nonempty' : base'.text ≠ "") (moved : s.MovedTo t f base base') :
    (∃ given : List Path, (∀ p ∈ given, p ∈ f.paths) ∧
      s.dependencies.flatMap (s.contribution q) = given.map base.join ∧
      t.dependencies.flatMap (t.contribution q) = given.map base'.join ∧
      s.rootPaths q = (distinct Path.below given).map base.join ∧
      t.rootPaths q = (distinct Path.below given).map base'.join) ∧
    (∀ p ∈ f.paths, ∀ p' ∈ f.paths,
      (base.join p).same (base.join p') = (base'.join p).same (base'.join p')) ∧
    ∀ name m m', (f.toProject base).module? name = some m →
      (f.toProject base').module? name = some m' → (m.SharesOutput ↔ m'.SharesOutput) := by
  refine ⟨?_, fun p named p' named' =>
    ProjectFile.same_join_congr relative nonempty nonempty' named named', ?_⟩
  · have each : ∀ e e' : Enumerated, e.edge = e'.edge ∧ e.expanded = e'.expanded →
        f.Relocates base base' (s.contribution q e) (t.contribution q e') :=
      fun _ _ => relocates_contribution relative nonempty nonempty' moved q
    obtain ⟨given, named, gives, gives'⟩ := ProjectFile.Relocates.flatMap each
      (edges_congr moved.outline_eq)
    have relative : ∀ p ∈ given, p.isAbsolute = false := fun p member => relative p (named p member)
    exact ⟨given, named, gives, gives', rootPaths_of_given relative nonempty gives,
      rootPaths_of_given relative nonempty' gives'⟩
  · intro name m m' found found'
    rw [ProjectFile.module?_toProject] at found found'
    obtain ⟨owned, known, rfl⟩ := Option.map_eq_some_iff.1 found
    rw [known] at found'
    obtain rfl := Option.some.inj found'
    exact ProjectFile.sharesOutput_toModule relative nonempty nonempty' known

end Session

/-! ## A project below the root of the file system and elsewhere -/

namespace Moving

/-- The root module, whose tests and production content share a directory that is spelt in two
ways. -/
def app : ModuleSection where
  output := some ⟨"out/./app"⟩
  testOutput := some ⟨"out//app/"⟩
  dependencies := [{ library := some "zip" }, { module := some "core" }]

/-- A file that spells an archive in two ways, and names one beside its directory. -/
def file : ProjectFile where
  project := { roots := ["app"] }
  libraries := .ofList [
    ("zip", { classes := [⟨"lib/zip.jar"⟩, ⟨"./lib//zip.jar"⟩, ⟨"../zip.jar"⟩] })]
  modules := .ofList [("app", app), ("core", { output := some ⟨"./out/core"⟩ })]

/-- The session that is opened on the file in a directory. -/
def session (base : Path) : Session :=
  .start (file.toProject base) [app.toModule base "app"] {}

theorem openSession_file (base : Path) : file.openSession base {} = .ok (session base) := by
  rfl

theorem rootPaths_session : (session ⟨"/"⟩).rootPaths { kind := .compiled } =
    [⟨"/out/./app"⟩, ⟨"/lib/zip.jar"⟩, ⟨"/../zip.jar"⟩, ⟨"/./out/core"⟩] := by
  have declared := (Session.openedOn_of_openSession (openSession_file ⟨"/"⟩)).declared
  rw [Session.rootPaths_eq_distinct, Session.dependencies_of_direct rfl rfl declared]
  decide +kernel

/-- In another directory the file gives as many roots, and the tests of the root module still
share their directory. -/
theorem session_roots_move :
    (∀ p ∈ file.paths, p.isAbsolute = false) ∧
      (session ⟨"/"⟩).MovedTo (session ⟨"work/."⟩) file ⟨"/"⟩ ⟨"work/."⟩ ∧
      ((session ⟨"work/."⟩).rootPaths { kind := .compiled }).length = 4 ∧
      (app.toModule ⟨"work/."⟩ "app").SharesOutput := by
  have relative : ∀ p ∈ file.paths, p.isAbsolute = false := by decide +kernel
  have moved := Session.movedTo_of_openSession (openSession_file ⟨"/"⟩)
    (openSession_file ⟨"work/."⟩)
  obtain ⟨⟨given, -, -, -, roots, roots'⟩, -, shares⟩ := Session.moved_roots (session ⟨"/"⟩)
    (session ⟨"work/."⟩) file ⟨"/"⟩ ⟨"work/."⟩ { kind := .compiled } relative (by decide)
    (by decide) moved
  refine ⟨relative, moved, ?_, ?_⟩
  · have kept : (distinct Path.below given).length = 4 := by
      simpa [rootPaths_session] using (congrArg List.length roots).symm
    rw [roots', List.length_map, kept]
  · have shared : (app.toModule ⟨"/"⟩ "app").SharesOutput := by decide +kernel
    exact (shares "app" _ _ rfl rfl).1 shared

end Moving

end Classpath
