import Classpath.Program
import Classpath.Proofs.Relocation
import Classpath.Proofs.Views.Consistency
import Classpath.Proofs.Watching

/-!
# Roots in one text

A classpath is one text, with a separator between the roots.  Roots that hold the separator
cannot be told apart in it, so that nothing is printed if there is one.  Otherwise the text
is cut at the separators, and the parts are the texts of the roots, which are the lines of
the other format.

There is one thing that cutting a text does not tell: no root at all, and one root with an
empty text, would both be printed as the empty text.  A project file may well name the
empty path.  But a root is a path of the file below the directory that the file lies in, and
this directory is the working directory if the path of the file names none.  So no root has
an empty text.

## Main definitions

* `Path.HoldsSeparator` — a path that cannot be joined with others
* `splitPaths` — the parts of a classpath

## Main statements

* `splitPaths_joined` — paths that were joined are read back
* `Session.rootPaths_subset` — every root is a path of the file, below its directory
* `Session.listing_eq_error_iff` — what can go wrong once there is a session
* `Program.classpaths_are_read_back` — the roots of a project file in one text
-/

namespace Classpath

/-! ## Joining and cutting -/

/-- A path holds the character that stands between the roots of a classpath. -/
def Path.HoldsSeparator (p : Path) : Prop :=
  pathSeparator ∈ p.text.toList

instance : DecidablePred Path.HoldsSeparator :=
  fun p => inferInstanceAs (Decidable (pathSeparator ∈ p.text.toList))

/-- The texts between the separators of a classpath. -/
def splitPaths (text : String) : List String :=
  (text.toList.splitOn pathSeparator).map .ofList

/-- The failure to join roots. -/
def joiningFailure : Failure where
  circumstances := [.joiningRoots]
  cause := .separatorInRoot

section

variable {paths : List Path}

theorem joinPaths_eq_none_iff : joinPaths paths = none ↔ ∃ p ∈ paths, p.HoldsSeparator := by
  simp [joinPaths, Path.HoldsSeparator]

variable (free : ∀ p ∈ paths, ¬ p.HoldsSeparator)
include free

/-- Paths without separators are joined. -/
theorem joinPaths_of_free :
    joinPaths paths =
      some ((String.singleton pathSeparator).intercalate (paths.map Path.text)) := by
  have unheld : ¬ (paths.any fun p => p.text.toList.contains pathSeparator) = true := by
    simpa [Path.HoldsSeparator] using free
  rw [joinPaths, if_neg unheld]

/-- **Paths that were joined are read back**, unless there were none. -/
theorem splitPaths_joined (nonempty : paths ≠ []) :
    splitPaths ((String.singleton pathSeparator).intercalate (paths.map Path.text)) =
      paths.map Path.text := by
  have apart : ∀ cs ∈ paths.map fun p => p.text.toList, pathSeparator ∉ cs := by
    simpa [Path.HoldsSeparator] using free
  have chars : ((String.singleton pathSeparator).intercalate (paths.map Path.text)).toList =
      [pathSeparator].intercalate (paths.map fun p => p.text.toList) := by
    rw [String.toList_intercalate, String.toList_singleton, List.map_map]
    rfl
  rw [splitPaths, chars, List.splitOn_intercalate _ apart (by simpa using nonempty), List.map_map]
  simp [Function.comp_def]

/-- The empty text stands for no paths, if there is no empty path. -/
theorem joined_eq_empty_iff (named : ∀ p ∈ paths, p.text ≠ "") :
    (String.singleton pathSeparator).intercalate (paths.map Path.text) = "" ↔ paths = [] := by
  constructor
  · intro empty
    by_contra nonempty
    have parts := splitPaths_joined free nonempty
    rw [empty] at parts
    have member : "" ∈ paths.map Path.text := parts ▸ List.mem_singleton_self ""
    obtain ⟨p, here, unnamed⟩ := List.mem_map.1 member
    exact named p here unnamed
  · rintro rfl
    rfl

end

/-! ## Texts of roots -/

/-- A path below a directory has a text, even if it is the empty path. -/
theorem Path.text_join_ne_empty {base : Path} (nonempty : base.text ≠ "") (p : Path) :
    (base.join p).text ≠ "" := by
  intro empty
  cases absolute : p.isAbsolute with
  | true =>
    have same : base.join p = p := by rw [join, if_pos absolute]
    rw [same] at empty
    simp [isAbsolute, anchor, empty] at absolute
  | false =>
    obtain ⟨front, -, written⟩ := exists_front_of_join absolute nonempty
    simp [empty] at written

/-- The directory of a project file is not the empty path. -/
theorem text_projectDirectory_ne_empty {workingDirectory : Path}
    (nonempty : workingDirectory.text ≠ "") (file : Path) :
    (projectDirectory workingDirectory file).text ≠ "" := by
  unfold projectDirectory
  cases file.parent with
  | none => exact nonempty
  | some directory =>
    by_cases unnamed : directory.text = ""
    · simpa [unnamed] using nonempty
    · simp [unnamed]

/-- What is built of a section of a module has paths of the section. -/
theorem ModuleSection.paths_toModule_subset (m : ModuleSection) (base : Path) (name : String)
    (kind : RootKind) : (m.toModule base name).paths kind ⊆ m.paths.map base.join := by
  cases kind with
  | compiled =>
    have outputs : (m.toModule base name).paths .compiled =
        (m.output.toList ++ m.testOutput.toList).map base.join := by
      simp [Module.paths, toModule, Option.toList_map]
    rw [outputs, paths, List.append_assoc (_ ++ _)]
    exact List.map_subset _ (List.subset_append_left _ _)
  | sources =>
    have sources : (m.toModule base name).paths .sources =
        (m.sources ++ m.testSources).map base.join := by
      simp [Module.paths, toModule, Function.comp_def]
    rw [sources, paths, List.append_assoc (_ ++ _)]
    exact List.map_subset _ (List.subset_append_right _ _)

/-- What is built of a section of a library or an SDK has paths of the section. -/
theorem BundleSection.roots_toBundle_subset (b : BundleSection) (base : Path) (name : String)
    (kind : RootKind) : (b.toBundle base name).roots kind ⊆ b.paths.map base.join := by
  cases kind with
  | compiled => exact List.map_subset _ (List.subset_append_left _ _)
  | sources => exact List.map_subset _ (List.subset_append_right _ _)

namespace Session

variable {s : Session} {f : ProjectFile} {base : Path} {q : RootQuery}

/-- **Every root is a path of the file**, below the directory of the file. -/
theorem rootPaths_subset (loaded : s.project = f.toProject base) :
    s.rootPaths q ⊆ f.paths.map base.join := by
  intro path member
  obtain ⟨e, listed, given⟩ := exists_contribution_of_mem_rootPaths member
  cases backed_of_mem_contribution listed given with
  | @library b shown root =>
    obtain ⟨_, -, name, -, found⟩ := (s.listsInOrder_libraries.mem_iff b).1 shown
    rw [loaded, ProjectFile.library?_toProject] at found
    obtain ⟨declared, owned, rfl⟩ := Option.map_eq_some_iff.1 found
    have named : declared.paths ⊆ f.paths := fun _ => ProjectFile.mem_paths_of_library owned
    exact List.map_subset _ named (declared.roots_toBundle_subset base name _ root)
  | sdk _ points root =>
    obtain ⟨name, -, found⟩ := points
    rw [loaded, ProjectFile.sdk?_toProject] at found
    obtain ⟨declared, owned, rfl⟩ := Option.map_eq_some_iff.1 found
    have named : declared.paths ⊆ f.paths := fun _ => ProjectFile.mem_paths_of_sdk owned
    exact List.map_subset _ named (declared.roots_toBundle_subset base name _ root)
  | @module m shown own =>
    have found := module?_name_of_mem_modules shown
    rw [loaded, ProjectFile.module?_toProject] at found
    obtain ⟨declared, owned, same⟩ := Option.map_eq_some_iff.1 found
    have named : declared.paths ⊆ f.paths := fun _ => ProjectFile.mem_paths_of_module owned
    rw [← same] at own
    exact List.map_subset _ named (declared.paths_toModule_subset base m.name _ own)

/-- No root has an empty text. -/
theorem text_ne_empty_of_mem_rootPaths (loaded : s.project = f.toProject base)
    (nonempty : base.text ≠ "") {root : Path} (member : root ∈ s.rootPaths q) :
    root.text ≠ "" := by
  obtain ⟨p, -, rfl⟩ := List.mem_map.1 (rootPaths_subset loaded member)
  exact Path.text_join_ne_empty nonempty p

/-! ## What is printed -/

/-- **Once there is a session, nothing fails but the joining of roots**, and this where a root
holds the separator. -/
theorem listing_eq_error_iff {a : Arguments} {failure : Failure} :
    s.listing a = .error failure ↔ a.listing = .roots ∧ a.format = .classpath ∧
      failure = joiningFailure ∧ ∃ root ∈ s.rootPaths a.rootQuery, root.HoldsSeparator := by
  unfold listing
  cases a.listing with
  | dependencies | modules | libraries => simp
  | roots =>
    cases a.format with
    | lines => simp [rootLines]
    | classpath =>
      rw [← joinPaths_eq_none_iff]
      cases joined : joinPaths (s.rootPaths a.rootQuery) with
      | none =>
        have fails : s.rootLines a.rootQuery .classpath = .error joiningFailure := by
          simp [rootLines, joined, joiningFailure]
        simp [fails, @eq_comm _ failure]
      | some text => simp [rootLines, joined]

end Session

namespace Program

/-- The program with its roots printed in a format. -/
def inFormat (p : Program) (format : OutputFormat) : Program :=
  { p with arguments := { p.arguments with format } }

section

variable {p : Program} {f : ProjectFile} {s : Session} (loaded : p.load = .ok f)
  (opened : f.openSession (projectDirectory p.workingDirectory p.file) p.arguments = .ok s)
include loaded opened

theorem report_eq_error_iff {failure : Failure} :
    p.report = .error failure ↔ s.listing p.arguments = .error failure := by
  rw [report_of_opened loaded opened]
  cases s.listing p.arguments <;> simp [Functor.map, Except.map]

/-- Roots without a fingerprint are printed as the lines of their format. -/
theorem report_of_rootLines (asked : p.arguments.listing = .roots)
    (alone : p.arguments.fingerprint = false) {lines : List String}
    (given : s.rootLines p.arguments.rootQuery p.arguments.format = .ok lines) :
    p.report = .ok (Text.unlines lines) := by
  have listed : s.listing p.arguments = .ok lines := by
    simp [Session.listing, asked, alone, given]
  rw [report_of_opened loaded opened, listed]
  rfl

end

/-- **A classpath is read back.**  Take a program whose project file is loaded and whose
arguments open a session, which asks for roots in one text.  If a root holds the separator,
the program fails for this reason and prints nothing, and it fails in no other case.  If no
root does, and no fingerprint is asked for, one line is printed; cut at the separators it
gives the texts of the roots in order, unless there are none.  The same texts are printed
line by line in the other format, with or without separators in them.

Where the working directory has a name, no root has an empty text, so that the line is
empty only if there are no roots. -/
theorem classpaths_are_read_back (p : Program) (f : ProjectFile) (s : Session)
    (roots : List Path) (loaded : p.load = .ok f)
    (opened : f.openSession (projectDirectory p.workingDirectory p.file) p.arguments = .ok s)
    (asked : p.arguments.listing = .roots) (joined : p.arguments.format = .classpath)
    (shown : s.rootPaths p.arguments.rootQuery = roots) :
    ((∃ failure, p.report = .error failure) ↔ ∃ root ∈ roots, root.HoldsSeparator) ∧
    (∀ failure, p.report = .error failure →
      failure = joiningFailure ∧ (p.arguments.dryRun = false → p.run.output = "")) ∧
    (p.arguments.fingerprint = false → (∀ root ∈ roots, ¬ root.HoldsSeparator) →
      ∃ line, p.report = .ok (line ++ "\n") ∧
        (roots ≠ [] → splitPaths line = roots.map Path.text) ∧
        (p.workingDirectory.text ≠ "" → (line = "" ↔ roots = []))) ∧
    (p.arguments.fingerprint = false →
      (p.inFormat .lines).report = .ok (Text.unlines (roots.map Path.text))) ∧
    (p.workingDirectory.text ≠ "" → ∀ root ∈ roots, root.text ≠ "") := by
  subst shown
  have fails : ∀ failure, p.report = .error failure ↔ failure = joiningFailure ∧
      ∃ root ∈ s.rootPaths p.arguments.rootQuery, root.HoldsSeparator := by
    intro failure
    simp [report_eq_error_iff loaded opened, Session.listing_eq_error_iff, asked, joined]
  have named : p.workingDirectory.text ≠ "" →
      ∀ root ∈ s.rootPaths p.arguments.rootQuery, root.text ≠ "" := by
    intro working root member
    exact Session.text_ne_empty_of_mem_rootPaths (ProjectFile.of_openSession opened).1
      (text_projectDirectory_ne_empty working p.file) member
  refine ⟨by simp [fails], ?_, ?_, ?_, named⟩
  · intro failure failed
    exact ⟨((fails failure).1 failed).1, fun printing => (run_of_report_error printing failed).1⟩
  · intro alone free
    have given : s.rootLines p.arguments.rootQuery p.arguments.format =
        .ok [(String.singleton pathSeparator).intercalate
          ((s.rootPaths p.arguments.rootQuery).map Path.text)] := by
      rw [joined, Session.rootLines, joinPaths_of_free free]
    refine ⟨_, ?_, splitPaths_joined free, fun working => joined_eq_empty_iff free (named working)⟩
    rw [report_of_rootLines loaded opened asked alone given]
    simp [Text.unlines]
  · intro alone
    -- The format has no part in opening the session.
    exact report_of_rootLines (p := p.inFormat .lines) loaded opened asked alone rfl

end Program

/-! ## A directory with a separator in its name -/

namespace Joining

/-- The text of a file whose only module has the empty path for its output. -/
def text : String :=
  "project.roots = ['app']\n[module.app]\noutput = ''\ntest_output = '/opt/app'"

/-- The module. -/
def app : ModuleSection where
  output := some ⟨""⟩
  testOutput := some ⟨"/opt/app"⟩

/-- What the text says. -/
def file : ProjectFile where
  project := { roots := ["app"] }
  modules := .ofList [("app", app)]

/-- The program that prints the roots of the file in one text, started in a directory. -/
def program (workingDirectory : Path) : Program where
  arguments := { format := .classpath }
  workingDirectory
  found := .ok (.file text)

/-- The session that is opened on the file in a directory. -/
def session (base : Path) : Session :=
  .start (file.toProject base) [app.toModule base "app"] {}

variable (base : Path)

theorem load_program : (program base).load = .ok file := by
  have parsed : ProjectFile.ofToml text = .ok file := by rfl
  exact Program.load_of_text rfl parsed (by decide +kernel)

theorem openSession_file :
    file.openSession (projectDirectory base (program base).file) (program base).arguments =
      .ok (session base) := by
  have parent : Path.parent ⟨"Depscope.toml"⟩ = some ⟨""⟩ := by decide +kernel
  have here : projectDirectory base ⟨"Depscope.toml"⟩ = base := by
    simp [projectDirectory, parent]
  change file.openSession (projectDirectory base ⟨"Depscope.toml"⟩) _ = _
  rw [here]
  rfl

theorem dependencies_session :
    (session base).dependencies = (session base).entries (app.toModule base "app").positions := by
  have opened : file.openSession base (program base).arguments = .ok (session base) := rfl
  exact Session.dependencies_of_direct rfl rfl (Session.openedOn_of_openSession opened).declared

/-- The empty path is printed as the directory of the file.  In a directory with the
separator in its name the roots are printed line by line only. -/
theorem directory_decides :
    (∃ line, (program ⟨"/work"⟩).report = .ok (line ++ "\n") ∧
      splitPaths line = ["/opt/app", "/work/"] ∧ line ≠ "") ∧
    ((program ⟨"/work"⟩).inFormat .lines).report = .ok "/opt/app\n/work/\n" ∧
    (program ⟨"/srv:8"⟩).report = .error joiningFailure ∧
    (program ⟨"/srv:8"⟩).run.output = "" ∧
    ((program ⟨"/srv:8"⟩).inFormat .lines).report = .ok "/opt/app\n/srv:8/\n" := by
  have shown : (session ⟨"/work"⟩).rootPaths { kind := .compiled } =
      [⟨"/opt/app"⟩, ⟨"/work/"⟩] := by
    rw [Session.rootPaths_eq_distinct, dependencies_session]
    decide +kernel
  have shown' : (session ⟨"/srv:8"⟩).rootPaths { kind := .compiled } =
      [⟨"/opt/app"⟩, ⟨"/srv:8/"⟩] := by
    rw [Session.rootPaths_eq_distinct, dependencies_session]
    decide +kernel
  obtain ⟨-, -, readBack, lines, -⟩ := Program.classpaths_are_read_back
    (program ⟨"/work"⟩) file (session ⟨"/work"⟩) _ (load_program _) (openSession_file _) rfl rfl
    shown
  obtain ⟨fails, failing, -, lines', -⟩ := Program.classpaths_are_read_back
    (program ⟨"/srv:8"⟩) file (session ⟨"/srv:8"⟩) _ (load_program _) (openSession_file _) rfl rfl
    shown'
  obtain ⟨line, printed, cut, empty⟩ := readBack rfl (by decide)
  obtain ⟨failure, failed⟩ := fails.2 (by decide)
  obtain ⟨rfl, silent⟩ := failing failure failed
  refine ⟨⟨line, printed, cut (by simp), ?_⟩, lines rfl, failed, silent rfl, lines' rfl⟩
  simp [empty (by decide)]

end Joining

end Classpath
