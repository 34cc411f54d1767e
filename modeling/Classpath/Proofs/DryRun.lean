import Classpath.DryRun
import Classpath.Proofs.Display
import Classpath.Report

/-!
# The dry run and the enumeration

The dry run prints the modules of a project as they are declared, without a session.  A
list of dependencies is printed by a session, which has handlers, filters and a record of
the modules it entered.  If nothing is asked for but a module, none of this counts: the
session has one root, follows nothing, and takes every edge of the root.  So what is listed
is what is declared, and the two texts show the same lines.

## Main definitions

* `ProjectFile.dependencyLines` — the lines that show the dependencies of a module
* `ProjectFile.linesAbove`, `ProjectFile.linesBelow` — what the dry run shows besides the
  modules
* `ProjectFile.Unindented` — lines that do not begin like those below a module

## Main statements

* `Session.dependencies_start` — a session that asks for nothing lists all that is declared
* `ProjectFile.dryRunLines_eq` — the lines of the dry run
* `ProjectFile.report_dependencies` — the text for one module
* `ProjectFile.dry_run_shows_what_sessions_list` — the dry run of an accepted file
-/

namespace Classpath

/-! ## The order of names in bytes -/

/-- The bytes of a text. -/
def Text.bytes (s : String) : List UInt8 :=
  s.toList.flatMap String.utf8EncodeChar

/-- Lists stay in order if their members are replaced one by one in increasing order. -/
theorem map_lt_map {α β : Type} [LT α] [LT β] {g : α → β} {cs ds : List α}
    (increasing : ∀ c ∈ cs, ∀ d ∈ ds, c < d → g c < g d) (less : cs < ds) :
    cs.map g < ds.map g := by
  induction less with
  | nil => exact .nil
  | rel here => exact .rel (increasing _ List.mem_cons_self _ List.mem_cons_self here)
  | cons _ ih =>
    refine .cons (ih fun c member d member' => ?_)
    exact increasing c (List.mem_cons_of_mem _ member) d (List.mem_cons_of_mem _ member')

namespace PlainName

variable {name name' : String}

theorem le_of_mem (plain : PlainName name) {c : Char} (member : c ∈ name.toList) :
    c.val ≤ 127 := by
  obtain ⟨-, last⟩ | ⟨-, last⟩ | ⟨-, last⟩ | rfl | rfl | rfl := plain.plain c member
  · exact UInt32.le_trans last (by decide)
  · exact UInt32.le_trans last (by decide)
  · exact UInt32.le_trans last (by decide)
  all_goals decide

/-- The characters of plain names are bytes. -/
theorem bytes_eq (plain : PlainName name) : Text.bytes name = name.toList.map (·.val.toUInt8) := by
  rw [Text.bytes, List.map_eq_flatMap]
  refine List.flatMap_congr fun c member => ?_
  exact String.utf8EncodeChar_eq_singleton (Char.utf8Size_eq_one_iff.2 (plain.le_of_mem member))

/-- The bytes of plain names are ordered as the names are. -/
theorem bytes_lt (plain : PlainName name) (plain' : PlainName name') (less : name < name') :
    Text.bytes name < Text.bytes name' := by
  rw [plain.bytes_eq, plain'.bytes_eq]
  refine map_lt_map (fun c member d member' here => ?_) (String.lt_iff.1 less)
  have bound : c.val.toNat ≤ 127 := plain.le_of_mem member
  have bound' : d.val.toNat ≤ 127 := plain'.le_of_mem member'
  have here : c.val.toNat < d.val.toNat := here
  rw [UInt8.lt_iff_toNat_lt, UInt32.toNat_toUInt8, UInt32.toNat_toUInt8]
  omega

end PlainName

/-! ## A session that asks for nothing -/

namespace Session

variable {p : Project} {roots : List Module} {r : Registry} {m : Module}

/-- Without filters every edge is taken. -/
theorem takes_start (position : Position) : (start p roots r).takes position = true := by
  have looked : (start p roots r).looksAt position.module position.dependency = true := by
    unfold looksAt
    cases position.dependency.target <;> rfl
  have accepted : (start p roots r).accepts position.module position.dependency = true := by
    unfold accepts
    cases (start p roots r).extensionOf position.dependency with
    | none => simp [start, ScopePolicy.acceptsExport]
    | some e => simp [start, ScopePolicy.acceptsExport, ScopePolicy.acceptsScope]
  rw [takes, isCandidate, looked, accepted]
  rfl

/-- **A session on one root that asks for nothing else lists what the root declares.** -/
theorem dependencies_start (declared : p.module? m.name = some m) :
    (start p [m] r).dependencies.map Enumerated.edge = m.dependencies := by
  have roots : (start p [m] r).RootsDeclared := by
    intro root member
    rw [List.mem_singleton.1 member]
    exact declared
  have taken : m.positions.filter (start p [m] r).takes = m.positions :=
    List.filter_eq_self.2 fun position _ => takes_start position
  rw [dependencies_of_direct rfl rfl roots, entries, taken, List.map_map, Module.positions,
    List.map_map]
  exact List.map_getElem_finRange m.dependencies

end Session

/-! ## The lines of the dry run -/

namespace ProjectFile

variable {f : ProjectFile} {base : Path} {name : String}

/-- The lines that show the dependencies of a module, if there is one of this name. -/
def dependencyLines (f : ProjectFile) (name : String) : List String :=
  match f.modules.get? name with
  | some s => (s.toModule ⟨""⟩ name).dependencies.map Dependency.display
  | none => []

/-- What the dry run shows before the modules. -/
def linesAbove (f : ProjectFile) : List String :=
  ["depscope dry-run"] ++ projectLines f.project ++ [""]

/-- What the dry run shows after the modules. -/
def linesBelow (f : ProjectFile) : List String :=
  listed "libraries" f.libraries.entries (fun (name, b) => [bundleLine name b]) ++
  listed "sdks" f.sdks.entries (fun (name, b) => [bundleLine name b]) ++
  listed "handlers" f.handlers.entries (fun (name, h) => handlerLines name h) ++
  listed "module cycles" (moduleCycles f.modules) fun group =>
    ["  - " ++ " <-> ".intercalate group]

theorem map_name_toProject (f : ProjectFile) (base : Path) :
    (f.toProject base).modules.map Module.name = f.modules.names := by
  rw [toProject, List.map_map]
  rfl

theorem moduleNames_toProject (f : ProjectFile) (base : Path) :
    (f.toProject base).moduleNames = f.modules.names := by
  rw [Project.moduleNames, map_name_toProject, sortedNames_eq_self f.modules.pairwise_names]

/-- **The lines of the dry run**, with the modules in the order of the table. -/
theorem dryRunLines_eq (f : ProjectFile) :
    f.dryRunLines = f.linesAbove ++
      ("modules (" ++ toString f.modules.names.length ++ "):") ::
        f.modules.names.flatMap (fun name =>
          ("  - " ++ name) :: (f.dependencyLines name).map ("      " ++ ·)) ++
      f.linesBelow := by
  have blocks : (sortedModules (f.toProject ⟨""⟩)).flatMap moduleLines =
      f.modules.names.flatMap fun name =>
        ("  - " ++ name) :: (f.dependencyLines name).map ("      " ++ ·) := by
    rw [sortedModules, moduleNames_toProject, List.filterMap_eq_flatMap_toList, List.flatMap_assoc]
    refine List.flatMap_congr fun name member => ?_
    obtain ⟨s, owned⟩ := NameTable.mem_names_iff.1 member
    simp only [module?_toProject, dependencyLines, owned, Option.map_some, Option.toList_some,
      List.flatMap_singleton, moduleLines, List.map_map]
    rfl
  have size : f.modules.names.length = f.modules.size := List.length_map _
  simp only [dryRunLines, blocks, linesAbove, linesBelow, size, List.append_assoc,
    List.cons_append, List.nil_append]

/-- Lines of which the first, if there is one, begins with a character that is no blank. -/
def Unindented (lines : List String) : Prop :=
  ∀ line ∈ lines.head?, ∃ c ∈ line.toList.head?, c ≠ ' '

theorem unindented_append {lines lines' : List String} (first : Unindented lines)
    (second : Unindented lines') : Unindented (lines ++ lines') := by
  cases lines with
  | nil => exact second
  | cons line rest => exact first

theorem unindented_listed {α : Type} {heading : String} {things : List α}
    {lines : α → List String} (unindented : ∃ c ∈ heading.toList.head?, c ≠ ' ') :
    Unindented (listed heading things lines) := by
  obtain ⟨c, first, visible⟩ := unindented
  intro line member
  cases things with
  | nil => contradiction
  | cons thing rest =>
    obtain rfl := Option.some.inj member
    exact ⟨c, by simp [Option.mem_def.1 first], visible⟩

/-- The lines below the modules begin with a heading, so that they are told from lines about a
module. -/
theorem unindented_linesBelow (f : ProjectFile) : Unindented f.linesBelow := by
  refine unindented_append (unindented_append (unindented_append ?_ ?_) ?_) ?_
  all_goals exact unindented_listed ⟨_, rfl, by decide⟩

/-- Asking for the dependencies of a module opens a session on that module that asks for nothing
else. -/
theorem openSession_dependencies {m : Module} (known : (f.toProject base).module? name = some m) :
    f.openSession base { modules := [name], listing := .dependencies } =
      .ok (.start (f.toProject base) [m] f.registry) := by
  have selected : f.selectRoots (f.toProject base)
      { modules := [name], listing := .dependencies } = .ok [m] := by
    simp [selectRoots, Arguments.rootNames, Project.resolveModules, known, Except.map]
  simp only [openSession, selected]
  rfl

/-- **The text for the dependencies of one module.** -/
theorem report_dependencies (owned : name ∈ f.modules.names) (base : Path) :
    f.report base { modules := [name], listing := .dependencies } =
      .ok (Text.unlines (f.dependencyLines name)) := by
  obtain ⟨s, owned⟩ := NameTable.mem_names_iff.1 owned
  have known : (f.toProject base).module? name = some (s.toModule base name) := by
    rw [module?_toProject, owned, Option.map_some]
  have lines : (Session.start (f.toProject base) [s.toModule base name]
      f.registry).dependencies.map (·.edge.display) = f.dependencyLines name := by
    have edges := Session.dependencies_start (m := s.toModule base name) (r := f.registry) known
    have shown := congrArg (List.map Dependency.display) edges
    rw [List.map_map] at shown
    simp only [dependencyLines, owned]
    exact shown
  rw [← lines, report, openSession_dependencies known]
  rfl

/-- **The dry run shows what sessions list.**  Take a file that was accepted, with whatever
handlers.  The dry run shows a line with the number of modules, and behind it every module
in the order of the bytes of their names, each once, with its dependencies below it; what
follows begins with a line that is not indented.  Six blanks apart, the lines below a
module are the lines that are printed for the file, in whatever directory it lies, if the
dependencies of this module are asked for and nothing else. -/
theorem dry_run_shows_what_sessions_list (f g : ProjectFile) (accepted : f.validate = .ok g) :
    g.dryRun = Text.unlines (g.linesAbove ++
        ("modules (" ++ toString g.modules.names.length ++ "):") ::
          g.modules.names.flatMap (fun name =>
            ("  - " ++ name) :: (g.dependencyLines name).map ("      " ++ ·)) ++
        g.linesBelow) ∧
      Unindented g.linesBelow ∧
      (∀ base, (g.toProject base).modules.map Module.name = g.modules.names) ∧
      (g.modules.names.Pairwise fun name name' => Text.bytes name < Text.bytes name') ∧
      ∀ name ∈ g.modules.names, (∀ line ∈ g.dependencyLines name, '\n' ∉ line.toList) ∧
        ∀ base, g.report base { modules := [name], listing := .dependencies } =
          .ok (Text.unlines (g.dependencyLines name)) := by
  obtain ⟨rfl, rules⟩ := validate_eq_ok_iff.1 accepted
  refine ⟨?_, g.unindented_linesBelow, g.map_name_toProject, ?_,
    fun name member => ⟨?_, report_dependencies member⟩⟩
  · rw [dryRun, dryRunLines_eq]
  · refine g.modules.pairwise_names.imp_of_mem fun member member' less => ?_
    exact (rules.names .module _ member).bytes_lt (rules.names .module _ member') less
  · obtain ⟨s, owned⟩ := NameTable.mem_names_iff.1 member
    simp only [dependencyLines, owned]
    have known : s.toModule ⟨""⟩ name ∈ (g.toProject ⟨""⟩).modules :=
      List.mem_map.2 ⟨(name, s), NameTable.get?_eq_some_iff.1 owned, rfl⟩
    exact Dependency.single_of_plain fun d declared => rules.plain known declared

end ProjectFile

/-! ## A circle under a handler -/

namespace Rehearsing

/-- Two modules in a circle.  A handler takes the edge to one of them for one to its tests. -/
def file : ProjectFile where
  handlers := .ofList [
    ("tests", { processRecursively := false, productionOnTests := ["core"] })]
  sdks := .ofList [("jdk", {})]
  modules := .ofList [
    ("app", { dependencies := [{ module := some "core", scope := some .test },
                { sdk := some "jdk" }] }),
    ("core", { dependencies := [{ module := some "app", scope := some .runtime,
                                  exported := some true }] })]

/-- The dry run of the file, and the text for its first module. -/
theorem file_shows_what_sessions_list :
    file.validate = .ok file ∧
      file.dryRun = Text.unlines (["depscope dry-run", "", "modules (2):",
        "  - app", "      app -> <module source>", "      app -> module:core [test]",
        "      app -> sdk:jdk", "  - core", "      core -> <module source>",
        "      core -> module:app [runtime, exported]"] ++ file.linesBelow) ∧
      file.report ⟨"/work"⟩ { modules := ["app"], listing := .dependencies } =
        .ok (Text.unlines ["app -> <module source>", "app -> module:core [test]",
          "app -> sdk:jdk"]) := by
  have unbroken : file.violations = [] := by decide +kernel
  have accepted : file.validate = .ok file := by rw [ProjectFile.validate, unbroken]
  obtain ⟨printed, -, -, -, reports⟩ :=
    ProjectFile.dry_run_shows_what_sessions_list file file accepted
  have app : file.dependencyLines "app" =
      ["app -> <module source>", "app -> module:core [test]", "app -> sdk:jdk"] := by
    decide +kernel
  have core : file.dependencyLines "core" =
      ["core -> <module source>", "core -> module:app [runtime, exported]"] := by
    decide +kernel
  have names : file.modules.names = ["app", "core"] := by decide +kernel
  refine ⟨accepted, ?_, ?_⟩
  · rw [printed, names]
    simp only [List.flatMap_cons, List.flatMap_nil, app, core]
    rfl
  · rw [(reports "app" (by simp [names])).2, app]

end Rehearsing

end Classpath
