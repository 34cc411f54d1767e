import Classpath.ProjectFile.Cycles
import Classpath.ProjectFile.Project
import Classpath.Text.Basic
import Classpath.Text.Quoted

/-!
# The dry run

What is printed of a project file without enumerating anything: its modules with all their edges,
its libraries, SDKs and handlers, and the circles of modules.

## Main definitions

* `ProjectFile.dryRun` — the text
-/

namespace Classpath

namespace ProjectFile

/-- A heading with the number of things below it; without any there is nothing, not even the
heading. -/
def listed {α : Type} (heading : String) (things : List α) (lines : α → List String) :
    List String :=
  if things.isEmpty then []
  else (heading ++ " (" ++ toString things.length ++ "):") :: things.flatMap lines

/-- The lines about the project as a whole. -/
def projectLines (p : ProjectSection) : List String :=
  (p.name.map ("  project.name = " ++ ·)).toList ++
    if p.roots.isEmpty then [] else ["  project.roots = " ++ Text.quotedList p.roots]

/-- The lines about a module: its name and its edges. -/
def moduleLines (m : Module) : List String :=
  ("  - " ++ m.name) :: m.dependencies.map ("      " ++ ·.display)

/-- The line about a library or an SDK. -/
def bundleLine (name : String) (b : BundleSection) : String :=
  "  - " ++ name ++ " (classes: " ++ toString b.classes.length ++ ", sources: " ++
    toString b.sources.length ++ ")"

/-- The line about a setting of a handler. -/
def settingLine (name value : String) : String :=
  "      " ++ name ++ ": " ++ value

/-- The lines about a handler. -/
def handlerLines (name : String) (h : HandlerSection) : List String :=
  ["  - " ++ name] ++
  (if h.appliesTo.isEmpty then [] else [settingLine "applies_to" (Text.quotedList h.appliesTo)]) ++
  [settingLine "process_recursively" (toString h.processRecursively),
    settingLine "include_tests_from_dependents" (toString h.includeTestsFromDependents),
    settingLine "add_runtime_to_test_compile" (toString h.addRuntimeToTestCompile)] ++
  if h.productionOnTests.isEmpty then []
  else [settingLine "production_on_tests" (Text.quotedList h.productionOnTests)]

/-- The modules of the project in name order. -/
def sortedModules (p : Project) : List Module :=
  p.moduleNames.filterMap p.module?

/-- The lines of the dry run. -/
def dryRunLines (f : ProjectFile) : List String :=
  let modules := sortedModules (f.toProject ⟨""⟩)
  ["depscope dry-run"] ++ projectLines f.project ++ [""] ++
  ["modules (" ++ toString f.modules.size ++ "):"] ++ modules.flatMap moduleLines ++
  listed "libraries" f.libraries.entries (fun (name, b) => [bundleLine name b]) ++
  listed "sdks" f.sdks.entries (fun (name, b) => [bundleLine name b]) ++
  listed "handlers" f.handlers.entries (fun (name, h) => handlerLines name h) ++
  listed "module cycles" (moduleCycles f.modules) fun group =>
    ["  - " ++ " <-> ".intercalate group]

/-- The text of the dry run. -/
def dryRun (f : ProjectFile) : String :=
  Text.unlines f.dryRunLines

/-- What is reported about the dry run. -/
def dryRunJournal : List Log.Entry :=
  [{ level := .debug, message := "dry-run complete (no enumeration)" }]

end ProjectFile

end Classpath
