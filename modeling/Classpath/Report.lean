import Classpath.CommandLine.Arguments
import Classpath.Exclusion
import Classpath.ProjectFile.Project
import Classpath.Session.Roots
import Classpath.Text.Basic

/-!
# Reports

The text that is printed for a project file and the arguments of a command line: the roots,
dependencies, modules or libraries of one session, a line each.

## Main definitions

* `ProjectFile.openSession` — the session that arguments ask for, or why there is none
* `Session.listing` — what is printed of a session
* `ProjectFile.report` — the text for a project file
* `ProjectFile.reportJournal` — what is reported about it in the log
-/

namespace Classpath

namespace Arguments

/-- The roots that are asked for. -/
def rootQuery (a : Arguments) : RootQuery :=
  { kind := a.rootKind, withoutSelfOutput := a.withoutSelfOutput }

/-- The names of the root modules: those on the command line, else those of the project file. -/
def rootNames (a : Arguments) (f : ProjectFile) : List String :=
  if a.modules.isEmpty then f.project.roots else a.modules

/-- The session with the filters that are asked for. -/
def configure (a : Arguments) (exclusion : Option Exclusion) (s : Session) : Session :=
  { s with
    policy := a.policy
    traversal := a.traversal
    condition := exclusion.map (·.admits) }

end Arguments

namespace ProjectFile

/-- The root modules that are asked for. -/
def selectRoots (f : ProjectFile) (p : Project) (a : Arguments) : Except Failure (List Module) :=
  let names := a.rootNames f
  if names.isEmpty then .error { cause := .noRoots }
  else match p.resolveModules names with
    | .ok roots => .ok roots
    | .error name => .error { cause := .moduleNotFound name }

/-- The session that arguments ask for, on the project with its paths taken relative to `base`. -/
def openSession (f : ProjectFile) (base : Path) (a : Arguments) : Except Failure Session := do
  let project := f.toProject base
  let roots ← f.selectRoots project a
  let exclusion ← Exclusion.parse? a.excludes
  return a.configure exclusion (.start project roots f.registry)

end ProjectFile

namespace Session

/-- The lines of roots in a format. -/
def rootLines (s : Session) (q : RootQuery) : OutputFormat → Except Failure (List String)
  | .lines => .ok ((s.rootPaths q).map (·.text))
  | .classpath =>
    match joinPaths (s.rootPaths q) with
    | some text => .ok [text]
    | none => .error { circumstances := [.joiningRoots], cause := .separatorInRoot }

/-- What is printed of a session, line by line. -/
def listing (s : Session) (a : Arguments) : Except Failure (List String) :=
  match a.listing with
  | .roots => do
    -- The fingerprint is of the roots themselves, in whatever format they are printed.
    let lines ← s.rootLines a.rootQuery a.format
    return lines ++
      if a.fingerprint then ["fingerprint: " ++ Classpath.fingerprint (s.rootPaths a.rootQuery)]
      else []
  | .dependencies => .ok (s.dependencies.map (·.edge.display))
  | .modules => .ok (s.modules.map (·.name))
  | .libraries => .ok (s.libraries.map (·.name))

/-- What is reported about the listing of a session. -/
def listingJournal (s : Session) (a : Arguments) : List Log.Entry :=
  [{ level := .debug, message := "configured session", fields := [("enumerator", s.display)] }] ++
  match a.listing with
  | .roots => s.rootsJournal a.rootQuery
  | _ =>
    s.journal ++
      if a.fingerprint then
        [{ level := .warn, message := "--fingerprint only applies to --list roots" }]
      else []

end Session

namespace ProjectFile

/-- The text that is printed for a project file. -/
def report (f : ProjectFile) (base : Path) (a : Arguments) : Except Failure String := do
  let session ← f.openSession base a
  return Text.unlines (← session.listing a)

/-- What is reported about it; nothing, if there is no session. -/
def reportJournal (f : ProjectFile) (base : Path) (a : Arguments) : List Log.Entry :=
  match f.openSession base a with
  | .error _ => []
  | .ok session =>
    [{ level := .info, message := "enumerating dependencies",
       fields := [("roots", Text.quotedList (a.rootNames f))] }] ++
    f.registry.journal session.roots ++
    session.listingJournal a

end ProjectFile

end Classpath
