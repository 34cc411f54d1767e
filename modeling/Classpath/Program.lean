import Classpath.CommandLine.Parse
import Classpath.DryRun
import Classpath.Files.Tree
import Classpath.ProjectFile.Load
import Classpath.Report

/-!
# The program

What the program does with the arguments of a command line and the project file that they name.
The file is given as what was found under its path, so that a run is a function of what it is
given.

## Main definitions

* `Program.report`, `Program.dryRun` — what is printed for a file, or why nothing is
* `Program.run` — the outcome of a run
* `Exit` — what is left to see of a process that ends
-/

namespace Classpath

/-- The directory that the paths in a project file are relative to: the one that holds the file,
or the working directory if the path of the file names none. -/
def projectDirectory (workingDirectory file : Path) : Path :=
  match file.parent with
  | some directory => if directory.text.isEmpty then workingDirectory else directory
  | none => workingDirectory

/-- What a program is given: its arguments, the working directory, and what is found under the
path of the project file. -/
structure Program where
  arguments : Arguments
  workingDirectory : Path
  found : Except FileFault Item

/-- What comes of a run. -/
structure Outcome where
  output : String := ""
  failure : Option Failure := none
  journal : List Log.Entry := []
deriving DecidableEq, Repr

namespace Program

/-- The program that is started in a file tree. -/
def inTree (t : FileTree) (a : Arguments) : Program :=
  { arguments := a, workingDirectory := ⟨t.workingDirectory⟩, found := t.item a.projectFile }

/-- The path of the project file. -/
def file (p : Program) : Path :=
  p.arguments.projectFile

/-- The checked project file. -/
def load (p : Program) : Except Failure ProjectFile := do
  ProjectFile.load (← readItem p.file p.found)

/-- What is reported about loading the project file. -/
def loadJournal (p : Program) : List Log.Entry :=
  match p.found with
  | .ok (.file text) => ProjectFile.loadJournal p.file text
  | _ => []

/-- The text that is printed for the project file. -/
def report (p : Program) : Except Failure String := do
  let f ← within (.loading p.file) p.load
  f.report (projectDirectory p.workingDirectory p.file) p.arguments

/-- What is reported about it. -/
def reportJournal (p : Program) : List Log.Entry :=
  p.loadJournal ++
    match p.load with
    | .error _ => []
    | .ok f => f.reportJournal (projectDirectory p.workingDirectory p.file) p.arguments

/-- The text of a dry run. -/
def dryRun (p : Program) : Except Failure String :=
  ProjectFile.dryRun <$> p.load

/-- What is reported about it. -/
def dryRunJournal (p : Program) : List Log.Entry :=
  p.loadJournal ++ if p.load.isOk then ProjectFile.dryRunJournal else []

/-- The outcome of a text that is printed if there is one. -/
def outcome (text : Except Failure String) (journal : List Log.Entry) : Outcome :=
  match text with
  | .ok output => { output, journal }
  | .error failure => { failure := some failure, journal }

/-- Prints what is asked for, once. -/
def run (p : Program) : Outcome :=
  if !p.found.isOk then { failure := some { cause := .projectFileMissing p.file } }
  else if p.arguments.dryRun then outcome p.dryRun p.dryRunJournal
  else outcome p.report p.reportJournal

end Program

/-- What is left to see of a process that ends. -/
structure Exit where
  code : Nat
  output : String := ""
  /-- The entries of the log that are written. -/
  log : List Log.Entry := []
  /-- What is written behind them to where errors go. -/
  error : String := ""
deriving DecidableEq, Repr

namespace Exit

/-- The end of a process whose command line was refused, or asks for help or the version. -/
def ofRefusal : Refusal → Exit
  | .help => { code := 0, output := helpText }
  | .version => { code := 0, output := versionText }
  | r => { code := 2, error := "error: " ++ r.message ++ "\n" }

/-- The end of a process with an outcome. -/
def ofOutcome (level : Log.Level) (o : Outcome) : Exit :=
  let log := o.journal.filter (·.level.isShownAt level)
  match o.failure with
  | none => { code := 0, output := o.output, log }
  | some f =>
    { code := 1, output := o.output, log, error := "depscope error: " ++ f.report ++ "\n" }

end Exit

end Classpath
