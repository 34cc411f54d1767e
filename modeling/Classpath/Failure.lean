import Classpath.Glob.Parse
import Classpath.ProjectFile.Violation
import Classpath.Text.Basic
import Classpath.Text.Quoted
import Classpath.Toml.Value

/-!
# Failures

Why the program cannot do what it was asked to, and how it says so. A failure has a cause and the
circumstances in which it arose. On one line they are separated by colons, the outermost first;
in a report the outermost stands alone and the others are listed below it.

## Main definitions

* `Cause` — what went wrong
* `Circumstance` — what the program was doing
* `Failure.texts` — all that is said about a failure, the outermost first
* `Failure.summary`, `Failure.report` — the failure on one line, and on several
-/

namespace Classpath

/-- Why a file cannot be read or found. -/
inductive FileFault
  | missing
  | notDirectory
  | isDirectory
  | nameTooLong
  /-- A path with a null character. -/
  | nullInName
  /-- A fault for which only a text is known. -/
  | other (text : String)
deriving DecidableEq, Repr

namespace FileFault

/-- What the operating system says about a fault. -/
def message : FileFault → String
  | missing => "No such file or directory (os error 2)"
  | notDirectory => "Not a directory (os error 20)"
  | isDirectory => "Is a directory (os error 21)"
  | nameTooLong => "File name too long (os error 36)"
  | nullInName => "file name contained an unexpected NUL byte"
  | other text => text

end FileFault

/-- What went wrong. -/
inductive Cause
  /-- The project file breaks a rule. -/
  | violation (v : Violation)
  /-- Neither the command line nor the project file names a root module. -/
  | noRoots
  | projectFileMissing (path : Path)
  | moduleNotFound (name : String)
  | toml (fault : Toml.Fault)
  | glob (pattern : String) (fault : Glob.Fault)
  /-- The pattern at a place among those that are compiled together is too deep. -/
  | globAt (place : Nat)
  | file (fault : FileFault)
  /-- A catalog has no file under the path that was asked for. -/
  | notInCatalog
  /-- A root cannot be joined with others because it holds the separator. -/
  | separatorInRoot
deriving DecidableEq, Repr

namespace Cause

/-- What is said about a cause, with what is said about the cause behind it. -/
def texts : Cause → List String
  | violation v => ["Configuration error: " ++ v.message]
  | noRoots => ["Configuration error: no root modules: pass --module or set [project].roots"]
  | projectFileMissing path =>
    ["Configuration error: project file " ++ Text.quoted path.text ++ " not found"]
  | moduleNotFound name => ["Module not found: " ++ name]
  | toml fault => ["TOML parsing error: " ++ fault.message, fault.message]
  | glob pattern fault => ["error parsing glob '" ++ pattern ++ "': " ++ fault.message]
  | globAt place => ["error parsing pattern " ++ toString place]
  | file fault => [fault.message]
  | notInCatalog => ["entity not found"]
  | separatorInRoot => ["path segment contains separator `:`"]

end Cause

/-- What the program was doing. -/
inductive Circumstance
  | loading (path : Path)
  | reading (path : Path)
  | canonicalizing (path : Path)
  /-- Looking for the file to watch. -/
  | watching
  | readingCatalog (path : Path)
  | excluding (pattern : String)
  | joiningRoots
deriving DecidableEq, Repr

namespace Circumstance

/-- What is said about a circumstance. -/
def text : Circumstance → String
  | loading path => "loading project file " ++ Text.quoted path.text
  | reading path => "reading file " ++ Text.quoted path.text
  | canonicalizing path => "canonicalizing " ++ Text.quoted path.text
  | watching => "resolving project file to watch"
  | readingCatalog path => "File not found: " ++ Text.quoted path.text
  | excluding pattern => "invalid --exclude glob " ++ Text.quoted pattern
  | joiningRoots => "a root contains the platform path separator"

end Circumstance

/-- A cause and the circumstances in which it arose, the outermost first. -/
structure Failure where
  circumstances : List Circumstance := []
  cause : Cause
deriving DecidableEq, Repr

namespace Failure

/-- The failure inside a further circumstance. -/
def inside (f : Failure) (c : Circumstance) : Failure :=
  { f with circumstances := c :: f.circumstances }

/-- All that is said about a failure, the outermost first. -/
def texts (f : Failure) : List String :=
  f.circumstances.map (·.text) ++ f.cause.texts

/-- The failure on one line. -/
def summary (f : Failure) : String :=
  ": ".intercalate f.texts

/-- A text behind its label, with further lines of it indented by `indent`. -/
def labelled (label indent text : String) : String :=
  label ++ ("\n" ++ indent).intercalate (Text.splitLines text)

/-- The lines below a report's heading. Several causes are numbered from zero. -/
def causeLines : List String → List String
  | [] => []
  | [cause] => [labelled "    " "    " cause]
  | causes => causes.zipIdx.map fun (cause, n) =>
    labelled (.ofList ((toString n).toList.leftpad 5 ' ') ++ ": ") "       " cause

/-- The failure on several lines: the outermost text, and the causes below a heading. -/
def report (f : Failure) : String :=
  match f.texts with
  | [] => ""
  | [text] => text
  | text :: causes => "\n".intercalate ([text, "", "Caused by:"] ++ causeLines causes)

end Failure

/-- Puts what fails inside a circumstance. -/
def within {α : Type} (c : Circumstance) : Except Failure α → Except Failure α
  | .ok a => .ok a
  | .error f => .error (f.inside c)

end Classpath
