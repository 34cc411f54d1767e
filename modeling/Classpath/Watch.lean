import Classpath.Program

/-!
# Watching the project file

While the project file is watched, its text is printed again after every change that makes a
difference to what is printed. A version of the file that fails is passed over.

## Main definitions

* `FileEvent.concerns` — whether something that happened in a directory is a change of the file
* `WatchEvent` — what a watch reacts to
* `Watch.after?` — the watch that a run is followed by
* `Watch.step` — one reaction
* `WatchTarget` — the file that is watched, by its path without detours
-/

namespace Classpath

/-- What can happen to files. -/
inductive FileEventKind
  | any
  | create
  | modify
  | access
  | remove
  | other
deriving DecidableEq, Repr

namespace FileEventKind

/-- Whether what happened may have changed the content of a file. -/
def isChange : FileEventKind → Bool
  | any | create | modify => true
  | access | remove | other => false

end FileEventKind

/-- Something that happened to files in a directory. -/
structure FileEvent where
  kind : FileEventKind
  paths : List Path
deriving DecidableEq, Repr

namespace FileEvent

/-- Whether an event is a change of a file. Files are told apart by their names alone, as the
directory is the one that is watched. -/
def concerns (e : FileEvent) (file : Path) : Bool :=
  e.kind.isChange && file.fileName.isSome && e.paths.any (·.fileName = file.fileName)

end FileEvent

/-- What a watch reacts to. -/
inductive WatchEvent
  | projectChanged
  | shutdownRequested
deriving DecidableEq, Repr

/-- The state of a watch. -/
structure Watch where
  /-- The text that was printed last. -/
  last : String
  running : Bool := true
deriving DecidableEq, Repr

namespace Watch

/-- The watch that a run is followed by: there is one if it is asked for and the run has printed the
file. -/
def after? (a : Arguments) (o : Outcome) : Option Watch :=
  if a.watch && !a.dryRun && o.failure.isNone then some { last := o.output } else none

/-- Reacts to an event, given what would be printed for the file as it is now. The second component
is what is printed. -/
def step (w : Watch) (current : Except Failure String) : WatchEvent → Watch × Option String
  | .projectChanged =>
    match current with
    | .ok text => if text = w.last then (w, none) else ({ w with last := text }, some text)
    | .error _ => (w, none)
  | .shutdownRequested => ({ w with running := false }, none)

/-- What is reported about a reaction. -/
def journal (w : Watch) (current : Except Failure String) : WatchEvent → List Log.Entry
  | .projectChanged =>
    match current with
    | .ok text =>
      if text = w.last then
        [{ level := .debug, message := "project changed but output is identical" }]
      else [{ level := .info, message := "project file changed; re-enumerated" }]
    | .error f =>
      [{ level := .warn,
         message := "project file is invalid, keeping previous output: " ++ f.summary }]
  | .shutdownRequested => [{ level := .info, message := "shutdown requested" }]

/-- What is printed after each of several versions of the project file, each of which is looked at
before the next is written; nothing is the empty text. -/
def outputs (w : Watch) : List (Except Failure String) → List String
  | [] => []
  | current :: rest =>
    let (next, printed) := w.step current .projectChanged
    printed.getD "" :: next.outputs rest

end Watch

/-- The file that is watched. -/
structure WatchTarget where
  file : Path
deriving DecidableEq, Repr

namespace WatchTarget

/-- The target for a path. -/
def find (t : FileTree) (path : Path) : Except Failure WatchTarget :=
  WatchTarget.mk <$> within .watching (t.canonicalize path)

/-- The directory that is watched. -/
def directory (w : WatchTarget) : Path :=
  w.file.parent.getD ⟨"."⟩

/-- How a target is shown in the log. -/
def display (w : WatchTarget) : String :=
  Text.record "WatcherHandle" [("project_file", Text.quoted w.file.text)]

/-- What is reported about the start of a watch. -/
def journal (w : WatchTarget) : List Log.Entry :=
  [{ level := .info, message := "watching project file " ++ Text.quoted w.file.text }]

/-- The event, if any, that follows the writing of a file whose path has no detours. -/
def afterWriting (w : WatchTarget) (written : Path) : Option WatchEvent :=
  let event : FileEvent := { kind := .modify, paths := [written] }
  if written.parent.any (·.same w.directory) && event.concerns w.file then some .projectChanged
  else none

end WatchTarget

end Classpath
