import Classpath.Failure
import Classpath.Log
import Classpath.ProjectFile.Cycles
import Classpath.ProjectFile.Decode

/-!
# Loading a project file

The text of a project file is read and then checked.

## Main definitions

* `ProjectFile.load` — the checked project file of a text
* `ProjectFile.loadJournal` — what is reported about loading it
-/

namespace Classpath

namespace ProjectFile

/-- The project file of a text, if it keeps the rules. -/
def load (text : String) : Except Failure ProjectFile :=
  match ofToml text with
  | .error fault => .error { cause := .toml fault }
  | .ok f =>
    match f.validate with
    | .ok f => .ok f
    | .error v => .error { cause := .violation v }

/-- What is reported about reading a text as a project file. -/
def readJournal (path : Path) (text : String) : List Log.Entry :=
  match ofToml text with
  | .error _ => []
  | .ok f =>
    [{ level := .debug, message := "parsed project file",
       fields := [("path", Text.quoted path.text), ("modules", toString f.modules.size)] }]

/-- What is reported about checking a project file: the circles of modules, if it is valid. -/
def checkJournal (f : ProjectFile) : List Log.Entry :=
  match f.validate with
  | .error _ => []
  | .ok f => (moduleCycles f.modules).map fun group =>
    { level := .debug, message := "module dependency cycle",
      fields := [("modules", Text.quotedList group)] }

/-- What is reported about loading a text as a project file. -/
def loadJournal (path : Path) (text : String) : List Log.Entry :=
  readJournal path text ++
    match ofToml text with
    | .error _ => []
    | .ok f => f.checkJournal

end ProjectFile

end Classpath
