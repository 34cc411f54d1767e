import Classpath.Watch

/-!
# The command

Reads the command line, the environment and the project file, and prints what the program makes of
them.
-/

namespace Classpath.Main

/-- The variable that names the level of the log. -/
def levelVariable : String :=
  "DEPSCOPE_LOG"

/-- The time between two looks at a watched file, in milliseconds. -/
def pause : UInt32 :=
  200

/-- What there is under a path that the operating system refused to read. -/
def refused : IO.Error → Except FileFault Item
  | .noFileOrDirectory .. => .error .missing
  | .inappropriateType _ code _ =>
    if code = 21 then .ok (.unreadable .isDirectory) else .error .notDirectory
  | .invalidArgument .. => .error .nullInName
  | .userError _ => .ok (.unreadable (.other "stream did not contain valid UTF-8"))
  | e => .ok (.unreadable (.other (toString e)))

/-- What is found under a path. -/
def look (path : Path) : IO (Except FileFault Item) := do
  try
    return .ok (.file (← IO.FS.readFile path.text))
  catch e =>
    return refused e

/-- The program as it is started now. -/
def start (a : Arguments) : IO Program := do
  let directory ← try toString <$> IO.currentDir catch _ => pure "."
  return { arguments := a, workingDirectory := ⟨directory⟩, found := ← look a.projectFile }

/-- Writes the entries of a log that are shown at a level. -/
def writeLog (level : Log.Level) (entries : List Log.Entry) : IO Unit := do
  for e in entries do
    if e.level.isShownAt level then IO.eprintln e.line

/-- Writes all that a process leaves behind. -/
def leave (e : Exit) : IO UInt32 := do
  for entry in e.log do
    IO.eprintln entry.line
  IO.print e.output
  IO.eprint e.error
  return e.code.toUInt32

/-- Prints the text of a file whenever it has changed. -/
partial def follow (level : Log.Level) (a : Arguments) (seen : Option Item) (w : Watch) :
    IO Unit := do
  (← IO.getStdout).flush
  if w.running then
    IO.sleep pause
    let p ← start a
    if p.found.toOption = seen then follow level a seen w
    else
      let current := p.report
      writeLog level (p.reportJournal ++ w.journal current .projectChanged)
      let (next, printed) := w.step current .projectChanged
      IO.print (printed.getD "")
      follow level a p.found.toOption next

/-- Runs the program with the words of a command line. -/
def run (words : List String) : IO UInt32 := do
  match Arguments.parse words with
  | .error r => leave (.ofRefusal r)
  | .ok a =>
    let level := Log.effectiveLevel a.logLevel (← IO.getEnv levelVariable)
    let p ← start a
    let outcome := p.run
    let code ← leave (.ofOutcome level outcome)
    if let some w := Watch.after? a outcome then
      follow level a p.found.toOption w
    return code

end Classpath.Main

/-- Runs the program. -/
def main (words : List String) : IO UInt32 :=
  Classpath.Main.run words
