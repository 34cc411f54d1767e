import Classpath.CommandLine.Arguments

/-!
# Reading the command line

Words that start with a hyphen are options; any other word is the value of the setting in front of
it. A setting in long form may have its value attached behind an equals sign, in short form also
directly behind the letter. Behind `--` no option is recognised, and as nothing but options is
expected, nothing may follow.

## Main definitions

* `Refusal` — why words are no command line
* `Progress` — what has been read
* `Arguments.parse` — the arguments of a list of words

## Design notes

A setting whose value is the next word waits for the next option, or the end, before its value is
looked at. An unknown option is therefore reported before a bad value in front of it.
-/

namespace Classpath

/-- Why words are no command line, or a request for help or the version. -/
inductive Refusal
  | missingValue (setting : Setting)
  | invalidValue (setting : Setting) (value : String)
  | unknownWord (setting : Setting) (word : UnknownWord)
  | unknownArgument (text : String)
  | repeatedSetting (setting : Setting)
  | repeatedSwitch (switch : Switch)
  | conflict (first second : Switch)
  | unneededValue (switch : Switch) (value : String)
  | help
  | version
deriving DecidableEq, Repr

namespace Refusal

/-- What is said about a refusal. -/
def message : Refusal → String
  | missingValue s => "a value is required for '--" ++ s.name ++ "' but none was supplied"
  | invalidValue s v => "invalid value '" ++ v ++ "' for '--" ++ s.name ++ "'"
  | unknownWord s w => "invalid value for '--" ++ s.name ++ "': " ++ w.message
  | unknownArgument text => "unexpected argument '" ++ text ++ "' found"
  | repeatedSetting s => "the argument '--" ++ s.name ++ "' cannot be used multiple times"
  | repeatedSwitch s => "the argument '--" ++ s.name ++ "' cannot be used multiple times"
  | conflict a b =>
    "the argument '--" ++ a.name ++ "' cannot be used with '--" ++ b.name ++ "'"
  | unneededValue s v =>
    "unexpected value '" ++ v ++ "' for '--" ++ s.name ++ "' found; no more were expected"
  | help => "help is asked for"
  | version => "the version is asked for"

end Refusal

namespace Arguments

/-- Turns a switch on. -/
def turnOn (a : Arguments) : Switch → Arguments
  | .recursive => { a with traversal.recursive := true }
  | .productionOnly => { a with policy.productionOnly := true }
  | .compileOnly => { a with policy.compileOnly := true }
  | .runtimeOnly => { a with policy.runtimeOnly := true }
  | .exportedOnly => { a with policy.exportFilter := .exported }
  | .recursivelyExportedOnly => { a with policy.exportFilter := .recursivelyExported }
  | .withoutSdk => { a with traversal.withoutSdk := true }
  | .withoutLibraries => { a with traversal.withoutLibraries := true }
  | .withoutDepModules => { a with traversal.withoutDepModules := true }
  | .withoutModuleSources => { a with traversal.withoutModuleSources := true }
  | .withoutSelfModuleOutput => { a with withoutSelfOutput := true }
  | .fingerprint => { a with fingerprint := true }
  | .watch => { a with watch := true }
  | .dryRun => { a with dryRun := true }
  | .help | .version => a

/-- The choice with this word. -/
def choose {α : Type} (s : Setting) (choices : List α) (name : α → String) (word : String) :
    Except Refusal α :=
  match choices.find? (name · = word) with
  | some choice => .ok choice
  | none => .error (.invalidValue s word)

/-- Gives a setting a value; a repeatable one is given a further value. -/
def set (a : Arguments) (s : Setting) (value : String) : Except Refusal Arguments :=
  match s with
  | .config =>
    if value.isEmpty then .error (.invalidValue s value) else .ok { a with projectFile := ⟨value⟩ }
  | .module => .ok { a with modules := a.modules ++ [value] }
  | .exclude => .ok { a with excludes := a.excludes ++ [value] }
  | .includedIn =>
    match ClasspathKind.parse value with
    | .ok kind => .ok { a with policy.kind := some kind }
    | .error word => .error (.unknownWord s word)
  | .list => ({ a with listing := · }) <$> choose s Listing.all Listing.name value
  | .roots => ({ a with rootKind := · }) <$> choose s RootKind.all RootKind.name value
  | .format => ({ a with format := · }) <$> choose s OutputFormat.all OutputFormat.name value
  | .logLevel =>
    ({ a with logLevel := some · }) <$>
      choose s Log.Level.all (fun level => Text.lowercaseAscii level.name) value

end Arguments

/-- What has been read of a command line. -/
structure Progress where
  arguments : Arguments := {}
  /-- The switches that were turned on. -/
  switches : List Switch := []
  /-- The settings that were given a value. -/
  settled : List Setting := []
  /-- A setting that waits for its value, or whose value waits to be looked at. -/
  pending : Option (Setting × Option String) := none
  /-- The words behind `--` are being read. -/
  trailing : Bool := false

namespace Progress

/-- Gives a setting a value. -/
def settle (p : Progress) (s : Setting) (value : String) : Except Refusal Progress :=
  if !s.isRepeatable && p.settled.contains s then .error (.repeatedSetting s)
  else do return { p with arguments := ← p.arguments.set s value, settled := s :: p.settled }

/-- Gives the pending setting its value. -/
def resolve (p : Progress) : Except Refusal Progress :=
  match p.pending with
  | none => .ok p
  | some (s, none) => .error (.missingValue s)
  | some (s, some value) => { p with pending := none }.settle s value

/-- Reads a switch. -/
def readSwitch (p : Progress) (s : Switch) : Except Refusal Progress := do
  let p ← p.resolve
  match s with
  | .help => .error .help
  | .version => .error .version
  | s =>
    if p.switches.contains s then .error (.repeatedSwitch s)
    else .ok { p with arguments := p.arguments.turnOn s, switches := s :: p.switches }

/-- Reads a setting with the value attached to it, if there is one. -/
def readSetting (p : Progress) (s : Setting) (value : Option String) : Except Refusal Progress := do
  let p ← p.resolve
  match value with
  | some value => p.settle s value
  | none => return { p with pending := some (s, none) }

/-- Reads the characters behind two hyphens. -/
def readLong (p : Progress) (option : List Char) : Except Refusal Progress :=
  let name := String.ofList (option.takeWhile (· ≠ '='))
  let value := (option.dropWhile (· ≠ '=')).tail?.map String.ofList
  match Setting.all.find? (·.name = name), Switch.all.find? (·.name = name) with
  | some s, _ => p.readSetting s value
  | none, some s =>
    match value with
    | some value => .error (.unneededValue s value)
    | none => p.readSwitch s
  | none, none => .error (.unknownArgument ("--" ++ .ofList option))

/-- The value attached to a letter by the characters behind it. -/
def attached : List Char → Option String
  | [] => none
  | '=' :: value => some (.ofList value)
  | value => some (.ofList value)

/-- Reads the characters behind one hyphen, each of which is an option until one takes the others
as its value. -/
def readShort (p : Progress) : List Char → Except Refusal Progress
  | [] => .ok p
  | c :: rest =>
    match Setting.all.find? (·.letter? = some c), Switch.all.find? (·.letter? = some c) with
    | some s, _ => p.readSetting s (attached rest)
    | none, some s => do (← p.readSwitch s).readShort rest
    | none, none => .error (.unknownArgument ("-" ++ c.toString))

/-- Reads a word. -/
def read (p : Progress) (word : String) : Except Refusal Progress :=
  if p.trailing then .error (.unknownArgument word)
  else match word.toList with
    | ['-', '-'] => .ok { p with trailing := true }
    | '-' :: '-' :: option => p.readLong option
    | '-' :: c :: rest => p.readShort (c :: rest)
    -- A lone hyphen and the empty text are values like any other word.
    | _ =>
      match p.pending with
      | some (s, none) => .ok { p with pending := some (s, some word) }
      | _ => .error (.unknownArgument word)

/-- The arguments, once all words have been read. -/
def finish (p : Progress) : Except Refusal Arguments := do
  let p ← p.resolve
  if p.switches.contains .exportedOnly && p.switches.contains .recursivelyExportedOnly then
    .error (.conflict .exportedOnly .recursivelyExportedOnly)
  else return p.arguments

end Progress

namespace Arguments

/-- The arguments that words stand for. -/
def parse (words : List String) : Except Refusal Arguments := do
  (← words.foldlM Progress.read {}).finish

end Arguments

/-- The line that names the program and its version. -/
def versionText : String :=
  "depscope 0.1.0\n"

/-- One line of the help text. -/
def helpLine (letter : Option Char) (name value purpose : String) : String :=
  let short := match letter with
    | some c => "-" ++ c.toString ++ ", "
    | none => "    "
  let option := "  " ++ short ++ "--" ++ name ++ value
  .ofList (option.toList.rightpad 40 ' ') ++ purpose ++ "\n"

/-- What is printed when help is asked for. -/
def helpText : String :=
  "Enumerate module dependencies and print classpath roots.\n\nUsage: depscope [OPTIONS]\n\n" ++
  "Options:\n" ++
  .join (Setting.all.map fun s => helpLine s.letter? s.name " <VALUE>" s.purpose) ++
  .join (Switch.all.map fun s => helpLine s.letter? s.name "" s.purpose)

end Classpath
