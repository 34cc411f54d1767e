import Classpath.Log
import Classpath.Path
import Classpath.Policy

/-!
# The command line

What can be asked for on the command line, and under which words.

## Main definitions

* `Listing`, `OutputFormat` — what is printed, and how
* `Arguments` — all that a command line decides
* `Switch` — options without a value
* `Setting` — options with a value
-/

namespace Classpath

/-- What is printed. -/
inductive Listing
  | roots
  | dependencies
  | modules
  | libraries
deriving DecidableEq, Repr

namespace Listing

/-- All listings. -/
def all : List Listing :=
  [roots, dependencies, modules, libraries]

/-- The word for a listing. -/
def name : Listing → String
  | roots => "roots"
  | dependencies => "dependencies"
  | modules => "modules"
  | libraries => "libraries"

end Listing

/-- How roots are printed. -/
inductive OutputFormat
  /-- One root on each line. -/
  | lines
  /-- One line of roots with separators between them. -/
  | classpath
deriving DecidableEq, Repr

namespace OutputFormat

/-- All formats. -/
def all : List OutputFormat :=
  [lines, classpath]

/-- The word for a format. -/
def name : OutputFormat → String
  | lines => "lines"
  | classpath => "classpath"

end OutputFormat

namespace RootKind

/-- All root kinds. -/
def all : List RootKind :=
  [compiled, sources]

/-- The word for a root kind on the command line. -/
def name : RootKind → String
  | compiled => "classes"
  | sources => "sources"

end RootKind

/-- All that a command line decides. -/
structure Arguments where
  projectFile : Path := ⟨"Depscope.toml"⟩
  /-- The root modules; without any, those of the project file count. -/
  modules : List String := []
  policy : ScopePolicy := {}
  traversal : Traversal := {}
  withoutSelfOutput : Bool := false
  /-- Patterns for names that are left out. -/
  excludes : List String := []
  listing : Listing := .roots
  rootKind : RootKind := .compiled
  format : OutputFormat := .lines
  fingerprint : Bool := false
  watch : Bool := false
  logLevel : Option Log.Level := none
  dryRun : Bool := false
deriving DecidableEq, Repr

/-- An option without a value. -/
inductive Switch
  | recursive
  | productionOnly
  | compileOnly
  | runtimeOnly
  | exportedOnly
  | recursivelyExportedOnly
  | withoutSdk
  | withoutLibraries
  | withoutDepModules
  | withoutModuleSources
  | withoutSelfModuleOutput
  | fingerprint
  | watch
  | dryRun
  | help
  | version
deriving DecidableEq, Repr

namespace Switch

/-- All switches. -/
def all : List Switch :=
  [recursive, productionOnly, compileOnly, runtimeOnly, exportedOnly, recursivelyExportedOnly,
    withoutSdk, withoutLibraries, withoutDepModules, withoutModuleSources, withoutSelfModuleOutput,
    fingerprint, watch, dryRun, help, version]

/-- The word for a switch. -/
def name : Switch → String
  | recursive => "recursive"
  | productionOnly => "production-only"
  | compileOnly => "compile-only"
  | runtimeOnly => "runtime-only"
  | exportedOnly => "exported-only"
  | recursivelyExportedOnly => "recursively-exported-only"
  | withoutSdk => "without-sdk"
  | withoutLibraries => "without-libraries"
  | withoutDepModules => "without-dep-modules"
  | withoutModuleSources => "without-module-sources"
  | withoutSelfModuleOutput => "without-self-module-output"
  | fingerprint => "fingerprint"
  | watch => "watch"
  | dryRun => "dry-run"
  | help => "help"
  | version => "version"

/-- The letter for a switch. -/
def letter? : Switch → Option Char
  | help => some 'h'
  | version => some 'V'
  | _ => none

/-- What a switch is for. -/
def purpose : Switch → String
  | recursive => "Follow module dependencies transitively"
  | productionOnly => "Leave out tests and what only they need"
  | compileOnly => "Keep what is needed for compiling"
  | runtimeOnly => "Keep what is needed for running"
  | exportedOnly => "Drop every non-exported dependency"
  | recursivelyExportedOnly => "Drop non-exported dependencies unless a root module declares them"
  | withoutSdk => "Leave out SDKs"
  | withoutLibraries => "Leave out libraries"
  | withoutDepModules => "Leave out the content of modules that are no roots"
  | withoutModuleSources => "Leave out the own content of modules"
  | withoutSelfModuleOutput => "Leave out the root modules' own output directories"
  | fingerprint => "Also print a BLAKE3 fingerprint of the root list"
  | watch => "Print again whenever the project file changes, until Ctrl-C"
  | dryRun => "Check the project file and print it, without enumerating"
  | help => "Print help"
  | version => "Print version"

end Switch

/-- An option with a value. -/
inductive Setting
  | config
  | module
  | includedIn
  | exclude
  | list
  | roots
  | format
  | logLevel
deriving DecidableEq, Repr

namespace Setting

/-- All settings. -/
def all : List Setting :=
  [config, module, includedIn, exclude, list, roots, format, logLevel]

/-- The word for a setting. -/
def name : Setting → String
  | config => "config"
  | module => "module"
  | includedIn => "included-in"
  | exclude => "exclude"
  | list => "list"
  | roots => "roots"
  | format => "format"
  | logLevel => "log-level"

/-- The letter for a setting. -/
def letter? : Setting → Option Char
  | module => some 'm'
  | _ => none

/-- Whether a setting may be given several times. -/
def isRepeatable : Setting → Bool
  | module | exclude => true
  | _ => false

/-- What a setting is for. -/
def purpose : Setting → String
  | config => "Path to the project file (TOML)"
  | module => "Root module to enumerate (repeatable)"
  | includedIn => "Keep only dependencies belonging to this classpath kind"
  | exclude => "Glob over module, library and SDK names to leave out (repeatable)"
  | list => "What to print: roots, dependencies, modules or libraries"
  | roots => "Root kind printed by --list roots: classes or sources"
  | format => "How --list roots is printed: lines or classpath"
  | logLevel => "Logging level: error, warn, info, debug or trace"

end Setting

end Classpath
