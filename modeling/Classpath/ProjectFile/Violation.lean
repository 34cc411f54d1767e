import Classpath.ProjectFile.Basic

/-!
# Rules of project files

A project file has at least one module, its names are plain words, and what it refers to exists.

## Main definitions

* `Violation` — a breach of one of the rules
* `ProjectFile.violations` — all breaches, in the order in which they are looked for
* `ProjectFile.validate` — the file, or its first violation

## Design notes

Modules may depend on each other in circles, but no module may name itself.
-/

namespace Classpath

/-- The sections whose entries have names. -/
inductive SectionKind
  | module
  | library
  | sdk
  | handler
deriving DecidableEq, Repr

namespace SectionKind

/-- The key of a section. -/
def key : SectionKind → String
  | module => "module"
  | library => "library"
  | sdk => "sdk"
  | handler => "handler"

end SectionKind

/-- The lists of module names. -/
inductive ModuleList
  | projectRoots
  | appliesTo (handler : String)
  | productionOnTests (handler : String)
deriving DecidableEq, Repr

namespace ModuleList

/-- What a message calls a list. -/
def describe : ModuleList → String
  | projectRoots => "[project].roots"
  | appliesTo handler => "[handler." ++ handler ++ "].applies_to"
  | productionOnTests handler => "[handler." ++ handler ++ "].production_on_tests"

end ModuleList

/-- A breach of the rules. -/
inductive Violation
  | noModules
  /-- A name with other characters than those allowed. -/
  | badName (kind : SectionKind) (name : String)
  /-- A dependency of a module that names nothing or several things. -/
  | notOneTarget (owner : String)
  | selfDependency (owner : String)
  | unknownTarget (owner : String) (entry : DependencyEntry)
  | unknownModule (list : ModuleList) (name : String)
deriving DecidableEq, Repr

namespace Violation

/-- What is said about a breach. -/
def message : Violation → String
  | noModules => "project must contain at least one [module.<name>] section"
  | badName kind name => "invalid " ++ kind.key ++ " name '" ++ name ++
      "' (allowed: letters, digits, '_', '.', '-')"
  | notOneTarget owner => "module '" ++ owner ++ "' has a dependency entry that must name " ++
      "exactly one of `module`, `library` or `sdk`"
  | selfDependency owner => "module '" ++ owner ++ "' cannot depend on itself"
  | unknownTarget owner entry =>
    "module '" ++ owner ++ "' has unknown dependency " ++ entry.describe
  | unknownModule list name => list.describe ++ " references unknown module '" ++ name ++ "'"

end Violation

/-- Whether a character may stand in a name. -/
def isNameChar (c : Char) : Bool :=
  c.isAlphanum || c = '_' || c = '.' || c = '-'

/-- Whether a text is a name. -/
def isName (name : String) : Bool :=
  name ≠ "" && name.toList.all isNameChar

namespace ProjectFile

/-- Whether a target is declared. -/
def declares (f : ProjectFile) : Target → Bool
  | .source => true
  | .module name => f.modules.contains name
  | .library name => f.libraries.contains name
  | .sdk name => f.sdks.contains name

/-- The breach of a dependency of `owner`, if there is one. -/
def entryViolation (f : ProjectFile) (owner : String) (e : DependencyEntry) : Option Violation :=
  match e.targets with
  | [target] =>
    if target = .module owner then some (.selfDependency owner)
    else if f.declares target then none
    else some (.unknownTarget owner e)
  | _ => some (.notOneTarget owner)

/-- The names of a section that are not allowed. -/
def badNames (kind : SectionKind) (names : List String) : List Violation :=
  (names.filter (!isName ·)).map (.badName kind)

/-- The members of a list of modules that are not declared. -/
def unknownModules (f : ProjectFile) (list : ModuleList) (names : List String) : List Violation :=
  (names.filter (!f.modules.contains ·)).map (.unknownModule list)

/-- All breaches, in the order in which they are looked for. -/
def violations (f : ProjectFile) : List Violation :=
  (if f.modules.isEmpty then [.noModules] else []) ++
  badNames .module f.modules.names ++
  badNames .library f.libraries.names ++
  badNames .sdk f.sdks.names ++
  badNames .handler f.handlers.names ++
  f.modules.entries.flatMap (fun (owner, m) => m.dependencies.filterMap (f.entryViolation owner)) ++
  f.unknownModules .projectRoots f.project.roots ++
  f.handlers.entries.flatMap (fun (name, h) =>
    f.unknownModules (.appliesTo name) h.appliesTo ++
      f.unknownModules (.productionOnTests name) h.productionOnTests)

/-- The file itself if it keeps all rules, else its first breach. -/
def validate (f : ProjectFile) : Except Violation ProjectFile :=
  match f.violations with
  | [] => .ok f
  | v :: _ => .error v

end ProjectFile

end Classpath
