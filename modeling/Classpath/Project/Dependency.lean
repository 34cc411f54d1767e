import Classpath.Vocabulary

/-!
# Dependencies

A dependency is an edge from the module that declares it to what it needs: another module, a
library, an SDK, or the module's own sources.

## Main definitions

* `Target` — what a dependency points at
* `Extension` — the scope and the exported flag of a dependency
* `Dependency` — the edge
* `Dependency.display` — the line that shows it
-/

namespace Classpath

/-- What a dependency points at. -/
inductive Target
  /-- The declaring module's own sources and outputs. -/
  | source
  | module (name : String)
  | library (name : String)
  | sdk (name : String)
deriving DecidableEq, Repr

namespace Target

/-- The name of what is pointed at; the module's own sources have none. -/
def name? : Target → Option String
  | source => none
  | module n | library n | sdk n => some n

/-- Whether an SDK is pointed at. -/
def isSdk : Target → Bool
  | sdk _ => true
  | _ => false

/-- How a target is shown. -/
def display : Target → String
  | source => "<module source>"
  | module n => "module:" ++ n
  | library n => "library:" ++ n
  | sdk n => "sdk:" ++ n

end Target

/-- Scope and exported flag of a dependency. -/
structure Extension where
  scope : Scope := .compile
  exported : Bool := false
deriving DecidableEq, Repr

namespace Extension

/-- How an extension is shown. -/
def display (e : Extension) : String :=
  "[" ++ e.scope.name ++ (if e.exported then ", exported" else "") ++ "]"

end Extension

/-- An edge from the module `owner`. A dependency without an extension is needed in every scope. -/
structure Dependency where
  owner : String
  target : Target
  extension : Option Extension := none
deriving DecidableEq, Repr

namespace Dependency

/-- The line that shows a dependency. -/
def display (d : Dependency) : String :=
  d.owner ++ " -> " ++ d.target.display ++
    match d.extension with
    | some e => " " ++ e.display
    | none => ""

end Dependency

end Classpath
