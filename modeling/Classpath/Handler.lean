import Classpath.Log
import Classpath.Project.Model

/-!
# Handlers

A handler adjusts how a session walks and classifies dependencies, as a build tool does that turns
off the following of modules. Handlers are made by factories, which look at the root modules of
the session and may decline. The opinions of several handlers are combined by one of two rules:
what is allowed by default needs all of them to agree, what is not needs one.

## Main definitions

* `Handler` — four opinions
* `HandlerSet` — the handlers of a session, and their combined opinions
* `Factory` — what makes a handler for root modules, or declines
* `Registry` — the factories that sessions are opened with
-/

namespace Classpath

/-- Opinions about a session. The defaults are those of a session without handlers. -/
structure Handler where
  /-- Whether modules may be followed. -/
  recursive : Bool := true
  /-- Whether the tests of a module go onto the test classpath of one that depends on it. -/
  testsFromDependents : Bool := true
  /-- Whether runtime dependencies are needed where tests are compiled. -/
  runtimeOnTestCompile : Bool := false
  /-- Whether production code depends on the tests behind an edge. -/
  productionOnTests : Dependency → Bool := fun _ => false

namespace Handler

/-- The handler that changes nothing. -/
def neutral : Handler := {}

/-- The handler that turns off the following of modules. -/
def nonRecursive : Handler := { recursive := false }

/-- The handler that puts runtime dependencies where tests are compiled. -/
def promotingRuntime : Handler := { runtimeOnTestCompile := true }

/-- Whether an edge points at one of the named modules. -/
def pointsAtOneOf (names : List String) (d : Dependency) : Bool :=
  match d.target with
  | .module n => names.contains n
  | _ => false

/-- The handler that takes the edges to the named modules for edges to tests. -/
def reclassifying (names : List String) : Handler :=
  { productionOnTests := pointsAtOneOf names }

end Handler

/-- The handlers of a session. -/
structure HandlerSet where
  handlers : List Handler := []

namespace HandlerSet

/-- Whether no handler answers no. -/
def allAgree (hs : HandlerSet) (question : Handler → Bool) : Bool :=
  hs.handlers.all question

/-- Whether some handler answers yes. -/
def anyAgrees (hs : HandlerSet) (question : Handler → Bool) : Bool :=
  hs.handlers.any question

/-- Whether modules may be followed. -/
def recursive (hs : HandlerSet) : Bool :=
  hs.allAgree (·.recursive)

/-- Whether the tests of a module go onto the test classpath of one that depends on it. -/
def testsFromDependents (hs : HandlerSet) : Bool :=
  hs.allAgree (·.testsFromDependents)

/-- Whether runtime dependencies are needed where tests are compiled. -/
def runtimeOnTestCompile (hs : HandlerSet) : Bool :=
  hs.anyAgrees (·.runtimeOnTestCompile)

/-- Whether production code depends on the tests behind an edge. -/
def productionOnTests (hs : HandlerSet) (d : Dependency) : Bool :=
  hs.anyAgrees (·.productionOnTests d)

/-- The number of handlers. -/
def size (hs : HandlerSet) : Nat :=
  hs.handlers.length

end HandlerSet

/-- Makes a handler for the root modules of a session, or declines. -/
structure Factory where
  /-- The name under which declining is reported; a factory without one declines silently. -/
  label : Option String := none
  create : List Module → Option Handler

namespace Factory

/-- The factory that always makes this handler. -/
def always (h : Handler) : Factory :=
  { create := fun _ => some h }

/-- The factory that declines unless a root module has this name. -/
def onlyFor (h : Handler) (root : String) : Factory :=
  { create := fun roots => if roots.any (·.name = root) then some h else none }

/-- What is reported about making a handler. -/
def journal (f : Factory) (roots : List Module) : List Log.Entry :=
  match f.label, f.create roots with
  | some name, none =>
    [{ level := .debug, message := "handler does not apply to these roots",
       fields := [("handler", name)] }]
  | _, _ => []

end Factory

/-- The factories that sessions are opened with. -/
structure Registry where
  factories : List Factory := []

namespace Registry

/-- The handlers of the factories that do not decline. -/
def handlersFor (r : Registry) (roots : List Module) : HandlerSet :=
  ⟨r.factories.filterMap (·.create roots)⟩

/-- The number of factories. -/
def size (r : Registry) : Nat :=
  r.factories.length

/-- What is reported about making the handlers. -/
def journal (r : Registry) (roots : List Module) : List Log.Entry :=
  r.factories.flatMap (·.journal roots) ++
    [{ level := .debug, message := "resolved enumeration handlers",
       fields := [("factories", toString r.size),
         ("handlers", toString (r.handlersFor roots).size)] }]

end Registry

end Classpath
