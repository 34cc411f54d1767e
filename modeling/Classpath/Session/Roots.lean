import Classpath.Digest
import Classpath.Session.Walk
import Std.Data.HashSet

/-!
# Roots of a session

What a session puts onto a classpath: the directories and archives behind its listed edges, in
the order of the walk, each path once.

## Main definitions

* `RootQuery` — which roots are asked for
* `Selection` — whether production content, test content or both of a module is wanted
* `Session.contribution` — the roots behind one listed edge
* `RootSink` — paths collected one after the other, each once
* `Session.rootPaths` — the roots of a session
* `joinPaths` — roots as one classpath text
* `fingerprint` — the digest of roots

## Design notes

Paths are compared by components, and of several spellings of one path the first is kept.

A fingerprint is meant to tell whether two sessions put the same paths, spelled the same way and in
the same order, onto a classpath. It is the digest of the paths with a line end behind each, and so
a path that holds a line end counts as several.
-/

namespace Classpath

/-- Which roots are asked for. -/
structure RootQuery where
  kind : RootKind
  /-- Leaves out the outputs of root modules, except the production output where production and
  test content are both wanted. -/
  withoutSelfOutput : Bool := false
deriving DecidableEq, Repr

/-- The content of a module that is wanted. -/
structure Selection where
  production : Bool
  tests : Bool
deriving DecidableEq, Repr

namespace Selection

/-- Whether source directories of a kind are wanted. -/
def wants (sel : Selection) : SourceKind → Bool
  | .production => sel.production
  | .test => sel.tests

end Selection

namespace Module

/-- The source directories that are wanted, in declaration order. -/
def selectedSources (m : Module) (sel : Selection) : List Path :=
  (m.sourceRoots.filter (sel.wants ·.kind)).map (·.path)

/-- The output directories that are wanted, tests before production. A test output that is the
production output is left to production content. -/
def selectedOutputs (m : Module) (sel : Selection) : List Path :=
  -- Tests come first: of two classes with one name, a classpath gives the first.
  let tests := m.testOutput.filter fun path => sel.tests && !m.output.any path.same
  let production := m.output.filter fun _ => sel.production
  tests.toList ++ production.toList

end Module

namespace Session

/-- The content that a listed edge asks for. An edge to a module asks for its tests if they are
not left out and the handlers let them through; an edge to tests asks for them alone. -/
def selection (s : Session) (d : Dependency) : Selection :=
  match d.target with
  | .module _ =>
    let onTests := s.handlers.productionOnTests d
    { production := !onTests
      tests := (!s.isProductionOnly && s.handlers.testsFromDependents) || onTests }
  | _ => { production := true, tests := !s.isProductionOnly }

/-- The roots of a module's selected content. -/
def moduleRoots (s : Session) (q : RootQuery) (m : Module) (sel : Selection) : List Path :=
  match q.kind with
  | .sources => m.selectedSources sel
  | .compiled =>
    if q.withoutSelfOutput && s.isRoot m then
      if sel.production && sel.tests then m.output.toList else []
    else m.selectedOutputs sel

/-- The roots behind a listed edge; a name that stands for nothing has none. -/
def contribution (s : Session) (q : RootQuery) (e : Enumerated) : List Path :=
  match e.edge.target with
  | .library name => ((s.project.library? name).map (·.roots q.kind)).getD []
  | .sdk name => ((s.project.sdk? name).map (·.roots q.kind)).getD []
  | _ => ((s.contributor e).map (s.moduleRoots q · (s.selection e.edge))).getD []

end Session

/-- The paths collected so far, and the components they are recognised by. -/
structure RootSink where
  roots : Array Path := #[]
  seen : Std.HashSet (List Component) := ∅
  /-- What was seen are the components of the paths. -/
  inStep : ∀ cs, cs ∈ seen ↔ ∃ p ∈ roots, p.components = cs := by simp

namespace RootSink

/-- Adds a path, unless one with the same components is there. -/
def push (sink : RootSink) (p : Path) : RootSink :=
  if p.components ∈ sink.seen then sink
  else
    { roots := sink.roots.push p
      seen := sink.seen.insert p.components
      inStep := by
        intro cs
        rw [Std.HashSet.mem_insert, sink.inStep]
        simp only [Array.mem_push, beq_iff_eq]
        constructor
        · rintro (rfl | ⟨r, hr, rfl⟩)
          · exact ⟨p, .inr rfl, rfl⟩
          · exact ⟨r, .inl hr, rfl⟩
        · rintro ⟨r, hr | rfl, rfl⟩
          · exact .inr ⟨r, hr, rfl⟩
          · exact .inl rfl }

/-- Adds paths one after the other. -/
def extend (sink : RootSink) (paths : List Path) : RootSink :=
  paths.foldl push sink

end RootSink

namespace Session

/-- Collects the roots behind all listed edges. -/
def collectRoots (s : Session) (q : RootQuery) : RootSink :=
  s.dependencies.foldl (fun sink e => sink.extend (s.contribution q e)) {}

/-- The roots of a session. -/
def rootPaths (s : Session) (q : RootQuery) : List Path :=
  (s.collectRoots q).roots.toList

/-- What is reported about collecting the roots. -/
def rootsJournal (s : Session) (q : RootQuery) : List Log.Entry :=
  s.journal ++
  [{ level := .debug, message := "collected roots",
     fields := [("kind", q.kind.label), ("roots", toString (s.rootPaths q).length)] }]

end Session

/-- The character between the roots of a classpath. -/
def pathSeparator : Char := ':'

/-- The texts of paths with a separator between them. A path that holds the separator cannot be
joined. -/
def joinPaths (paths : List Path) : Option String :=
  if paths.any fun p => p.text.toList.contains pathSeparator then none
  else some ((String.singleton pathSeparator).intercalate (paths.map (·.text)))

/-- The text of a path in UTF-8, and a line end. -/
def lineBytes (p : Path) : List UInt8 :=
  p.text.toList.flatMap String.utf8EncodeChar ++ [10]

/-- The byte string that stands for a list of paths. -/
def rootBytes (paths : List Path) : List UInt8 :=
  paths.flatMap lineBytes

/-- The fingerprint of a list of paths. -/
def fingerprint (paths : List Path) : String :=
  blake3Hex (rootBytes paths)

end Classpath
