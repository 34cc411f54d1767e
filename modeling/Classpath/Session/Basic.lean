import Classpath.Handler
import Classpath.Policy

/-!
# Sessions

A session enumerates the dependencies of a set of root modules. It holds the project, the roots,
the handlers made for them, and the filters.

## Main definitions

* `Session` — all that decides an enumeration
* `Session.start` — a session without filters
* `Session.isCandidate`, `Session.accepts` — the two filters an edge has to pass
* `Session.recurses` — whether modules are followed
* `Session.verdict` — what becomes of an edge
-/

namespace Classpath

/-- An enumeration of the dependencies of root modules. -/
structure Session where
  project : Project
  roots : List Module
  handlers : HandlerSet := {}
  policy : ScopePolicy := {}
  traversal : Traversal := {}
  /-- A condition that elements have to satisfy. -/
  condition : Option (Dependency → Bool) := none
  /-- The scope and exported flag that count for an edge. -/
  extensionOf : Dependency → Option Extension := Dependency.extension

/-- What becomes of an edge. -/
inductive Verdict
  /-- It is not looked at. -/
  | skipped
  /-- Its scope or exported flag is refused. -/
  | refused
  /-- It is listed, and its target is not followed. -/
  | listed
  /-- It is listed; its target would be followed, but the project has no module of that name. -/
  | dangling (target : String)
  /-- It is listed and its target is followed. -/
  | followed (target : Module)
deriving DecidableEq

namespace Session

/-- A session without filters, with the handlers that a registry makes for its roots. -/
def start (p : Project) (roots : List Module) (r : Registry) : Session :=
  { project := p, roots, handlers := r.handlersFor roots }

/-- Whether a root has the name of `m`. -/
def isRoot (s : Session) (m : Module) : Bool :=
  s.roots.any (·.name = m.name)

/-- Whether content of tests is left out. -/
def isProductionOnly (s : Session) : Bool :=
  s.policy.isProductionOnly

/-- Whether modules are followed: the session asks for it and no handler forbids it. -/
def recurses (s : Session) : Bool :=
  s.traversal.recursive && s.handlers.recursive

/-- Whether the kind of an edge of `m` is looked at. -/
def looksAt (s : Session) (m : Module) (d : Dependency) : Bool :=
  let t := s.traversal
  match d.target with
  | .sdk _ => !t.withoutSdk
  | .library _ => !t.withoutLibraries
  | .source => !t.withoutModuleSources && (!t.withoutDepModules || s.isRoot m)
  | .module _ => !t.withoutDepModules || t.recursive

/-- Whether an edge of `m` satisfies the condition of the session and is of a kind it looks at. -/
def isCandidate (s : Session) (m : Module) (d : Dependency) : Bool :=
  s.condition.all (· d) && s.looksAt m d

/-- Whether the scope and the exported flag of an edge of `m` are accepted. An edge without an
extension is needed in every scope, and exported unless it points at an SDK. -/
def accepts (s : Session) (m : Module) (d : Dependency) : Bool :=
  match s.extensionOf d with
  | some e =>
    s.policy.acceptsScope e.scope s.handlers.runtimeOnTestCompile &&
      s.policy.acceptsExport e.exported (s.isRoot m)
  | none => s.policy.acceptsExport (!d.target.isSdk) (s.isRoot m)

/-- What becomes of an edge of `m`. -/
def verdict (s : Session) (m : Module) (d : Dependency) : Verdict :=
  if !s.isCandidate m d then .skipped
  else if !s.accepts m d then .refused
  else if !s.recurses then .listed
  else match d.target with
    | .module name =>
      match s.project.module? name with
      | some target => .followed target
      | none => .dangling name
    | _ => .listed

theorem mem_modules_of_followed {s : Session} {m t : Module} {d : Dependency}
    (h : s.verdict m d = .followed t) : t ∈ s.project.modules := by
  unfold verdict at h
  split at h <;> try contradiction
  split at h <;> try contradiction
  split at h <;> try contradiction
  split at h <;> try contradiction
  split at h
  · next hm => exact Verdict.followed.inj h ▸ Project.mem_of_module? hm
  · contradiction

/-- How a session is shown in the log. -/
def display (s : Session) : String :=
  Text.record "DependenciesEnumerator" [
    ("roots", Text.quotedList (s.roots.map (·.name))),
    ("policy", s.policy.display),
    ("traversal", s.traversal.display),
    ("condition", toString s.condition.isSome),
    ("handlers", toString s.handlers.size)]

end Session

end Classpath
