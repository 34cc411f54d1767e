import Classpath.Proofs.Walk.Move

/-!
# What the filters let through

The filters of a session are Boolean functions with a case for every option.  The
theory needs them as conditions that can be taken apart, option by option.  Each
option only adds a condition: it says something if it is set, and nothing if it is
not.

## Main definitions

* `Scope.OnTestCompile` — the scope is needed where tests are compiled
* `ScopePolicy.AdmitsScope`, `ScopePolicy.AdmitsExport` — the conditions on the
  scope and on the exported flag of an edge
* `Session.Satisfies`, `Session.LooksAt` — the conditions on an edge and on what it
  points at
* `Session.isExported` — the exported flag that counts for an edge

## Main statements

* `Session.takes_iff` — when the edge at a position is accepted
-/

namespace Classpath

/-- The form in which an option adds a condition. -/
theorem ifSet_iff {option condition : Bool} :
    (!option || condition) = true ↔ (option = true → condition = true) := by
  cases option <;> simp

/-- A dependency of this scope is needed where tests are compiled, by itself or
because the handlers put runtime dependencies there. -/
def Scope.OnTestCompile (scope : Scope) (promoted : Bool) : Prop :=
  scope.isIncludedIn .testCompile = true ∨ scope = .runtime ∧ promoted = true

namespace ScopePolicy

/-- The conditions on a scope, one for every option. -/
structure AdmitsScope (p : ScopePolicy) (scope : Scope) (promoted : Bool) : Prop where
  compiles : p.compileOnly = true →
    scope.isIncludedIn .productionCompile = true ∨ scope.OnTestCompile promoted
  runs : p.runtimeOnly = true →
    scope.isIncludedIn .productionRuntime = true ∨ scope.isIncludedIn .testRuntime = true
  /-- The one classpath asked for is one that the scope belongs to. -/
  belongs : ∀ kind, p.kind = some kind →
    scope.isIncludedIn kind = true ∨ kind = .testCompile ∧ scope.OnTestCompile promoted
  inProduction : p.productionOnly = true →
    scope.isIncludedIn .productionCompile = true ∨ scope.isIncludedIn .productionRuntime = true
  compilesProduction : p.productionOnly = true → p.compileOnly = true →
    scope.isIncludedIn .productionCompile = true
  runsProduction : p.productionOnly = true → p.runtimeOnly = true →
    scope.isIncludedIn .productionRuntime = true

/-- The condition on an exported flag. -/
def AdmitsExport (p : ScopePolicy) (exported declaredByRoot : Bool) : Prop :=
  exported = true ∨ p.exportFilter = .none ∨
    p.exportFilter = .recursivelyExported ∧ declaredByRoot = true

variable {p : ScopePolicy} {scope : Scope} {promoted exported declaredByRoot : Bool}

theorem acceptsScope_iff : p.acceptsScope scope promoted = true ↔ p.AdmitsScope scope promoted := by
  simp only [acceptsScope, Bool.and_eq_true, Bool.or_assoc, ifSet_iff]
  simp only [Bool.or_eq_true, Bool.and_eq_true, decide_eq_true_eq]
  constructor
  · rintro ⟨⟨⟨compiles, runs⟩, belongs⟩, production⟩
    refine ⟨compiles, runs, ?_, fun set => (production set).1.1, fun set => (production set).1.2,
      fun set => (production set).2⟩
    intro kind asked
    rw [asked] at belongs
    simpa [Scope.OnTestCompile] using belongs
  · intro admits
    refine ⟨⟨⟨admits.compiles, admits.runs⟩, ?_⟩, fun set =>
      ⟨⟨admits.inProduction set, admits.compilesProduction set⟩, admits.runsProduction set⟩⟩
    cases asked : p.kind with
    | none => rfl
    | some kind => simpa [Scope.OnTestCompile] using admits.belongs kind asked

theorem acceptsExport_iff :
    p.acceptsExport exported declaredByRoot = true ↔ p.AdmitsExport exported declaredByRoot := by
  rw [acceptsExport, AdmitsExport, Bool.or_eq_true]
  refine or_congr_right ?_
  cases p.exportFilter <;> simp

end ScopePolicy

namespace Session

/-- The edge satisfies the condition of the session, if there is one. -/
def Satisfies (s : Session) (d : Dependency) : Prop :=
  ∀ condition, s.condition = some condition → condition d = true

/-- The conditions on what an edge of `m` points at, one for every kind of target. -/
def LooksAt (s : Session) (m : Module) : Target → Prop
  | .source => s.traversal.withoutModuleSources = false ∧
      (s.traversal.withoutDepModules = true → s.isRoot m = true)
  | .module _ => s.traversal.withoutDepModules = true → s.traversal.recursive = true
  | .library _ => s.traversal.withoutLibraries = false
  | .sdk _ => s.traversal.withoutSdk = false

/-- The exported flag that counts for an edge. -/
def isExported (s : Session) (d : Dependency) : Bool :=
  match s.extensionOf d with
  | some e => e.exported
  | none => !d.target.isSdk

variable {s : Session} {m : Module} {d : Dependency}

theorem looksAt_iff : s.looksAt m d = true ↔ s.LooksAt m d.target := by
  cases target : d.target <;>
    simp only [looksAt, LooksAt, target, Bool.and_eq_true, ifSet_iff, Bool.not_eq_true']

theorem accepts_iff :
    s.accepts m d = true ↔
      (∀ e, s.extensionOf d = some e →
        s.policy.AdmitsScope e.scope s.handlers.runtimeOnTestCompile) ∧
      s.policy.AdmitsExport (s.isExported d) (s.isRoot m) := by
  rw [accepts, isExported]
  cases s.extensionOf d with
  | none => simp [ScopePolicy.acceptsExport_iff]
  | some e => simp [ScopePolicy.acceptsScope_iff, ScopePolicy.acceptsExport_iff]

/-- **When the edge at a position is accepted.**  It satisfies the condition of the
session, what it points at is looked at, and its scope and its exported flag are
admitted. -/
theorem takes_iff {p : Position} :
    s.takes p = true ↔
      s.Satisfies p.dependency ∧ s.LooksAt p.module p.dependency.target ∧
      (∀ e, s.extensionOf p.dependency = some e →
        s.policy.AdmitsScope e.scope s.handlers.runtimeOnTestCompile) ∧
      s.policy.AdmitsExport (s.isExported p.dependency) (s.isRoot p.module) := by
  have satisfied : s.condition.all (· p.dependency) = true ↔ s.Satisfies p.dependency := by
    unfold Satisfies
    cases s.condition <;> simp
  rw [takes, isCandidate, Bool.and_eq_true, Bool.and_eq_true, satisfied, looksAt_iff, accepts_iff,
    and_assoc]

end Session

end Classpath
