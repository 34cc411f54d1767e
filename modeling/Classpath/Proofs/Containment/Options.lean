import Classpath.Proofs.Containment

/-!
# Options that narrow a session

Every option of a session but one narrows it: setting it, or replacing it by a
stricter value, only takes away.  The exception is whether modules are followed,
which has to be the same for both sessions.

Each part of a session has an order of its own, field by field: the policy
(`ScopePolicy.StricterThan`), the kinds of edges looked at
(`Traversal.StricterThan`), and the query for roots (`RootQuery.StricterThan`).

## Main definitions

* `ExportFilter.strictness` — how much an export filter refuses
* `Session.StricterThan` — the first session is as strict as the second in every
  option

## Main statements

* `Session.narrowing_only_removes` — what the stricter session shows, the other
  shows as well
-/

namespace Classpath

/-- How much an export filter refuses. -/
def ExportFilter.strictness : ExportFilter → ℕ
  | none => 0
  | recursivelyExported => 1
  | exported => 2

/-- The first policy is as strict as the second: it sets every flag that the second
sets, asks for the same classpath if the second asks for one, and filters by export
at least as much. -/
structure ScopePolicy.StricterThan (p p' : ScopePolicy) : Prop where
  productionOnly : p'.productionOnly = true → p.productionOnly = true
  compileOnly : p'.compileOnly = true → p.compileOnly = true
  runtimeOnly : p'.runtimeOnly = true → p.runtimeOnly = true
  kind : p'.kind = none ∨ p.kind = p'.kind
  exportFilter : p'.exportFilter.strictness ≤ p.exportFilter.strictness

/-- Both follow modules alike, and the first leaves out all that the second leaves
out. -/
structure Traversal.StricterThan (t t' : Traversal) : Prop where
  recursive : t.recursive = t'.recursive
  withoutSdk : t'.withoutSdk = true → t.withoutSdk = true
  withoutLibraries : t'.withoutLibraries = true → t.withoutLibraries = true
  withoutDepModules : t'.withoutDepModules = true → t.withoutDepModules = true
  withoutModuleSources : t'.withoutModuleSources = true → t.withoutModuleSources = true

namespace ScopePolicy.StricterThan

variable {p p' : ScopePolicy}

theorem admitsScope (stricter : p.StricterThan p') {scope : Scope} {promoted : Bool}
    (admits : p.AdmitsScope scope promoted) : p'.AdmitsScope scope promoted where
  compiles set := admits.compiles (stricter.compileOnly set)
  runs set := admits.runs (stricter.runtimeOnly set)
  belongs kind asked := by
    rcases stricter.kind with unset | same
    · rw [unset] at asked
      contradiction
    · exact admits.belongs kind (same.trans asked)
  inProduction set := admits.inProduction (stricter.productionOnly set)
  compilesProduction set set' :=
    admits.compilesProduction (stricter.productionOnly set) (stricter.compileOnly set')
  runsProduction set set' :=
    admits.runsProduction (stricter.productionOnly set) (stricter.runtimeOnly set')

theorem admitsExport (stricter : p.StricterThan p') {exported declaredByRoot : Bool}
    (admits : p.AdmitsExport exported declaredByRoot) :
    p'.AdmitsExport exported declaredByRoot := by
  have strictness := stricter.exportFilter
  rcases admits with exported | free | ⟨recursively, byRoot⟩
  · exact .inl exported
  · rw [free] at strictness
    cases filter : p'.exportFilter with
    | none => exact .inr (.inl filter)
    | exported | recursivelyExported => simp [filter, ExportFilter.strictness] at strictness
  · rw [recursively] at strictness
    cases filter : p'.exportFilter with
    | none => exact .inr (.inl filter)
    | recursivelyExported => exact .inr (.inr ⟨filter, byRoot⟩)
    | exported => simp [filter, ExportFilter.strictness] at strictness

theorem isProductionOnly (stricter : p.StricterThan p') (omits : p'.isProductionOnly = true) :
    p.isProductionOnly = true := by
  rw [ScopePolicy.isProductionOnly, Bool.or_eq_true] at omits ⊢
  refine omits.imp stricter.productionOnly fun production => ?_
  rcases stricter.kind with unset | same
  · simp [unset] at production
  · rwa [same]

end ScopePolicy.StricterThan

namespace Session

/-- The first session is as strict as the second in every option.  Both are about
the same project, the same roots and the same handlers. -/
structure StricterThan (s t : Session) : Prop where
  project : s.project = t.project
  roots : s.roots = t.roots
  handlers : s.handlers = t.handlers
  extensionOf : s.extensionOf = t.extensionOf
  policy : s.policy.StricterThan t.policy
  traversal : s.traversal.StricterThan t.traversal
  condition : ∀ d, s.Satisfies d → t.Satisfies d

namespace StricterThan

variable {s t : Session}

theorem looksAt (stricter : s.StricterThan t) {m : Module} {target : Target}
    (looked : s.LooksAt m target) : t.LooksAt m target := by
  have off : ∀ {option option' : Bool}, (option' = true → option = true) → option = false →
      option' = false := by
    decide
  cases target with
  | source =>
    obtain ⟨sources, root⟩ := looked
    refine ⟨off stricter.traversal.withoutModuleSources sources, fun set => ?_⟩
    rw [isRoot, ← stricter.roots]
    exact root (stricter.traversal.withoutDepModules set)
  | module name =>
    intro set
    rw [← stricter.traversal.recursive]
    exact looked (stricter.traversal.withoutDepModules set)
  | library name => exact off stricter.traversal.withoutLibraries looked
  | sdk name => exact off stricter.traversal.withoutSdk looked

theorem takes (stricter : s.StricterThan t) (p : Position) (taken : s.takes p = true) :
    t.takes p = true := by
  obtain ⟨satisfies, looked, admitsScope, admitsExport⟩ := takes_iff.1 taken
  refine takes_iff.2 ⟨stricter.condition _ satisfies, stricter.looksAt looked, ?_, ?_⟩
  · rw [← stricter.extensionOf, ← stricter.handlers]
    exact fun e known => stricter.policy.admitsScope (admitsScope e known)
  · rw [isExported, isRoot, ← stricter.extensionOf, ← stricter.roots]
    exact stricter.policy.admitsExport admitsExport

theorem narrows (stricter : s.StricterThan t) : s.Narrows t where
  project := stricter.project
  roots := stricter.roots
  recurses := by rw [recurses, recurses, stricter.traversal.recursive, stricter.handlers]
  takes := stricter.takes
  selects := selection_within stricter.handlers stricter.policy.isProductionOnly

end StricterThan

/-- **Narrowing options only remove.**  Of two sessions over the same project, roots
and handlers that follow modules alike, let the first be as strict as the second in
every option.  Then every entry of the first is an entry of the second with the same
expanded flag, the modules and libraries of the first are among those of the second,
and every root of the first is, in some spelling, a root of the second, also if the
first leaves out the outputs of root modules and the second does not. -/
theorem narrowing_only_removes (strict lax : Session) (stricter : strict.StricterThan lax)
    (declared : strict.RootsDeclared) : strict.ContainedIn lax :=
  stricter.narrows.containedIn declared

/-- The layered session for compiling production code, without the SDK and without
edges to `junit`, and with edges of other modules only if they are exported. -/
def guarded : Session :=
  { layered with
    policy :=
      { productionOnly := true, exportFilter := .recursivelyExported,
        kind := some .productionCompile }
    traversal := { recursive := true, withoutSdk := true }
    condition := some fun d => d.target != .library "junit" }

/-- The guarded session, which gets to `util` without `core`, shows nothing that the
layered session does not show. -/
theorem guarded_narrowing_only_removes :
    guarded.StricterThan layered ∧ guarded.RootsDeclared ∧ guarded.ContainedIn layered := by
  have policy : guarded.policy.StricterThan layered.policy :=
    ⟨by decide, by decide, by decide, by decide, by decide⟩
  have traversal : guarded.traversal.StricterThan layered.traversal :=
    ⟨by decide, by decide, by decide, by decide, by decide⟩
  have condition : ∀ d, guarded.Satisfies d → layered.Satisfies d := by
    intro d _ condition set
    contradiction
  have stricter : guarded.StricterThan layered :=
    ⟨rfl, rfl, rfl, rfl, policy, traversal, condition⟩
  have declared : guarded.RootsDeclared := by decide
  exact ⟨stricter, declared, narrowing_only_removes guarded layered stricter declared⟩

end Session

end Classpath
