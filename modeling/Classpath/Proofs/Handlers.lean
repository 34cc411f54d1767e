import Classpath.Proofs.Containment
import Classpath.Proofs.Walk.Decisions

/-!
# What the answers of the handlers decide

Handlers answer four questions.  In a session that follows modules two of the answers are
never used: they are about the content of a module behind an edge that was not followed,
and there the only such edges lead to modules that the project does not know.  What is
left is the answer about runtime dependencies where tests are compiled, and it is used only
if the policy asks for what compiles, or for the classpath on which tests are compiled.

Putting runtime dependencies there only adds to what a session shows.

## Main definitions

* `ScopePolicy.MindsPromotion` — the answer about runtime dependencies has a say
* `HandlerSet.PromotesAtMost` — handlers that differ in that answer alone
* `Session.handledBy` — a session with other handlers

## Main statements

* `Session.contribution_module_of_recurses` — with modules followed, an edge to a module
  contributes nothing
* `Session.promotion_is_all_that_counts` — sessions with two sets of handlers
-/

namespace Classpath

namespace ScopePolicy

/-- The policy asks for what compiles, by the flag or by asking for the classpath on which
tests are compiled. -/
def MindsPromotion (p : ScopePolicy) : Prop :=
  p.compileOnly = true ∨ p.kind = some .testCompile

instance (p : ScopePolicy) : Decidable p.MindsPromotion :=
  inferInstanceAs (Decidable (_ ∨ _))

variable {p : ScopePolicy} {scope : Scope} {promoted promoted' : Bool}

/-- A scope that is admitted stays admitted when runtime dependencies are promoted. -/
theorem AdmitsScope.mono (more : promoted = true → promoted' = true)
    (admits : p.AdmitsScope scope promoted) : p.AdmitsScope scope promoted' := by
  have needed : scope.OnTestCompile promoted → scope.OnTestCompile promoted' :=
    Or.imp_right (And.imp_right more)
  exact { admits with
    compiles := fun set => (admits.compiles set).imp_right needed
    belongs := fun kind asked => (admits.belongs kind asked).imp_right (And.imp_right needed) }

/-- A policy that does not ask for what compiles admits the same scopes either way. -/
theorem AdmitsScope.of_not_minds (indifferent : ¬ p.MindsPromotion)
    (admits : p.AdmitsScope scope promoted) : p.AdmitsScope scope promoted' := by
  refine { admits with compiles := ?_, belongs := ?_ }
  · intro set
    exact absurd (.inl set) indifferent
  · intro kind asked
    rcases admits.belongs kind asked with included | ⟨rfl, -⟩
    · exact .inl included
    · exact absurd (.inr asked) indifferent

/-- What the handlers answer about runtime dependencies is used only if the policy asks
for what compiles. -/
theorem acceptsScope_congr (agree : promoted = promoted' ∨ ¬ p.MindsPromotion) :
    p.acceptsScope scope promoted = p.acceptsScope scope promoted' := by
  rcases agree with rfl | indifferent
  · rfl
  · rw [Bool.eq_iff_iff, acceptsScope_iff, acceptsScope_iff]
    exact ⟨.of_not_minds indifferent, .of_not_minds indifferent⟩

end ScopePolicy

/-- The second handlers put runtime dependencies where tests are compiled if the first do,
and the answers to all other questions are the same. -/
structure HandlerSet.PromotesAtMost (hs hs' : HandlerSet) : Prop where
  recursive : hs.recursive = hs'.recursive
  testsFromDependents : hs.testsFromDependents = hs'.testsFromDependents
  productionOnTests : ∀ d, hs.productionOnTests d = hs'.productionOnTests d
  promotes : hs.runtimeOnTestCompile = true → hs'.runtimeOnTestCompile = true

namespace Session

/-- The same session with other handlers. -/
def handledBy (s : Session) (hs : HandlerSet) : Session :=
  { s with handlers := hs }

variable {s : Session} {hs hs' : HandlerSet} {e : Enumerated}

theorem recurses_handledBy (hs : HandlerSet) :
    (s.handledBy hs).recurses = (s.traversal.recursive && hs.recursive) := rfl

/-! ## Answers without effect -/

/-- **With modules followed, an edge to a module contributes nothing**: it was followed,
or the project does not know the module. -/
theorem contribution_module_of_recurses (follows : s.recurses = true)
    (listed : e ∈ s.dependencies) {name : String} (points : e.edge.target = .module name)
    (q : RootQuery) : s.contribution q e = [] := by
  obtain ⟨-, same⟩ := takes_of_mem_dependencies listed
  cases found : s.project.module? name with
  | some m =>
    have expanded : e.expanded = true := by
      rw [same]
      exact expanded_entry_iff.2 ⟨recurses_iff.1 follows, name, m, points, found⟩
    exact (Contributes.followed points expanded).eq_contribution.symm
  | none =>
    refine contribution_of_unknown ?_
    rw [Unknown, points]
    exact found

/-- The handlers have no say in what stands behind an edge that points at no module. -/
theorem contribution_handledBy (other : ∀ name, e.edge.target ≠ .module name)
    (q : RootQuery) (hs : HandlerSet) : (s.handledBy hs).contribution q e = s.contribution q e := by
  have moduleRoots : (s.handledBy hs).moduleRoots q = s.moduleRoots q := rfl
  have contributor : (s.handledBy hs).contributor e = s.contributor e := rfl
  unfold contribution
  rw [moduleRoots, contributor]
  cases points : e.edge.target with
  | module name => exact absurd points (other name)
  | source => simp only [selection, points]; rfl
  | library _ | sdk _ => rfl

/-- Handlers that agree about tests have the same content selected. -/
theorem selection_handledBy (tests : hs.testsFromDependents = hs'.testsFromDependents)
    (production : ∀ d, hs.productionOnTests d = hs'.productionOnTests d) (d : Dependency) :
    (s.handledBy hs).selection d = (s.handledBy hs').selection d := by
  unfold selection
  simp only [handledBy, tests, production]
  rfl

section Agreeing

variable (alike : hs.recursive = hs'.recursive)
  (agree : hs.runtimeOnTestCompile = hs'.runtimeOnTestCompile ∨ ¬ s.policy.MindsPromotion)
include alike agree

/-- The verdicts are the same for both sets of handlers. -/
theorem verdict_handledBy (m : Module) (d : Dependency) :
    (s.handledBy hs).verdict m d = (s.handledBy hs').verdict m d := by
  have recurses : (s.handledBy hs).recurses = (s.handledBy hs').recurses := by
    rw [recurses_handledBy, recurses_handledBy, alike]
  have accepts : (s.handledBy hs).accepts m d = (s.handledBy hs').accepts m d := by
    have scopes : ∀ scope, s.policy.acceptsScope scope hs.runtimeOnTestCompile =
        s.policy.acceptsScope scope hs'.runtimeOnTestCompile :=
      fun _ => ScopePolicy.acceptsScope_congr agree
    unfold Session.accepts handledBy
    simp only [scopes]
    rfl
  unfold verdict
  rw [recurses, accepts]
  rfl

theorem dependencies_handledBy :
    (s.handledBy hs).dependencies = (s.handledBy hs').dependencies := by
  have same : (s.handledBy hs).walk = (s.handledBy hs').walk :=
    Walk.runAll_congr (verdict_handledBy alike agree) {} s.roots
  rw [dependencies, dependencies, same]

/-- Sessions that follow modules show the same for both sets of handlers. -/
theorem showsLike_handledBy (follows : (s.handledBy hs).recurses = true) :
    (s.handledBy hs).ShowsLike (s.handledBy hs') := by
  have listed := dependencies_handledBy alike agree
  have follows' : (s.handledBy hs').recurses = true := by
    rwa [recurses_handledBy, ← alike, ← recurses_handledBy]
  refine .of_dependencies listed (fun _ _ => rfl) (fun _ _ => rfl) ?_
  intro q e here
  by_cases toModule : ∃ name, e.edge.target = .module name
  · obtain ⟨name, points⟩ := toModule
    have there : e ∈ (s.handledBy hs').dependencies := by rwa [← listed]
    rw [contribution_module_of_recurses follows here points,
      contribution_module_of_recurses follows' there points]
  · have other : ∀ name, e.edge.target ≠ .module name := not_exists.1 toModule
    rw [contribution_handledBy other, contribution_handledBy other]

end Agreeing

/-! ## Putting runtime dependencies where tests are compiled -/

theorem narrows_of_promotesAtMost (promotes : hs.PromotesAtMost hs') :
    (s.handledBy hs).Narrows (s.handledBy hs') where
  project := rfl
  roots := rfl
  recurses := by rw [recurses_handledBy, recurses_handledBy, promotes.recursive]
  takes p taken := by
    obtain ⟨satisfied, looked, admitted, exported⟩ := takes_iff.1 taken
    refine takes_iff.2 ⟨satisfied, ?_, ?_, exported⟩
    · generalize p.dependency.target = target at looked ⊢
      cases target <;> exact looked
    · intro x extension
      exact (admitted x extension).mono promotes.promotes
  selects d := by
    intro kind wanted
    rwa [← selection_handledBy promotes.testsFromDependents promotes.productionOnTests]

/-- **Of what handlers answer, only promotion counts.**  Take a session that asks for
modules to be followed, and two sets of handlers that both allow it.  If they agree about
runtime dependencies where tests are compiled, or the policy does not ask for what
compiles, then the session shows the same with both, in the same order, whatever else they
answer.  And handlers that change this one answer to yes, in any session, take nothing
away. -/
theorem promotion_is_all_that_counts (s : Session) (hs hs' : HandlerSet) :
    (s.traversal.recursive = true → hs.recursive = true → hs'.recursive = true →
      hs.runtimeOnTestCompile = hs'.runtimeOnTestCompile ∨ ¬ s.policy.MindsPromotion →
      (s.handledBy hs).ShowsLike (s.handledBy hs')) ∧
    (s.RootsDeclared → hs.PromotesAtMost hs' →
      (s.handledBy hs).ContainedIn (s.handledBy hs')) := by
  constructor
  · intro asked allowed allowed' agree
    have follows : (s.handledBy hs).recurses = true := by
      rw [recurses_handledBy, asked, allowed, Bool.and_self]
    exact showsLike_handledBy (allowed.trans allowed'.symm) agree follows
  · intro declared promotes
    exact (narrows_of_promotesAtMost promotes).containedIn declared

/-- For the classpath on which tests are compiled, the layered session shows the same
whether or not tests of dependents are let through and `core` is taken for tests.  Once
runtime dependencies are put there, it shows `core` besides. -/
theorem layered_promotion_is_all_that_counts :
    let testing := { layered with policy := { kind := some .testCompile } }
    let wilful : HandlerSet := ⟨[{ testsFromDependents := false }, .reclassifying ["core"]]⟩
    let promoting : HandlerSet := ⟨[.promotingRuntime]⟩
    testing.RootsDeclared ∧ (testing.handledBy {}).ShowsLike (testing.handledBy wilful) ∧
      (layered.handledBy wilful).ShowsLike (layered.handledBy promoting) ∧
      (testing.handledBy {}).ContainedIn (testing.handledBy promoting) ∧
      (testing.handledBy {}).modules.map Module.name = ["app", "util"] ∧
      (testing.handledBy promoting).modules.map Module.name = ["app", "core", "util"] := by
  intro testing wilful promoting
  have declared : testing.RootsDeclared := by decide
  have indifferent : ¬ layered.policy.MindsPromotion := by decide
  have promotes : HandlerSet.PromotesAtMost {} promoting :=
    ⟨rfl, rfl, fun _ => rfl, fun _ => rfl⟩
  exact ⟨declared,
    (promotion_is_all_that_counts testing {} wilful).1 rfl rfl rfl (.inl rfl),
    (promotion_is_all_that_counts layered wilful promoting).1 rfl rfl rfl (.inr indifferent),
    (promotion_is_all_that_counts testing {} promoting).2 declared promotes,
    by cbv, by cbv⟩

end Session

end Classpath
