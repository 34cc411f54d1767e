import Classpath.Proofs.Containment

/-!
# Classpaths inside each other

A classpath kind decides two things: which scopes belong to it, and whether the
content of tests is left out.  Both go the same way.  What production code is
compiled with, tests are compiled with as well; what tests are compiled with, they
run with; and what production code runs with, tests run with as well.  Runtime
dependencies that the handlers put where tests are compiled are needed where tests
run in any case.

## Main definitions

* `ClasspathKind.NestsIn` — one classpath lies directly inside another
* `Session.includedIn` — a session that keeps the dependencies of one classpath

## Main statements

* `Session.classpaths_nest` — what a session shows for one classpath, it shows for
  the classpaths around it
-/

namespace Classpath

/-- The first classpath lies directly inside the second. -/
inductive ClasspathKind.NestsIn : ClasspathKind → ClasspathKind → Prop
  | compiling : NestsIn .productionCompile .testCompile
  | testing : NestsIn .testCompile .testRuntime
  | running : NestsIn .productionRuntime .testRuntime

namespace ClasspathKind.NestsIn

variable {small large : ClasspathKind} {scope : Scope}

theorem isIncludedIn (nests : small.NestsIn large) (included : scope.isIncludedIn small = true) :
    scope.isIncludedIn large = true := by
  cases nests <;> cases scope <;> first | rfl | contradiction

theorem isProduction (nests : small.NestsIn large) (production : large.isProduction = true) :
    small.isProduction = true := by
  cases nests <;> first | rfl | contradiction

/-- What is needed where tests are compiled, if only because of the handlers, is
needed where tests run. -/
theorem isIncludedIn_of_onTestCompile {promoted : Bool} (nests : testCompile.NestsIn large)
    (needed : scope.OnTestCompile promoted) : scope.isIncludedIn large = true := by
  rcases needed with included | ⟨runtime, -⟩
  · exact nests.isIncludedIn included
  · cases nests
    rw [runtime]
    rfl

end ClasspathKind.NestsIn

namespace ScopePolicy

variable {p : ScopePolicy} {small large : ClasspathKind} {scope : Scope} {promoted : Bool}

/-- A scope that is admitted for a classpath is admitted for the one around it: all
other conditions are the same. -/
theorem admitsScope_of_nestsIn (nests : small.NestsIn large)
    (admits : { p with kind := some small }.AdmitsScope scope promoted) :
    { p with kind := some large }.AdmitsScope scope promoted := by
  refine { admits with belongs := fun kind asked => .inl ?_ }
  obtain rfl : large = kind := Option.some.inj asked
  rcases admits.belongs small rfl with included | ⟨rfl, needed⟩
  · exact nests.isIncludedIn included
  · exact nests.isIncludedIn_of_onTestCompile needed

end ScopePolicy

namespace Session

/-- The session that keeps only the dependencies of one classpath. -/
def includedIn (s : Session) (kind : ClasspathKind) : Session :=
  { s with policy := { s.policy with kind := some kind } }

variable {s : Session} {small large : ClasspathKind}

theorem takes_of_nestsIn (nests : small.NestsIn large) {p : Position}
    (taken : (s.includedIn small).takes p = true) : (s.includedIn large).takes p = true := by
  obtain ⟨satisfies, looked, admitsScope, admitsExport⟩ := takes_iff.1 taken
  exact takes_iff.2 ⟨satisfies, looked,
    fun e known => ScopePolicy.admitsScope_of_nestsIn nests (admitsScope e known), admitsExport⟩

theorem isProductionOnly_of_nestsIn (nests : small.NestsIn large)
    (omits : (s.includedIn large).isProductionOnly = true) :
    (s.includedIn small).isProductionOnly = true := by
  simp only [isProductionOnly, includedIn, ScopePolicy.isProductionOnly, Option.any_some,
    Bool.or_eq_true] at omits ⊢
  exact omits.imp_right nests.isProduction

theorem narrows_of_nestsIn (s : Session) (nests : small.NestsIn large) :
    (s.includedIn small).Narrows (s.includedIn large) where
  project := rfl
  roots := rfl
  recurses := rfl
  takes _ taken := takes_of_nestsIn nests taken
  selects := selection_within rfl (isProductionOnly_of_nestsIn nests)

/-- **Classpaths nest.**  Whatever the other options and the handlers of a session,
what it shows for compiling production code it shows for compiling tests, what it
shows for compiling tests it shows for running tests, and what it shows for running
production code it shows for running tests: the entries, the modules, the libraries,
and the roots of both kinds, with or without the outputs of root modules. -/
theorem classpaths_nest (s : Session) (declared : s.RootsDeclared) :
    (s.includedIn .productionCompile).ContainedIn (s.includedIn .testCompile) ∧
    (s.includedIn .testCompile).ContainedIn (s.includedIn .testRuntime) ∧
    (s.includedIn .productionRuntime).ContainedIn (s.includedIn .testRuntime) := by
  have nested : ∀ small large, small.NestsIn large →
      (s.includedIn small).ContainedIn (s.includedIn large) :=
    fun small large nests => (s.narrows_of_nestsIn nests).containedIn declared
  exact ⟨nested _ _ .compiling, nested _ _ .testing, nested _ _ .running⟩

/-- The classpaths of the layered session, whose handlers put runtime dependencies
where tests are compiled, take `core` for production code to run, but not to be
compiled with. -/
theorem layered_classpaths_nest :
    let promoting := { layered with handlers := ⟨[.promotingRuntime]⟩ }
    promoting.RootsDeclared ∧
      (promoting.includedIn .productionCompile).ContainedIn (promoting.includedIn .testCompile) ∧
      (promoting.includedIn .testCompile).ContainedIn (promoting.includedIn .testRuntime) ∧
      (promoting.includedIn .productionRuntime).ContainedIn (promoting.includedIn .testRuntime) :=
  have declared : Session.RootsDeclared { layered with handlers := ⟨[.promotingRuntime]⟩ } := by
    decide
  ⟨declared, classpaths_nest _ declared⟩

end Session

end Classpath
