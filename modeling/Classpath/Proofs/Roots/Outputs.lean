import Classpath.Proofs.Views
import Classpath.Proofs.Walk.Reach

/-!
# Outputs that are wanted

Of a module behind a listed edge production content is wanted, or tests, or both, and
what is wanted is on the classpath: its output directory is a class root, in some
spelling.  There is one gap.  A directory that a module uses for both is left to
production content, so that an edge to tests, which wants tests alone, gets nothing of
such a module.

## Main definitions

* `Module.combined` — a module with one directory for production and tests
* `Retesting.session` — a session with an edge to the tests of such a module

## Main statements

* `Session.wanted_outputs_are_roots` — which outputs are class roots, and the gap
* `Retesting.shared_output_is_missing` — the gap in a session
-/

namespace Classpath

/-- A module with one directory for production and tests. -/
def Module.combined (name : String) (dependencies : List Dependency) : Module :=
  { name, dependencies, output := some ⟨"out/" ++ name⟩, testOutput := some ⟨"out/" ++ name⟩ }

namespace Session

variable {s : Session} {e : Enumerated} {m : Module} {path : Path}

/-- What an entry contributes to the class roots. -/
theorem contribution_compiled (projected : s.ProjectsOnto e m) :
    s.contribution { kind := .compiled } e =
      (if s.Wants e.edge .test ∧ ¬ m.SharesOutput then m.testOutput.toList else []) ++
        if s.Wants e.edge .production then m.output.toList else [] :=
  (Contributes.outputs projected rfl (by simp)).eq_contribution.symm

/-- The production output is a class root where production content is wanted. -/
theorem exists_root_of_output (listed : e ∈ s.dependencies) (projected : s.ProjectsOnto e m)
    (wanted : s.Wants e.edge .production) (output : path ∈ m.output) :
    ∃ root ∈ s.rootPaths { kind := .compiled }, root.same path = true := by
  refine exists_same_root listed ?_
  rw [contribution_compiled projected, if_pos wanted]
  exact List.mem_append_right _ (Option.mem_toList.2 output)

/-- A test output of its own is a class root where tests are wanted. -/
theorem exists_root_of_testOutput (listed : e ∈ s.dependencies) (projected : s.ProjectsOnto e m)
    (wanted : s.Wants e.edge .test) (own : ¬ m.SharesOutput) (output : path ∈ m.testOutput) :
    ∃ root ∈ s.rootPaths { kind := .compiled }, root.same path = true := by
  refine exists_same_root listed ?_
  rw [contribution_compiled projected, if_pos ⟨wanted, own⟩]
  exact List.mem_append_left _ (Option.mem_toList.2 output)

/-- **Outputs that are wanted are class roots.**  This holds of the production output
without exception.  It holds of the test output unless the module has one directory for
both and production content is not wanted; then the edge contributes nothing at all. -/
theorem wanted_outputs_are_roots (s : Session) {e : Enumerated} {m : Module}
    (listed : e ∈ s.dependencies) (projected : s.ProjectsOnto e m) :
    (∀ path ∈ m.output, s.Wants e.edge .production →
      ∃ root ∈ s.rootPaths { kind := .compiled }, root.same path = true) ∧
    (∀ path ∈ m.testOutput, s.Wants e.edge .test →
      (m.SharesOutput → s.Wants e.edge .production) →
      ∃ root ∈ s.rootPaths { kind := .compiled }, root.same path = true) ∧
    (m.SharesOutput → ¬ s.Wants e.edge .production →
      s.contribution { kind := .compiled } e = []) := by
  refine ⟨?_, ?_, ?_⟩
  · intro path output wanted
    exact exists_root_of_output listed projected wanted output
  · intro path output wanted covered
    by_cases shared : m.SharesOutput
    · -- The directory is there on behalf of production content.
      have wantedAsWell := covered shared
      obtain ⟨tests, output', production, productionOutput, same⟩ := shared
      obtain rfl : path = tests := Option.mem_unique output output'
      obtain ⟨root, member, spelled⟩ :=
        exists_root_of_output listed projected wantedAsWell productionOutput
      exact ⟨root, member, Path.same_iff.2 ((Path.same_iff.1 spelled).trans same.symm)⟩
    · exact exists_root_of_testOutput listed projected wanted shared output
  · intro shared unwanted
    rw [contribution_compiled projected, if_neg (fun wanted => wanted.2 shared), if_neg unwanted,
      List.append_nil]

end Session

/-! ## Two modules with one directory each -/

namespace Retesting

/-- The root module. -/
def app : Module :=
  .combined "app" [⟨"app", .source, none⟩, ⟨"app", .module "core", some {}⟩]

/-- The module whose tests are depended on. -/
def core : Module :=
  .combined "core" [⟨"core", .source, none⟩]

/-- A session in which a handler takes the edge to `core` for one to its tests. -/
def session : Session :=
  { project := { modules := [app, core] }
    roots := [app]
    handlers := ⟨[.reclassifying ["core"]]⟩ }

/-- The entry of the edge of `app` to its own sources. -/
def own : Enumerated :=
  ⟨⟨app, ⟨0, by decide⟩⟩, false⟩

/-- The entry of the edge to the tests of `core`. -/
def onTests : Enumerated :=
  ⟨⟨app, ⟨1, by decide⟩⟩, false⟩

theorem dependencies_session : session.dependencies = [own, onTests] := by
  cbv

theorem rootPaths_session : session.rootPaths { kind := .compiled } = [⟨"out/app"⟩] := by
  rw [Session.rootPaths_eq_distinct, dependencies_session]
  decide +kernel

/-- The one directory of `app` is a class root, for the tests as well. -/
theorem own_output_is_root :
    own ∈ session.dependencies ∧ session.ProjectsOnto own app ∧ app.SharesOutput ∧
      session.Wants own.edge .test ∧ session.Wants own.edge .production ∧
      ∃ root ∈ session.rootPaths { kind := .compiled }, root.same ⟨"out/app"⟩ = true :=
  have listed : own ∈ session.dependencies := by simp [dependencies_session]
  have projected : session.ProjectsOnto own app := .own rfl (by decide)
  have tests : session.Wants own.edge .test := by decide
  have production : session.Wants own.edge .production := by decide
  have wanted := (Session.wanted_outputs_are_roots session listed projected).2.1
  ⟨listed, projected, by decide, tests, production, wanted _ rfl tests fun _ => production⟩

/-- The tests of `core` are wanted, and their directory is no class root. -/
theorem shared_output_is_missing :
    onTests ∈ session.dependencies ∧ session.ProjectsOnto onTests core ∧
      core.testOutput = some ⟨"out/core"⟩ ∧ session.Wants onTests.edge .test ∧
      ¬ ∃ root ∈ session.rootPaths { kind := .compiled }, root.same ⟨"out/core"⟩ = true := by
  refine ⟨by simp [dependencies_session], .other rfl rfl (by decide), by decide, by decide, ?_⟩
  rw [rootPaths_session]
  decide +kernel

end Retesting

end Classpath
