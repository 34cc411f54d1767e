import Classpath.Proofs.Walk.Reach
import Classpath.Proofs.Walk.Warnings

/-!
# Closed projects

A project may use names that stand for nothing, and everything that looks a name up
is prepared for this.  In a closed project there is no such name, and a session on it
never has to make do without what it looks for: every module that is to be followed is
followed, and behind every listed edge there is something.

## Main definitions

* `Project.Resolves` — what an edge points at is there
* `Project.Closed` — every edge belongs to its module and leads to something else
* `Session.FindsAll` — no lookup of a session fails

## Main statements

* `Session.findsAll_of_closed` — sessions on closed projects
-/

namespace Classpath

namespace Project

/-- What an edge points at is there. -/
def Resolves (p : Project) (d : Dependency) : Prop :=
  match d.target with
  | .source => ∃ m, p.module? d.owner = some m
  | .module name => ∃ m, p.module? name = some m
  | .library name => ∃ b, p.library? name = some b
  | .sdk name => ∃ b, p.sdk? name = some b

/-- Every edge belongs to the module that declares it, and points at something that is
there and is not this module. -/
def Closed (p : Project) : Prop :=
  ∀ m ∈ p.modules, ∀ d ∈ m.dependencies,
    d.owner = m.name ∧ p.Resolves d ∧ d.target ≠ .module m.name

end Project

/-- No lookup of a session fails: not that of a module to be followed, and none of those
by which the modules, the libraries and the roots are found. -/
structure Session.FindsAll (s : Session) : Prop where
  unwarned : ∀ owner target, .dangling owner target ∉ s.walk.happenings
  expanded : s.Follows →
    ∀ e ∈ s.dependencies, ∀ name, e.edge.target = .module name → e.expanded = true
  resolved : ∀ e ∈ s.dependencies, s.project.Resolves e.edge

namespace Session

variable {s : Session}

/-- What is reached is a module of the project. -/
theorem Reaches.mem_modules (declared : s.RootsDeclared) {m : Module} (reached : s.Reaches m) :
    m ∈ s.project.modules := by
  cases reached with
  | root member => exact Project.mem_of_module? (declared m member)
  | edge _ _ _ _ _ found => exact Project.mem_of_module? found

/-- **On a closed project, every lookup of a session succeeds.** -/
theorem findsAll_of_closed (closed : s.project.Closed) (declared : s.RootsDeclared) :
    s.FindsAll := by
  have resolved : ∀ e ∈ s.dependencies, s.project.Resolves e.edge := by
    intro e listed
    obtain ⟨reached, -, -⟩ := (mem_dependencies_iff declared).1 listed
    have member : e.edge ∈ e.position.module.dependencies := List.getElem_mem _
    exact (closed _ (reached.mem_modules declared) _ member).2.1
  have known : ∀ e ∈ s.dependencies, ∀ name, e.edge.target = .module name →
      ∃ t, s.project.module? name = some t := by
    intro e listed name points
    have found := resolved e listed
    rw [Project.Resolves, points] at found
    exact found
  refine ⟨?_, ?_, resolved⟩
  · -- A warning is about a listed edge, and the target of that edge is known.
    intro owner target happened
    obtain ⟨-, unknown, e, listed, -, points⟩ := dangling_mem_happenings_iff.1 happened
    obtain ⟨t, found⟩ := known e listed target points
    rw [unknown] at found
    contradiction
  · intro follows e listed name points
    obtain ⟨-, -, same⟩ := (mem_dependencies_iff declared).1 listed
    obtain ⟨t, found⟩ := known e listed name points
    rw [same]
    exact expanded_entry_iff.2 ⟨follows, name, t, points, found⟩

end Session

end Classpath
