import Classpath.Proofs.Walk.Move
import Mathlib.Data.List.Forall2

/-!
# A walk does not see directories

A walk reads the names of modules and their edges, and nothing else of a project.  Where
the sources and outputs of a module lie, and what libraries hold, matters only when the
roots are collected from what was listed.

`Session.outline` is a session without all this.  Its walk is the walk of the session with
directories left out of every module that turns up in it, step for step.  Sessions with one
outline therefore list the same edges, at the same places.

## Main definitions

* `Module.outline`, `Session.outline` — a module and a session without directories
* `Walk.outline` — the state of a walk without directories

## Main statements

* `Walk.step_outline` — a step does not see directories
* `Session.dependencies_outline` — what is listed without them
* `Session.edges_congr` — sessions with one outline list the same edges
-/

namespace Classpath

/-- The module without its directories. -/
def Module.outline (m : Module) : Module :=
  { name := m.name, dependencies := m.dependencies }

/-- The same position in the module without directories. -/
def Position.outline (p : Position) : Position :=
  ⟨p.module.outline, p.index⟩

theorem Position.dependency_outline (p : Position) : p.outline.dependency = p.dependency := rfl

/-- The modules of a project without their directories, and nothing else. -/
def Project.outline (p : Project) : Project :=
  { modules := p.modules.map Module.outline }

theorem Project.module?_outline (p : Project) (name : String) :
    p.outline.module? name = (p.module? name).map Module.outline :=
  List.find?_map

/-- What becomes of an edge, without the directories of the module that is followed. -/
def Verdict.outline : Verdict → Verdict
  | .followed target => .followed target.outline
  | v => v

/-- The entry at the same position in the module without directories. -/
def Enumerated.outline (e : Enumerated) : Enumerated :=
  ⟨e.position.outline, e.expanded⟩

/-- The frame of the module without directories. -/
def Frame.outline (f : Frame) : Frame :=
  ⟨f.module.outline, f.next⟩

/-- What happens, without the directories of the modules that take part. -/
def Happening.outline : Happening → Happening
  | .entered m => .entered m.outline
  | .listed e => .listed e.outline
  | h => h

/-- The state of a walk without the directories of the modules in it. -/
def Walk.outline (w : Walk) : Walk where
  visited := w.visited
  stack := w.stack.map Frame.outline
  happenings := w.happenings.map Happening.outline

/-- The session on modules without directories. -/
def Session.outline (s : Session) : Session :=
  { s with project := s.project.outline, roots := s.roots.map Module.outline }

namespace Session

variable {s t : Session}

theorem isRoot_outline (s : Session) (m : Module) : s.outline.isRoot m.outline = s.isRoot m := by
  rw [isRoot, isRoot, outline, List.any_map]
  rfl

/-- What becomes of an edge is not decided by directories. -/
theorem verdict_outline (s : Session) (m : Module) (d : Dependency) :
    s.outline.verdict m.outline d = (s.verdict m d).outline := by
  have candidate : s.outline.isCandidate m.outline d = s.isCandidate m d := by
    unfold isCandidate looksAt
    rw [isRoot_outline]
    rfl
  have accepted : s.outline.accepts m.outline d = s.accepts m d := by
    unfold accepts
    rw [isRoot_outline]
    rfl
  have recurses : s.outline.recurses = s.recurses := rfl
  have known : ∀ name, s.outline.project.module? name =
      (s.project.module? name).map Module.outline := s.project.module?_outline
  unfold verdict
  rw [candidate, accepted, recurses]
  cases s.isCandidate m d
  case false => rfl
  cases s.accepts m d
  case false => rfl
  cases s.recurses
  case false => rfl
  cases d.target with
  | module name =>
    simp only [known]
    cases s.project.module? name <;> rfl
  | source | library _ | sdk _ => rfl

end Session

namespace Walk

variable {s : Session}

theorem enter_outline (w : Walk) (m : Module) :
    w.outline.enter m.outline = (w.enter m).outline := by
  by_cases known : m.name ∈ w.visited
  · have known' : m.outline.name ∈ w.outline.visited := known
    rw [enter_of_mem known, enter_of_mem known']
  · have new : m.outline.name ∉ w.outline.visited := known
    simp only [enter, if_neg known, if_neg new]
    rfl

theorem act_outline (w : Walk) (p : Position) (v : Verdict) :
    w.outline.act p.outline v.outline = (w.act p v).outline := by
  cases v with
  | skipped | refused | listed | dangling _ => rfl
  | followed target => exact enter_outline (w.list p true) target

/-- Reading the next edge of the topmost module acts on the verdict about it. -/
theorem step_of_top {w : Walk} {p : Position} {below : List Frame}
    (top : w.stack = ⟨p.module, p.index⟩ :: below) :
    step s w = { w with stack := ⟨p.module, p.index + 1⟩ :: below }.act p
      (s.verdict p.module p.dependency) := by
  have more : p.index.val < p.module.dependencies.length := p.index.isLt
  simp only [step, top, dif_pos more]

/-- A module without further edges is left. -/
theorem step_of_done {w : Walk} {m : Module} {next : Nat} {below : List Frame}
    (top : w.stack = ⟨m, next⟩ :: below) (done : m.dependencies.length ≤ next) :
    step s w = { w with stack := below } := by
  have none : ¬ next < m.dependencies.length := by omega
  simp only [step, top, dif_neg none]

/-- **A step does not see directories.** -/
theorem step_outline (s : Session) (w : Walk) : step s.outline w.outline = (step s w).outline := by
  cases top : w.stack with
  | nil =>
    have empty : w.outline.stack = [] := by rw [outline, top, List.map_nil]
    rw [step_of_empty top, step_of_empty empty]
  | cons frame below =>
    obtain ⟨m, next⟩ := frame
    have top' : w.outline.stack = ⟨m.outline, next⟩ :: below.map Frame.outline := by
      rw [outline, top, List.map_cons]
      rfl
    by_cases more : next < m.dependencies.length
    · let p : Position := ⟨m, next, more⟩
      have read : ({ w.outline with
          stack := ⟨m.outline, next + 1⟩ :: below.map Frame.outline } : Walk) =
            ({ w with stack := ⟨m, next + 1⟩ :: below } : Walk).outline := rfl
      rw [step_of_top (p := p) top, step_of_top (p := p.outline) top', ← act_outline,
        ← Session.verdict_outline]
      exact congrArg (act · _ _) read
    · rw [step_of_done top (by omega), step_of_done top' (Nat.le_of_not_lt more)]
      rfl

theorem run_outline (s : Session) (w : Walk) : run s.outline w.outline = (run s w).outline := by
  fun_induction run s w with
  | case1 w empty => exact run_of_empty (by simp [outline, empty])
  | case2 w nonempty ih =>
    rw [run_of_nonempty (by simpa [outline] using nonempty), step_outline]
    exact ih

theorem runAll_outline (w : Walk) (roots : List Module) :
    runAll s.outline w.outline (roots.map Module.outline) = (runAll s w roots).outline := by
  induction roots generalizing w with
  | nil => rfl
  | cons root rest ih =>
    rw [List.map_cons, runAll_cons, runAll_cons, enter_outline, run_outline]
    exact ih _

theorem listing_outline (w : Walk) : w.outline.listing = w.listing.map Enumerated.outline := by
  rw [listing, listing, outline, ← List.map_reverse, List.filterMap_map, List.map_filterMap]
  congr 1
  funext h
  cases h <;> rfl

end Walk

namespace Session

variable {s t : Session}

/-- **What is listed without directories** is what is listed with them, at the same positions. -/
theorem dependencies_outline (s : Session) :
    s.outline.dependencies = s.dependencies.map Enumerated.outline := by
  have walked : s.outline.walk = s.walk.outline := Walk.runAll_outline {} s.roots
  rw [dependencies, walked, Walk.listing_outline, dependencies]

/-- Entries at the same position of a module without directories are about the same edge, and
are both expanded or both not. -/
theorem edge_congr {e e' : Enumerated} (same : e.outline = e'.outline) :
    e.edge = e'.edge ∧ e.expanded = e'.expanded := by
  have edge : e.outline.edge = e'.outline.edge := congrArg Enumerated.edge same
  have expanded : e.outline.expanded = e'.outline.expanded := congrArg Enumerated.expanded same
  exact ⟨edge, expanded⟩

/-- **Sessions with one outline list the same edges**, entry by entry. -/
theorem edges_congr (same : s.outline = t.outline) :
    List.Forall₂ (fun e e' => e.edge = e'.edge ∧ e.expanded = e'.expanded)
      s.dependencies t.dependencies := by
  have listed : s.dependencies.map Enumerated.outline = t.dependencies.map Enumerated.outline := by
    rw [← dependencies_outline, ← dependencies_outline, same]
  rw [← List.forall₂_eq_eq_eq, List.forall₂_map_left_iff, List.forall₂_map_right_iff] at listed
  exact listed.imp fun _ _ => edge_congr

end Session

end Classpath
