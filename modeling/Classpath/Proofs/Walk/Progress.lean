import Classpath.Proofs.Walk.Move
import Mathlib.Algebra.Ring.Nat
import Mathlib.Data.List.Nodup
import Mathlib.Data.List.Perm.Subperm
import Mathlib.Logic.Function.Iterate

/-!
# How far a walk has come

A walk over a graph with circles has no counter that goes down with every step:
it pushes and pops.  What is kept instead is a balance.  `Walk.Since` records the
modules entered since some earlier state, and `Walk.Since.move` says that a step
takes one unit from what is pending and pays for every module it enters with one
unit for each of its edges and one for leaving it.  When the stack is empty
nothing is pending, so the number of steps is the workload of the modules
entered.

## Main definitions

* `Walk.Since` — what has happened between two states of a walk
* `Walk.workload` — the steps it takes to read modules once
* `Walk.Iterations` — the exact number of steps of a run
* `Walk.pushed`, `Walk.pushes` — the modules pushed between two states, and in the
  course of some steps

## Main statements

* `Walk.Since.move`, `Walk.Since.iterate` — the balance after one step and after
  any number of them
* `Session.iterations_and_depth` — the resources of a walk
-/

namespace Classpath

namespace Walk

/-- What has happened since a walk was at `start`: the modules in `new`, newest
first, were entered.  They are modules of the project, were not visited before,
and among them are those on the stack. -/
structure Since (s : Session) (start : Walk) (new : List Module) (w : Walk) : Prop where
  entered : w.entered = new ++ start.entered
  visited : w.visited = new.map (·.name) ++ start.visited
  fresh : ∀ m ∈ new, m.name ∉ start.visited
  distinct : (new.map (·.name)).Nodup
  declared : ∀ m ∈ new, s.project.module? m.name = some m
  onStack : (w.stack.map (·.module)).Sublist new

/-- The steps it takes to read each of some modules once: one for every edge, and
one for leaving the module. -/
def workload (ms : List Module) : Nat :=
  (ms.map fun m => m.dependencies.length + 1).sum

@[simp] theorem workload_nil : workload [] = 0 := rfl

@[simp] theorem workload_cons (m : Module) (ms : List Module) :
    workload (m :: ms) = m.dependencies.length + 1 + workload ms := by
  simp [workload]

theorem pending_of_empty {w : Walk} (empty : w.stack = []) : w.pending = 0 := by
  simp [pending, empty]

namespace Since

variable {s : Session} {start w w' : Walk} {new : List Module}

theorem refl {w : Walk} (empty : w.stack = []) : Since s w [] w :=
  ⟨rfl, rfl, by simp, by simp, by simp, by simp [empty]⟩

/-- Since the beginning of a walk, the modules entered are all that happened. -/
theorem entered_of_start (since : Since s {} new w) : w.entered = new := by
  simpa [Walk.entered] using since.entered

/-- Since the beginning of a walk, a module of the project that was visited has
been entered: names are not shared. -/
theorem mem_of_visited {m : Module} (since : Since s {} new w)
    (declared : s.project.module? m.name = some m) (visited : m.name ∈ w.visited) : m ∈ new := by
  rw [since.visited, List.append_nil] at visited
  obtain ⟨m', member, same⟩ := List.mem_map.1 visited
  have found := since.declared m' member
  rw [same, declared] at found
  rwa [Option.some.inj found]

/-- The topmost module of the stack is among those entered. -/
theorem mem_of_top {m : Module} {next : Nat} {below : List Frame} (since : Since s start new w)
    (top : w.stack = ⟨m, next⟩ :: below) : m ∈ new := by
  have onStack := since.onStack
  rw [top] at onStack
  exact onStack.subset List.mem_cons_self

/-- A module that was not visited may be put on top of the stack. -/
theorem push {t : Module} {below : List Frame} (since : Since s start new w)
    (declared : s.project.module? t.name = some t) (unvisited : t.name ∉ w.visited)
    (onStack : (below.map (·.module)).Sublist new) (stack : w'.stack = ⟨t, 0⟩ :: below)
    (visited : w'.visited = t.name :: w.visited) (entered : w'.entered = t :: w.entered) :
    Since s start (t :: new) w' := by
  rw [since.visited, List.mem_append, not_or] at unvisited
  refine ⟨?_, ?_, ?_, ?_, ?_, ?_⟩
  · rw [entered, since.entered, List.cons_append]
  · rw [visited, since.visited, List.map_cons, List.cons_append]
  · exact List.forall_mem_cons.2 ⟨unvisited.2, since.fresh⟩
  · exact List.nodup_cons.2 ⟨unvisited.1, since.distinct⟩
  · exact List.forall_mem_cons.2 ⟨declared, since.declared⟩
  · rw [stack, List.map_cons]
    exact onStack.cons_cons t

/-- Entering a module of the project adds its workload to what is pending. -/
theorem enter {root : Module} (since : Since s start new w)
    (declared : s.project.module? root.name = some root) :
    ∃ new', Since s start new' (w.enter root) ∧
      (w.enter root).pending + workload new = w.pending + workload new' := by
  by_cases known : root.name ∈ w.visited
  · rw [enter_of_mem known]
    exact ⟨new, since, rfl⟩
  · obtain ⟨visited, stack, entered⟩ := enter_of_not_mem known
    refine ⟨root :: new, since.push declared known since.onStack stack visited entered, ?_⟩
    simp only [pending, stack, List.foldr_cons, workload_cons]
    omega

/-- **The balance of a step.**  One unit of what is pending is spent, and the
workload of a module that is entered is added. -/
theorem move (since : Since s start new w) (move : Move s w w') :
    ∃ new', Since s start new' w' ∧
      w'.pending + 1 + workload new = w.pending + workload new' := by
  cases move with
  | left top done stack visited entered listing =>
    refine ⟨new, ⟨?_, ?_, since.fresh, since.distinct, since.declared, ?_⟩, ?_⟩
    · rw [entered, since.entered]
    · rw [visited, since.visited]
    · have onStack := since.onStack
      rw [top, List.map_cons] at onStack
      rw [stack]
      exact (List.sublist_cons_self _ _).trans onStack
    · simp only [pending, top, stack, List.foldr_cons]
      omega
  | read top known stack visited entered listing =>
    refine ⟨new, ⟨?_, ?_, since.fresh, since.distinct, since.declared, ?_⟩, ?_⟩
    · rw [entered, since.entered]
    · rw [visited, since.visited]
    · have onStack := since.onStack
      rw [top] at onStack
      rw [stack]
      exact onStack
    · simp only [pending, top, stack, List.foldr_cons]
      omega
  | @entered p below t top taken target unvisited stack visited entered listing =>
    have onStack : ((⟨p.module, p.index + 1⟩ :: below).map (·.module)).Sublist new := by
      have onStack := since.onStack
      rwa [top] at onStack
    refine ⟨t :: new, since.push (Session.module?_name_of_target? target) unvisited onStack
      stack visited entered, ?_⟩
    have bound := p.index.isLt
    simp only [pending, top, stack, List.foldr_cons, workload_cons]
    omega

/-- Since the beginning of a walk, a root of the project may be entered. -/
theorem enter_of_start {root : Module} (since : Since s {} w.entered w)
    (declared : s.project.module? root.name = some root) :
    Since s {} (w.enter root).entered (w.enter root) := by
  obtain ⟨new, since', -⟩ := since.enter declared
  rwa [since'.entered_of_start]

/-- Since the beginning of a walk, any move may be made. -/
theorem move_of_start (since : Since s {} w.entered w) (move : Move s w w') :
    Since s {} w'.entered w' := by
  obtain ⟨new, since', -⟩ := since.move move
  rwa [since'.entered_of_start]

/-- The balance after any number of steps, as long as none of them is made on an
empty stack. -/
theorem iterate (since : Since s start new w) (k : ℕ) :
    ∃ new', Since s start new' ((step s)^[k] w) ∧
      ((∀ j < k, ((step s)^[j] w).stack ≠ []) →
        ((step s)^[k] w).pending + k + workload new = w.pending + workload new') := by
  induction k with
  | zero => exact ⟨new, since, fun _ => rfl⟩
  | succ k ih =>
    obtain ⟨middle, reached, balance⟩ := ih
    rw [Function.iterate_succ_apply']
    by_cases nonempty : ((step s)^[k] w).stack = []
    · refine ⟨middle, ?_, fun running => absurd nonempty (running k (by omega))⟩
      rw [step_of_empty nonempty]
      exact reached
    · obtain ⟨new', since', paid⟩ := reached.move (move_step nonempty)
      refine ⟨new', since', fun running => ?_⟩
      have earlier := balance fun j hj => running j (by omega)
      omega

/-- The modules on the stack are pairwise different, by name. -/
theorem nodup_stack (since : Since s start new w) :
    (w.stack.map (·.module.name)).Nodup := by
  have names := since.onStack.map (·.name)
  rw [List.map_map] at names
  exact since.distinct.sublist names

/-- The stack is no deeper than the project has modules. -/
theorem length_stack_le (since : Since s start new w) :
    w.stack.length ≤ s.project.moduleNames.length := by
  have known : w.stack.map (·.module.name) ⊆ s.project.moduleNames := by
    intro name member
    obtain ⟨f, onStack, rfl⟩ := List.mem_map.1 member
    have entered : f.module ∈ new := since.onStack.subset (List.mem_map_of_mem onStack)
    exact Project.name_mem_moduleNames (Project.mem_of_module? (since.declared _ entered))
  simpa using (List.subperm_of_subset since.nodup_stack known).length_le

end Since

/-! ## Counting steps -/

/-- A run from `w` makes exactly `n` steps. -/
structure Iterations (s : Session) (w : Walk) (n : ℕ) : Prop where
  running : ∀ k < n, ((step s)^[k] w).stack ≠ []
  ended : ((step s)^[n] w).stack = []
  result : run s w = (step s)^[n] w

/-- Every run ends after some number of steps. -/
theorem exists_iterations (s : Session) (w : Walk) : ∃ n, Iterations s w n := by
  fun_induction run s w with
  | case1 w empty => exact ⟨0, by simp, empty, run_of_empty empty⟩
  | case2 w nonempty ih =>
    obtain ⟨n, running, ended, result⟩ := ih
    refine ⟨n + 1, ?_, ended, ?_⟩
    · intro k hk
      cases k with
      | zero => exact nonempty
      | succ k => exact running k (by omega)
    · rw [run_of_nonempty nonempty, result]
      rfl

/-- The module pushed between two states: the stack has become longer, and the
module is on top of it. -/
def pushed (before after : Walk) : List Module :=
  (if before.stack.length < after.stack.length then after.stack.head?.toList else []).map
    (·.module)

/-- The modules pushed by the first `n` steps from `w`, newest first. -/
def pushes (s : Session) (w : Walk) : ℕ → List Module
  | 0 => []
  | n + 1 => pushed ((step s)^[n] w) ((step s)^[n + 1] w) ++ pushes s w n

/-- A root is pushed if and only if it is entered. -/
theorem entered_enter (w : Walk) (root : Module) :
    (w.enter root).entered = pushed w (w.enter root) ++ w.entered := by
  by_cases known : root.name ∈ w.visited
  · simp [enter_of_mem known, pushed]
  · obtain ⟨-, stack, entered⟩ := enter_of_not_mem known
    simp [pushed, stack, entered]

/-- What is pushed is what is entered. -/
theorem entered_iterate (s : Session) (w : Walk) (n : ℕ) :
    ((step s)^[n] w).entered = pushes s w n ++ w.entered := by
  induction n with
  | zero => rfl
  | succ n ih =>
    simp only [pushes, pushed, Function.iterate_succ_apply', List.append_assoc, ← ih]
    generalize (step s)^[n] w = before
    by_cases nonempty : before.stack = []
    · simp [step_of_empty nonempty]
    · cases move_step (s := s) nonempty with
      | @left m next below top done stack visited entered listing =>
        have shorter : ¬ below.length + 1 < below.length := by omega
        simp [top, stack, entered, shorter]
      | read top known stack visited entered listing => simp [top, stack, entered]
      | entered top taken target new stack visited entered listing =>
        simp [top, stack, entered]

end Walk

namespace Session

variable {s : Session}

/-- At the end of a walk over modules of the project, the modules entered are all
that happened since its beginning. -/
theorem since_walk (declared : s.RootsDeclared) :
    Walk.Since s {} s.walk.entered s.walk :=
  walk_induction (P := fun w => Walk.Since s {} w.entered w) (.refl rfl)
    (fun _ root member _ since => since.enter_of_start (declared root member))
    fun _ _ since move => since.move_of_start move

/-- **The resources of a walk.**  Take any state with an empty stack, whatever was
visited before, and a root that is a module of the project.  The run from there
ends.  It visits, for the first time, the modules of a list `new` without
repetition, pushes each of them once, and takes exactly their workload in steps.
At every moment the modules on the stack are pairwise different, so that the stack
is no deeper than the project has modules.  What is pushed, for a root or by a
step, is what is entered, and in the walk over all roots no module is entered
twice. -/
theorem iterations_and_depth (s : Session) :
    (∀ (w : Walk) (root : Module), w.stack = [] → s.project.module? root.name = some root →
      ∃ new : List Module,
        (new.map (·.name)).Nodup ∧
        (∀ m ∈ new, s.project.module? m.name = some m ∧ m.name ∉ w.visited) ∧
        (Walk.run s (w.enter root)).visited = new.map (·.name) ++ w.visited ∧
        (Walk.run s (w.enter root)).entered = new ++ w.entered ∧
        Walk.Iterations s (w.enter root) (new.map fun m => m.dependencies.length + 1).sum ∧
        ∀ k, (((Walk.step s)^[k] (w.enter root)).stack.map (·.module.name)).Nodup ∧
          ((Walk.step s)^[k] (w.enter root)).stack.length ≤ s.project.moduleNames.length) ∧
    (∀ (w : Walk) (root : Module),
      (w.enter root).entered = Walk.pushed w (w.enter root) ++ w.entered) ∧
    (∀ (w : Walk) (n : ℕ),
      ((Walk.step s)^[n] w).entered = Walk.pushes s w n ++ w.entered) ∧
    (s.RootsDeclared → (s.walk.entered.map (·.name)).Nodup) := by
  refine ⟨?_, Walk.entered_enter, Walk.entered_iterate s,
    fun declared => (since_walk declared).distinct⟩
  intro w root empty declared
  obtain ⟨first, since, opening⟩ := (Walk.Since.refl empty (s := s)).enter declared
  obtain ⟨n, iterations⟩ := Walk.exists_iterations s (w.enter root)
  obtain ⟨new, reached, balance⟩ := since.iterate n
  rw [← iterations.result] at reached
  have count : n = Walk.workload new := by
    have spent := balance iterations.running
    rw [Walk.pending_of_empty iterations.ended] at spent
    rw [Walk.pending_of_empty empty, Walk.workload_nil] at opening
    omega
  refine ⟨new, reached.distinct,
    fun m member => ⟨reached.declared m member, reached.fresh m member⟩,
    reached.visited, reached.entered, ?_, fun k => ?_⟩
  · rw [count] at iterations
    exact iterations
  · obtain ⟨middle, between, -⟩ := since.iterate k
    exact ⟨between.nodup_stack, between.length_stack_le⟩

/-- A module that depends on itself, twice on another one, and on one that nobody
declares. -/
def tangledApp : Module where
  name := "app"
  dependencies := [⟨"app", .source, none⟩, ⟨"app", .module "app", some {}⟩,
    ⟨"app", .module "core", some {}⟩, ⟨"app", .module "core", some {}⟩,
    ⟨"app", .module "ghost", some {}⟩]

/-- The other module, which depends on the first. -/
def tangledCore : Module where
  name := "core"
  dependencies := [⟨"core", .module "app", some {}⟩]

/-- A session that follows these modules, one of which is a root twice. -/
def tangled : Session where
  project := { modules := [tangledApp, tangledCore] }
  roots := [tangledApp, tangledCore, tangledApp]
  traversal := { recursive := true }

/-- Every root of the tangled project can be walked from a state in which a name
has been visited already, and its walk over all roots pushes no module twice. -/
theorem tangled_iterations_and_depth :
    tangled.RootsDeclared ∧
      (∀ root ∈ tangled.roots, ∃ new : List Module,
        Walk.Iterations tangled (({ visited := ["core"] } : Walk).enter root)
          (new.map fun m => m.dependencies.length + 1).sum) ∧
      (tangled.walk.entered.map (·.name)).Nodup := by
  have declared : tangled.RootsDeclared := by decide
  obtain ⟨single, -, -, whole⟩ := iterations_and_depth tangled
  refine ⟨declared, fun root member => ?_, whole declared⟩
  obtain ⟨new, -, -, -, -, iterations, -⟩ :=
    single { visited := ["core"] } root rfl (declared root member)
  exact ⟨new, iterations⟩

end Session

end Classpath
