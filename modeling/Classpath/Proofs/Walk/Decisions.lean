import Classpath.Proofs.Distinct
import Classpath.Proofs.Walk.Move

/-!
# What decides a walk

A walk puts one question to its session, over and over: what becomes of an edge.  Two
sessions that give the same verdicts take the same steps from the same state, whatever
else tells them apart (`Walk.run_congr`).

From where a walk starts matters less than it seems.  A module that was visited is
passed over, so that of several occurrences of a module in the list of roots only the
first has an effect, and what it is followed by is the same with the others and without
them (`Walk.runAll_distinct`).

## Main statements

* `Walk.runAll_congr` — the same verdicts lead to the same walk
* `Walk.runAll_distinct` — repeated modules leave no trace in the walk
-/

namespace Classpath

namespace Walk

variable {s t : Session} {w : Walk}

section SameVerdicts

variable (verdicts : ∀ m d, s.verdict m d = t.verdict m d)
include verdicts

theorem step_congr (w : Walk) : step s w = step t w := by
  unfold step
  simp only [verdicts]

/-- The same verdicts lead to the same run. -/
theorem run_congr (w : Walk) : run s w = run t w := by
  fun_induction run s w with
  | case1 w empty => exact (run_of_empty empty).symm
  | case2 w nonempty ih =>
    rw [ih, step_congr verdicts]
    exact (run_of_nonempty nonempty).symm

/-- **The same verdicts lead to the same walk** over any list of modules. -/
theorem runAll_congr (w : Walk) (roots : List Module) : runAll s w roots = runAll t w roots := by
  induction roots generalizing w with
  | nil => rfl
  | cons root rest ih =>
    rw [runAll_cons, runAll_cons, run_congr verdicts]
    exact ih _

end SameVerdicts

/-- Between two runs, a module that was visited is passed over. -/
theorem run_enter_of_mem {m : Module} (empty : w.stack = []) (known : m.name ∈ w.visited) :
    run s (w.enter m) = w := by
  rw [enter_of_mem known, run_of_empty empty]

/-- **Repeated modules leave no trace.**  Of the modules with one name the first is
walked, wherever the others stand.  The induction takes modules from the end of the
list: the last one either repeats a module before it, which is visited by then, or
stands at the end of the first occurrences as well. -/
theorem runAll_distinct (empty : w.stack = []) (roots : List Module) :
    runAll s w (distinct Module.name roots) = runAll s w roots := by
  induction roots using List.reverseRecOn with
  | nil => rfl
  | append_singleton roots m ih =>
    rw [distinct_concat, runAll_concat]
    by_cases repeated : m.name ∈ roots.map Module.name
    · obtain ⟨first, member, same⟩ := List.mem_map.1 repeated
      have known : m.name ∈ (runAll s w roots).visited := by
        rw [← same]
        exact mem_visited_runAll member w
      rw [if_pos repeated, ih, run_enter_of_mem (stack_runAll roots empty) known]
    · rw [if_neg repeated, runAll_concat, ih]

end Walk

end Classpath
