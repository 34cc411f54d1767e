import Classpath.ProjectFile.Basic
import Std.Data.HashMap
import Std.Data.HashSet

/-!
# Circles of modules

The groups of modules that reach each other through their dependencies.

## Main definitions

* `successors` — the modules that a module names and that exist
* `Graph`, `dependencyGraph` — all modules with their successors
* `Graph.reachable` — the modules reached from a list of modules
* `moduleCycles` — the groups of at least two modules

## Design notes

A group is listed under its first module, so that the modules of a group and the groups come in
increasing order. The search for reachable modules ends because every round finds a module that was
not found before, or shortens the list of those to look at.
-/

namespace Classpath

/-- The existing modules that a module names in its dependencies. -/
def successors (modules : NameTable ModuleSection) (m : ModuleSection) : List String :=
  (m.dependencies.filterMap (·.module)).filter modules.contains

/-- Modules by name, each with its successors. -/
abbrev Graph := Std.HashMap String (List String)

/-- The modules of a project file with the modules that they name. -/
def dependencyGraph (modules : NameTable ModuleSection) : Graph :=
  .ofList (modules.entries.map fun (name, m) => (name, successors modules m))

namespace Graph

/-- The number of modules that were not found. -/
def notFound (g : Graph) (found : Std.HashSet String) : Nat :=
  (g.keys.filter (· ∉ found)).length

theorem notFound_insert_lt {g : Graph} {found : Std.HashSet String} {n : String} (hn : n ∈ g)
    (hf : n ∉ found) : notFound g (found.insert n) < notFound g found := by
  have refine_filter : g.keys.filter (· ∉ found.insert n) =
      (g.keys.filter (· ∉ found)).filter (· ≠ n) := by
    rw [List.filter_filter]
    congr 1
    funext x
    by_cases h : x = n
    · simp [h]
    · simp [h, Ne.symm h]
  unfold notFound
  rw [refine_filter]
  apply List.length_filter_lt_length_iff_exists.2
  exact ⟨n, by simp [hn, hf], by simp⟩

/-- The modules found and those reached from the modules still to be looked at. -/
def reachable (g : Graph) : (found : Std.HashSet String) → (todo : List String) → Std.HashSet String
  | found, [] => found
  | found, n :: todo =>
    if _h : n ∈ g ∧ n ∉ found then reachable g (found.insert n) (g.getD n [] ++ todo)
    else reachable g found todo
termination_by found todo => (notFound g found, todo.length)
decreasing_by
  · exact Prod.Lex.left _ _ (notFound_insert_lt _h.1 _h.2)
  · exact Prod.Lex.right _ (by simp)

/-- The modules that a module reaches by at least one step. -/
def reachedFrom (g : Graph) (name : String) : Std.HashSet String :=
  reachable g ∅ (g.getD name [])

end Graph

/-- The modules of a table that reach `name` and are reached from it, and `name` itself. -/
def cycleOf (table : List (String × Std.HashSet String)) (name : String)
    (reached : Std.HashSet String) : List String :=
  (table.filter fun (other, back) =>
    other = name || (reached.contains other && back.contains name)).map (·.1)

/-- The groups of at least two modules that reach each other. -/
def moduleCycles (modules : NameTable ModuleSection) : List (List String) :=
  let g := dependencyGraph modules
  let table := modules.names.map fun name => (name, g.reachedFrom name)
  table.filterMap fun (name, reached) =>
    let group := cycleOf table name reached
    if 1 < group.length && group.head? = some name then some group else none

end Classpath
