import Classpath.Session.Basic

/-!
# The walk

Starting from the roots in turn, a session reads the edges of every module it reaches, in
declaration order and depth first, and never enters a module twice. The modules whose edges are
being read form a stack; a module that is entered is put on top of it, and the module below goes
on at the index of its next edge once the one above has been read.

## Main definitions

* `Enumerated` — the position of a listed edge, and whether its target was followed
* `Walk` — the state of a walk: modules entered, stack, and what happened
* `Walk.step` — reads one edge, or leaves a module without further edges
* `Walk.run` — steps until the stack is empty
* `Session.dependencies` — the listed edges of a session, in order
* `Session.modules`, `Session.libraries` — the modules that contribute content and the libraries
  reached, each once and in the order in which an edge to it is first listed

## Design notes

The walk ends because a step either enters a module of the project that was not entered before,
or shortens what is left to read on the stack.
-/

namespace Classpath

/-- A listed edge. If it is expanded, its target was followed, and the content of the target is
listed among the target's own edges. -/
structure Enumerated where
  position : Position
  expanded : Bool
deriving DecidableEq, Repr

/-- The edge that is listed. -/
def Enumerated.edge (e : Enumerated) : Dependency :=
  e.position.dependency

/-- A module being read, and the index of the edge to be read next. -/
structure Frame where
  module : Module
  next : Nat

/-- What happens in a walk. -/
inductive Happening
  | entered (m : Module)
  | refused (d : Dependency)
  | dangling (module : String) (target : String)
  | listed (e : Enumerated)

/-- The listed edge of a happening. -/
def Happening.listed? : Happening → Option Enumerated
  | .listed e => some e
  | _ => none

/-- The state of a walk; the newest name and the newest happening come first. -/
structure Walk where
  visited : List String := []
  stack : List Frame := []
  happenings : List Happening := []

namespace Walk

/-- Adds a happening. -/
def note (w : Walk) (h : Happening) : Walk :=
  { w with happenings := h :: w.happenings }

/-- Lists the edge at a position. -/
def list (w : Walk) (p : Position) (expanded : Bool) : Walk :=
  w.note (.listed ⟨p, expanded⟩)

/-- Enters a module, unless it was entered before. -/
def enter (w : Walk) (m : Module) : Walk :=
  if m.name ∈ w.visited then w
  else
    { visited := m.name :: w.visited
      stack := ⟨m, 0⟩ :: w.stack
      happenings := .entered m :: w.happenings }

/-- Acts on the verdict about the edge at a position. -/
def act (w : Walk) (p : Position) : Verdict → Walk
  | .skipped => w
  | .refused => w.note (.refused p.dependency)
  | .listed => w.list p false
  | .dangling target => (w.note (.dangling p.module.name target)).list p false
  -- The edge is listed as expanded even if its target was entered before.
  | .followed target => (w.list p true).enter target

/-- Reads the next edge of the topmost module, or leaves it if it has none. -/
def step (s : Session) (w : Walk) : Walk :=
  match w.stack with
  | [] => w
  | ⟨m, next⟩ :: below =>
    if h : next < m.dependencies.length then
      let p : Position := ⟨m, next, h⟩
      { w with stack := ⟨m, next + 1⟩ :: below }.act p (s.verdict m p.dependency)
    else { w with stack := below }

/-- The number of modules of the project that were not entered. -/
def unvisited (s : Session) (w : Walk) : Nat :=
  (s.project.modules.filter (·.name ∉ w.visited)).length

/-- The number of steps left if no further module is entered. -/
def pending (w : Walk) : Nat :=
  w.stack.foldr (fun frame steps => frame.module.dependencies.length - frame.next + 1 + steps) 0

theorem unvisited_enter_lt {s : Session} {w : Walk} {m : Module} (hm : m ∈ s.project.modules)
    (hv : m.name ∉ w.visited) : unvisited s (w.enter m) < unvisited s w := by
  have enter_visited : (w.enter m).visited = m.name :: w.visited := by simp [enter, hv]
  unfold unvisited
  rw [enter_visited]
  have refine_filter : s.project.modules.filter (·.name ∉ m.name :: w.visited) =
      (s.project.modules.filter (·.name ∉ w.visited)).filter (·.name ≠ m.name) := by
    rw [List.filter_filter]
    congr 1
    funext x
    by_cases h : x.name = m.name <;> simp [h]
  rw [refine_filter]
  apply List.length_filter_lt_length_iff_exists.2
  exact ⟨m, by simp [hm, hv], by simp⟩

theorem step_decreases {s : Session} {w : Walk} (h : w.stack ≠ []) :
    Prod.Lex (· < ·) (· < ·) (unvisited s (step s w), (step s w).pending)
      (unvisited s w, w.pending) := by
  obtain ⟨visited, stack, happenings⟩ := w
  obtain _ | ⟨⟨m, next⟩, below⟩ := stack
  · contradiction
  by_cases hn : next < m.dependencies.length
  · simp only [step, hn, dite_true]
    match hv : s.verdict m (Position.dependency ⟨m, next, hn⟩) with
    | .skipped | .refused | .listed | .dangling _ =>
      apply Prod.Lex.right
      simp [act, list, note, pending]
      omega
    | .followed t =>
      by_cases ht : t.name ∈ visited
      · have same : unvisited s (act ⟨visited, ⟨m, next + 1⟩ :: below, happenings⟩
            ⟨m, next, hn⟩ (.followed t)) =
              unvisited s ⟨visited, ⟨m, next⟩ :: below, happenings⟩ := by
          simp [act, list, note, enter, ht, unvisited]
        rw [same]
        apply Prod.Lex.right
        simp [act, list, note, enter, ht, pending]
        omega
      · apply Prod.Lex.left
        exact unvisited_enter_lt
          (w := list ⟨visited, ⟨m, next + 1⟩ :: below, happenings⟩ ⟨m, next, hn⟩ true)
          (Session.mem_modules_of_followed hv) ht
  · simp only [step, hn, dite_false]
    exact Prod.Lex.right _ (by simp [pending])

/-- Steps until the stack is empty. -/
def run (s : Session) (w : Walk) : Walk :=
  if _h : w.stack = [] then w else run s (step s w)
termination_by (unvisited s w, w.pending)
decreasing_by exact step_decreases _h

/-- The edges listed so far, in the order of the walk. -/
def listing (w : Walk) : List Enumerated :=
  w.happenings.reverse.filterMap Happening.listed?

end Walk

namespace Session

/-- The walk over all roots, which share the modules entered. -/
def walk (s : Session) : Walk :=
  s.roots.foldl (fun w root => Walk.run s (w.enter root)) {}

/-- The listed edges, in the order of the walk. -/
def dependencies (s : Session) : List Enumerated :=
  s.walk.listing

/-- The module whose content a listed edge stands for. An expanded edge stands for none, as the
content of its target is listed among the target's own edges. -/
def contributor (s : Session) (e : Enumerated) : Option Module :=
  match e.edge.target with
  | .source => s.project.module? e.edge.owner
  | .module name => if e.expanded then none else s.project.module? name
  | _ => none

/-- The library that a listed edge points at. -/
def libraryOf (s : Session) (e : Enumerated) : Option Bundle :=
  match e.edge.target with
  | .library name => s.project.library? name
  | _ => none

/-- The modules that contribute content. -/
def modules (s : Session) : List Module :=
  (s.dependencies.filterMap s.contributor).eraseDupsBy fun a b => a.name == b.name

/-- The libraries reached. -/
def libraries (s : Session) : List Bundle :=
  (s.dependencies.filterMap s.libraryOf).eraseDupsBy fun a b => a.name == b.name

/-- What is reported about one happening. -/
def journalOf : Happening → Option Log.Entry
  | .entered m =>
    some { level := .trace, message := "visiting module", fields := [("module", m.name)] }
  | .refused d =>
    some { level := .trace, message := "rejected by scope policy",
           fields := [("element", d.display)] }
  | .dangling owner target =>
    some { level := .warn, message := "dependency on unknown module; not descending",
           fields := [("module", owner), ("target", target)] }
  | .listed _ => none

/-- What is reported about the walk. -/
def journal (s : Session) : List Log.Entry :=
  (if s.traversal.recursive && !s.recurses then
    [{ level := .debug,
       message := "a handler disabled recursive processing; walking roots only" }]
  else []) ++
  s.walk.happenings.reverse.filterMap journalOf ++
  [{ level := .debug, message := "dependency walk finished",
     fields := [("roots", toString s.roots.length), ("visited", toString s.walk.visited.length),
       ("accepted", toString s.dependencies.length)] }]

end Session

end Classpath
