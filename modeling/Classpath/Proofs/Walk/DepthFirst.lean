import Classpath.Proofs.Walk.Move
import Mathlib.Data.Finset.Card
import Mathlib.Data.Finset.SDiff

/-!
# The walk is a depth-first search

`Session.visit` is the search as one writes it down by recursion: a module that
was visited is passed over; any other is marked, its edges are read in order, and
the target of an edge is visited before the next edge is read.  The walk keeps a
stack of frames instead.  A stack stands for what the recursion still has to do
once the call on top returns, so that every state of the walk has an outcome
(`Walk.outcome`): what was listed already, and what unwinding the stack will list.
A move does not change the outcome, and on an empty stack the outcome is the
listing.

## Main definitions

* `Visit` — what a visit leaves behind
* `Session.visit`, `Session.visitEdges` — the search by recursion
* `Session.depthFirst` — the search over all roots
* `Session.unwind`, `Walk.outcome` — what a state of the walk amounts to

## Main statements

* `Walk.outcome_move` — a move keeps the outcome
* `Session.dependencies_eq_depthFirst` — both searches list the same

## Design notes

A visit may call itself for as long as there are names of the project it has not
marked.  That the modules visited before a call are visited after it is part of
the result (`Visit.grows`), because the termination of the calls that come later
rests on it.
-/

namespace Classpath

/-- What is left behind by visiting modules after those in `before`: all that is
visited now, and the entries emitted meanwhile, in order. -/
structure Visit (before : List String) where
  visited : List String
  emitted : List Enumerated
  /-- Visited modules stay visited. -/
  grows : before ⊆ visited

namespace Visit

/-- Nothing is visited and nothing emitted. -/
def nothing (before : List String) : Visit before :=
  ⟨before, [], fun _ h => h⟩

/-- A visit followed by another. -/
def andThen {before : List String} (v : Visit before) (next : Visit v.visited) : Visit before :=
  ⟨next.visited, v.emitted ++ next.emitted, fun _ h => next.grows (v.grows h)⟩

/-- A visit before which entries are emitted. -/
def after {before : List String} (es : List Enumerated) (v : Visit before) : Visit before :=
  ⟨v.visited, es ++ v.emitted, v.grows⟩

/-- A visit whose module is marked first. -/
def marking {before : List String} (name : String) (v : Visit (name :: before)) : Visit before :=
  ⟨v.visited, v.emitted, fun _ h => v.grows (List.mem_cons_of_mem _ h)⟩

end Visit

namespace Session

/-- The names of the project's modules. -/
def declaredNames (s : Session) : Finset String :=
  (s.project.modules.map (·.name)).toFinset

theorem name_mem_declaredNames {s : Session} {d : Dependency} {t : Module}
    (target : s.target? d = some t) : t.name ∈ s.declaredNames := by
  obtain ⟨-, name, -, found⟩ := target?_eq_some_iff.1 target
  exact List.mem_toFinset.2 (List.mem_map_of_mem (Project.mem_of_module? found))

/-- Marking a name leaves fewer names to mark. -/
theorem card_unmarked_lt {names : Finset String} {before : List String} {name : String}
    (unvisited : name ∉ before) :
    (names \ (name :: before).toFinset).card < (insert name names \ before.toFinset).card := by
  apply Finset.card_lt_card
  rw [Finset.ssubset_iff]
  refine ⟨name, by simp, ?_⟩
  intro n member
  simp only [Finset.mem_insert, Finset.mem_sdiff, List.mem_toFinset, List.mem_cons,
    not_or] at member ⊢
  obtain rfl | ⟨known, -, unmarked⟩ := member
  · exact ⟨.inl rfl, unvisited⟩
  · exact ⟨.inr known, unmarked⟩

/-- Visited names are not marked again. -/
theorem card_unmarked_le {names : Finset String} {before after : List String}
    (grows : before ⊆ after) :
    (names \ after.toFinset).card ≤ (names \ before.toFinset).card := by
  apply Finset.card_le_card
  refine Finset.sdiff_subset_sdiff (Finset.Subset.refl _) ?_
  intro n member
  exact List.mem_toFinset.2 (grows (List.mem_toFinset.1 member))

mutual

/-- Visits a module, unless it was visited before. -/
def visit (s : Session) (before : List String) (m : Module) : Visit before :=
  if _unvisited : m.name ∉ before then
    (visitEdges s (m.name :: before) m.positions).marking m.name
  else .nothing before
termination_by ((insert m.name s.declaredNames \ before.toFinset).card, 0)
decreasing_by exact Prod.Lex.left _ _ (card_unmarked_lt _unvisited)

/-- Reads edges in order. An accepted edge is emitted once: as expanded, and with
its target visited before the next edge is read, if it leads to a module; as it
stands otherwise. -/
def visitEdges (s : Session) (before : List String) : List Position → Visit before
  | [] => .nothing before
  | p :: rest =>
    if s.isCandidate p.module p.dependency && s.accepts p.module p.dependency then
      match _target : s.target? p.dependency with
      | some t =>
        let inner := visit s before t
        (inner.andThen (visitEdges s inner.visited rest)).after [⟨p, true⟩]
      | none => (visitEdges s before rest).after [⟨p, false⟩]
    else visitEdges s before rest
termination_by ps => ((s.declaredNames \ before.toFinset).card, ps.length)
decreasing_by
  · rw [Finset.insert_eq_of_mem (name_mem_declaredNames _target)]
    exact Prod.Lex.right _ (by simp)
  · exact Prod.Lex.right' _ (card_unmarked_le inner.grows) (by simp)
  · exact Prod.Lex.right _ (by simp)
  · exact Prod.Lex.right _ (by simp)

end

/-- Visits modules in order, all with one set of visited names. -/
def visitAll (s : Session) (before : List String) : List Module → Visit before
  | [] => .nothing before
  | m :: rest =>
    let first := visit s before m
    first.andThen (visitAll s first.visited rest)

/-- The entries emitted by visiting the roots in order. -/
def depthFirst (s : Session) : List Enumerated :=
  (s.visitAll [] s.roots).emitted

/-- What the frames of a stack still have to do: the topmost reads its remaining
edges, then the next goes on with what is visited by then. -/
def unwind (s : Session) (before : List String) : List Frame → Visit before
  | [] => .nothing before
  | f :: below =>
    let first := visitEdges s before (f.module.positions.drop f.next)
    first.andThen (unwind s first.visited below)

variable {s : Session} {before : List String}

/-! ### The recursion, case by case -/

theorem visit_of_mem {m : Module} (visited : m.name ∈ before) :
    s.visit before m = .nothing before := by
  rw [visit, dif_neg (by simpa using visited)]

theorem visit_of_not_mem {m : Module} (unvisited : m.name ∉ before) :
    s.visit before m = (s.visitEdges (m.name :: before) m.positions).marking m.name := by
  rw [visit, dif_pos unvisited]

@[simp] theorem visitEdges_nil : s.visitEdges before [] = .nothing before := by
  rw [visitEdges]

theorem visitEdges_of_not_takes {p : Position} {rest : List Position}
    (refused : s.takes p = false) :
    s.visitEdges before (p :: rest) = s.visitEdges before rest := by
  rw [takes] at refused
  rw [visitEdges, refused]
  rfl

theorem visitEdges_of_no_target {p : Position} {rest : List Position}
    (taken : s.takes p = true) (none : s.target? p.dependency = none) :
    s.visitEdges before (p :: rest) = (s.visitEdges before rest).after [⟨p, false⟩] := by
  rw [takes] at taken
  rw [visitEdges, if_pos taken]
  split
  · next t target =>
    rw [none] at target
    contradiction
  · rfl

theorem visitEdges_of_target {p : Position} {rest : List Position} {t : Module}
    (taken : s.takes p = true) (target : s.target? p.dependency = some t) :
    s.visitEdges before (p :: rest) =
      ((s.visit before t).andThen (s.visitEdges (s.visit before t).visited rest)).after
        [⟨p, true⟩] := by
  rw [takes] at taken
  rw [visitEdges, if_pos taken]
  split
  · next t' target' =>
    obtain rfl : t = t' := Option.some.inj (target.symm.trans target')
    rfl
  · next none =>
    rw [target] at none
    contradiction

/-- An edge whose target is not visited now adds its entry and nothing else. -/
theorem visitEdges_read {p : Position} {rest : List Position}
    (known : ∀ t, s.takes p = true → s.target? p.dependency = some t → t.name ∈ before) :
    s.visitEdges before (p :: rest) = (s.visitEdges before rest).after (s.entries [p]) := by
  by_cases taken : s.takes p = true
  case neg =>
    rw [Bool.not_eq_true] at taken
    rw [visitEdges_of_not_takes taken, entries_singleton_of_not_takes taken]
    rfl
  rw [entries_singleton_of_takes taken]
  cases target : s.target? p.dependency with
  | none =>
    rw [visitEdges_of_no_target taken target]
    simp [entry, target]
  | some t =>
    rw [visitEdges_of_target taken target, visit_of_mem (known t taken target)]
    simp [entry, target, Visit.andThen, Visit.nothing]

/-! ### Unwinding a stack

What unwinding a stack has to do with unwinding the stack that one step leaves. -/

theorem unwind_left {m : Module} {next : Nat} {below : List Frame}
    (done : m.dependencies.length ≤ next) :
    s.unwind before (⟨m, next⟩ :: below) = s.unwind before below := by
  rw [unwind, Module.drop_positions_of_le done, visitEdges_nil]
  rfl

theorem unwind_read {p : Position} {below : List Frame}
    (known : ∀ t, s.takes p = true → s.target? p.dependency = some t → t.name ∈ before) :
    s.unwind before (⟨p.module, p.index⟩ :: below) =
      (s.unwind before (⟨p.module, p.index + 1⟩ :: below)).after (s.entries [p]) := by
  have next : p.module.positions.drop p.index = p :: p.module.positions.drop (p.index + 1) :=
    Module.drop_positions_of_lt p.index.isLt
  rw [unwind, next, visitEdges_read known, unwind]
  simp [Visit.andThen, Visit.after]

theorem unwind_entered {p : Position} {t : Module} {below : List Frame}
    (taken : s.takes p = true) (target : s.target? p.dependency = some t)
    (new : t.name ∉ before) :
    s.unwind before (⟨p.module, p.index⟩ :: below) =
      ((s.unwind (t.name :: before) (⟨t, 0⟩ :: ⟨p.module, p.index + 1⟩ :: below)).marking
        t.name).after (s.entries [p]) := by
  have next : p.module.positions.drop p.index = p :: p.module.positions.drop (p.index + 1) :=
    Module.drop_positions_of_lt p.index.isLt
  have entries : s.entries [p] = [⟨p, true⟩] := by
    simp [entries_singleton_of_takes taken, entry, target]
  have bottom : s.unwind (t.name :: before) (⟨t, 0⟩ :: ⟨p.module, p.index + 1⟩ :: below) =
      (s.visitEdges (t.name :: before) t.positions).andThen
        (s.unwind (s.visitEdges (t.name :: before) t.positions).visited
          (⟨p.module, p.index + 1⟩ :: below)) := by
    rw [unwind, List.drop_zero]
  rw [bottom, unwind, next, visitEdges_of_target taken target, visit_of_not_mem new, entries]
  simp [unwind, Visit.andThen, Visit.after, Visit.marking]

end Session

namespace Walk

variable {s : Session} {w w' : Walk}

/-- What a state of the walk amounts to: the names visited in the end, and all
that is listed by then. -/
def outcome (s : Session) (w : Walk) : List String × List Enumerated :=
  let v := s.unwind w.visited w.stack
  (v.visited, w.listing ++ v.emitted)

/-- **A move keeps the outcome.**  In particular a module goes on at its next edge
after the target of an edge has been read to its end, with what was visited
meanwhile. -/
theorem outcome_move (move : Move s w w') : outcome s w' = outcome s w := by
  cases move with
  | left top done stack visited entered listing =>
    rw [outcome, outcome, top, Session.unwind_left done, stack, visited, listing]
  | read top known stack visited entered listing =>
    rw [outcome, outcome, top, Session.unwind_read known, stack, visited, listing]
    simp [Visit.after]
  | entered top taken target new stack visited entered listing =>
    rw [outcome, outcome, top, Session.unwind_entered taken target new, stack, visited, listing]
    simp [Visit.after, Visit.marking]

/-- A run ends in its outcome. -/
theorem outcome_run (s : Session) (w : Walk) :
    ((run s w).visited, (run s w).listing) = outcome s w := by
  have kept : outcome s (run s w) = outcome s w :=
    run_induction (P := fun w' => outcome s w' = outcome s w)
      (fun _ _ same move => (outcome_move move).trans same) rfl
  rw [← kept]
  simp [outcome, Session.unwind, Visit.nothing]

end Walk

namespace Session

variable {s : Session}

/-- Entering a root and running visits the root. -/
theorem run_enter (w : Walk) (root : Module) (empty : w.stack = []) :
    ((Walk.run s (w.enter root)).visited, (Walk.run s (w.enter root)).listing) =
      ((s.visit w.visited root).visited, w.listing ++ (s.visit w.visited root).emitted) := by
  rw [Walk.outcome_run, Walk.outcome, Walk.listing_enter]
  by_cases known : root.name ∈ w.visited
  · rw [Walk.enter_of_mem known, visit_of_mem known, empty]
    rfl
  · obtain ⟨visited, stack, -⟩ := Walk.enter_of_not_mem known
    rw [visit_of_not_mem known, visited, stack, empty]
    simp [unwind, Visit.nothing, Visit.andThen, Visit.marking]

/-- Walking over roots visits them in order. -/
theorem foldl_run_enter (roots : List Module) (w : Walk) (empty : w.stack = []) :
    (roots.foldl (fun w root => Walk.run s (w.enter root)) w).listing =
      w.listing ++ (s.visitAll w.visited roots).emitted := by
  induction roots generalizing w with
  | nil => simp [visitAll, Visit.nothing]
  | cons root rest ih =>
    obtain ⟨visited, listing⟩ := Prod.mk.inj (run_enter (s := s) w root empty)
    rw [List.foldl_cons, ih _ (Walk.stack_run _ _), visited, listing, List.append_assoc]
    rfl

/-- **The walk is the depth-first search.**  The walk with its stack of frames and
the search by recursion list the same entries in the same order, with the same
expanded flags. -/
theorem dependencies_eq_depthFirst (s : Session) : s.dependencies = s.depthFirst := by
  have whole := foldl_run_enter (s := s) s.roots {} rfl
  simpa [dependencies, walk, depthFirst, Walk.listing] using whole

end Session

end Classpath
