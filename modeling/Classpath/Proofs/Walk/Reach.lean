import Classpath.Proofs.Walk.Progress
import Mathlib.Algebra.BigOperators.Group.Finset.Basic

/-!
# The walk lists the edges of what it reaches

`Session.Reaches` is the least set of modules that holds the roots and, where
modules are followed, the target of every accepted edge.  The walk lists exactly
the accepted edges of these modules.

The loop invariant is a balance again, for each module apart: what was listed of
a module, followed by what its frame on the stack will still list, is everything
its edges give.  A module that was not entered has neither.

## Main definitions

* `Session.Reaches` — reachability through accepted edges
* `Walk.owed` — what the frames of a module will still list
* `Walk.Accounted` — the loop invariant

## Main statements

* `Walk.Accounted.move` — every move keeps the invariant
* `Session.mem_entered_walk_iff` — the walk enters what is reached, and nothing else
* `Session.mem_dependencies_iff` — when an entry is listed
* `Session.dependencies_enumerate_reach` — the listing as a multiset and in order
-/

namespace Classpath

/-- The least set of modules that holds the roots and, where modules are
followed, the known target of every accepted edge of a module in it. -/
inductive Session.Reaches (s : Session) : Module → Prop
  | root {m : Module} (member : m ∈ s.roots) : s.Reaches m
  | edge {p : Position} {t : Module} {name : String} (reached : s.Reaches p.module)
      (follows : s.Follows) (looked : s.isCandidate p.module p.dependency = true)
      (accepted : s.accepts p.module p.dependency = true)
      (points : p.dependency.target = .module name)
      (found : s.project.module? name = some t) : s.Reaches t

namespace Walk

variable {s : Session} {w w' : Walk} {m : Module}

/-- What the frames of `m` on a stack will still list. -/
def owed (s : Session) (m : Module) : List Frame → List Enumerated
  | [] => []
  | f :: below =>
    (if f.module = m then s.entries (f.module.positions.drop f.next) else []) ++ owed s m below

/-- What was listed of `m`, followed by what will still be listed of it. -/
def account (s : Session) (m : Module) (listing : List Enumerated) (stack : List Frame) :
    List Enumerated :=
  listing.filter (·.position.module = m) ++ owed s m stack

/-- Reading an edge moves what it gives from the stack to the listing. -/
theorem account_read (p : Position) (listing : List Enumerated) (below : List Frame) :
    account s m (listing ++ s.entries [p]) (⟨p.module, p.index + 1⟩ :: below) =
      account s m listing (⟨p.module, p.index⟩ :: below) := by
  have mine : ∀ e ∈ s.entries [p], e.position.module = p.module := by
    intro e member
    rw [List.mem_singleton.1 (Session.mem_entries.1 member).1]
  have next : p.module.positions.drop p.index = p :: p.module.positions.drop (p.index + 1) :=
    Module.drop_positions_of_lt p.index.isLt
  simp only [account, owed]
  by_cases same : p.module = m
  · have kept : (s.entries [p]).filter (·.position.module = m) = s.entries [p] :=
      List.filter_eq_self.2 fun e member => by simpa [same] using mine e member
    rw [if_pos same, if_pos same, next, Session.entries_cons s p (p.module.positions.drop _),
      List.filter_append, kept]
    simp only [List.append_assoc]
  · have dropped : (s.entries [p]).filter (·.position.module = m) = [] :=
      List.filter_eq_nil_iff.2 fun e member => by simpa [mine e member] using same
    rw [if_neg same, if_neg same, List.filter_append, dropped, List.append_nil]

/-- A frame that has been read to its end owes nothing. -/
theorem account_left {m' : Module} {next : Nat} (done : m'.dependencies.length ≤ next)
    (listing : List Enumerated) (below : List Frame) :
    account s m listing (⟨m', next⟩ :: below) = account s m listing below := by
  simp [account, owed, Module.drop_positions_of_le done]

/-- A frame that is pushed owes everything its module gives. -/
theorem account_push (t : Module) (listing : List Enumerated) (stack : List Frame) :
    account s m listing (⟨t, 0⟩ :: stack) =
      listing.filter (·.position.module = m) ++
        ((if t = m then s.entries t.positions else []) ++ owed s m stack) := by
  simp [account, owed]

/-- The loop invariant of the walk. -/
structure Accounted (s : Session) (w : Walk) : Prop where
  since : Since s {} w.entered w
  /-- Only what is reached is entered. -/
  reached : ∀ m ∈ w.entered, s.Reaches m
  /-- Every module that was entered is accounted for once, every other not at all. -/
  balanced : ∀ m, account s m w.listing w.stack =
    if m ∈ w.entered then s.entries m.positions else []
  /-- The target of a listed edge has been visited, if it is to be followed. -/
  followed : ∀ e ∈ w.listing, ∀ t, s.target? e.edge = some t → t.name ∈ w.visited

namespace Accounted

theorem start : Accounted s {} :=
  ⟨.refl rfl, by simp [entered], by simp [account, owed, listing, entered],
    by simp [listing]⟩

/-- A module that was not visited is not accounted for: nothing of it was listed,
and no frame of it is on the stack. -/
theorem account_of_not_mem (inv : Accounted s w) (new : m.name ∉ w.visited) :
    account s m w.listing w.stack = [] := by
  have unentered : m ∉ w.entered := by
    intro member
    rw [inv.since.visited] at new
    exact new (List.mem_append_left _ (List.mem_map_of_mem member))
  rw [inv.balanced, if_neg unentered]

/-- Pushing a module that was not visited keeps the account of every module. -/
theorem balanced_push {t : Module} {stack : List Frame} {listing : List Enumerated}
    (new : account s t listing stack = []) {entered : List Module}
    (balanced : ∀ m, account s m listing stack =
      if m ∈ entered then s.entries m.positions else []) (m : Module) :
    account s m listing (⟨t, 0⟩ :: stack) =
      if m ∈ t :: entered then s.entries m.positions else [] := by
  rw [account_push]
  by_cases same : t = m
  · subst same
    obtain ⟨unlisted, unowed⟩ := List.append_eq_nil_iff.1 new
    rw [unlisted, unowed, if_pos rfl, if_pos List.mem_cons_self]
    simp
  · have members : m ∈ t :: entered ↔ m ∈ entered := by simp [Ne.symm same]
    simp only [if_neg same, List.nil_append, members]
    exact balanced m

/-- Entering a root keeps the invariant. -/
theorem enter {root : Module} (inv : Accounted s w) (member : root ∈ s.roots)
    (declared : s.project.module? root.name = some root) : Accounted s (w.enter root) := by
  by_cases known : root.name ∈ w.visited
  · rwa [enter_of_mem known]
  obtain ⟨visited, stack, entered⟩ := enter_of_not_mem known
  refine ⟨inv.since.enter_of_start declared, ?_, ?_, ?_⟩
  · rw [entered]
    exact List.forall_mem_cons.2 ⟨.root member, inv.reached⟩
  · rw [entered, stack, listing_enter]
    exact balanced_push (inv.account_of_not_mem known) inv.balanced
  · rw [visited, listing_enter]
    exact fun e he t target => List.mem_cons_of_mem _ (inv.followed e he t target)

/-- A module whose edge is read has been reached. -/
theorem reached_of_top {p : Position} {next : Nat} {below : List Frame} (inv : Accounted s w)
    (top : w.stack = ⟨p.module, next⟩ :: below) : s.Reaches p.module :=
  inv.reached _ (inv.since.mem_of_top top)

/-- Following stays true when an edge is read whose target has been visited. -/
theorem followed_read {p : Position} {listing : List Enumerated} {visited : List String}
    (followed : ∀ e ∈ listing, ∀ t, s.target? e.edge = some t → t.name ∈ visited)
    (known : ∀ t, s.takes p = true → s.target? p.dependency = some t → t.name ∈ visited) :
    ∀ e ∈ listing ++ s.entries [p], ∀ t, s.target? e.edge = some t → t.name ∈ visited := by
  intro e he t target
  obtain old | new := List.mem_append.1 he
  · exact followed e old t target
  · obtain ⟨here, taken, -⟩ := Session.mem_entries.1 new
    rw [List.mem_singleton] at here
    rw [here] at taken
    rw [Enumerated.edge, here] at target
    exact known t taken target

/-- **Every move keeps the invariant.** -/
theorem move (inv : Accounted s w) (move : Move s w w') : Accounted s w' := by
  have since' := inv.since.move_of_start move
  cases move with
  | left top done stack visited entered listing =>
    refine ⟨since', ?_, ?_, ?_⟩
    · rw [entered]
      exact inv.reached
    · intro m
      rw [entered, listing, stack, ← inv.balanced m, top, account_left done]
    · rw [listing, visited]
      exact inv.followed
  | read top known stack visited entered listing =>
    refine ⟨since', ?_, ?_, ?_⟩
    · rw [entered]
      exact inv.reached
    · intro m
      rw [entered, listing, stack, account_read, ← top]
      exact inv.balanced m
    · rw [listing, visited]
      exact followed_read inv.followed known
  | @entered p below t top taken target unvisited stack visited entered listing =>
    have same : ∀ m, account s m (w.listing ++ s.entries [p]) (⟨p.module, p.index + 1⟩ :: below) =
        account s m w.listing w.stack := by
      intro m
      rw [account_read, ← top]
    refine ⟨since', ?_, ?_, ?_⟩
    · rw [entered]
      obtain ⟨follows, name, points, found⟩ := Session.target?_eq_some_iff.1 target
      obtain ⟨looked, accepted⟩ := Bool.and_eq_true_iff.1 taken
      have reached : s.Reaches t :=
        .edge (inv.reached_of_top top) follows looked accepted points found
      exact List.forall_mem_cons.2 ⟨reached, inv.reached⟩
    · rw [entered, listing, stack]
      refine balanced_push ?_ fun m => ?_
      · rw [same]
        exact inv.account_of_not_mem unvisited
      · rw [same]
        exact inv.balanced m
    · rw [listing, visited]
      refine followed_read ?_ ?_
      · exact fun e he t' target' => List.mem_cons_of_mem _ (inv.followed e he t' target')
      · intro t' _ target'
        obtain rfl : t = t' := Option.some.inj (target.symm.trans target')
        exact List.mem_cons_self

end Accounted

end Walk

namespace Session

variable {s : Session}

/-- The loop invariant holds at the end of the walk. -/
theorem accounted_walk (declared : s.RootsDeclared) : Walk.Accounted s s.walk :=
  walk_induction .start (fun _ root member _ inv => inv.enter member (declared root member))
    fun _ _ inv move => inv.move move

/-- **Nothing is missed and nothing is read twice.**  What is listed of a module
that is entered is everything its edges give, in declaration order; of any other
module nothing is listed. -/
theorem filter_dependencies (declared : s.RootsDeclared) (m : Module) :
    s.dependencies.filter (·.position.module = m) =
      if m ∈ s.walk.entered then s.entries m.positions else [] := by
  have balanced := (accounted_walk declared).balanced m
  rw [stack_walk] at balanced
  simpa [Walk.account, Walk.owed, dependencies] using balanced

theorem mem_dependencies_iff_entered (declared : s.RootsDeclared) {e : Enumerated} :
    e ∈ s.dependencies ↔ e.position.module ∈ s.walk.entered ∧ s.takes e.position = true ∧
      e = s.entry e.position := by
  have mine : e ∈ s.dependencies ↔
      e ∈ s.dependencies.filter (·.position.module = e.position.module) := by simp
  rw [mine, filter_dependencies declared]
  by_cases entered : e.position.module ∈ s.walk.entered
  · simp [entered, mem_entries, Module.mem_positions]
  · simp [entered]

/-- **The walk enters what is reached, and nothing else.** -/
theorem mem_entered_walk_iff (declared : s.RootsDeclared) {m : Module} :
    m ∈ s.walk.entered ↔ s.Reaches m := by
  have inv := accounted_walk declared
  refine ⟨inv.reached m, fun reached => ?_⟩
  induction reached with
  | root member => exact inv.since.mem_of_visited (declared _ member) (name_mem_visited_walk member)
  | @edge p t name _ follows looked accepted points found entered =>
    have taken : s.takes p = true := by simp [takes, looked, accepted]
    have target : s.target? p.dependency = some t :=
      target?_eq_some_iff.2 ⟨follows, name, points, found⟩
    have listed : s.entry p ∈ s.dependencies :=
      (mem_dependencies_iff_entered declared).2 ⟨entered, taken, rfl⟩
    exact inv.since.mem_of_visited (module?_name_of_target? target)
      (inv.followed _ listed t target)

/-- An entry is listed if and only if it stands for an accepted edge of a module
that is reached. -/
theorem mem_dependencies_iff (declared : s.RootsDeclared) {e : Enumerated} :
    e ∈ s.dependencies ↔
      s.Reaches e.position.module ∧ s.takes e.position = true ∧ e = s.entry e.position := by
  rw [mem_dependencies_iff_entered declared, mem_entered_walk_iff declared]

theorem expanded_entry_iff {p : Position} :
    (s.entry p).expanded = true ↔
      s.Follows ∧ ∃ name t, p.dependency.target = .module name ∧
        s.project.module? name = some t := by
  rw [entry, Option.isSome_iff_exists]
  constructor
  · rintro ⟨t, target⟩
    obtain ⟨follows, name, points, found⟩ := target?_eq_some_iff.1 target
    exact ⟨follows, name, t, points, found⟩
  · rintro ⟨follows, name, t, points, found⟩
    exact ⟨t, target?_eq_some_iff.2 ⟨follows, name, points, found⟩⟩

/-- The listing is, up to order, what the entered modules give. -/
theorem coe_dependencies (declared : s.RootsDeclared) :
    (s.dependencies : Multiset Enumerated) =
      ∑ m ∈ s.walk.entered.toFinset, (s.entries m.positions : Multiset Enumerated) := by
  ext e
  -- Only the module that declares `e` can give it.
  have elsewhere : ∀ m, m ≠ e.position.module →
      Multiset.count e (s.entries m.positions : Multiset Enumerated) = 0 := by
    intro m other
    rw [Multiset.coe_count, List.count_eq_zero]
    intro member
    exact other (Module.module_of_mem_positions (mem_entries.1 member).1).symm
  have here : Multiset.count e (s.dependencies : Multiset Enumerated) =
      (s.dependencies.filter (·.position.module = e.position.module)).count e := by
    rw [List.count_filter (by simp), Multiset.coe_count]
  rw [here, filter_dependencies declared, Multiset.count_sum']
  by_cases entered : e.position.module ∈ s.walk.entered
  · rw [if_pos entered, Finset.sum_eq_single_of_mem e.position.module
      (List.mem_toFinset.2 entered) fun m _ other => elsewhere m other, Multiset.coe_count]
  · rw [if_neg entered, Finset.sum_eq_zero]
    · rfl
    · intro m member
      refine elsewhere m ?_
      rintro rfl
      exact entered (List.mem_toFinset.1 member)

/-- **The walk lists exactly the accepted edges of what it reaches.**  As a
multiset the listing is the sum of what the reached modules give, each module
taken once; the entries of one module stand in declaration order; and an entry is
expanded exactly if modules are followed and it points at a module that the
project knows. -/
theorem dependencies_enumerate_reach (s : Session) (declared : s.RootsDeclared) :
    (∃ reach : Finset Module, (∀ m, m ∈ reach ↔ s.Reaches m) ∧
      (s.dependencies : Multiset Enumerated) =
        ∑ m ∈ reach, (s.entries m.positions : Multiset Enumerated)) ∧
    (∀ m, s.Reaches m →
      s.dependencies.filter (·.position.module = m) = s.entries m.positions) ∧
    ∀ e ∈ s.dependencies, e.expanded = true ↔
      s.Follows ∧
        ∃ name t, e.edge.target = .module name ∧ s.project.module? name = some t := by
  refine ⟨⟨s.walk.entered.toFinset, ?_, coe_dependencies declared⟩, ?_, ?_⟩
  · intro m
    rw [List.mem_toFinset, mem_entered_walk_iff declared]
  · intro m reached
    rw [filter_dependencies declared, if_pos ((mem_entered_walk_iff declared).2 reached)]
  · intro e listed
    obtain ⟨-, -, same⟩ := (mem_dependencies_iff declared).1 listed
    rw [same]
    exact expanded_entry_iff

/-- What is reached in the tangled project. -/
theorem reaches_tangled_iff {m : Module} :
    tangled.Reaches m ↔ m = tangledApp ∨ m = tangledCore := by
  constructor
  · intro reached
    cases reached with
    | root member => simpa [tangled, or_comm, or_left_comm] using member
    | edge _ _ _ _ _ found => simpa [tangled] using Project.mem_of_module? found
  · rintro (rfl | rfl)
    · exact .root (by decide)
    · exact .root (by decide)

/-- In the tangled project `app` and `core` are reached.  Each edge of `app` is listed
once, though `app` is a root twice and depends on itself; the edge to nothing is
listed without being expanded. -/
theorem tangled_dependencies_enumerate_reach :
    tangled.RootsDeclared ∧
      (∀ m, tangled.Reaches m ↔ m = tangledApp ∨ m = tangledCore) ∧
      (tangled.dependencies : Multiset Enumerated) =
        tangled.entries tangledApp.positions + tangled.entries tangledCore.positions ∧
      tangled.dependencies.filter (·.position.module = tangledApp) =
        [⟨⟨tangledApp, ⟨0, by decide⟩⟩, false⟩, ⟨⟨tangledApp, ⟨1, by decide⟩⟩, true⟩,
          ⟨⟨tangledApp, ⟨2, by decide⟩⟩, true⟩, ⟨⟨tangledApp, ⟨3, by decide⟩⟩, true⟩,
          ⟨⟨tangledApp, ⟨4, by decide⟩⟩, false⟩] ∧
      tangled.dependencies.filter (·.position.module = tangledCore) =
        [⟨⟨tangledCore, ⟨0, by decide⟩⟩, true⟩] := by
  have declared : tangled.RootsDeclared := by decide
  obtain ⟨⟨reach, members, listing⟩, ordered, -⟩ := dependencies_enumerate_reach tangled declared
  have both : reach = {tangledApp, tangledCore} := by
    ext m
    simp [members, reaches_tangled_iff]
  refine ⟨declared, fun m => reaches_tangled_iff, ?_, ?_, ?_⟩
  · rw [listing, both, Finset.sum_pair (by decide)]
  · rw [ordered _ (reaches_tangled_iff.2 (.inl rfl))]
    decide
  · rw [ordered _ (reaches_tangled_iff.2 (.inr rfl))]
    decide

end Session

end Classpath
