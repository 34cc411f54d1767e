import Classpath.Session.Walk

/-!
# One step of the walk

`Walk.step` runs over a verdict and a log.  What the theory needs of it is said
here once, as `Walk.Move`: a step leaves the topmost module, or reads one of its
edges and enters nothing, or reads an edge and enters its target.  Every
invariant of the walk is checked against these three cases, and no later module
unfolds `Walk.step`.

## Main definitions

* `Session.takes`, `Session.target?` — whether an edge is accepted, and the
  module that following it leads to
* `Session.Follows` — whether modules are followed
* `Session.entries` — what the walk lists for a list of positions
* `Session.RootsDeclared` — the roots are modules of the project
* `Walk.entered` — the modules put on the stack, newest first
* `Walk.Move` — what one step may do
* `Walk.runAll` — a run from each of some modules in turn

## Main statements

* `Walk.move_step` — a step on a walk with a stack is a move
* `Walk.run_induction`, `Session.walk_induction` — what moves preserve holds at
  the end of a run, and of a whole walk
-/

namespace Classpath

/-! ## What the walk lists -/

namespace Session

/-- The edge at a position is accepted: the session looks at it, and neither its
scope nor its exported flag is refused. -/
def takes (s : Session) (p : Position) : Bool :=
  s.isCandidate p.module p.dependency && s.accepts p.module p.dependency

/-- Modules are followed: the session asks for it, and every handler allows it. -/
def Follows (s : Session) : Prop :=
  s.traversal.recursive = true ∧ ∀ h ∈ s.handlers.handlers, h.recursive = true

instance (s : Session) : Decidable s.Follows :=
  inferInstanceAs (Decidable (_ ∧ ∀ h ∈ s.handlers.handlers, h.recursive = true))

/-- The module that following an edge leads to. There is none unless modules are
followed, the edge points at a module, and the project knows that module. -/
def target? (s : Session) (d : Dependency) : Option Module :=
  if s.recurses then
    match d.target with
    | .module name => s.project.module? name
    | _ => none
  else none

/-- The roots are modules of the project. -/
def RootsDeclared (s : Session) : Prop :=
  ∀ root ∈ s.roots, s.project.module? root.name = some root

instance (s : Session) : Decidable s.RootsDeclared :=
  inferInstanceAs (Decidable (∀ root ∈ s.roots, s.project.module? root.name = some root))

/-- The entry under which an accepted edge is listed. -/
def entry (s : Session) (p : Position) : Enumerated :=
  ⟨p, (s.target? p.dependency).isSome⟩

/-- What the walk lists when it reads these positions. -/
def entries (s : Session) (ps : List Position) : List Enumerated :=
  (ps.filter s.takes).map s.entry

@[simp] theorem entries_nil (s : Session) : s.entries [] = [] := rfl

theorem entries_cons (s : Session) (p : Position) (ps : List Position) :
    s.entries (p :: ps) = s.entries [p] ++ s.entries ps := by
  by_cases taken : s.takes p <;> simp [entries, taken]

theorem entries_singleton_of_takes {s : Session} {p : Position} (taken : s.takes p = true) :
    s.entries [p] = [s.entry p] := by
  simp [entries, taken]

theorem entries_singleton_of_not_takes {s : Session} {p : Position}
    (refused : s.takes p = false) : s.entries [p] = [] := by
  simp [entries, refused]

theorem mem_entries {s : Session} {ps : List Position} {e : Enumerated} :
    e ∈ s.entries ps ↔ e.position ∈ ps ∧ s.takes e.position = true ∧ e = s.entry e.position := by
  simp only [entries, List.mem_map, List.mem_filter]
  constructor
  · rintro ⟨p, ⟨hp, taken⟩, rfl⟩
    exact ⟨hp, taken, rfl⟩
  · rintro ⟨hp, taken, same⟩
    exact ⟨e.position, ⟨hp, taken⟩, same.symm⟩

theorem recurses_iff {s : Session} : s.recurses = true ↔ s.Follows := by
  simp [recurses, Follows, HandlerSet.recursive, HandlerSet.allAgree]

theorem target?_eq_some_iff {s : Session} {d : Dependency} {t : Module} :
    s.target? d = some t ↔
      s.Follows ∧ ∃ name, d.target = .module name ∧ s.project.module? name = some t := by
  rw [← recurses_iff]
  unfold target?
  split
  · next on =>
    cases points : d.target <;> simp [on]
  · next off => simp [off]

/-- A module that is followed is the one its name stands for. -/
theorem module?_name_of_target? {s : Session} {d : Dependency} {t : Module}
    (found : s.target? d = some t) : s.project.module? t.name = some t := by
  obtain ⟨-, name, -, known⟩ := target?_eq_some_iff.1 found
  rw [Project.name_of_module? known]
  exact known

/-- The verdict about an edge, by whether it is accepted and where it leads. -/
theorem verdict_cases (s : Session) (p : Position) :
    (s.takes p = false ∧
      (s.verdict p.module p.dependency = .skipped ∨
        s.verdict p.module p.dependency = .refused)) ∨
    (s.takes p = true ∧ s.target? p.dependency = none ∧
      (s.verdict p.module p.dependency = .listed ∨
        ∃ name, s.verdict p.module p.dependency = .dangling name)) ∨
    (s.takes p = true ∧ ∃ t, s.target? p.dependency = some t ∧
      s.verdict p.module p.dependency = .followed t) := by
  by_cases candidate : s.isCandidate p.module p.dependency
  case neg => exact .inl ⟨by simp [takes, candidate], .inl (by simp [verdict, candidate])⟩
  by_cases accepted : s.accepts p.module p.dependency
  case neg =>
    exact .inl ⟨by simp [takes, accepted], .inr (by simp [verdict, candidate, accepted])⟩
  have taken : s.takes p = true := by simp [takes, candidate, accepted]
  by_cases recurses : s.recurses
  case neg =>
    refine .inr (.inl ⟨taken, by simp [target?, recurses], .inl ?_⟩)
    simp [verdict, candidate, accepted, recurses]
  cases points : p.dependency.target with
  | module name =>
    cases known : s.project.module? name with
    | none =>
      refine .inr (.inl ⟨taken, by simp [target?, points, known], .inr ⟨name, ?_⟩⟩)
      simp [verdict, candidate, accepted, recurses, points, known]
    | some t =>
      refine .inr (.inr ⟨taken, t, by simp [target?, recurses, points, known], ?_⟩)
      simp [verdict, candidate, accepted, recurses, points, known]
  | source | library _ | sdk _ =>
    refine .inr (.inl ⟨taken, by simp [target?, points], .inl ?_⟩)
    simp [verdict, candidate, accepted, recurses, points]

end Session

/-! ## What is seen of a walk -/

/-- The module entered by a happening. -/
def Happening.entered? : Happening → Option Module
  | .entered m => some m
  | _ => none

namespace Walk

/-- The modules put on the stack so far, newest first. `Walk.enter`, which alone
puts a module on the stack, notes it here. -/
def entered (w : Walk) : List Module :=
  w.happenings.filterMap Happening.entered?

@[simp] theorem listing_note (w : Walk) (h : Happening) :
    (w.note h).listing = w.listing ++ h.listed?.toList := by
  cases h <;> simp [note, listing, Happening.listed?]

@[simp] theorem entered_note (w : Walk) (h : Happening) :
    (w.note h).entered = h.entered?.toList ++ w.entered := by
  cases h <;> simp [note, entered, Happening.entered?, List.filterMap_cons]

@[simp] theorem listing_list (w : Walk) (p : Position) (expanded : Bool) :
    (w.list p expanded).listing = w.listing ++ [⟨p, expanded⟩] :=
  listing_note w _

@[simp] theorem entered_list (w : Walk) (p : Position) (expanded : Bool) :
    (w.list p expanded).entered = w.entered :=
  entered_note w _

theorem enter_of_mem {w : Walk} {m : Module} (known : m.name ∈ w.visited) : w.enter m = w := by
  simp [enter, known]

@[simp] theorem listing_enter (w : Walk) (m : Module) : (w.enter m).listing = w.listing := by
  unfold enter
  split
  · rfl
  · simp [listing, Happening.listed?]

/-- Entering a module that was not visited puts it on the stack and marks it. -/
theorem enter_of_not_mem {w : Walk} {m : Module} (new : m.name ∉ w.visited) :
    (w.enter m).visited = m.name :: w.visited ∧ (w.enter m).stack = ⟨m, 0⟩ :: w.stack ∧
      (w.enter m).entered = m :: w.entered := by
  simp [enter, new, entered, Happening.entered?]

/-! ## Moves -/

/-- What one step may make of a walk `w` whose stack is not empty. -/
inductive Move (s : Session) (w w' : Walk) : Prop
  /-- The topmost module has no further edge and is left. -/
  | left {m : Module} {next : Nat} {below : List Frame}
      (top : w.stack = ⟨m, next⟩ :: below) (done : m.dependencies.length ≤ next)
      (stack : w'.stack = below) (visited : w'.visited = w.visited)
      (entered : w'.entered = w.entered) (listing : w'.listing = w.listing)
  /-- The next edge of the topmost module is read, and no module is entered. -/
  | read {p : Position} {below : List Frame}
      (top : w.stack = ⟨p.module, p.index⟩ :: below)
      (known : ∀ t, s.takes p = true → s.target? p.dependency = some t → t.name ∈ w.visited)
      (stack : w'.stack = ⟨p.module, p.index + 1⟩ :: below) (visited : w'.visited = w.visited)
      (entered : w'.entered = w.entered) (listing : w'.listing = w.listing ++ s.entries [p])
  /-- The next edge of the topmost module is read, and its target is entered. -/
  | entered {p : Position} {below : List Frame} {t : Module}
      (top : w.stack = ⟨p.module, p.index⟩ :: below)
      (taken : s.takes p = true) (target : s.target? p.dependency = some t)
      (new : t.name ∉ w.visited)
      (stack : w'.stack = ⟨t, 0⟩ :: ⟨p.module, p.index + 1⟩ :: below)
      (visited : w'.visited = t.name :: w.visited)
      (entered : w'.entered = t :: w.entered) (listing : w'.listing = w.listing ++ s.entries [p])

theorem step_of_empty {s : Session} {w : Walk} (empty : w.stack = []) : step s w = w := by
  simp [step, empty]

/-- **A step is a move.** -/
theorem move_step {s : Session} {w : Walk} (nonempty : w.stack ≠ []) : Move s w (step s w) := by
  obtain ⟨⟨m, next⟩, below, top⟩ := List.exists_cons_of_ne_nil nonempty
  by_cases more : next < m.dependencies.length
  case neg =>
    have stepped : step s w = { w with stack := below } := by simp [step, top, more]
    rw [stepped]
    exact .left top (by omega) rfl rfl rfl rfl
  let p : Position := ⟨m, next, more⟩
  let read : Walk := { w with stack := ⟨p.module, p.index + 1⟩ :: below }
  have stepped : step s w = read.act p (s.verdict p.module p.dependency) := by
    simp [step, top, more, p, read]
  have listing_read : read.listing = w.listing := rfl
  have entered_read : read.entered = w.entered := rfl
  rw [stepped]
  obtain ⟨refused, verdict⟩ | ⟨taken, target, verdict⟩ | ⟨taken, t, target, verdict⟩ :=
    s.verdict_cases p
  · have known : ∀ t, s.takes p = true → s.target? p.dependency = some t → t.name ∈ w.visited := by
      simp [refused]
    have listing : w.listing = w.listing ++ s.entries [p] := by
      simp [Session.entries_singleton_of_not_takes refused]
    obtain verdict | verdict := verdict <;> rw [verdict]
    · exact .read top known rfl rfl rfl listing
    · exact .read top known rfl rfl (entered_note _ _)
        ((listing_note _ _).trans (by simpa [Happening.listed?, listing_read] using listing))
  · have known : ∀ t, s.takes p = true → s.target? p.dependency = some t → t.name ∈ w.visited := by
      simp [target]
    have entries : s.entries [p] = [⟨p, false⟩] := by
      simp [Session.entries_singleton_of_takes taken, Session.entry, target]
    obtain verdict | ⟨name, verdict⟩ := verdict <;> rw [verdict]
    · exact .read top known rfl rfl (entered_list _ _ _) (by simp [act, entries, listing_read])
    · refine .read top known rfl rfl ?_ ?_
      · simp [act, Happening.entered?, entered_read]
      · simp [act, Happening.listed?, entries, listing_read]
  · have entries : s.entries [p] = [⟨p, true⟩] := by
      simp [Session.entries_singleton_of_takes taken, Session.entry, target]
    have listing : ((read.list p true).enter t).listing = w.listing ++ s.entries [p] := by
      rw [listing_enter, listing_list, entries, listing_read]
    rw [verdict]
    by_cases known : t.name ∈ w.visited
    · have stays : (read.list p true).enter t = read.list p true := enter_of_mem known
      rw [stays] at listing
      have same : read.act p (.followed t) = read.list p true := stays
      rw [same]
      refine .read top ?_ rfl rfl (entered_list _ _ _) listing
      intro t' _ target'
      obtain rfl : t = t' := Option.some.inj (target.symm.trans target')
      exact known
    · obtain ⟨visited, stack, entered⟩ := enter_of_not_mem (w := read.list p true) known
      exact .entered top taken target known stack visited
        (entered.trans (by rw [entered_list, entered_read])) listing

/-! ## Runs -/

theorem run_of_empty {s : Session} {w : Walk} (empty : w.stack = []) : run s w = w := by
  rw [run, dif_pos empty]

theorem run_of_nonempty {s : Session} {w : Walk} (nonempty : w.stack ≠ []) :
    run s w = run s (step s w) := by
  rw [run, dif_neg nonempty]

/-- A run ends with the stack empty. -/
@[simp] theorem stack_run (s : Session) (w : Walk) : (run s w).stack = [] := by
  fun_induction run s w with
  | case1 w empty => exact empty
  | case2 w nonempty ih => exact ih

/-- What every step preserves holds at the end of a run. -/
theorem run_step_induction {s : Session} {P : Walk → Prop}
    (kept : ∀ w, w.stack ≠ [] → P w → P (step s w)) {w : Walk} (start : P w) : P (run s w) := by
  fun_induction run s w with
  | case1 w empty => exact start
  | case2 w nonempty ih => exact ih (kept _ nonempty start)

/-- What every move preserves holds at the end of a run. -/
theorem run_induction {s : Session} {P : Walk → Prop}
    (kept : ∀ w w', P w → Move s w w' → P w') {w : Walk} (start : P w) : P (run s w) :=
  run_step_induction (fun _ nonempty holds => kept _ _ holds (move_step nonempty)) start

/-- Names that were visited stay visited. -/
theorem visited_subset_of_move {s : Session} {w w' : Walk} (move : Move s w w') :
    w.visited ⊆ w'.visited := by
  intro n hn
  cases move with
  | left _ _ _ visited _ _ => rwa [visited]
  | read _ _ _ visited _ _ => rwa [visited]
  | entered _ _ _ _ _ visited _ _ => rw [visited]; exact List.mem_cons_of_mem _ hn

theorem visited_subset_run (s : Session) (w : Walk) : w.visited ⊆ (run s w).visited :=
  run_induction (P := fun w' => w.visited ⊆ w'.visited)
    (fun _ _ kept move _ hn => visited_subset_of_move move (kept hn)) (fun _ hn => hn)

theorem mem_visited_enter (w : Walk) (m : Module) : m.name ∈ (w.enter m).visited := by
  by_cases known : m.name ∈ w.visited
  · rwa [enter_of_mem known]
  · rw [(enter_of_not_mem known).1]
    exact List.mem_cons_self

theorem visited_subset_enter (w : Walk) (m : Module) : w.visited ⊆ (w.enter m).visited := by
  intro n hn
  by_cases known : m.name ∈ w.visited
  · rwa [enter_of_mem known]
  · rw [(enter_of_not_mem known).1]
    exact List.mem_cons_of_mem _ hn

/-! ## Several modules in turn -/

/-- Enters some modules in turn, and runs from each. -/
def runAll (s : Session) (w : Walk) (roots : List Module) : Walk :=
  roots.foldl (fun w root => run s (w.enter root)) w

@[simp] theorem runAll_nil (s : Session) (w : Walk) : runAll s w [] = w := rfl

theorem runAll_cons (s : Session) (w : Walk) (root : Module) (rest : List Module) :
    runAll s w (root :: rest) = runAll s (run s (w.enter root)) rest := rfl

theorem runAll_concat (s : Session) (w : Walk) (roots : List Module) (root : Module) :
    runAll s w (roots ++ [root]) = run s ((runAll s w roots).enter root) := by
  simp [runAll]

/-- With an empty stack at the start, the stack is empty whenever a run is over. -/
theorem stack_runAll {s : Session} {w : Walk} (roots : List Module) (empty : w.stack = []) :
    (runAll s w roots).stack = [] := by
  induction roots generalizing w with
  | nil => exact empty
  | cons root rest ih => exact ih (stack_run _ _)

theorem visited_subset_runAll (s : Session) (w : Walk) (roots : List Module) :
    w.visited ⊆ (runAll s w roots).visited := by
  induction roots generalizing w with
  | nil => exact fun _ visited => visited
  | cons root rest ih =>
    intro n visited
    exact ih _ (visited_subset_run _ _ (visited_subset_enter _ _ visited))

/-- Each of the modules is visited in the end. -/
theorem mem_visited_runAll {s : Session} {root : Module} {roots : List Module}
    (member : root ∈ roots) (w : Walk) : root.name ∈ (runAll s w roots).visited := by
  induction roots generalizing w with
  | nil => contradiction
  | cons first rest ih =>
    rw [runAll_cons]
    obtain rfl | later := List.mem_cons.1 member
    · exact visited_subset_runAll _ _ _ (visited_subset_run _ _ (mem_visited_enter _ _))
    · exact ih later _

end Walk

namespace Session

/-- What entering a root and every step preserve holds of the whole walk. -/
theorem walk_step_induction {s : Session} {P : Walk → Prop} (start : P {})
    (entering : ∀ w root, root ∈ s.roots → w.stack = [] → P w → P (w.enter root))
    (kept : ∀ w, w.stack ≠ [] → P w → P (Walk.step s w)) : P s.walk := by
  have whole : P s.walk ∧ s.walk.stack = [] := by
    refine List.foldlRecOn (motive := fun (w : Walk) => P w ∧ w.stack = []) s.roots _
      ⟨start, rfl⟩ ?_
    intro w holds root member
    exact ⟨Walk.run_step_induction kept (entering w root member holds.2 holds.1),
      Walk.stack_run _ _⟩
  exact whole.1

/-- What entering a root and every move preserve holds of the whole walk. -/
theorem walk_induction {s : Session} {P : Walk → Prop} (start : P {})
    (entering : ∀ w root, root ∈ s.roots → w.stack = [] → P w → P (w.enter root))
    (kept : ∀ w w', P w → Walk.Move s w w' → P w') : P s.walk :=
  walk_step_induction start entering
    fun _ nonempty holds => kept _ _ holds (Walk.move_step nonempty)

@[simp] theorem stack_walk (s : Session) : s.walk.stack = [] :=
  Walk.stack_runAll (w := {}) s.roots rfl

/-- Whatever is listed is the entry of an accepted edge. -/
theorem takes_of_mem_dependencies {s : Session} {e : Enumerated} (listed : e ∈ s.dependencies) :
    s.takes e.position = true ∧ e = s.entry e.position := by
  have accepted : ∀ e ∈ s.walk.listing, s.takes e.position = true ∧ e = s.entry e.position := by
    refine walk_induction (P := fun w => ∀ e ∈ w.listing, s.takes e.position = true ∧
      e = s.entry e.position) (by simp [Walk.listing]) ?_ ?_
    · intro w root _ _ kept
      rwa [Walk.listing_enter]
    · intro w w' kept move
      have read : ∀ p, ∀ e ∈ w.listing ++ s.entries [p], s.takes e.position = true ∧
          e = s.entry e.position := by
        intro p e member
        rcases List.mem_append.1 member with before | here
        · exact kept e before
        · exact (mem_entries.1 here).2
      cases move with
      | left _ _ _ _ _ listing => rwa [listing]
      | read _ _ _ _ _ listing => rw [listing]; exact read _
      | entered _ _ _ _ _ _ _ listing => rw [listing]; exact read _
  exact accepted e listed

/-- Every root is visited. -/
theorem name_mem_visited_walk {s : Session} {root : Module} (member : root ∈ s.roots) :
    root.name ∈ s.walk.visited :=
  Walk.mem_visited_runAll member {}

end Session

end Classpath
