import Classpath.Proofs.Walk.Move

/-!
# The warnings of a walk

A walk warns of an edge that it would follow if the project knew the target.  Such
an edge is listed as well, so that the warnings can be read off the listing: at
every moment they are those about the edges listed so far, in the same order.

## Main definitions

* `Walk.warnings` — the warnings so far, each a module and an unknown target of it
* `Session.warning?` — the warning about a listed edge

## Main statements

* `Session.warnings_walk` — the warnings are those about the listed edges
-/

namespace Classpath

/-- The module and the target that a happening warns of. -/
def Happening.warning? : Happening → Option (String × String)
  | .dangling module target => some (module, target)
  | _ => none

namespace Session

/-- The warning about an edge that is listed: its target would be followed, but is
unknown. -/
def warning? (s : Session) (e : Enumerated) : Option (String × String) :=
  match e.edge.target with
  | .module name =>
    if s.recurses ∧ s.project.module? name = none then some (e.position.module.name, name) else none
  | _ => none

variable {s : Session} {p : Position} {expanded : Bool}

/-- What is warned of. -/
theorem warning?_eq_some_iff {e : Enumerated} {owner target : String} :
    s.warning? e = some (owner, target) ↔
      s.recurses = true ∧ s.project.module? target = none ∧
        e.position.module.name = owner ∧ e.edge.target = .module target := by
  unfold warning?
  cases points : e.edge.target with
  | module name =>
    rw [Option.ite_none_right_eq_some]
    constructor
    · rintro ⟨⟨follows, unknown⟩, same⟩
      obtain ⟨rfl, rfl⟩ := Prod.mk.inj (Option.some.inj same)
      exact ⟨follows, unknown, rfl, rfl⟩
    · rintro ⟨follows, unknown, rfl, same⟩
      obtain rfl := Target.module.inj same
      exact ⟨⟨follows, unknown⟩, rfl⟩
  | source | library | sdk => simp

theorem warning?_of_listed (verdict : s.verdict p.module p.dependency = .listed) :
    s.warning? ⟨p, expanded⟩ = none := by
  unfold warning? Enumerated.edge
  split
  · next name points =>
    refine if_neg fun ⟨follows, unknown⟩ => ?_
    simp only [Session.verdict, points, follows, unknown] at verdict
    split at verdict <;> try contradiction
    split at verdict <;> contradiction
  · rfl

theorem warning?_of_dangling {target : String}
    (verdict : s.verdict p.module p.dependency = .dangling target) :
    s.warning? ⟨p, expanded⟩ = some (p.module.name, target) := by
  unfold Session.verdict at verdict
  split at verdict <;> try contradiction
  split at verdict <;> try contradiction
  split at verdict <;> try contradiction
  next follows =>
    split at verdict <;> try contradiction
    next name points =>
      split at verdict <;> try contradiction
      next unknown =>
        obtain rfl := Verdict.dangling.inj verdict
        have follows : s.recurses = true := by simpa using follows
        simp [warning?, Enumerated.edge, points, follows, unknown]

theorem warning?_of_followed {target : Module}
    (verdict : s.verdict p.module p.dependency = .followed target) :
    s.warning? ⟨p, expanded⟩ = none := by
  unfold warning? Enumerated.edge
  split
  · next name points =>
    refine if_neg fun ⟨_, unknown⟩ => ?_
    simp only [Session.verdict, points, unknown] at verdict
    split at verdict <;> try contradiction
    split at verdict <;> try contradiction
    split at verdict <;> contradiction
  · rfl

end Session

namespace Walk

/-- The warnings so far, oldest first. -/
def warnings (w : Walk) : List (String × String) :=
  w.happenings.reverse.filterMap Happening.warning?

@[simp] theorem warnings_note (w : Walk) (h : Happening) :
    (w.note h).warnings = w.warnings ++ h.warning?.toList := by
  cases h <;> simp [note, warnings, Happening.warning?]

@[simp] theorem warnings_list (w : Walk) (p : Position) (expanded : Bool) :
    (w.list p expanded).warnings = w.warnings := by
  simp [list, Happening.warning?]

@[simp] theorem warnings_enter (w : Walk) (m : Module) : (w.enter m).warnings = w.warnings := by
  unfold enter
  split
  · rfl
  · simp [warnings, Happening.warning?]

/-- The warnings are those about the edges listed so far. -/
def WarnsInStep (s : Session) (w : Walk) : Prop :=
  w.warnings = w.listing.filterMap s.warning?

variable {s : Session} {w : Walk}

theorem WarnsInStep.act {p : Position} (inStep : WarnsInStep s w) :
    WarnsInStep s (w.act p (s.verdict p.module p.dependency)) := by
  unfold WarnsInStep at inStep ⊢
  cases verdict : s.verdict p.module p.dependency with
  | skipped => exact inStep
  | refused => simp [Walk.act, Happening.warning?, Happening.listed?, inStep]
  | listed => simp [Walk.act, s.warning?_of_listed verdict, inStep]
  | dangling target =>
    simp [Walk.act, Happening.warning?, Happening.listed?, s.warning?_of_dangling verdict, inStep]
  | followed target => simp [Walk.act, s.warning?_of_followed verdict, inStep]

theorem WarnsInStep.step (inStep : WarnsInStep s w) (nonempty : w.stack ≠ []) :
    WarnsInStep s (step s w) := by
  obtain ⟨⟨m, next⟩, below, top⟩ := List.exists_cons_of_ne_nil nonempty
  by_cases more : next < m.dependencies.length
  · have stepped : Walk.step s w = { w with stack := ⟨m, next + 1⟩ :: below }.act ⟨m, next, more⟩
        (s.verdict m (Position.dependency ⟨m, next, more⟩)) := by
      simp [Walk.step, top, more]
    -- Going on to the next edge touches the stack alone.
    have same : WarnsInStep s { w with stack := ⟨m, next + 1⟩ :: below } := inStep
    rw [stepped]
    exact same.act
  · have stepped : Walk.step s w = { w with stack := below } := by simp [Walk.step, top, more]
    rw [stepped]
    exact inStep

end Walk

namespace Session

/-- **The warnings of a walk are those about the listed edges**, in their order. -/
theorem warnings_walk (s : Session) : s.walk.warnings = s.dependencies.filterMap s.warning? := by
  refine walk_step_induction (P := Walk.WarnsInStep s) rfl ?_ ?_
  · intro w root _ _ inStep
    unfold Walk.WarnsInStep at inStep ⊢
    rw [Walk.warnings_enter, Walk.listing_enter, inStep]
  · intro w nonempty inStep
    exact inStep.step nonempty

/-- A session warns of a target of a module if and only if it lists an edge to it
that it would follow, and the target is unknown. -/
theorem dangling_mem_happenings_iff {s : Session} {owner target : String} :
    .dangling owner target ∈ s.walk.happenings ↔
      s.recurses = true ∧ s.project.module? target = none ∧
        ∃ e ∈ s.dependencies, e.position.module.name = owner ∧ e.edge.target = .module target := by
  have warned : .dangling owner target ∈ s.walk.happenings ↔
      (owner, target) ∈ s.walk.warnings := by
    rw [Walk.warnings, List.mem_filterMap]
    constructor
    · exact fun happened => ⟨_, List.mem_reverse.2 happened, rfl⟩
    · rintro ⟨h, happened, warning⟩
      cases h with
      | dangling owner' target' =>
        obtain ⟨rfl, rfl⟩ := Prod.mk.inj (Option.some.inj warning)
        exact List.mem_reverse.1 happened
      | entered | refused | listed => contradiction
  rw [warned, warnings_walk, List.mem_filterMap]
  simp only [warning?_eq_some_iff]
  constructor
  · rintro ⟨e, listed, follows, unknown, owned, points⟩
    exact ⟨follows, unknown, e, listed, owned, points⟩
  · rintro ⟨follows, unknown, e, listed, owned, points⟩
    exact ⟨e, listed, follows, unknown, owned, points⟩

end Session

end Classpath
