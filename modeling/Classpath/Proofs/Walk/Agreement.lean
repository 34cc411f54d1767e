import Classpath.Proofs.Views
import Classpath.Proofs.Walk.Reach
import Classpath.Report

/-!
# Projects that agree where a session looks

A session looks names up in its project, and all names that it looks up stand on edges
of modules that it entered.  On another project that gives the same answers for these
edges it therefore does the same steps, and shows the same.

The modules in question are described by a region: it holds the roots, and with a module
everything that an edge of the module leads to.  No filter plays a role for the region,
so that one region serves all sessions with the same roots.

## Main definitions

* `Project.SeesAlike` — two projects give the same answer for an edge
* `Project.AgreeOn` — they do so on a region that edges do not leave
* `Session.on` — the same session on another project
* `Walk.Inside` — a walk has kept to a region

## Main statements

* `Session.walk_on` — the walk is the same, step for step
* `Session.showsLike_on` — what is shown is the same
* `Session.listing_on` — what is printed is the same
-/

namespace Classpath

namespace Project

/-- Two projects give the same answer for what an edge points at. -/
def SeesAlike (p p' : Project) (d : Dependency) : Prop :=
  match d.target with
  | .source => p'.module? d.owner = p.module? d.owner
  | .module name => p'.module? name = p.module? name
  | .library name => p'.library? name = p.library? name
  | .sdk name => p'.sdk? name = p.sdk? name

/-- Two projects agree on a region of modules that edges do not leave. -/
structure AgreeOn (p p' : Project) (region : Module → Prop) : Prop where
  alike : ∀ m, region m → ∀ d ∈ m.dependencies, p.SeesAlike p' d
  closed : ∀ m, region m → ∀ d ∈ m.dependencies, ∀ name, d.target = .module name →
    ∀ t, p.module? name = some t → region t

end Project

/-- The same session on another project. -/
def Session.on (s : Session) (p : Project) : Session :=
  { s with project := p }

/-- Only modules of a region are being read, and only their edges were listed. -/
structure Walk.Inside (region : Module → Prop) (w : Walk) : Prop where
  stack : ∀ frame ∈ w.stack, region frame.module
  listed : ∀ e ∈ w.listing, region e.position.module

variable {s : Session} {p : Project} {region : Module → Prop} {m : Module} {d : Dependency}
  {e : Enumerated}

/-! ## One edge -/

namespace Session

/-- What becomes of an edge is decided by what the project has where the edge points at. -/
theorem verdict_on (alike : s.project.SeesAlike p d) : (s.on p).verdict m d = s.verdict m d := by
  have candidate : (s.on p).isCandidate m d = s.isCandidate m d := rfl
  have accepted : (s.on p).accepts m d = s.accepts m d := rfl
  have follows : (s.on p).recurses = s.recurses := rfl
  unfold verdict
  rw [candidate, accepted, follows]
  cases points : d.target with
  | module name =>
    have same : p.module? name = s.project.module? name := by
      simpa [Project.SeesAlike, points] using alike
    have here : (s.on p).project.module? name = s.project.module? name := same
    simp only [here]
  | source | library _ | sdk _ => rfl

theorem contributor_on (alike : s.project.SeesAlike p e.edge) :
    (s.on p).contributor e = s.contributor e := by
  unfold contributor
  unfold Project.SeesAlike at alike
  cases points : e.edge.target with
  | source | module _ =>
    rw [points] at alike
    simp only [on, alike]
  | library _ | sdk _ => rfl

theorem libraryOf_on (alike : s.project.SeesAlike p e.edge) :
    (s.on p).libraryOf e = s.libraryOf e := by
  unfold libraryOf
  unfold Project.SeesAlike at alike
  cases points : e.edge.target with
  | library _ =>
    rw [points] at alike
    exact alike
  | source | module _ | sdk _ => rfl

theorem contribution_on {q : RootQuery} (alike : s.project.SeesAlike p e.edge) :
    (s.on p).contribution q e = s.contribution q e := by
  have same := contributor_on alike
  unfold contribution
  unfold Project.SeesAlike at alike
  cases points : e.edge.target with
  | library _ | sdk _ =>
    rw [points] at alike
    simp only [on, alike]
  | source | module _ =>
    simp only [same]
    rfl

end Session

/-! ## The walk -/

namespace Walk

variable {w w' : Walk}

theorem Inside.start : Inside region {} :=
  ⟨by simp, by simp [listing]⟩

theorem Inside.enter (inside : w.Inside region) (member : region m) :
    (w.enter m).Inside region := by
  by_cases known : m.name ∈ w.visited
  · rwa [enter_of_mem known]
  · refine ⟨?_, ?_⟩
    · rw [(enter_of_not_mem known).2.1]
      exact List.forall_mem_cons.2 ⟨member, inside.stack⟩
    · rw [listing_enter]
      exact inside.listed

/-- What a position gives is of its module. -/
theorem Inside.listed_read {q : Position} (inside : w.Inside region) (member : region q.module) :
    ∀ e ∈ w.listing ++ s.entries [q], region e.position.module := by
  intro e he
  obtain old | new := List.mem_append.1 he
  · exact inside.listed e old
  · rwa [List.mem_singleton.1 (Session.mem_entries.1 new).1]

/-- **Moves keep to the region.** -/
theorem Inside.move (agree : s.project.AgreeOn p region) (inside : w.Inside region)
    (move : Move s w w') : w'.Inside region := by
  cases move with
  | left top _ stack _ _ listing =>
    refine ⟨?_, by rw [listing]; exact inside.listed⟩
    intro frame member
    rw [stack] at member
    exact inside.stack frame (by rw [top]; exact List.mem_cons_of_mem _ member)
  | @read q below top _ stack _ _ listing =>
    have frames := inside.stack
    rw [top] at frames
    obtain ⟨member, rest⟩ := List.forall_mem_cons.1 frames
    refine ⟨?_, by rw [listing]; exact inside.listed_read member⟩
    rw [stack]
    exact List.forall_mem_cons.2 ⟨member, rest⟩
  | @entered q below t top _ target _ stack _ _ listing =>
    have frames := inside.stack
    rw [top] at frames
    obtain ⟨member, rest⟩ := List.forall_mem_cons.1 frames
    obtain ⟨-, name, points, found⟩ := Session.target?_eq_some_iff.1 target
    have entered : region t :=
      agree.closed q.module member _ (List.getElem_mem _) name points t found
    refine ⟨?_, by rw [listing]; exact inside.listed_read member⟩
    rw [stack]
    exact List.forall_mem_cons.2 ⟨entered, List.forall_mem_cons.2 ⟨member, rest⟩⟩

/-- A step inside the region is the same step on either project. -/
theorem step_on (agree : s.project.AgreeOn p region) (inside : w.Inside region) :
    step (s.on p) w = step s w := by
  obtain ⟨visited, stack, happenings⟩ := w
  obtain _ | ⟨⟨m, next⟩, below⟩ := stack
  · rfl
  have member : region m := inside.stack ⟨m, next⟩ List.mem_cons_self
  unfold step
  by_cases more : next < m.dependencies.length
  · have alike := agree.alike m member _ (List.getElem_mem more)
    simp only [dif_pos more]
    exact congrArg (act _ _) (Session.verdict_on alike)
  · simp only [dif_neg more]

/-- A run that starts inside the region is the same run on either project. -/
theorem run_on (agree : s.project.AgreeOn p region) (inside : w.Inside region) :
    run (s.on p) w = run s w := by
  fun_induction run s w with
  | case1 w empty => exact run_of_empty empty
  | case2 w nonempty ih =>
    rw [run_of_nonempty nonempty, step_on agree inside]
    exact ih (inside.move agree (move_step nonempty))

end Walk

namespace Session

/-- The walk keeps to the region. -/
theorem inside_walk (agree : s.project.AgreeOn p region) (roots : ∀ m ∈ s.roots, region m) :
    s.walk.Inside region :=
  walk_induction .start (fun _ root member _ inside => inside.enter (roots root member))
    fun _ _ inside move => inside.move agree move

/-- From a state inside the region, the modules of a list are walked alike. -/
theorem runAll_on (agree : s.project.AgreeOn p region) {roots : List Module} {w : Walk}
    (members : ∀ m ∈ roots, region m) (inside : w.Inside region) :
    Walk.runAll (s.on p) w roots = Walk.runAll s w roots := by
  induction roots generalizing w with
  | nil => rfl
  | cons root rest ih =>
    obtain ⟨member, others⟩ := List.forall_mem_cons.1 members
    have entered : (w.enter root).Inside region := inside.enter member
    have left : (Walk.run s (w.enter root)).Inside region :=
      Walk.run_induction (fun _ _ inside move => inside.move agree move) entered
    rw [Walk.runAll_cons, Walk.runAll_cons, Walk.run_on agree entered, ih others left]

/-- **The walk is the same on either project**, with all that happens in it. -/
theorem walk_on (agree : s.project.AgreeOn p region) (roots : ∀ m ∈ s.roots, region m) :
    (s.on p).walk = s.walk :=
  runAll_on agree roots .start

/-! ## The views -/

section Views

variable (agree : s.project.AgreeOn p region) (roots : ∀ m ∈ s.roots, region m)
include agree roots

/-- The projects give the same answer for what is listed. -/
theorem alike_of_listed (listed : e ∈ s.dependencies) : s.project.SeesAlike p e.edge :=
  agree.alike _ ((inside_walk agree roots).listed e listed) _ (List.getElem_mem _)

/-- **The session shows the same on either project.** -/
theorem showsLike_on : s.ShowsLike (s.on p) := by
  have listed : (s.on p).dependencies = s.dependencies := by
    rw [dependencies, walk_on agree roots, dependencies]
  refine .of_dependencies listed.symm ?_ ?_ ?_
  · intro e here
    exact (contributor_on (alike_of_listed agree roots here)).symm
  · intro e here
    exact (libraryOf_on (alike_of_listed agree roots here)).symm
  · intro q e here
    exact (contribution_on (alike_of_listed agree roots here)).symm

/-- **What is printed of a session is the same on either project**, whatever is asked
for. -/
theorem listing_on (a : Arguments) : (s.on p).listing a = s.listing a := by
  have shows := showsLike_on agree roots
  unfold listing
  cases a.listing with
  | roots =>
    have lines : s.rootLines a.rootQuery a.format = (s.on p).rootLines a.rootQuery a.format := by
      unfold rootLines
      rw [shows.rootPaths]
    simp only [lines, shows.rootPaths]
  | dependencies => simp only [shows.dependencies]
  | modules => simp only [shows.modules]
  | libraries => simp only [shows.libraries]

end Views

end Session

end Classpath
