import Classpath.Proofs.Containment.Following
import Classpath.Proofs.ProjectFile.Locality
import Classpath.Proofs.Walk.DepthFirst

/-!
# Modules in the order of first visits

The list of modules never sees which modules the walk entered.  It is put together from
listed edges: an edge of a module to its own sources stands for that module, an edge to a
module that was followed stands for nothing.  In a session that follows modules and leaves
no own sources out, the two agree.  Every module of a file begins with the edge to its own
sources, nothing refuses this edge, and no other edge gives a module.

The loop invariant compares the two lists while the walk goes on (`Walk.Shown`).  They
differ by the topmost module of the stack, as long as none of its edges has been read.

## Main definitions

* `Project.SourcesFirst` — own sources come first among the edges of a module, and only there
* `Walk.unread` — the topmost module, if none of its edges has been read
* `Walk.Shown` — the loop invariant

## Main statements

* `Session.contributions_read` — what one edge gives
* `Walk.Shown.move` — every move keeps the invariant
* `Session.modules_are_first_visits` — the modules are those that are reached, in the order of
  first visits
-/

namespace Classpath

/-! ## Own sources come first -/

/-- The first edge of every module is the one to its own sources, and no other edge is one
to own sources. -/
def Project.SourcesFirst (p : Project) : Prop :=
  ∀ m ∈ p.modules, ∃ rest, m.dependencies = ⟨m.name, .source, none⟩ :: rest ∧
    ∀ d ∈ rest, d.target ≠ .source

/-- No entry of a file stands for an edge to own sources. -/
theorem DependencyEntry.target_of_toDependency? {e : DependencyEntry} {owner : String}
    {d : Dependency} (given : e.toDependency? owner = some d) : d.target ≠ .source := by
  obtain ⟨target, first, rfl⟩ := Option.map_eq_some_iff.1 given
  have named : target ∈ e.targets := List.mem_of_mem_head? first
  rintro rfl
  simp [targets] at named

/-- In the project of a file, checked or not, own sources come first. -/
theorem ProjectFile.sourcesFirst_toProject (f : ProjectFile) (base : Path) :
    (f.toProject base).SourcesFirst := by
  intro m member
  obtain ⟨⟨name, s⟩, -, rfl⟩ := List.mem_map.1 member
  refine ⟨_, rfl, fun d declared => ?_⟩
  obtain ⟨e, -, given⟩ := List.mem_filterMap.1 declared
  exact DependencyEntry.target_of_toDependency? given

namespace Project.SourcesFirst

variable {project : Project} {p : Position} {m : Module}

theorem length_pos (first : project.SourcesFirst) (member : m ∈ project.modules) :
    0 < m.dependencies.length := by
  obtain ⟨rest, whole, -⟩ := first m member
  simp [whole]

/-- The edge at the first position is the one to own sources. -/
theorem dependency_of_first (first : project.SourcesFirst) (member : p.module ∈ project.modules)
    (here : p.index.val = 0) : p.dependency = ⟨p.module.name, .source, none⟩ := by
  obtain ⟨rest, whole, -⟩ := first _ member
  have found : p.module.dependencies[p.index.val]? = some p.dependency :=
    List.getElem?_eq_getElem p.index.isLt
  rw [here, whole] at found
  exact (Option.some.inj found).symm

/-- The edge at any other position is not. -/
theorem target_of_later (first : project.SourcesFirst) (member : p.module ∈ project.modules)
    (later : p.index.val ≠ 0) : p.dependency.target ≠ .source := by
  obtain ⟨rest, whole, others⟩ := first _ member
  have found : p.module.dependencies[p.index.val]? = some p.dependency :=
    List.getElem?_eq_getElem p.index.isLt
  obtain ⟨i, index⟩ := Nat.exists_eq_succ_of_ne_zero later
  rw [index, whole, Nat.succ_eq_add_one, List.getElem?_cons_succ] at found
  exact others _ (List.mem_of_getElem? found)

end Project.SourcesFirst

/-! ## The invariant -/

namespace Walk

/-- The topmost module of a stack, if none of its edges has been read. -/
def unread : List Frame → List Module
  | [] => []
  | f :: _ => if f.next = 0 then [f.module] else []

theorem unread_of_begun {stack : List Frame} (begun : ∀ f ∈ stack, f.next ≠ 0) :
    unread stack = [] := by
  cases stack with
  | nil => rfl
  | cons f below => exact if_neg (begun f List.mem_cons_self)

/-- The loop invariant: what was listed gives the modules entered, oldest first, but for the
topmost one if that is unread. -/
structure Shown (s : Session) (w : Walk) : Prop where
  since : Since s {} w.entered w
  /-- Of every module below the top an edge has been read. -/
  begun : ∀ f ∈ w.stack.tail, f.next ≠ 0
  balanced : w.entered.reverse = w.listing.filterMap s.contributor ++ unread w.stack

end Walk

namespace Session

/-- A session that follows modules and takes the edges of modules to their own sources, on a
project where these come first. -/
structure ShowsSources (s : Session) : Prop where
  first : s.project.SourcesFirst
  follows : s.Follows
  taken : ∀ p : Position, p.dependency = ⟨p.module.name, .source, none⟩ → s.takes p = true

variable {s : Session} {p : Position} {m : Module}

/-- Where modules are followed, an edge to anything but own sources gives no module: an edge
to a module is followed, unless there is no such module. -/
theorem contributor_entry_of_other (follows : s.Follows)
    (other : p.dependency.target ≠ .source) : s.contributor (s.entry p) = none := by
  cases points : p.dependency.target with
  | source => contradiction
  | module name =>
    cases known : s.project.module? name <;>
      simp [contributor, Enumerated.edge, entry, points, target?, recurses_iff.2 follows, known]
  | library _ | sdk _ => simp [contributor, Enumerated.edge, entry, points]

/-- **Reading an edge shows its module if that was unread, and nothing otherwise.** -/
theorem contributions_read (shows : s.ShowsSources)
    (known : s.project.module? p.module.name = some p.module) (below : List Frame) :
    (s.entries [p]).filterMap s.contributor = Walk.unread (⟨p.module, p.index⟩ :: below) := by
  have member := Project.mem_of_module? known
  by_cases here : p.index.val = 0
  · have own := shows.first.dependency_of_first member here
    have given : s.contributor (s.entry p) = some p.module := by
      simp [contributor, Enumerated.edge, entry, own, known]
    rw [Walk.unread, if_pos here, entries_singleton_of_takes (shows.taken p own),
      List.filterMap_cons_some given, List.filterMap_nil]
  · have other := shows.first.target_of_later member here
    rw [Walk.unread, if_neg here, List.filterMap_eq_nil_iff]
    intro e listed
    obtain ⟨position, -, same⟩ := mem_entries.1 listed
    rw [same, List.mem_singleton.1 position]
    exact contributor_entry_of_other shows.follows other

end Session

namespace Walk.Shown

variable {s : Session} {w w' : Walk}

theorem start : Shown s {} :=
  ⟨.refl rfl, by simp, by simp [entered, listing, unread]⟩

/-- Entering a root keeps the invariant. -/
theorem enter {root : Module} (inv : Shown s w) (empty : w.stack = [])
    (declared : s.project.module? root.name = some root) : Shown s (w.enter root) := by
  by_cases known : root.name ∈ w.visited
  · rwa [enter_of_mem known]
  obtain ⟨-, stack, entered⟩ := enter_of_not_mem known
  refine ⟨inv.since.enter_of_start declared, ?_, ?_⟩
  · simp [stack, empty]
  · have balanced := inv.balanced
    rw [empty] at balanced
    rw [entered, stack, listing_enter, List.reverse_cons, balanced]
    simp [unread]

/-- The topmost module is the one its name stands for. -/
theorem declared_of_top {m : Module} {next : Nat} {below : List Frame} (inv : Shown s w)
    (top : w.stack = ⟨m, next⟩ :: below) : s.project.module? m.name = some m :=
  inv.since.declared _ (inv.since.mem_of_top top)

/-- Reading an edge accounts for the topmost module. -/
theorem balanced_read {p : Position} {below : List Frame} (shows : s.ShowsSources)
    (inv : Shown s w) (top : w.stack = ⟨p.module, p.index⟩ :: below) :
    w.entered.reverse = (w.listing ++ s.entries [p]).filterMap s.contributor := by
  rw [List.filterMap_append, Session.contributions_read shows (inv.declared_of_top top) below,
    ← top]
  exact inv.balanced

/-- **Every move keeps the invariant.** -/
theorem move (shows : s.ShowsSources) (inv : Shown s w) (move : Move s w w') : Shown s w' := by
  have since' := inv.since.move_of_start move
  have begun := inv.begun
  cases move with
  | @left m next below top done stack visited entered listing =>
    rw [top, List.tail_cons] at begun
    refine ⟨since', ?_, ?_⟩
    · rw [stack]
      exact fun f later => begun f (List.mem_of_mem_tail later)
    · -- A module that is left has a first edge, which was read.
      have some := shows.first.length_pos (Project.mem_of_module? (inv.declared_of_top top))
      have read : next ≠ 0 := by omega
      have balanced := inv.balanced
      rw [top, unread, if_neg read] at balanced
      rw [entered, listing, stack, unread_of_begun begun]
      exact balanced
  | read top known stack visited entered listing =>
    rw [top, List.tail_cons] at begun
    refine ⟨since', ?_, ?_⟩
    · rw [stack]
      exact begun
    · rw [entered, listing, stack, unread, if_neg (by simp), List.append_nil]
      exact balanced_read shows inv top
  | @entered p below t top taken target unvisited stack visited entered listing =>
    rw [top, List.tail_cons] at begun
    refine ⟨since', ?_, ?_⟩
    · rw [stack]
      exact List.forall_mem_cons.2 ⟨by simp, begun⟩
    · rw [entered, listing, stack, unread, if_pos rfl, List.reverse_cons,
        balanced_read shows inv top]

end Walk.Shown

namespace Session

variable {s : Session} {f : ProjectFile} {base : Path} {m : Module}

/-- Listed edges give the modules entered, oldest first. -/
theorem entered_walk_eq (shows : s.ShowsSources) (declared : s.RootsDeclared) :
    s.walk.entered.reverse = s.dependencies.filterMap s.contributor := by
  have inv : Walk.Shown s s.walk :=
    walk_induction .start (fun _ root member empty inv => inv.enter empty (declared root member))
      fun _ _ inv move => inv.move shows move
  have balanced := inv.balanced
  rwa [stack_walk, Walk.unread, List.append_nil] at balanced

/-- Walking over modules visits the same names as the search by recursion. -/
theorem visited_runAll (roots : List Module) (w : Walk) (empty : w.stack = []) :
    (Walk.runAll s w roots).visited = (s.visitAll w.visited roots).visited := by
  induction roots generalizing w with
  | nil => rfl
  | cons root rest ih =>
    obtain ⟨visited, -⟩ := Prod.mk.inj (run_enter (s := s) w root empty)
    rw [Walk.runAll_cons, ih _ (Walk.stack_run _ _), visited]
    rfl

/-- Without options that leave own sources out, a session on the project of a file takes
them. -/
theorem OpenedOn.showsSources (opened : s.OpenedOn f base) (follows : s.Follows)
    (sources : s.traversal.withoutModuleSources = false)
    (dependencies : s.traversal.withoutDepModules = false) : s.ShowsSources where
  first := by
    rw [opened.project]
    exact f.sourcesFirst_toProject base
  follows := follows
  taken := fun _ own => takes_own_sources opened sources dependencies own

/-- Where modules are followed, a module is reached if it is a root, or if an accepted edge of a
module that is reached points at it. -/
theorem reaches_iff (follows : s.Follows) :
    s.Reaches m ↔ m ∈ s.roots ∨
      ∃ m', s.Reaches m' ∧ ∃ p ∈ m'.positions, s.takes p = true ∧
        ∃ name, p.dependency.target = .module name ∧ s.project.module? name = some m := by
  constructor
  · intro reached
    cases reached with
    | root member => exact .inl member
    | @edge p _ name before _ looked accepted points found =>
      exact .inr ⟨p.module, before, p, Module.mem_positions p,
        Bool.and_eq_true_iff.2 ⟨looked, accepted⟩, name, points, found⟩
  · rintro (member | ⟨m', before, p, here, taken, name, points, found⟩)
    · exact .root member
    · obtain rfl := Module.module_of_mem_positions here
      obtain ⟨looked, accepted⟩ := Bool.and_eq_true_iff.1 taken
      exact .edge before follows looked accepted points found

/-- A session that arguments open is one on the project of the file. -/
theorem openedOn_of_openSession {a : Arguments} (given : f.openSession base a = .ok s) :
    s.OpenedOn f base := by
  obtain ⟨roots, exclusion, selected, rfl⟩ := ProjectFile.exists_configure_of_openSession given
  refine ⟨rfl, ?_, rfl, exclusion, rfl⟩
  intro root member
  obtain ⟨name, -, stands⟩ := ProjectFile.exists_name_of_selectRoots selected member
  rw [Project.name_of_module? stands]
  exact stands

/-- **The modules are those that are reached, in the order of first visits.**  Take a session
on the project of a file, checked or not, with any handlers, any filters for scopes and
exported flags, and any patterns of names to exclude, that follows modules and leaves no
own sources out.  Its modules are the modules entered by the walk, oldest first; their
names are those that the search by recursion visits, in that order, and none is twice.
They are what is reached from the roots through accepted edges: a module that is shown is
a root, or an accepted edge of a module that is shown points at it. -/
theorem modules_are_first_visits (f : ProjectFile) (base : Path) (s : Session)
    (opened : s.OpenedOn f base) (follows : s.Follows)
    (sources : s.traversal.withoutModuleSources = false)
    (dependencies : s.traversal.withoutDepModules = false) :
    s.modules = s.walk.entered.reverse ∧
      s.modules.map Module.name = (s.visitAll [] s.roots).visited.reverse ∧
      (s.modules.map Module.name).Nodup ∧
      (∀ m, m ∈ s.modules ↔ s.Reaches m) ∧
      ∀ m, m ∈ s.modules ↔ m ∈ s.roots ∨
        ∃ m' ∈ s.modules, ∃ p ∈ m'.positions, s.takes p = true ∧
          ∃ name, p.dependency.target = .module name ∧ s.project.module? name = some m := by
  have shows := opened.showsSources follows sources dependencies
  have since := since_walk opened.declared
  have once : (s.walk.entered.reverse.map Module.name).Nodup := by
    rw [List.map_reverse, List.nodup_reverse]
    exact since.distinct
  have shown : s.modules = s.walk.entered.reverse := by
    rw [entered_walk_eq shows opened.declared] at once ⊢
    exact distinct_of_nodup once
  have names : s.walk.visited = s.walk.entered.map Module.name := by
    simpa using since.visited
  have reached : ∀ m, m ∈ s.modules ↔ s.Reaches m := by
    intro m
    rw [shown, List.mem_reverse, mem_entered_walk_iff opened.declared]
  refine ⟨shown, ?_, shown ▸ once, reached, ?_⟩
  · have visited : s.walk.visited = (s.visitAll [] s.roots).visited :=
      visited_runAll s.roots {} rfl
    rw [shown, List.map_reverse, ← names, visited]
  · simp only [reached]
    exact fun _ => reaches_iff follows

end Session

/-! ## A walk with refusals -/

namespace Visiting

/-- Two modules in a circle, from which an excluded name and a refused scope lead away. -/
def file : ProjectFile where
  project := { roots := ["app"] }
  modules := .ofList [
    ("app", { dependencies := [{ module := some "web" }, { module := some "core" }] }),
    ("core", { dependencies := [{ module := some "app" }, { module := some "util" }] }),
    ("tools", {}),
    ("util", { dependencies := [{ module := some "tools", scope := some .test }] }),
    ("web", {})]

/-- Follows modules, without those that tests need and without names that begin with `w`. -/
def arguments : Arguments where
  policy := { productionOnly := true }
  traversal := { recursive := true }
  excludes := ["w*"]

/-- The root. -/
def app : Module where
  name := "app"
  dependencies := [⟨"app", .source, none⟩, ⟨"app", .module "web", some {}⟩,
    ⟨"app", .module "core", some {}⟩]

/-- The module that leads back to the root. -/
def core : Module where
  name := "core"
  dependencies := [⟨"core", .source, none⟩, ⟨"core", .module "app", some {}⟩,
    ⟨"core", .module "util", some {}⟩]

/-- A module of which no edge to another one is accepted. -/
def util : Module where
  name := "util"
  dependencies := [⟨"util", .source, none⟩, ⟨"util", .module "tools", some { scope := .test }⟩]

/-- A module that only tests need. -/
def tools : Module where
  name := "tools"
  dependencies := [⟨"tools", .source, none⟩]

/-- A module with an excluded name. -/
def web : Module where
  name := "web"
  dependencies := [⟨"web", .source, none⟩]

/-- The project of the file. -/
def project : Project where
  modules := [app, core, tools, util, web]

theorem project_eq : project = file.toProject ⟨"/work"⟩ := by
  decide +kernel

/-- The session that the arguments open. -/
def session : Session :=
  arguments.configure (some ⟨[[.literal 'w', .anything]]⟩) (.start project [app] {})

theorem openSession_file : file.openSession ⟨"/work"⟩ arguments = .ok session := by
  have selected : file.selectRoots project arguments = .ok [app] := by cbv
  have parsed : Exclusion.parse? ["w*"] = .ok (some ⟨[[.literal 'w', .anything]]⟩) := by cbv
  rw [ProjectFile.openSession, ← project_eq, selected]
  simp only [arguments, parsed]
  rfl

/-- No accepted edge leads to the excluded name, or to what only tests need. -/
theorem other_of_takes : ∀ m ∈ project.modules, ∀ p ∈ m.positions,
    session.takes p = true → p.dependency.target ∉ [Target.module "tools", .module "web"] := by
  decide +kernel

theorem reaches_util : session.Reaches util := by
  have root : session.Reaches app := .root (by decide)
  have second : session.Reaches core :=
    .edge (p := ⟨app, 2, by decide⟩) root (by decide) (by decide +kernel) (by decide +kernel) rfl rfl
  exact .edge (p := ⟨core, 2, by decide⟩) second (by decide) (by decide +kernel)
    (by decide +kernel) rfl rfl

/-- A module of which no edge to another one is accepted is shown.  What an excluded name or a
refused scope leads to is not. -/
theorem session_modules_are_first_visits :
    session.OpenedOn file ⟨"/work"⟩ ∧ session.Follows ∧
      session.traversal.withoutModuleSources = false ∧
      session.traversal.withoutDepModules = false ∧
      session.modules.map Module.name = (session.visitAll [] [app]).visited.reverse ∧
      util ∈ session.modules ∧ ∀ m ∈ session.modules, m.name ∉ ["tools", "web"] := by
  have opened := Session.openedOn_of_openSession openSession_file
  have follows : session.Follows := by decide
  obtain ⟨-, names, -, reached, shown⟩ :=
    Session.modules_are_first_visits file ⟨"/work"⟩ session opened follows rfl rfl
  refine ⟨opened, follows, rfl, rfl, names, (reached util).2 reaches_util, ?_⟩
  intro m member
  obtain root | ⟨m', before, p, here, taken, name, points, found⟩ := (shown m).1 member
  · rw [List.mem_singleton.1 root]
    decide
  · have known := Project.mem_of_module? (Session.module?_name_of_mem_modules before)
    have other := other_of_takes m' known p here taken
    rw [points, ← Project.name_of_module? found] at other
    simpa using other

end Visiting

end Classpath
