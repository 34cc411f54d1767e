import Classpath.Exclusion
import Classpath.Proofs.Roots.Provenance
import Mathlib.Logic.Relation

/-!
# What is excluded stays out

An exclusion is asked about one edge at a time, by the name of what the edge points at.
Content of a module is mostly listed by the edge of the module to its own sources, and this
edge points at nothing that has a name, so that no pattern keeps it out.  What keeps it out
is the walk.  The edge is read when the module is reached, and a module that is no root is
reached by an accepted edge that points at it by its name.

So whatever a session shows of modules lies at the end of a chain of accepted edges that
begins at a root, and no edge of the chain points at an excluded name.  A root is shown
without such an edge, even if its own name is excluded.

## Main definitions

* `Exclusion.Excludes` — some pattern matches a name
* `Session.PassesOn` — an accepted edge leads from a module to another, by a name that is
  not excluded

## Main statements

* `Session.exists_chain_of_projectsOnto` — the chain to a module that a listed edge shows
* `Session.excluded_names_never_leak` — where excluded names can occur
-/

namespace Classpath

/-- Some pattern of an exclusion matches the name; without an exclusion none does. -/
def Exclusion.Excludes (x : Option Exclusion) (name : String) : Prop :=
  ∃ exclusion ∈ x, ∃ pattern ∈ exclusion.patterns, Glob.isMatch pattern name = true

/-- An edge is admitted if the name of what it points at is not excluded. -/
theorem Exclusion.admits_iff {x : Exclusion} {d : Dependency} :
    x.admits d = true ↔ ∀ name, d.target.name? = some name → ¬ Excludes (some x) name := by
  rw [admits]
  cases d.target.name? with
  | none => simp
  | some name => simp [covers, Excludes]

namespace Session

/-- An accepted edge of the first module points at the second, by a name that is not
excluded. -/
def PassesOn (s : Session) (x : Option Exclusion) (m t : Module) : Prop :=
  ∃ p ∈ m.positions, s.takes p = true ∧ ∃ name, p.dependency.target = .module name ∧
    s.project.module? name = some t ∧ ¬ Exclusion.Excludes x name

variable {s : Session} {x : Option Exclusion} {p : Position} {e : Enumerated} {m : Module}

section Excluding

variable (excluding : s.condition = x.map Exclusion.admits)
include excluding

/-- What an accepted edge points at has no excluded name. -/
theorem not_excludes_of_takes (taken : s.takes p = true) {name : String}
    (named : p.dependency.target.name? = some name) : ¬ Exclusion.Excludes x name := by
  obtain ⟨satisfied, -⟩ := takes_iff.1 taken
  cases x with
  | none => simp [Exclusion.Excludes]
  | some exclusion => exact Exclusion.admits_iff.1 (satisfied _ excluding) name named

/-- A listed edge is an accepted one. -/
theorem not_excludes_of_listed (listed : e ∈ s.dependencies) {name : String}
    (named : e.edge.target.name? = some name) : ¬ Exclusion.Excludes x name :=
  not_excludes_of_takes excluding (takes_of_mem_dependencies listed).1 named

/-- An accepted edge to a module passes on to it. -/
theorem passesOn_of_takes (taken : s.takes p = true) {name : String}
    (points : p.dependency.target = .module name) (found : s.project.module? name = some m) :
    s.PassesOn x p.module m := by
  refine ⟨p, Module.mem_positions p, taken, name, points, found, ?_⟩
  exact not_excludes_of_takes excluding taken (by rw [points]; rfl)

/-- **To what is reached, a chain leads from a root.** -/
theorem exists_chain_of_reaches (reached : s.Reaches m) :
    ∃ root ∈ s.roots, Relation.ReflTransGen (s.PassesOn x) root m := by
  induction reached with
  | root member => exact ⟨_, member, .refl⟩
  | edge _ _ looked accepted points found ih =>
    obtain ⟨root, member, chain⟩ := ih
    have taken := Bool.and_eq_true_iff.2 ⟨looked, accepted⟩
    exact ⟨root, member, chain.tail (passesOn_of_takes excluding taken points found)⟩

/-- **To what a listed edge shows, a chain leads from a root.**  The edge is one of the module
to its own sources, which is reached then, or the last one of the chain. -/
theorem exists_chain_of_projectsOnto (owns : s.project.OwnsEdges) (declared : s.RootsDeclared)
    (listed : e ∈ s.dependencies) (projected : s.ProjectsOnto e m) :
    ∃ root ∈ s.roots, Relation.ReflTransGen (s.PassesOn x) root m := by
  obtain ⟨reached, taken, -⟩ := (mem_dependencies_iff declared).1 listed
  obtain ⟨root, member, chain⟩ := exists_chain_of_reaches excluding reached
  obtain ⟨-, found⟩ | ⟨points, -, found⟩ := projected
  · have known := reached.module?_name declared
    have owner : e.edge.owner = e.position.module.name :=
      owns _ (Project.mem_of_module? known) _ (List.getElem_mem _)
    rw [owner, known] at found
    obtain rfl := Option.some.inj found
    exact ⟨root, member, chain⟩
  · exact ⟨root, member, chain.tail (passesOn_of_takes excluding taken points found)⟩

end Excluding

/-- The end of a chain is its beginning, or has a name that is not excluded. -/
theorem eq_or_not_excludes_of_chain {root : Module}
    (chain : Relation.ReflTransGen (s.PassesOn x) root m) :
    m = root ∨ ¬ Exclusion.Excludes x m.name := by
  obtain rfl | ⟨_, -, -, -, -, name, -, found, admitted⟩ := chain.cases_tail
  · exact .inl rfl
  · rw [← Project.name_of_module? found] at admitted
    exact .inr admitted

/-- **Excluded names never leak.**  Take a session on the project of a file, checked or not,
with any roots, handlers and options, that excludes names by patterns.  No listed edge
points at an excluded name, and no library that is shown has one.  A module that is shown
can have one only if it is a root; and every module that is shown is a root, or a chain of
accepted edges leads to it from a root, none of which points at an excluded name. -/
theorem excluded_names_never_leak (f : ProjectFile) (base : Path) (s : Session)
    (x : Option Exclusion) (loaded : s.project = f.toProject base) (declared : s.RootsDeclared)
    (excluding : s.condition = x.map Exclusion.admits) :
    (∀ e ∈ s.dependencies, ∀ name, e.edge.target.name? = some name →
      ¬ Exclusion.Excludes x name) ∧
    (∀ b ∈ s.libraries, ¬ Exclusion.Excludes x b.name) ∧
    (∀ m ∈ s.modules, Exclusion.Excludes x m.name → m ∈ s.roots) ∧
    ∀ m ∈ s.modules, ∃ root ∈ s.roots, Relation.ReflTransGen (s.PassesOn x) root m := by
  have chains : ∀ m ∈ s.modules,
      ∃ root ∈ s.roots, Relation.ReflTransGen (s.PassesOn x) root m := by
    have owns : s.project.OwnsEdges := by
      rw [loaded]
      exact f.ownsEdges_toProject base
    intro m shown
    obtain ⟨e, listed, found⟩ := mem_modules_iff.1 shown
    exact exists_chain_of_projectsOnto excluding owns declared listed
      (contributor_eq_some_iff.1 found)
  refine ⟨fun e listed name named => not_excludes_of_listed excluding listed named, ?_, ?_, chains⟩
  · intro b shown
    obtain ⟨e, listed, found⟩ := mem_libraries_iff.1 shown
    obtain ⟨name, points, known⟩ := libraryOf_eq_some_iff.1 found
    have named : b.name = name := by simpa using List.find?_some known
    rw [named]
    exact not_excludes_of_listed excluding listed (by rw [points]; rfl)
  · intro m shown excluded
    obtain ⟨root, member, chain⟩ := chains m shown
    obtain rfl | admitted := eq_or_not_excludes_of_chain chain
    · exact member
    · contradiction

end Session

/-! ## An excluded root -/

namespace Hiding

/-- Two modules in a circle, and two with excluded names, of which one is a root. -/
def file : ProjectFile where
  project := { roots := ["app", "web"] }
  libraries := .ofList [("json", {}), ("widgets", {})]
  modules := .ofList [
    ("app", { dependencies := [{ module := some "web" }, { module := some "core" },
      { module := some "wire" }] }),
    ("core", { dependencies := [{ module := some "app" }, { library := some "widgets" },
      { library := some "json" }] }),
    ("tools", {}),
    ("web", { dependencies := [{ module := some "tools" }] }),
    ("wire", {})]

/-- The first root. -/
def app : Module where
  name := "app"
  dependencies := [⟨"app", .source, none⟩, ⟨"app", .module "web", some {}⟩,
    ⟨"app", .module "core", some {}⟩, ⟨"app", .module "wire", some {}⟩]

/-- The module that leads back to the first root. -/
def core : Module where
  name := "core"
  dependencies := [⟨"core", .source, none⟩, ⟨"core", .module "app", some {}⟩,
    ⟨"core", .library "widgets", some {}⟩, ⟨"core", .library "json", some {}⟩]

/-- A module to which an excluded root leads. -/
def tools : Module where
  name := "tools"
  dependencies := [⟨"tools", .source, none⟩]

/-- The second root, which is excluded. -/
def web : Module where
  name := "web"
  dependencies := [⟨"web", .source, none⟩, ⟨"web", .module "tools", some {}⟩]

/-- An excluded module that is no root. -/
def wire : Module where
  name := "wire"
  dependencies := [⟨"wire", .source, none⟩]

/-- Names that begin with `w`. -/
def beginningWithW : Exclusion :=
  ⟨[[.literal 'w', .anything]]⟩

example : Exclusion.parse? ["w*"] = .ok (some beginningWithW) := by
  cbv

/-- A session that follows modules from both roots. -/
def session : Session where
  project :=
    { modules := [app, core, tools, web, wire]
      libraries := [{ name := "json" }, { name := "widgets" }] }
  roots := [app, web]
  traversal := { recursive := true }
  condition := some beginningWithW.admits

theorem project_eq : session.project = file.toProject ⟨"/work"⟩ := by
  decide +kernel

theorem excludes_of_isMatch {name : String}
    (matched : Glob.isMatch [.literal 'w', .anything] name = true) :
    Exclusion.Excludes (some beginningWithW) name :=
  ⟨_, rfl, _, List.mem_singleton_self _, matched⟩

theorem reaches_tools : session.Reaches tools := by
  have root : session.Reaches web := .root (by decide)
  exact .edge (p := ⟨web, 1, by decide⟩) root (by decide) (by decide +kernel) (by decide +kernel)
    rfl rfl

/-- The root with an excluded name is shown, and a chain leads to what is behind it.  The other
module with an excluded name is not shown, nor is the library. -/
theorem session_shows_excluded_root :
    session.project = file.toProject ⟨"/work"⟩ ∧ session.RootsDeclared ∧
      session.condition = (some beginningWithW).map Exclusion.admits ∧
      Exclusion.Excludes (some beginningWithW) web.name ∧ web ∈ session.modules ∧
      (∃ root ∈ session.roots,
        Relation.ReflTransGen (session.PassesOn (some beginningWithW)) root tools) ∧
      wire ∉ session.modules ∧ ∀ b ∈ session.libraries, b.name ≠ "widgets" := by
  have declared : session.RootsDeclared := by decide
  obtain ⟨-, libraries, roots, chains⟩ := Session.excluded_names_never_leak file ⟨"/work"⟩ session
    (some beginningWithW) project_eq declared rfl
  have web_shown : web ∈ session.modules :=
    Session.mem_modules_iff.2 ⟨session.entry ⟨web, 0, by decide⟩,
      (Session.mem_dependencies_iff declared).2 ⟨.root (by decide), by decide +kernel, rfl⟩, rfl⟩
  have tools_shown : tools ∈ session.modules :=
    Session.mem_modules_iff.2 ⟨session.entry ⟨tools, 0, by decide⟩,
      (Session.mem_dependencies_iff declared).2 ⟨reaches_tools, by decide +kernel, rfl⟩, rfl⟩
  refine ⟨project_eq, declared, rfl, excludes_of_isMatch (by decide +kernel), web_shown,
    chains tools tools_shown, ?_, ?_⟩
  · intro shown
    have root : wire ∈ session.roots := roots wire shown (excludes_of_isMatch (by decide +kernel))
    exact absurd root (by decide)
  · intro b shown named
    exact libraries b shown (named ▸ excludes_of_isMatch (by decide +kernel))

end Hiding

end Classpath
