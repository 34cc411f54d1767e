import Classpath.Proofs.ProjectFile.Resolution
import Classpath.Proofs.Walk.Agreement

/-!
# What the selected modules do not lead to

What is printed for a project file depends on the section about the project, on the
handlers, and on the modules that the selected names lead to, with the libraries and the
SDKs that these name.  Two files that have this in common are told apart by no argument
of a command line, whatever else is in them or missing.

What names lead to is read off the entries of the file, without regard to any filter and
to whether a session follows modules.  It is a region that edges do not leave, and the
projects of the two files agree on it.

## Main definitions

* `ProjectFile.LeadsTo` — the names that selected names lead to
* `ProjectFile.SameBehind` — two files have in common what is behind selected names

## Main statements

* `ProjectFile.agreeOn_toProject` — the projects of two such files agree
* `ProjectFile.report_ignores_rest` — the same is printed for them
-/

namespace Classpath

namespace Project

variable {p p' : Project} {names : List String} {roots : List Module}

/-- Names that stand for the same are resolved to the same. -/
theorem resolveModules_congr (alike : ∀ n ∈ names, p'.module? n = p.module? n) :
    p'.resolveModules names = p.resolveModules names := by
  induction names with
  | nil => rfl
  | cons n rest ih =>
    obtain ⟨first, others⟩ := List.forall_mem_cons.1 alike
    rw [resolveModules, resolveModules, first, ih others]

/-- Names are resolved to what they stand for. -/
theorem exists_name_of_resolveModules (resolved : p.resolveModules names = .ok roots) {m : Module}
    (member : m ∈ roots) : ∃ n ∈ names, p.module? n = some m := by
  induction names generalizing roots with
  | nil =>
    obtain rfl : [] = roots := Except.ok.inj resolved
    contradiction
  | cons n rest ih =>
    rw [resolveModules] at resolved
    cases found : p.module? n with
    | none =>
      rw [found] at resolved
      contradiction
    | some first =>
      rw [found] at resolved
      cases later : p.resolveModules rest with
      | error missing =>
        rw [later] at resolved
        contradiction
      | ok others =>
        rw [later] at resolved
        obtain rfl : first :: others = roots := Except.ok.inj resolved
        obtain rfl | member := List.mem_cons.1 member
        · exact ⟨n, List.mem_cons_self, found⟩
        · obtain ⟨n', among, stands⟩ := ih later member
          exact ⟨n', List.mem_cons_of_mem _ among, stands⟩

end Project

namespace ProjectFile

/-- An entry of the module `owner` names a target. -/
def Mentions (f : ProjectFile) (owner : String) (target : Target) : Prop :=
  ∃ s, f.modules.get? owner = some s ∧ ∃ e ∈ s.dependencies, target ∈ e.targets

/-- The names that some names lead to: these names, and every module that an entry of a
module among them names. -/
inductive LeadsTo (f : ProjectFile) (names : List String) : String → Prop
  | selected {name : String} (member : name ∈ names) : LeadsTo f names name
  | entry {owner name : String} (reached : LeadsTo f names owner)
      (mentioned : f.Mentions owner (.module name)) : LeadsTo f names name

/-- Two files have the project section and the handlers in common, and what is behind
some names: under a name that these lead to, both have the same module or none, and so
for the libraries and the SDKs that such modules name. -/
structure SameBehind (f g : ProjectFile) (names : List String) : Prop where
  project : g.project = f.project
  handlers : g.handlers = f.handlers
  modules : ∀ name, f.LeadsTo names name → g.modules.get? name = f.modules.get? name
  libraries : ∀ owner name, f.LeadsTo names owner → f.Mentions owner (.library name) →
    g.libraries.get? name = f.libraries.get? name
  sdks : ∀ owner name, f.LeadsTo names owner → f.Mentions owner (.sdk name) →
    g.sdks.get? name = f.sdks.get? name

variable {f g : ProjectFile} {names : List String} {base : Path} {m : Module} {d : Dependency}

/-! ## Either file may be taken as the first -/

namespace SameBehind

/-- A module that names lead to names the same in both files. -/
theorem mentions_iff (same : f.SameBehind g names) {owner : String}
    (reached : f.LeadsTo names owner) {target : Target} :
    g.Mentions owner target ↔ f.Mentions owner target := by
  rw [Mentions, Mentions, same.modules owner reached]

/-- The names lead to the same in both files. -/
theorem leadsTo_iff (same : f.SameBehind g names) {name : String} :
    g.LeadsTo names name ↔ f.LeadsTo names name := by
  constructor <;> intro reached
  · induction reached with
    | selected member => exact .selected member
    | entry _ mentioned ih => exact .entry ih ((same.mentions_iff ih).1 mentioned)
  · induction reached with
    | selected member => exact .selected member
    | entry reached mentioned ih => exact .entry ih ((same.mentions_iff reached).2 mentioned)

theorem symm (same : f.SameBehind g names) : g.SameBehind f names := by
  refine ⟨same.project.symm, same.handlers.symm, ?_, ?_, ?_⟩
  · intro name reached
    exact (same.modules name (same.leadsTo_iff.1 reached)).symm
  · intro owner name reached mentioned
    have reached := same.leadsTo_iff.1 reached
    exact (same.libraries owner name reached ((same.mentions_iff reached).1 mentioned)).symm
  · intro owner name reached mentioned
    have reached := same.leadsTo_iff.1 reached
    exact (same.sdks owner name reached ((same.mentions_iff reached).1 mentioned)).symm

end SameBehind

/-! ## The projects agree -/

/-- The modules behind some names. -/
def Behind (f : ProjectFile) (base : Path) (names : List String) (m : Module) : Prop :=
  f.LeadsTo names m.name ∧ (f.toProject base).module? m.name = some m

/-- What a name that names lead to stands for is behind these names. -/
theorem behind_of_leadsTo {name : String} (reached : f.LeadsTo names name)
    (found : (f.toProject base).module? name = some m) : f.Behind base names m := by
  have named := Project.name_of_module? found
  exact ⟨by rwa [named], by rwa [named]⟩

/-- An edge leads to the sources of its own module, or to what an entry names. -/
theorem own_or_mentioned {name : String} (found : (f.toProject base).module? name = some m)
    (declared : d ∈ m.dependencies) :
    d.target = .source ∧ d.owner = name ∨ f.Mentions name d.target := by
  rw [module?_toProject] at found
  obtain ⟨s, owned, rfl⟩ := Option.map_eq_some_iff.1 found
  obtain rfl | given := List.mem_cons.1 declared
  · exact .inl ⟨rfl, rfl⟩
  · obtain ⟨e, listed, given⟩ := List.mem_filterMap.1 given
    obtain ⟨target, first, rfl⟩ := Option.map_eq_some_iff.1 given
    exact .inr ⟨s, owned, e, listed, List.mem_of_mem_head? first⟩

/-- A module that an edge of a module behind the names leads to is behind them. -/
theorem leadsTo_of_edge (behind : f.Behind base names m) (declared : d ∈ m.dependencies)
    {name : String} (points : d.target = .module name) : f.LeadsTo names name := by
  obtain ⟨reached, found⟩ := behind
  obtain ⟨own, -⟩ | mentioned := own_or_mentioned found declared
  · rw [points] at own
    contradiction
  · rw [points] at mentioned
    exact .entry reached mentioned

/-- The project of the other file gives the same answer for an edge of a module behind
the names. -/
theorem seesAlike_toProject (same : f.SameBehind g names) (behind : f.Behind base names m)
    (declared : d ∈ m.dependencies) : (f.toProject base).SeesAlike (g.toProject base) d := by
  obtain ⟨reached, found⟩ := behind
  obtain ⟨own, owner⟩ | mentioned := own_or_mentioned found declared
  · rw [Project.SeesAlike, own, owner]
    simp only [module?_toProject, same.modules _ reached]
  · unfold Project.SeesAlike
    cases points : d.target <;> rw [points] at mentioned
    case source =>
      -- No entry names the sources of its own module.
      obtain ⟨s, -, e, -, named⟩ := mentioned
      simp [DependencyEntry.targets] at named
    case module name =>
      simp only [module?_toProject, same.modules _ (.entry reached mentioned)]
    case library name =>
      simp only [library?_toProject, same.libraries _ _ reached mentioned]
    case sdk name =>
      simp only [sdk?_toProject, same.sdks _ _ reached mentioned]

/-- **The projects of two files agree** on the modules behind some names if the files
have in common what is behind them. -/
theorem agreeOn_toProject (same : f.SameBehind g names) (base : Path) :
    (f.toProject base).AgreeOn (g.toProject base) (f.Behind base names) where
  alike _ behind _ declared := seesAlike_toProject same behind declared
  closed _ behind _ declared _ points _ found :=
    behind_of_leadsTo (leadsTo_of_edge behind declared points) found

/-! ## What is printed -/

variable {a : Arguments} {roots : List Module} {s : Session}

theorem rootNames_congr (same : g.project = f.project) : a.rootNames g = a.rootNames f := by
  rw [Arguments.rootNames, Arguments.rootNames, same]

/-- The same modules are selected, or the selection fails in the same way. -/
theorem selectRoots_congr (same : f.SameBehind g (a.rootNames f)) (base : Path) :
    g.selectRoots (g.toProject base) a = f.selectRoots (f.toProject base) a := by
  have resolved : (g.toProject base).resolveModules (a.rootNames f) =
      (f.toProject base).resolveModules (a.rootNames f) := by
    refine Project.resolveModules_congr fun name member => ?_
    rw [module?_toProject, module?_toProject, same.modules name (.selected member)]
  rw [selectRoots, selectRoots, rootNames_congr same.project, resolved]

/-- What a session that is opened is made of: the selected modules, the exclusion of the patterns,
the handlers of the file and the filters of the arguments. -/
theorem parts_of_openSession (opened : f.openSession base a = .ok s) :
    ∃ roots exclusion, f.selectRoots (f.toProject base) a = .ok roots ∧
      Exclusion.parse? a.excludes = .ok exclusion ∧
      s = a.configure exclusion (.start (f.toProject base) roots f.registry) := by
  simp only [openSession] at opened
  cases selected : f.selectRoots (f.toProject base) a with
  | error failure =>
    rw [selected] at opened
    contradiction
  | ok roots =>
    rw [selected] at opened
    cases parsed : Exclusion.parse? a.excludes with
    | error failure =>
      rw [parsed] at opened
      contradiction
    | ok exclusion =>
      rw [parsed] at opened
      exact ⟨roots, exclusion, rfl, rfl, (Except.ok.inj opened).symm⟩

/-- A session that is opened is one on the project of the file with the selected modules, with
the handlers of the file and the filters of the arguments. -/
theorem exists_configure_of_openSession (opened : f.openSession base a = .ok s) :
    ∃ roots exclusion, f.selectRoots (f.toProject base) a = .ok roots ∧
      s = a.configure exclusion (.start (f.toProject base) roots f.registry) := by
  obtain ⟨roots, exclusion, selected, -, same⟩ := parts_of_openSession opened
  exact ⟨roots, exclusion, selected, same⟩

/-- A session that is opened is on the project of the file, with the selected modules. -/
theorem of_openSession (opened : f.openSession base a = .ok s) :
    s.project = f.toProject base ∧ f.selectRoots (f.toProject base) a = .ok s.roots := by
  obtain ⟨roots, exclusion, selected, rfl⟩ := exists_configure_of_openSession opened
  exact ⟨rfl, selected⟩

/-- On the other file the same session is opened, but for the project. -/
theorem openSession_congr (same : f.SameBehind g (a.rootNames f)) (base : Path) :
    g.openSession base a = (f.openSession base a).map (·.on (g.toProject base)) := by
  have registry : g.registry = f.registry := by rw [registry, registry, same.handlers]
  unfold openSession
  simp only [selectRoots_congr same base, registry]
  cases f.selectRoots (f.toProject base) a with
  | error failure => rfl
  | ok roots =>
    cases Exclusion.parse? a.excludes with
    | error failure => rfl
    | ok exclusion => rfl

/-- Modules are selected by resolving the selected names. -/
theorem resolveModules_of_selectRoots {p : Project} (selected : f.selectRoots p a = .ok roots) :
    p.resolveModules (a.rootNames f) = .ok roots := by
  simp only [selectRoots] at selected
  split at selected
  · contradiction
  split at selected
  · next found resolved =>
    obtain rfl : found = roots := Except.ok.inj selected
    exact resolved
  · contradiction

/-- Selected modules are what the selected names stand for. -/
theorem exists_name_of_selectRoots (selected : f.selectRoots (f.toProject base) a = .ok roots)
    (member : m ∈ roots) : ∃ name ∈ a.rootNames f, (f.toProject base).module? name = some m :=
  Project.exists_name_of_resolveModules (resolveModules_of_selectRoots selected) member

/-- Selected modules are behind the selected names. -/
theorem behind_of_selectRoots (selected : f.selectRoots (f.toProject base) a = .ok roots)
    (member : m ∈ roots) : f.Behind base (a.rootNames f) m := by
  obtain ⟨name, among, stands⟩ := exists_name_of_selectRoots selected member
  exact behind_of_leadsTo (.selected among) stands

/-- **What the selected modules do not lead to does not matter.**  If two files, checked
or not, have in common what is behind the selected names, then the same text is printed
for both, or both fail for the same reason. -/
theorem report_ignores_rest (f g : ProjectFile) (base : Path) (a : Arguments)
    (same : f.SameBehind g (a.rootNames f)) : g.report base a = f.report base a := by
  unfold report
  rw [openSession_congr same base]
  cases opened : f.openSession base a with
  | error failure => rfl
  | ok session =>
    obtain ⟨project, selected⟩ := of_openSession opened
    have agree : session.project.AgreeOn (g.toProject base) (f.Behind base (a.rootNames f)) := by
      rw [project]
      exact agreeOn_toProject same base
    have printed : (session.on (g.toProject base)).listing a = session.listing a :=
      Session.listing_on agree (fun _ member => behind_of_selectRoots selected member) a
    change (do let lines ← (session.on (g.toProject base)).listing a; return Text.unlines lines) = _
    rw [printed]
    rfl

/-- Another file with the module `core` of the shop, and the same library. -/
def outlet : ProjectFile where
  project := { roots := ["app"] }
  libraries := .ofList [("charts", {}), ("json", { classes := [⟨"lib/json.jar"⟩] })]
  modules := .ofList [
    ("app", { dependencies := [{ library := some "charts" }] }),
    ("core", { dependencies := [{ library := some "json", exported := some true }] })]

/-- In the shop, `core` names one library. -/
theorem mentions_core {target : Target} (mentioned : webshop.Mentions "core" target) :
    target = .library "json" := by
  obtain ⟨s, owned, e, listed, named⟩ := mentioned
  obtain rfl : _ = s := Option.some.inj owned
  obtain rfl := List.mem_singleton.1 listed
  exact List.mem_singleton.1 named

/-- In the shop, `core` leads to itself alone. -/
theorem leadsTo_core {name : String} (reached : webshop.LeadsTo ["core"] name) :
    name = "core" := by
  induction reached with
  | selected member => exact List.mem_singleton.1 member
  | entry _ mentioned ih =>
    subst ih
    nomatch mentions_core mentioned

/-- The two files have in common what is behind `core`. -/
theorem sameBehind_core : webshop.SameBehind outlet ["core"] := by
  refine ⟨rfl, rfl, ?_, ?_, ?_⟩
  · intro name reached
    rw [leadsTo_core reached]
    rfl
  · intro owner name reached mentioned
    rw [leadsTo_core reached] at mentioned
    obtain rfl : name = "json" := Target.library.inj (mentions_core mentioned)
    rfl
  · intro owner name reached mentioned
    rw [leadsTo_core reached] at mentioned
    nomatch mentions_core mentioned

/-- The shop and the other file print the same for `core`, while they differ in `app`, in
a library and in an SDK. -/
theorem outlet_prints_core_of_webshop :
    webshop.validate = .ok webshop ∧ outlet.validate = .ok outlet ∧
      webshop.SameBehind outlet ["core"] ∧
      outlet.report ⟨"/work"⟩ { modules := ["core"] } =
        webshop.report ⟨"/work"⟩ { modules := ["core"] } :=
  have unbroken : webshop.violations = [] := by decide +kernel
  have unbroken' : outlet.violations = [] := by decide +kernel
  ⟨by rw [validate, unbroken], by rw [validate, unbroken'], sameBehind_core,
    report_ignores_rest webshop outlet ⟨"/work"⟩ { modules := ["core"] } sameBehind_core⟩

end ProjectFile

end Classpath
