import Classpath.ProjectFile.Project
import Classpath.Proofs.ClosedProject
import Classpath.Proofs.ProjectFile.Validation

/-!
# The project of a checked file

A checked file and its project say the same, section by section: every entry of a
dependency list gives one edge, none is dropped, and what the edge points at is there.
The project is therefore closed, and the sessions on it find whatever they look up.

## Main definitions

* `ProjectFile.Describes` — a project has what a file says, and nothing else

## Main statements

* `ProjectFile.describes_toProject` — the project of a file is the one it describes
* `ProjectFile.closed_toProject` — the project of a file is closed
* `ProjectFile.checked_projects_resolve` — both of them, and what follows for sessions
-/

namespace Classpath

/-! ## What the sections of a file describe -/

/-- An entry of the module `owner` describes an edge.  Only an edge to an SDK can be
without scope and exported flag, and is so if neither is written. -/
structure DependencyEntry.Describes (owner : String) (e : DependencyEntry) (d : Dependency) :
    Prop where
  owned : d.owner = owner
  points : e.NamesOnly d.target
  extended : d.extension ≠ none ↔
    (∀ name, d.target ≠ .sdk name) ∨ e.scope ≠ none ∨ e.exported ≠ none
  written : ∀ x ∈ d.extension,
    x.scope = e.scope.getD .compile ∧ x.exported = e.exported.getD false

/-- A section under a name describes a module.  Its dependencies are its own sources
and those of the section, one by one. -/
structure ModuleSection.Describes (base : Path) (name : String) (s : ModuleSection) (m : Module) :
    Prop where
  named : m.name = name
  output : m.output = s.output.map base.join
  testOutput : m.testOutput = s.testOutput.map base.join
  sources : m.sourceRoots = s.sources.map (⟨base.join ·, .production⟩) ++
    s.testSources.map (⟨base.join ·, .test⟩)
  dependencies : ∃ ds, m.dependencies = ⟨name, .source, none⟩ :: ds ∧
    List.Forall₂ (DependencyEntry.Describes name) s.dependencies ds

/-- A section under a name describes a library or an SDK. -/
structure BundleSection.Describes (base : Path) (name : String) (s : BundleSection) (b : Bundle) :
    Prop where
  named : b.name = name
  classes : b.classes = s.classes.map base.join
  sources : b.sources = s.sources.map base.join

/-- The project has, under every name, what the section of the file describes, and
nothing where the file has no section. -/
structure ProjectFile.Describes (f : ProjectFile) (base : Path) (p : Project) : Prop where
  modules : ∀ name,
    Option.Rel (ModuleSection.Describes base name) (f.modules.get? name) (p.module? name)
  libraries : ∀ name,
    Option.Rel (BundleSection.Describes base name) (f.libraries.get? name) (p.library? name)
  sdks : ∀ name, Option.Rel (BundleSection.Describes base name) (f.sdks.get? name) (p.sdk? name)
  moduleNames : p.moduleNames = f.modules.names
  libraryNames : p.libraryNames = f.libraries.names
  sdkNames : p.sdkNames = f.sdks.names

/-! ## The project of a checked file -/

namespace DependencyEntry

variable {owner : String} {e : DependencyEntry} {target : Target}

theorem toDependency?_of_namesOnly (only : e.NamesOnly target) :
    e.toDependency? owner = some
      { owner, target
        extension := if target.isSdk && !(e.scope.isSome || e.exported.isSome) then none
          else some ⟨e.scope.getD .compile, e.exported.getD false⟩ } := by
  have targets : e.targets = [target] := namesOnly_iff.1 only
  simp only [toDependency?, targets, List.head?_cons, Option.map_some]

/-- An entry that names one thing gives the edge that it describes. -/
theorem describes_toDependency? (only : e.NamesOnly target) :
    ∃ d, e.toDependency? owner = some d ∧ e.Describes owner d := by
  refine ⟨_, toDependency?_of_namesOnly only, rfl, only, ?_, ?_⟩
  · cases only <;> cases e.scope <;> cases e.exported <;> simp [Target.isSdk]
  · intro x extension
    rw [Option.mem_def, Option.ite_none_left_eq_some, Option.some.injEq] at extension
    obtain ⟨-, rfl⟩ := extension
    exact ⟨rfl, rfl⟩

end DependencyEntry

/-- What every element of a list gives, one by one. -/
theorem forall₂_filterMap {α β : Type} {R : α → β → Prop} {give : α → Option β} {l : List α}
    (each : ∀ a ∈ l, ∃ b, give a = some b ∧ R a b) : List.Forall₂ R l (l.filterMap give) := by
  induction l with
  | nil => exact .nil
  | cons a l ih =>
    obtain ⟨b, given, related⟩ := each a List.mem_cons_self
    rw [List.filterMap_cons_some given]
    exact .cons related (ih fun c member => each c (List.mem_cons_of_mem _ member))

/-- A section all of whose entries name one thing describes its module. -/
theorem ModuleSection.describes_toModule {s : ModuleSection}
    (named : ∀ e ∈ s.dependencies, ∃ target, e.NamesOnly target) (base : Path) (name : String) :
    s.Describes base name (s.toModule base name) := by
  refine ⟨rfl, rfl, rfl, rfl, _, rfl, forall₂_filterMap ?_⟩
  intro e member
  obtain ⟨target, only⟩ := named e member
  exact DependencyEntry.describes_toDependency? only

theorem BundleSection.describes_toBundle (s : BundleSection) (base : Path) (name : String) :
    s.Describes base name (s.toBundle base name) :=
  ⟨rfl, rfl, rfl⟩

/-- Names that increase are in order already. -/
theorem sortedNames_eq_self {names : List String} (increasing : names.Pairwise (· < ·)) :
    sortedNames names = names := by
  have distinct : names.eraseDups = names := by
    induction names with
    | nil => rfl
    | cons name rest ih =>
      obtain ⟨below, increasing⟩ := List.pairwise_cons.1 increasing
      -- All later names are greater, so none is erased.
      have others : rest.filter (fun other => !(other == name)) = rest := by
        refine List.filter_eq_self.2 fun other member => ?_
        have different : other ≠ name := fun same =>
          String.lt_irrefl name (same ▸ below other member)
        simpa using different
      rw [List.eraseDups_cons, others, ih increasing]
  rw [sortedNames, distinct]
  refine List.mergeSort_of_pairwise (increasing.imp ?_)
  intro a b less
  exact decide_eq_true ((String.not_lt.1 (String.lt_asymm less) : a ≤ b))

namespace ProjectFile

variable {f : ProjectFile} {base : Path} {name : String}

theorem module?_toProject :
    (f.toProject base).module? name = (f.modules.get? name).map (·.toModule base name) :=
  f.modules.find?_map_entries (fun name s => s.toModule base name) Module.name (fun _ _ => rfl) name

theorem library?_toProject :
    (f.toProject base).library? name = (f.libraries.get? name).map (·.toBundle base name) :=
  f.libraries.find?_map_entries (fun name s => s.toBundle base name) Bundle.name (fun _ _ => rfl)
    name

theorem sdk?_toProject :
    (f.toProject base).sdk? name = (f.sdks.get? name).map (·.toBundle base name) :=
  f.sdks.find?_map_entries (fun name s => s.toBundle base name) Bundle.name (fun _ _ => rfl) name

/-- What is under a name describes what is built of it. -/
theorem rel_map {α β : Type} {R : α → β → Prop} {build : α → β} {found : Option α}
    (describes : ∀ a ∈ found, R a (build a)) : Option.Rel R found (found.map build) := by
  cases found with
  | none => exact .none
  | some a => exact .some (describes a rfl)

/-- **The project of a file that keeps the rules is the one that it describes.** -/
theorem describes_toProject (rules : f.KeepsRules) (base : Path) :
    f.Describes base (f.toProject base) := by
  refine ⟨fun name => ?_, fun name => ?_, fun name => ?_, ?_, ?_, ?_⟩
  · rw [module?_toProject]
    refine rel_map fun s owned => s.describes_toModule (fun e member => ?_) base name
    obtain ⟨target, only, -⟩ := rules.dependencies name s owned e member
    exact ⟨target, only⟩
  · rw [library?_toProject]
    exact rel_map fun s _ => s.describes_toBundle base name
  · rw [sdk?_toProject]
    exact rel_map fun s _ => s.describes_toBundle base name
  · have names : (f.toProject base).modules.map (·.name) = f.modules.names := List.map_map
    rw [Project.moduleNames, names, sortedNames_eq_self f.modules.pairwise_names]
  · have names : (f.toProject base).libraries.map (·.name) = f.libraries.names := List.map_map
    rw [Project.libraryNames, names, sortedNames_eq_self f.libraries.pairwise_names]
  · have names : (f.toProject base).sdks.map (·.name) = f.sdks.names := List.map_map
    rw [Project.sdkNames, names, sortedNames_eq_self f.sdks.pairwise_names]

/-- What the file has a section for is in the project. -/
theorem resolves_of_offers {d : Dependency} (offered : f.Offers d.target) (base : Path) :
    (f.toProject base).Resolves d := by
  unfold Project.Resolves
  split <;> rename_i points <;> rw [points] at offered
  · exact offered.elim
  · obtain ⟨s, owned⟩ := NameTable.mem_names_iff.1 offered
    rw [module?_toProject, owned]
    exact ⟨_, rfl⟩
  · obtain ⟨s, owned⟩ := NameTable.mem_names_iff.1 offered
    rw [library?_toProject, owned]
    exact ⟨_, rfl⟩
  · obtain ⟨s, owned⟩ := NameTable.mem_names_iff.1 offered
    rw [sdk?_toProject, owned]
    exact ⟨_, rfl⟩

/-- **The project of a file that keeps the rules is closed.** -/
theorem closed_toProject (rules : f.KeepsRules) (base : Path) : (f.toProject base).Closed := by
  intro m member d declared
  obtain ⟨⟨name, s⟩, entry, rfl⟩ := List.mem_map.1 member
  have owned : f.modules.get? name = some s := NameTable.get?_eq_some_iff.2 entry
  rcases List.mem_cons.1 declared with rfl | given
  · have own : (f.toProject base).module? name = some (s.toModule base name) := by
      rw [module?_toProject, owned]
      rfl
    exact ⟨rfl, ⟨_, own⟩, nofun⟩
  · -- The edge comes from an entry, of which the rules say all that is to be shown.
    obtain ⟨e, listed, given⟩ := List.mem_filterMap.1 given
    obtain ⟨target, only, other, offered⟩ := rules.dependencies name s owned e listed
    rw [DependencyEntry.toDependency?_of_namesOnly only] at given
    obtain rfl := Option.some.inj given
    exact ⟨rfl, resolves_of_offers offered base, other⟩

/-- **The project of a checked file is what the file says, and nothing in it is
missing.**  It has the modules, libraries and SDKs of the file; every entry of a
dependency list gives one edge, in the order of the list; every edge leads to something
that is there, and not back to its module.  No session on the project therefore looks
for something in vain. -/
theorem checked_projects_resolve (f g : ProjectFile) (accepted : f.validate = .ok g)
    (base : Path) :
    f.Describes base (g.toProject base) ∧ (g.toProject base).Closed ∧
      ∀ s : Session, s.project = g.toProject base → s.RootsDeclared → s.FindsAll := by
  obtain ⟨rfl, rules⟩ := validate_eq_ok_iff.1 accepted
  have closed : (g.toProject base).Closed := closed_toProject rules base
  refine ⟨describes_toProject rules base, closed, ?_⟩
  intro s same declared
  rw [← same] at closed
  exact s.findsAll_of_closed closed declared

/-- Two modules, the upper of which takes the lower one at run time and leaves the scope of
its SDK open. -/
def webshop : ProjectFile where
  project := { roots := ["app"] }
  sdks := .ofList [("jdk", { classes := [⟨"jdk/rt.jar"⟩] })]
  libraries := .ofList [("json", { classes := [⟨"lib/json.jar"⟩] })]
  modules := .ofList [
    ("app", { output := some ⟨"out/app"⟩
              dependencies := [{ module := some "core", scope := some .runtime },
                { sdk := some "jdk" }] }),
    ("core", { dependencies := [{ library := some "json", exported := some true }] })]

/-- A session on all modules of the shop. -/
def webshopSession : Session :=
  let project := webshop.toProject ⟨"/work"⟩
  .start project project.modules webshop.registry

/-- The shop is accepted, and a session on it finds what it looks up. -/
theorem webshop_resolves :
    webshop.validate = .ok webshop ∧ webshopSession.RootsDeclared ∧
      webshop.Describes ⟨"/work"⟩ (webshop.toProject ⟨"/work"⟩) ∧
      (webshop.toProject ⟨"/work"⟩).Closed ∧ webshopSession.FindsAll :=
  have unbroken : webshop.violations = [] := by decide +kernel
  have accepted : webshop.validate = .ok webshop := by rw [validate, unbroken]
  have declared : webshopSession.RootsDeclared := by decide +kernel
  have resolve := checked_projects_resolve webshop webshop accepted ⟨"/work"⟩
  ⟨accepted, declared, resolve.1, resolve.2.1, resolve.2.2 webshopSession rfl declared⟩

end ProjectFile

end Classpath
