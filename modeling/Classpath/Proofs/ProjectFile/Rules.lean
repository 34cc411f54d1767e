import Classpath.Proofs.ProjectFile.Checkpoint

/-!
# The rules that a checked project file keeps

What the checks of a project file amount to, said without the checks: the rules as
one structure (`ProjectFile.KeepsRules`), and what breaks a rule at which checkpoint
as a relation (`ProjectFile.Breaks`).

## Main definitions

* `PlainName` — the words that may be names
* `DependencyEntry.NamesOnly` — an entry names one thing and nothing else
* `ProjectFile.KeepsRules` — the rules
* `ProjectFile.Breaks` — a violation at a checkpoint

## Main statements

* `ProjectFile.entryViolation_iff` — what is found about an entry is what is wrong
  with it
* `ProjectFile.keepsRules_iff` — a file keeps the rules if nothing is wrong anywhere
-/

namespace Classpath

/-! ## The rules -/

/-- A word of letters and digits of ASCII, underscores, dots and hyphens. -/
structure PlainName (name : String) : Prop where
  nonempty : name ≠ ""
  plain : ∀ c ∈ name.toList, 'a' ≤ c ∧ c ≤ 'z' ∨ 'A' ≤ c ∧ c ≤ 'Z' ∨ '0' ≤ c ∧ c ≤ '9' ∨
    c = '_' ∨ c = '.' ∨ c = '-'

/-- The entry names this target and no other. -/
inductive DependencyEntry.NamesOnly (e : DependencyEntry) : Target → Prop
  | module {name : String} (named : e.module = some name) (noLibrary : e.library = none)
      (noSdk : e.sdk = none) : e.NamesOnly (.module name)
  | library {name : String} (named : e.library = some name) (noModule : e.module = none)
      (noSdk : e.sdk = none) : e.NamesOnly (.library name)
  | sdk {name : String} (named : e.sdk = some name) (noModule : e.module = none)
      (noLibrary : e.library = none) : e.NamesOnly (.sdk name)

namespace ProjectFile

/-- The names of the entries of a section. -/
def sectionNames (f : ProjectFile) : SectionKind → List String
  | .module => f.modules.names
  | .library => f.libraries.names
  | .sdk => f.sdks.names
  | .handler => f.handlers.names

/-- The members of a list of modules; the lists of a handler that the file does not
have are empty. -/
def membersOf (f : ProjectFile) : ModuleList → List String
  | .projectRoots => f.project.roots
  | .appliesTo handler => ((f.handlers.get? handler).map (·.appliesTo)).getD []
  | .productionOnTests handler => ((f.handlers.get? handler).map (·.productionOnTests)).getD []

/-- The file has a section for the target of an edge. -/
def Offers (f : ProjectFile) : Target → Prop
  | .source => False
  | .module name => name ∈ f.modules.names
  | .library name => name ∈ f.libraries.names
  | .sdk name => name ∈ f.sdks.names

/-- The rules of project files. -/
structure KeepsRules (f : ProjectFile) : Prop where
  hasModule : f.modules.names ≠ []
  names : ∀ kind, ∀ name ∈ f.sectionNames kind, PlainName name
  /-- Every dependency names one thing, which exists and is not the module itself. -/
  dependencies : ∀ owner m, f.modules.get? owner = some m → ∀ e ∈ m.dependencies,
    ∃ target, e.NamesOnly target ∧ target ≠ .module owner ∧ f.Offers target
  members : ∀ list, ∀ name ∈ f.membersOf list, name ∈ f.modules.names

/-- What is wrong with a dependency of a module. -/
inductive BreaksDependency (f : ProjectFile) (owner : String) (e : DependencyEntry) :
    Violation → Prop
  | notOneTarget (none : ∀ target, ¬ e.NamesOnly target) :
      f.BreaksDependency owner e (.notOneTarget owner)
  | selfDependency (only : e.NamesOnly (.module owner)) :
      f.BreaksDependency owner e (.selfDependency owner)
  | unknownTarget {target : Target} (only : e.NamesOnly target) (other : target ≠ .module owner)
      (missing : ¬ f.Offers target) : f.BreaksDependency owner e (.unknownTarget owner e)

/-- What is wrong at a checkpoint. -/
inductive Breaks (f : ProjectFile) : Checkpoint → Violation → Prop
  | noModules (none : f.modules.names = []) : f.Breaks .file .noModules
  | badName {kind : SectionKind} {name : String} (used : name ∈ f.sectionNames kind)
      (bad : ¬ PlainName name) : f.Breaks (.name kind name) (.badName kind name)
  | dependency {owner : String} {m : ModuleSection} {i : ℕ} {e : DependencyEntry} {v : Violation}
      (owned : f.modules.get? owner = some m) (here : m.dependencies[i]? = some e)
      (breaks : f.BreaksDependency owner e v) : f.Breaks (.entry owner i) v
  | unknownModule {list : ModuleList} {i : ℕ} {name : String}
      (here : (f.membersOf list)[i]? = some name) (missing : name ∉ f.modules.names) :
      f.Breaks (.member list i) (.unknownModule list name)

end ProjectFile

/-! ## The checks, one by one -/

theorem isNameChar_iff {c : Char} :
    isNameChar c = true ↔ 'a' ≤ c ∧ c ≤ 'z' ∨ 'A' ≤ c ∧ c ≤ 'Z' ∨ '0' ≤ c ∧ c ≤ '9' ∨
      c = '_' ∨ c = '.' ∨ c = '-' := by
  have ranges : c.isAlphanum = (decide (c ≥ 'A' ∧ c ≤ 'Z') ||
      (decide (c ≥ 'a') && decide (c ≤ 'z')) || (decide (c ≥ '0') && decide (c ≤ '9'))) := rfl
  simp only [isNameChar, ranges, Bool.or_eq_true, Bool.and_eq_true, decide_eq_true_eq, ge_iff_le,
    or_assoc]
  exact or_left_comm

theorem isName_iff {name : String} : isName name = true ↔ PlainName name := by
  simp only [isName, Bool.and_eq_true, decide_eq_true_eq, List.all_eq_true, isNameChar_iff]
  exact ⟨fun ⟨nonempty, plain⟩ => ⟨nonempty, plain⟩, fun h => ⟨h.nonempty, h.plain⟩⟩

namespace DependencyEntry

variable {e : DependencyEntry} {target target' : Target}

theorem namesOnly_iff : e.NamesOnly target ↔ e.targets = [target] := by
  constructor
  · rintro (⟨named, noLibrary, noSdk⟩ | ⟨named, noModule, noSdk⟩ | ⟨named, noModule, noLibrary⟩) <;>
      simp [targets, *]
  · intro only
    obtain ⟨m, l, s, scope, exported⟩ := e
    cases m <;> cases l <;> cases s <;> simp [targets] at only <;> subst only <;>
      constructor <;> rfl

theorem NamesOnly.unique (only : e.NamesOnly target) (only' : e.NamesOnly target') :
    target = target' := by
  rw [namesOnly_iff] at only only'
  rw [only] at only'
  exact List.head_eq_of_cons_eq only'

end DependencyEntry

namespace ProjectFile

variable {f : ProjectFile} {owner : String} {e : DependencyEntry} {v : Violation}
  {target : Target}

theorem declares_iff (only : e.NamesOnly target) : f.declares target = true ↔ f.Offers target := by
  cases only <;> exact NameTable.contains_iff

/-- What is wrong with an entry that names one thing. -/
theorem breaksDependency_iff_of_namesOnly (only : e.NamesOnly target) :
    f.BreaksDependency owner e v ↔
      target = .module owner ∧ v = .selfDependency owner ∨
      target ≠ .module owner ∧ ¬ f.Offers target ∧ v = .unknownTarget owner e := by
  constructor
  · rintro (none | only' | ⟨only', other, missing⟩)
    · exact absurd only (none target)
    · exact .inl ⟨only.unique only', rfl⟩
    · rw [← only.unique only'] at other missing
      exact .inr ⟨other, missing, rfl⟩
  · rintro (⟨rfl, rfl⟩ | ⟨other, missing, rfl⟩)
    · exact .selfDependency only
    · exact .unknownTarget only other missing

/-- What is wrong with an entry that names nothing or several things. -/
theorem breaksDependency_iff_of_none (none : ∀ target, ¬ e.NamesOnly target) :
    f.BreaksDependency owner e v ↔ v = .notOneTarget owner := by
  constructor
  · rintro (_ | only | ⟨only, -, -⟩)
    · rfl
    · exact absurd only (none _)
    · exact absurd only (none _)
  · rintro rfl
    exact .notOneTarget none

theorem entryViolation_iff :
    f.entryViolation owner e = some v ↔ f.BreaksDependency owner e v := by
  unfold entryViolation
  split
  · next target one =>
    have only : e.NamesOnly target := DependencyEntry.namesOnly_iff.2 one
    rw [breaksDependency_iff_of_namesOnly only, ← declares_iff only]
    by_cases self : target = .module owner
    · rw [if_pos self, Option.some.injEq, eq_comm]
      simp [self]
    · rw [if_neg self]
      by_cases declared : f.declares target = true
      · simp [self, declared]
      · rw [if_neg declared, Option.some.injEq, eq_comm]
        simp [self, declared]
  · next several =>
    have none : ∀ target, ¬ e.NamesOnly target :=
      fun target only => several target (DependencyEntry.namesOnly_iff.1 only)
    rw [breaksDependency_iff_of_none none, Option.some.injEq, eq_comm]

/-- Nothing is wrong with an entry if it names one thing, which exists and is not the
owner. -/
theorem unbroken_dependency_iff :
    (∀ v, ¬ f.BreaksDependency owner e v) ↔
      ∃ target, e.NamesOnly target ∧ target ≠ .module owner ∧ f.Offers target := by
  constructor
  · intro unbroken
    by_cases names : ∃ target, e.NamesOnly target
    · obtain ⟨target, only⟩ := names
      refine ⟨target, only, ?_, ?_⟩
      · rintro rfl
        exact unbroken _ (.selfDependency only)
      · by_contra missing
        by_cases self : target = .module owner
        · exact unbroken _ (.selfDependency (self ▸ only))
        · exact unbroken _ (.unknownTarget only self missing)
    · exact absurd (.notOneTarget (not_exists.1 names)) (unbroken _)
  · rintro ⟨target, only, other, offered⟩ v breaks
    rw [breaksDependency_iff_of_namesOnly only] at breaks
    rcases breaks with ⟨self, -⟩ | ⟨-, missing, -⟩
    · exact other self
    · exact missing offered

/-- A file keeps the rules if none is broken at any checkpoint. -/
theorem keepsRules_iff : f.KeepsRules ↔ ∀ x v, ¬ f.Breaks x v := by
  constructor
  · rintro rules x v (none | ⟨used, bad⟩ | ⟨owned, here, breaks⟩ | ⟨here, missing⟩)
    · exact rules.hasModule none
    · exact bad (rules.names _ _ used)
    · exact unbroken_dependency_iff.2
        (rules.dependencies _ _ owned _ (List.mem_of_getElem? here)) _ breaks
    · exact missing (rules.members _ _ (List.mem_of_getElem? here))
  · intro unbroken
    refine ⟨fun none => unbroken _ _ (.noModules none), ?_, ?_, ?_⟩
    · intro kind name used
      by_contra bad
      exact unbroken _ _ (.badName used bad)
    · intro owner m owned e member
      obtain ⟨i, here⟩ := List.mem_iff_getElem?.1 member
      exact unbroken_dependency_iff.1 fun v breaks => unbroken _ _ (.dependency owned here breaks)
    · intro list name member
      obtain ⟨i, here⟩ := List.mem_iff_getElem?.1 member
      by_contra missing
      exact unbroken _ _ (.unknownModule here missing)

end ProjectFile

end Classpath
