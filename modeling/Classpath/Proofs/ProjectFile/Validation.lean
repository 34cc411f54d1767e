import Classpath.Proofs.ProjectFile.Rules

/-!
# How a project file is refused

The violations of a file are put together stage by stage.  Each stage holds the
breaches that belong to it, in the order of their checkpoints, and so does the whole
list.  A file is therefore accepted if and only if it keeps the rules, and refused
with what is wrong at the first checkpoint.

## Main definitions

* `ProjectFile.stageViolations` — the violations of a stage

## Main statements

* `ProjectFile.enumerates_violations` — the violations of a file are its breaches, in
  the order of their checkpoints
* `ProjectFile.validate_eq_ok_iff`, `ProjectFile.validate_eq_error_iff` — which files
  are accepted, and how the others are refused
-/

namespace Classpath

namespace ProjectFile

/-- The violations of a stage. -/
def stageViolations (f : ProjectFile) : Stage → List Violation
  | .file => if f.modules.isEmpty then [.noModules] else []
  | .names kind => badNames kind (f.sectionNames kind)
  | .dependencies => f.modules.entries.flatMap fun (owner, m) =>
      m.dependencies.filterMap (f.entryViolation owner)
  | .roots => f.unknownModules .projectRoots f.project.roots
  | .handlers => f.handlers.entries.flatMap fun (name, h) =>
      f.unknownModules (.appliesTo name) h.appliesTo ++
        f.unknownModules (.productionOnTests name) h.productionOnTests

theorem violations_eq (f : ProjectFile) : f.violations = Stage.all.flatMap f.stageViolations := by
  simp [violations, Stage.all, stageViolations, sectionNames]

variable {f : ProjectFile} {v : Violation}

/-! ### One stage after the other -/

theorem enumerates_file (f : ProjectFile) :
    Enumerates (fun x v => x.stage = .file ∧ f.Breaks x v) (f.stageViolations .file) := by
  unfold stageViolations
  have inversion : ∀ {x v}, x.stage = .file → f.Breaks x v →
      f.modules.names = [] ∧ x = .file ∧ v = .noModules := by
    intro x v stage breaks
    cases breaks with
    | noModules none => exact ⟨none, rfl, rfl⟩
    | badName | dependency => contradiction
    | @unknownModule list => cases list <;> contradiction
  have isEmpty : f.modules.isEmpty = true ↔ f.modules.names = [] := by
    simp [NameTable.isEmpty, NameTable.names]
  by_cases none : f.modules.names = []
  · rw [if_pos (isEmpty.2 none)]
    refine (Enumerates.singleton .file .noModules).congr fun x v => ?_
    constructor
    · rintro ⟨rfl, rfl⟩
      exact ⟨rfl, .noModules none⟩
    · rintro ⟨stage, breaks⟩
      exact (inversion stage breaks).2
  · rw [if_neg (mt isEmpty.1 none)]
    refine .nil fun x v broken => ?_
    exact none (inversion broken.1 broken.2).1

theorem pairwise_sectionNames (f : ProjectFile) (kind : SectionKind) :
    (f.sectionNames kind).Pairwise (· < ·) := by
  cases kind <;> exact NameTable.pairwise_names _

theorem enumerates_names (f : ProjectFile) (kind : SectionKind) :
    Enumerates (fun x v => x.stage = .names kind ∧ f.Breaks x v)
      (f.stageViolations (.names kind)) := by
  have sorted : ((f.sectionNames kind).filter (!isName ·)).Pairwise fun a b =>
      (Checkpoint.name kind a).Before (.name kind b) :=
    ((f.pairwise_sectionNames kind).filter _).imp Checkpoint.before_name
  refine (Enumerates.map_of_pairwise sorted).congr fun x v => ?_
  constructor
  · rintro ⟨name, member, rfl, rfl⟩
    obtain ⟨used, bad⟩ := List.mem_filter.1 member
    refine ⟨rfl, .badName used ?_⟩
    rw [← isName_iff]
    simpa using bad
  · rintro ⟨stage, breaks⟩
    cases breaks with
    | @badName kind' name used bad =>
      obtain rfl : kind' = kind := Stage.names.inj stage
      rw [← isName_iff] at bad
      exact ⟨name, List.mem_filter.2 ⟨used, by simpa using bad⟩, rfl, rfl⟩
    | noModules | dependency => contradiction
    | @unknownModule list => cases list <;> contradiction

theorem enumerates_dependencies (f : ProjectFile) :
    Enumerates (fun x v => x.stage = .dependencies ∧ f.Breaks x v)
      (f.stageViolations .dependencies) := by
  have each : ∀ entry : String × ModuleSection,
      Enumerates (fun x v => ∃ i e, entry.2.dependencies[i]? = some e ∧
          f.entryViolation entry.1 e = some v ∧ x = .entry entry.1 i)
        (entry.2.dependencies.filterMap (f.entryViolation entry.1)) :=
    fun entry => .filterMap (.entry entry.1) fun _ _ => Checkpoint.before_entry
  refine (Enumerates.flatMap each (f.modules.sorted.imp ?_)).congr fun x v => ?_
  · rintro a b less x v y w ⟨i, e, -, -, rfl⟩ ⟨j, e', -, -, rfl⟩
    exact Checkpoint.before_owner less i j
  constructor
  · rintro ⟨⟨owner, m⟩, member, i, e, here, given, rfl⟩
    exact ⟨rfl, .dependency (NameTable.get?_eq_some_iff.2 member) here (entryViolation_iff.1 given)⟩
  · rintro ⟨stage, breaks⟩
    cases breaks with
    | dependency owned here breaks =>
      exact ⟨_, NameTable.get?_eq_some_iff.1 owned, _, _, here, entryViolation_iff.2 breaks, rfl⟩
    | noModules | badName => contradiction
    | @unknownModule list => cases list <;> contradiction

theorem unknownModules_eq_filterMap (f : ProjectFile) (list : ModuleList) (names : List String) :
    f.unknownModules list names = names.filterMap fun name =>
      if name ∈ f.modules.names then none else some (.unknownModule list name) := by
  unfold unknownModules
  induction names with
  | nil => rfl
  | cons name rest ih =>
    rw [List.filterMap_cons, ← ih]
    by_cases known : name ∈ f.modules.names
    · simp [known, NameTable.contains_iff.2 known]
    · have missing : f.modules.contains name = false := by
        rwa [← Bool.not_eq_true, NameTable.contains_iff]
      simp [known, missing]

/-- A member of a list of modules that the file does not have. -/
def BreaksMember (f : ProjectFile) (list : ModuleList) (names : List String) (x : Checkpoint)
    (v : Violation) : Prop :=
  ∃ i name, names[i]? = some name ∧ name ∉ f.modules.names ∧ x = .member list i ∧
    v = .unknownModule list name

theorem enumerates_members (f : ProjectFile) (list : ModuleList) (names : List String) :
    Enumerates (f.BreaksMember list names) (f.unknownModules list names) := by
  rw [unknownModules_eq_filterMap]
  refine (Enumerates.filterMap (.member list) fun _ _ =>
    Checkpoint.before_member list).congr fun x v => ?_
  constructor
  · rintro ⟨i, name, here, given, rfl⟩
    split at given
    · contradiction
    · next missing => exact ⟨i, name, here, missing, rfl, (Option.some.inj given).symm⟩
  · rintro ⟨i, name, here, missing, rfl, rfl⟩
    exact ⟨i, name, here, if_neg missing, rfl⟩

theorem enumerates_roots (f : ProjectFile) :
    Enumerates (fun x v => x.stage = .roots ∧ f.Breaks x v) (f.stageViolations .roots) := by
  refine (f.enumerates_members .projectRoots f.project.roots).congr fun x v => ?_
  constructor
  · rintro ⟨i, name, here, missing, rfl, rfl⟩
    exact ⟨rfl, .unknownModule here missing⟩
  · rintro ⟨stage, breaks⟩
    cases breaks with
    | noModules | badName | dependency => contradiction
    | @unknownModule list i name here missing =>
      cases list with
      | projectRoots => exact ⟨i, name, here, missing, rfl, rfl⟩
      | appliesTo | productionOnTests => contradiction

/-- A member of a list of a handler is one of a handler that the file has. -/
theorem getElem?_handlerList {list : HandlerSection → List String} {handler name : String} {i : ℕ} :
    (((f.handlers.get? handler).map list).getD [])[i]? = some name ↔
      ∃ h, f.handlers.get? handler = some h ∧ (list h)[i]? = some name := by
  cases f.handlers.get? handler <;> simp

theorem enumerates_handlers (f : ProjectFile) :
    Enumerates (fun x v => x.stage = .handlers ∧ f.Breaks x v) (f.stageViolations .handlers) := by
  have each : ∀ entry : String × HandlerSection,
      Enumerates (fun x v => f.BreaksMember (.appliesTo entry.1) entry.2.appliesTo x v ∨
          f.BreaksMember (.productionOnTests entry.1) entry.2.productionOnTests x v)
        (f.unknownModules (.appliesTo entry.1) entry.2.appliesTo ++
          f.unknownModules (.productionOnTests entry.1) entry.2.productionOnTests) := by
    intro entry
    refine (f.enumerates_members _ _).append (f.enumerates_members _ _) ?_
    -- Both lists stand under the name of the handler, and this one comes first.
    rintro x v y w ⟨i, a, -, -, rfl, -⟩ ⟨j, b, -, -, rfl, -⟩
    exact Checkpoint.before_productionOnTests _ i j
  refine (Enumerates.flatMap each (f.handlers.sorted.imp ?_)).congr fun x v => ?_
  · rintro a b less x v y w (⟨i, c, -, -, rfl, -⟩ | ⟨i, c, -, -, rfl, -⟩)
      (⟨j, d, -, -, rfl, -⟩ | ⟨j, d, -, -, rfl, -⟩) <;> exact .inr ⟨rfl, .inl less⟩
  constructor
  · rintro ⟨⟨handler, h⟩, member, broken⟩
    have known := NameTable.get?_eq_some_iff.2 member
    rcases broken with ⟨i, name, here, missing, rfl, rfl⟩ | ⟨i, name, here, missing, rfl, rfl⟩
    · exact ⟨rfl, .unknownModule (getElem?_handlerList.2 ⟨h, known, here⟩) missing⟩
    · exact ⟨rfl, .unknownModule (getElem?_handlerList.2 ⟨h, known, here⟩) missing⟩
  · rintro ⟨stage, breaks⟩
    cases breaks with
    | noModules | badName | dependency => contradiction
    | @unknownModule list i name here missing =>
      cases list with
      | projectRoots => contradiction
      | appliesTo handler =>
        obtain ⟨h, known, here⟩ := getElem?_handlerList.1 here
        exact ⟨(handler, h), NameTable.get?_eq_some_iff.1 known,
          .inl ⟨i, name, here, missing, rfl, rfl⟩⟩
      | productionOnTests handler =>
        obtain ⟨h, known, here⟩ := getElem?_handlerList.1 here
        exact ⟨(handler, h), NameTable.get?_eq_some_iff.1 known,
          .inr ⟨i, name, here, missing, rfl, rfl⟩⟩

theorem enumerates_stage (f : ProjectFile) (stage : Stage) :
    Enumerates (fun x v => x.stage = stage ∧ f.Breaks x v) (f.stageViolations stage) := by
  cases stage with
  | file => exact f.enumerates_file
  | names kind => exact f.enumerates_names kind
  | dependencies => exact f.enumerates_dependencies
  | roots => exact f.enumerates_roots
  | handlers => exact f.enumerates_handlers

/-- **The violations of a file are its breaches in the order of their checkpoints.** -/
theorem enumerates_violations (f : ProjectFile) : Enumerates f.Breaks f.violations := by
  rw [violations_eq]
  -- A checkpoint belongs to one stage, so that stages never mix.
  refine (Enumerates.flatMap f.enumerates_stage (Stage.pairwise_all.imp ?_)).congr fun x v => ?_
  · rintro a b less x v y w ⟨rfl, -⟩ ⟨rfl, -⟩
    exact .inl less
  · constructor
    · rintro ⟨stage, -, -, breaks⟩
      exact breaks
    · exact fun breaks => ⟨x.stage, Stage.mem_all _, rfl, breaks⟩

/-! ### Acceptance and refusal -/

theorem validate_eq_ok_iff {g : ProjectFile} : f.validate = .ok g ↔ g = f ∧ f.KeepsRules := by
  rw [keepsRules_iff, ← f.enumerates_violations.eq_nil_iff, validate]
  cases f.violations <;> simp [eq_comm]

theorem validate_eq_error_iff :
    f.validate = .error v ↔ ∃ x, f.Breaks x v ∧ ∀ y w, f.Breaks y w → ¬ y.Before x := by
  rw [← f.enumerates_violations.head?_eq_some_iff, validate]
  cases f.violations <;> simp

end ProjectFile

end Classpath
