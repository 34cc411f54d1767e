import Classpath.Proofs.Roots.Joined

/-!
# What stands in the way of a report

Before anything is printed, the root modules are looked up, the patterns are read, a session
is opened, and where roots are printed in one text they are joined.  Each of these steps may
fail, and what comes after a failure is not looked at.  So the failure of a report is the
first of a list of obstacles (`ProjectFile.obstacles`), which are said without the steps.

Of the failures of a step that goes through a list, the first counts as well
(`failure?_mapM`), so that lists of obstacles follow each other as the steps do.

One failure is set aside.  Texts that are patterns one by one may be nested so deeply that
they cannot be compiled together; that they can is assumed where it counts, and is the case
up to a certain depth (`Exclusion.buildsTogether_of_shallow`).

## Main definitions

* `failure?` — what there is in place of a result
* `Exclusion.BuildsTogether` — texts that are patterns one by one make an exclusion
* `ProjectFile.obstacles` — what stands in the way of a report

## Main statements

* `ProjectFile.failure?_openSession`, `ProjectFile.failure?_report` — how failures follow
  each other
* `ProjectFile.reports_fail_at_first_obstacle` — how a report on a checked file fails
-/

namespace Classpath

/-! ## First failures -/

section

variable {ε α β : Type}

/-- What there is in place of a result, if there is none. -/
def failure? : Except ε α → Option ε
  | .ok _ => none
  | .error e => some e

theorem failure?_eq_some_iff {x : Except ε α} {e : ε} : failure? x = some e ↔ x = .error e := by
  cases x <;> simp [failure?]

theorem failure?_eq_none_iff {x : Except ε α} : failure? x = none ↔ ∃ a, x = .ok a := by
  cases x <;> simp [failure?]

/-- A step that fails hides what comes after it. -/
theorem failure?_bind (x : Except ε α) (next : α → Except ε β) :
    failure? (x >>= next) = (failure? x).or (x.toOption.bind fun a => failure? (next a)) := by
  cases x <;> rfl

/-- **Of the failures along a list the first counts.** -/
theorem failure?_mapM (give : α → Except ε β) (l : List α) :
    failure? (l.mapM give) = (l.filterMap fun a => failure? (give a)).head? := by
  induction l with
  | nil => rfl
  | cons a l ih =>
    rw [List.mapM_cons, failure?_bind]
    cases given : give a with
    | error e => simp [failure?, given]
    | ok b =>
      rw [List.filterMap_cons_none (by rw [given]; rfl), ← ih]
      cases l.mapM give <;> rfl

/-- Everything that a list gives is given by a member. -/
theorem exists_of_mem_mapM {give : α → Except ε β} {l : List α} {bs : List β}
    (given : l.mapM give = .ok bs) {b : β} (member : b ∈ bs) : ∃ a ∈ l, give a = .ok b := by
  induction l generalizing bs with
  | nil =>
    obtain rfl : [] = bs := Except.ok.inj given
    contradiction
  | cons a l ih =>
    rw [List.mapM_cons] at given
    cases first : give a with
    | error e => simp [first, bind, Except.bind] at given
    | ok c =>
      cases later : l.mapM give with
      | error e => simp [first, later, bind, Except.bind] at given
      | ok others =>
        obtain rfl : c :: others = bs := by
          simpa [first, later, bind, Except.bind, pure, Except.pure] using given
        obtain rfl | member := List.mem_cons.1 member
        · exact ⟨a, List.mem_cons_self, first⟩
        · obtain ⟨a', among, gives⟩ := ih later member
          exact ⟨a', List.mem_cons_of_mem a among, gives⟩

end

/-- Of names that stand for nothing the first is reported. -/
theorem Project.failure?_resolveModules (p : Project) (names : List String) :
    failure? (p.resolveModules names) =
      (names.filter fun name => (p.module? name).isNone).head? := by
  induction names with
  | nil => rfl
  | cons name rest ih =>
    rw [resolveModules]
    cases found : p.module? name with
    | none => simp [found, failure?]
    | some m =>
      rw [List.filter_cons_of_neg (by simp [found]), ← ih]
      cases p.resolveModules rest <;> rfl

/-! ## Patterns -/

/-- A cause is a fault of a pattern, which is known by its text or by its place. -/
inductive Cause.FaultsPattern : Cause → Prop
  | named (text : String) (fault : Glob.Fault) : FaultsPattern (.glob text fault)
  | placed (place : Nat) : FaultsPattern (.globAt place)

namespace Exclusion

/-- The failure to read a text as a pattern. -/
def readingFailure? (text : String) : Option Failure :=
  match Glob.parse text with
  | .ok _ => none
  | .error fault => some { circumstances := [.excluding text], cause := .glob text fault }

/-- Texts that are patterns one by one make an exclusion together. -/
def BuildsTogether (texts : List String) : Prop :=
  (∀ text ∈ texts, ∃ pattern, Glob.parse text = .ok pattern) →
    ∃ exclusion, parse? texts = .ok exclusion

variable {texts : List String} {failure : Failure}

theorem readingFailure?_eq_none_iff {text : String} :
    readingFailure? text = none ↔ ∃ pattern, Glob.parse text = .ok pattern := by
  unfold readingFailure?
  cases Glob.parse text <;> simp

theorem failure?_parsePattern (text : String) :
    failure? (parsePattern text) = readingFailure? text := by
  unfold parsePattern readingFailure?
  cases Glob.parse text <;> rfl

theorem parsePattern_eq_ok_iff {text : String} {p : Glob.Pattern} :
    parsePattern text = .ok p ↔ Glob.parse text = .ok p := by
  unfold parsePattern
  cases Glob.parse text <;> simp

theorem parse?_of_ne_nil (nonempty : texts ≠ []) :
    parse? texts = do
      let patterns ← texts.mapM parsePattern
      checkDepth (texts.zip patterns)
      return some ⟨patterns⟩ := by
  rw [parse?, if_neg (by simpa using nonempty)]

/-- Texts that are patterns one by one are all read. -/
theorem exists_mapM_parsePattern
    (valid : ∀ text ∈ texts, ∃ pattern, Glob.parse text = .ok pattern) :
    ∃ patterns, texts.mapM parsePattern = .ok patterns := by
  rw [← failure?_eq_none_iff, failure?_mapM, List.head?_eq_none_iff, List.filterMap_eq_nil_iff]
  intro text member
  rw [failure?_parsePattern]
  exact readingFailure?_eq_none_iff.2 (valid text member)

/-- **Of texts that are no patterns the first is reported**, if patterns go together. -/
theorem failure?_parse? (builds : BuildsTogether texts) :
    failure? (parse? texts) = (texts.filterMap readingFailure?).head? := by
  cases bad : (texts.filterMap readingFailure?).head? with
  | none =>
    refine failure?_eq_none_iff.2 (builds fun text member => ?_)
    have unhindered := List.filterMap_eq_nil_iff.1 (List.head?_eq_none_iff.1 bad)
    exact readingFailure?_eq_none_iff.1 (unhindered text member)
  | some failure =>
    have nonempty : texts ≠ [] := by
      rintro rfl
      contradiction
    have read : failure? (texts.mapM parsePattern) = some failure := by
      simp only [failure?_mapM, failure?_parsePattern]
      exact bad
    rw [parse?_of_ne_nil nonempty, failure?_bind, read, Option.some_or]

/-- Patterns that are not too deep can be compiled together. -/
theorem checkDepth_of_shallow {patterns : List (String × Glob.Pattern)}
    (shallow : ∀ p ∈ patterns, Glob.isTooDeep p.2 = false) : checkDepth patterns = .ok () := by
  have single : (patterns.find? fun p => Glob.basis p.2 = .extensionFirst && Glob.isTooDeep p.2) =
      none := by
    refine List.find?_eq_none.2 fun p member => ?_
    simp [shallow p member]
  have together : ((patterns.filter fun p => Glob.basis p.2 = .everything).findIdx?
      fun p => Glob.isTooDeep p.2) = none := by
    refine List.findIdx?_eq_none_iff.2 fun p member => ?_
    exact shallow p (List.mem_filter.1 member).1
  simp only [checkDepth, single, together]

/-- **Patterns that are not nested too deeply go together.** -/
theorem buildsTogether_of_shallow
    (shallow : ∀ text ∈ texts, ∀ p ∈ (Glob.parse text).toOption, Glob.isTooDeep p = false) :
    BuildsTogether texts := by
  intro valid
  by_cases empty : texts = []
  · subst empty
    exact ⟨none, rfl⟩
  · obtain ⟨patterns, given⟩ := exists_mapM_parsePattern valid
    have compiled : checkDepth (texts.zip patterns) = .ok () := by
      refine checkDepth_of_shallow fun ⟨text, p⟩ member => ?_
      obtain ⟨-, among⟩ := List.of_mem_zip member
      obtain ⟨origin, here, parsed⟩ := exists_of_mem_mapM given among
      refine shallow origin here p ?_
      rw [parsePattern_eq_ok_iff.1 parsed]
      rfl
    rw [← failure?_eq_none_iff, parse?_of_ne_nil empty, given]
    change failure? (checkDepth (texts.zip patterns) >>= _) = none
    rw [failure?_bind, compiled]
    rfl

theorem faultsPattern_of_checkDepth {patterns : List (String × Glob.Pattern)}
    (failed : checkDepth patterns = .error failure) : failure.cause.FaultsPattern := by
  unfold checkDepth at failed
  split at failed
  · obtain rfl := Except.error.inj failed
    exact .named _ _
  · split at failed
    · obtain rfl := Except.error.inj failed
      exact .placed _
    · contradiction

/-- **What is wrong with patterns is a fault of a pattern.** -/
theorem faultsPattern_of_parse? (failed : parse? texts = .error failure) :
    failure.cause.FaultsPattern := by
  have nonempty : texts ≠ [] := by
    rintro rfl
    contradiction
  rw [parse?_of_ne_nil nonempty, ← failure?_eq_some_iff, failure?_bind,
    Option.or_eq_some_iff] at failed
  obtain read | ⟨-, later⟩ := failed
  · rw [failure?_mapM] at read
    obtain ⟨text, -, bad⟩ := List.mem_filterMap.1 (List.mem_of_head? read)
    rw [failure?_parsePattern, readingFailure?] at bad
    split at bad
    · contradiction
    · obtain rfl := Option.some.inj bad
      exact .named _ _
  · obtain ⟨patterns, -, later⟩ := Option.bind_eq_some_iff.1 later
    rw [failure?_bind, Option.or_eq_some_iff] at later
    obtain deep | ⟨-, impossible⟩ := later
    · exact faultsPattern_of_checkDepth (failure?_eq_some_iff.1 deep)
    · obtain ⟨-, -, impossible⟩ := Option.bind_eq_some_iff.1 impossible
      contradiction

end Exclusion

/-! ## Sessions -/

namespace ProjectFile

/-- That roots are to be printed in one text, and one of them holds the separator; there are
roots if a session is opened. -/
def joiningObstacles (f : ProjectFile) (base : Path) (a : Arguments) : List Failure :=
  match f.openSession base a with
  | .ok s =>
    if a.listing = .roots ∧ a.format = .classpath ∧
        ∃ root ∈ s.rootPaths a.rootQuery, root.HoldsSeparator then [joiningFailure]
    else []
  | .error _ => []

/-- That no root module is named, or each name on the command line that no module has. -/
def rootObstacles (f : ProjectFile) (a : Arguments) : List Failure :=
  (if a.modules = [] ∧ f.project.roots = [] then [{ cause := .noRoots }] else []) ++
    (a.modules.filter (· ∉ f.modules.names)).map fun name => { cause := .moduleNotFound name }

/-- What stands in the way of a report, in the order in which it is met: what is wrong with the
names of root modules, each text that is no pattern, and a root that cannot be joined with
others. -/
def obstacles (f : ProjectFile) (base : Path) (a : Arguments) : List Failure :=
  f.rootObstacles a ++ a.excludes.filterMap Exclusion.readingFailure? ++ f.joiningObstacles base a

variable {f : ProjectFile} {base : Path} {a : Arguments} {failure : Failure}

/-- Names that no module has are those that stand for nothing. -/
theorem filter_isNone_module? (f : ProjectFile) (base : Path) (names : List String) :
    (names.filter fun name => ((f.toProject base).module? name).isNone) =
      names.filter (· ∉ f.modules.names) := by
  refine List.filter_congr fun name _ => ?_
  rw [module?_toProject, Option.isNone_map, Bool.eq_iff_iff, decide_eq_true_iff,
    ← NameTable.contains_iff, NameTable.contains, Option.not_isSome_iff_eq_none,
    Option.isNone_iff_eq_none]

/-- Where names are given, the first that no module has is reported. -/
theorem failure?_selectRoots_of_ne_nil (named : a.rootNames f ≠ []) :
    failure? (f.selectRoots (f.toProject base) a) =
      (((a.rootNames f).filter (· ∉ f.modules.names)).map
        fun name => ({ cause := .moduleNotFound name } : Failure)).head? := by
  rw [List.head?_map, ← f.filter_isNone_module? base, ← Project.failure?_resolveModules,
    selectRoots]
  simp only [List.isEmpty_iff, named, if_false]
  cases (f.toProject base).resolveModules (a.rootNames f) <;> rfl

/-- **The selection of root modules fails at the first obstacle to it**, if the names in the
file itself are those of modules. -/
theorem failure?_selectRoots (known : ∀ name ∈ f.project.roots, name ∈ f.modules.names) :
    failure? (f.selectRoots (f.toProject base) a) = (f.rootObstacles a).head? := by
  by_cases unasked : a.modules = []
  · have names : a.rootNames f = f.project.roots := by simp [Arguments.rootNames, unasked]
    by_cases none : f.project.roots = []
    · simp [selectRoots, rootObstacles, names, unasked, none, failure?]
    · have kept : f.project.roots.filter (· ∉ f.modules.names) = [] := by simpa using known
      rw [failure?_selectRoots_of_ne_nil (by rwa [names]), names, kept]
      simp [rootObstacles, unasked, none]
  · have names : a.rootNames f = a.modules := by simp [Arguments.rootNames, unasked]
    rw [failure?_selectRoots_of_ne_nil (by rwa [names]), names]
    simp [rootObstacles, unasked]

/-- The opening of a session fails where the selection of root modules does, or else where the
reading of the patterns does. -/
theorem failure?_openSession :
    failure? (f.openSession base a) =
      (failure? (f.selectRoots (f.toProject base) a)).or
        (failure? (Exclusion.parse? a.excludes)) := by
  rw [openSession]
  cases f.selectRoots (f.toProject base) a with
  | error failure => rfl
  | ok roots => cases Exclusion.parse? a.excludes <;> rfl

/-- A report fails where the opening of a session does, or else where roots are joined. -/
theorem failure?_report :
    failure? (f.report base a) =
      (failure? (f.openSession base a)).or (f.joiningObstacles base a).head? := by
  rw [report, joiningObstacles]
  cases f.openSession base a with
  | error failure => rfl
  | ok s =>
    change failure? (Text.unlines <$> s.listing a) = _
    by_cases hindered : a.listing = .roots ∧ a.format = .classpath ∧
        ∃ root ∈ s.rootPaths a.rootQuery, root.HoldsSeparator
    · obtain ⟨asked, joined, held⟩ := hindered
      have failed := Session.listing_eq_error_iff.2 ⟨asked, joined, rfl, held⟩
      simp only [failed, asked, joined, held, and_self, if_true]
      rfl
    · simp only [if_neg hindered]
      cases listed : s.listing a with
      | ok lines => rfl
      | error failure =>
        obtain ⟨asked, joined, -, held⟩ := Session.listing_eq_error_iff.1 listed
        exact absurd ⟨asked, joined, held⟩ hindered

/-- One text is asked for, and a root of the session that is opened holds the separator. -/
theorem joiningObstacles_ne_nil_iff :
    f.joiningObstacles base a ≠ [] ↔ a.listing = .roots ∧ a.format = .classpath ∧
      ∃ s, f.openSession base a = .ok s ∧
        ∃ root ∈ s.rootPaths a.rootQuery, root.HoldsSeparator := by
  unfold joiningObstacles
  cases f.openSession base a with
  | error failure => simp
  | ok s => simp

/-- **What there may be in the way of a report.** -/
theorem obstacles_ne_nil_iff :
    f.obstacles base a ≠ [] ↔
      a.modules = [] ∧ f.project.roots = [] ∨
      (∃ name ∈ a.modules, name ∉ f.modules.names) ∨
      (∃ text ∈ a.excludes, ∀ pattern, Glob.parse text ≠ .ok pattern) ∨
      a.listing = .roots ∧ a.format = .classpath ∧ ∃ s, f.openSession base a = .ok s ∧
        ∃ root ∈ s.rootPaths a.rootQuery, root.HoldsSeparator := by
  have unread : a.excludes.filterMap Exclusion.readingFailure? ≠ [] ↔
      ∃ text ∈ a.excludes, ∀ pattern, Glob.parse text ≠ .ok pattern := by
    simp [List.filterMap_eq_nil_iff, Exclusion.readingFailure?_eq_none_iff]
  have unknown : f.rootObstacles a ≠ [] ↔ a.modules = [] ∧ f.project.roots = [] ∨
      ∃ name ∈ a.modules, name ∉ f.modules.names := by
    simp [rootObstacles, imp_iff_not_or]
  rw [← joiningObstacles_ne_nil_iff, ← unread, ← or_assoc, ← unknown, obstacles]
  simp [imp_iff_not_or]

/-- The failure to join roots is the only obstacle of its kind. -/
theorem eq_of_mem_joiningObstacles (member : failure ∈ f.joiningObstacles base a) :
    failure = joiningFailure := by
  unfold joiningObstacles at member
  split at member
  · split at member
    · exact List.mem_singleton.1 member
    · contradiction
  · contradiction

section Checked

variable (rules : f.KeepsRules)
include rules

/-- The failure of a report on a checked file, step by step. -/
theorem failure?_report_of_rules :
    failure? (f.report base a) =
      ((f.rootObstacles a).head?.or (failure? (Exclusion.parse? a.excludes))).or
        (f.joiningObstacles base a).head? := by
  rw [failure?_report, failure?_openSession, failure?_selectRoots (rules.members .projectRoots)]

/-- If the names of root modules are taken from a checked file, they are found. -/
theorem cause_ne_moduleNotFound (unasked : a.modules = [])
    (failed : f.report base a = .error failure) (name : String) :
    failure.cause ≠ .moduleNotFound name := by
  rw [← failure?_eq_some_iff, failure?_report_of_rules rules, Option.or_eq_some_iff,
    Option.or_eq_some_iff] at failed
  obtain (unrooted | ⟨-, unread⟩) | ⟨-, unjoined⟩ := failed
  · have member := List.mem_of_head? unrooted
    simp only [rootObstacles, unasked, List.filter_nil, List.map_nil, List.append_nil,
      true_and, List.mem_ite_nil_right, List.mem_singleton] at member
    rw [member.2]
    exact nofun
  · have faulty := Exclusion.faultsPattern_of_parse? (failure?_eq_some_iff.1 unread)
    intro same
    rw [same] at faulty
    nomatch faulty
  · rw [eq_of_mem_joiningObstacles (List.mem_of_head? unjoined)]
    exact nofun

end Checked

/-- **A report fails at the first obstacle.**  Take a file that was accepted, on whatever
graph of modules and with whatever handlers, a directory, and any arguments.  Patterns that
can be read one by one are assumed to go together.  Then a report fails for one of four
reasons, and for the first of them: no root module is named, neither on the command line
nor in the file; a name on the command line is not that of a module, of which the first is
reported; a text is no pattern, of which again the first is reported; or the roots of the
session are to be joined and one of them holds the separator.

A name in the file itself is never reported as unknown.  And once there is a session, on
any project and with any handlers, everything but joined roots can be listed. -/
theorem reports_fail_at_first_obstacle (f g : ProjectFile) (accepted : f.validate = .ok g)
    (base : Path) (a : Arguments) :
    (Exclusion.BuildsTogether a.excludes →
      (∀ failure, g.report base a = .error failure ↔ (g.obstacles base a).head? = some failure) ∧
      ((∃ failure, g.report base a = .error failure) ↔
        a.modules = [] ∧ g.project.roots = [] ∨
        (∃ name ∈ a.modules, name ∉ g.modules.names) ∨
        (∃ text ∈ a.excludes, ∀ pattern, Glob.parse text ≠ .ok pattern) ∨
        a.listing = .roots ∧ a.format = .classpath ∧ ∃ s, g.openSession base a = .ok s ∧
          ∃ root ∈ s.rootPaths a.rootQuery, root.HoldsSeparator)) ∧
    (a.modules = [] → ∀ failure, g.report base a = .error failure →
      ∀ name, failure.cause ≠ .moduleNotFound name) ∧
    ∀ (s : Session) (b : Arguments), (b.listing = .roots → b.format = .lines) →
      ∃ lines, s.listing b = .ok lines := by
  obtain ⟨rfl, rules⟩ := validate_eq_ok_iff.1 accepted
  refine ⟨fun builds => ?_, fun unasked _ => cause_ne_moduleNotFound rules unasked, ?_⟩
  · have first : ∀ failure,
        g.report base a = .error failure ↔ (g.obstacles base a).head? = some failure := by
      intro failure
      rw [← failure?_eq_some_iff, failure?_report_of_rules rules,
        Exclusion.failure?_parse? builds, obstacles, List.head?_append, List.head?_append]
    refine ⟨first, ?_⟩
    rw [← obstacles_ne_nil_iff, ← List.isSome_head?, Option.isSome_iff_exists]
    exact exists_congr first
  · intro s b lined
    cases listed : s.listing b with
    | ok lines => exact ⟨lines, rfl⟩
    | error failure =>
      obtain ⟨asked, joined, -⟩ := Session.listing_eq_error_iff.1 listed
      rw [lined asked] at joined
      contradiction

end ProjectFile

/-! ## One obstacle after the other -/

namespace Hindering

/-- The module that all is reached from. -/
def app : ModuleSection where
  dependencies := [{ library := some "zip" }, { module := some "core" }]

/-- Two modules in a circle, none of which is a root, a library with a separator in its path,
and a handler. -/
def file : ProjectFile where
  libraries := .ofList [("zip", { classes := [⟨"lib:zip.jar"⟩] })]
  modules := .ofList [("app", app), ("core", { dependencies := [{ module := some "app" }] })]
  handlers := .ofList [("veto", { processRecursively := false })]

/-- The arguments that ask for the roots of modules in one text. -/
def asking (modules excludes : List String) : Arguments where
  modules
  excludes
  format := .classpath

/-- The session that is opened on the first module. -/
def session : Session :=
  .start (file.toProject ⟨"/work"⟩) [app.toModule ⟨"/work"⟩ "app"] file.registry

theorem openSession_file : file.openSession ⟨"/work"⟩ (asking ["app"] []) = .ok session := by
  rfl

theorem mem_rootPaths_session :
    ⟨"/work/lib:zip.jar"⟩ ∈ session.rootPaths { kind := .compiled } := by
  have declared := (Session.openedOn_of_openSession openSession_file).declared
  rw [Session.rootPaths_eq_distinct, Session.dependencies_of_direct rfl rfl declared]
  decide +kernel

theorem head?_obstacles_file :
    (file.obstacles ⟨"/work"⟩ (asking ["app"] [])).head? = some joiningFailure := by
  have held : ∃ root ∈ session.rootPaths { kind := .compiled }, root.HoldsSeparator :=
    ⟨_, mem_rootPaths_session, by decide⟩
  have joining : file.joiningObstacles ⟨"/work"⟩ (asking ["app"] []) = [joiningFailure] := by
    simp only [ProjectFile.joiningObstacles, openSession_file]
    exact if_pos ⟨rfl, rfl, held⟩
  rw [ProjectFile.obstacles, joining]
  rfl

/-- With every obstacle that is taken away the next one is reported, and in the end nothing
fails. -/
theorem first_obstacles_are_reported :
    file.validate = .ok file ∧
      file.report ⟨"/work"⟩ (asking [] ["[z"]) = .error { cause := .noRoots } ∧
      file.report ⟨"/work"⟩ (asking ["app", "ghost", "phantom"] ["[z"]) =
        .error { cause := .moduleNotFound "ghost" } ∧
      file.report ⟨"/work"⟩ (asking ["app"] ["core", "[z", "\x7b"]) =
        .error { circumstances := [.excluding "[z"], cause := .glob "[z" .unclosedClass } ∧
      file.report ⟨"/work"⟩ (asking ["app"] []) = .error joiningFailure ∧
      ¬ ∃ failure, file.report ⟨"/work"⟩ { modules := ["app"] } = .error failure := by
  have unbroken : file.violations = [] := by decide +kernel
  have accepted : file.validate = .ok file := by rw [ProjectFile.validate, unbroken]
  have reports := fun a builds =>
    (ProjectFile.reports_fail_at_first_obstacle file file accepted ⟨"/work"⟩ a).1
      (Exclusion.buildsTogether_of_shallow builds)
  refine ⟨accepted, ?_, ?_, ?_, ?_, ?_⟩
  · exact ((reports _ (by decide +kernel)).1 _).2 rfl
  · exact ((reports _ (by decide +kernel)).1 _).2 rfl
  · exact ((reports _ (by decide +kernel)).1 _).2 rfl
  · exact ((reports _ (by decide +kernel)).1 _).2 head?_obstacles_file
  · rw [(reports _ (by decide +kernel)).2]
    rintro (⟨unasked, -⟩ | ⟨name, member, unknown⟩ | ⟨text, member, -⟩ | ⟨-, joined, -⟩)
    · contradiction
    · obtain rfl := List.mem_singleton.1 member
      exact unknown (by decide)
    · contradiction
    · contradiction

end Hindering

end Classpath
