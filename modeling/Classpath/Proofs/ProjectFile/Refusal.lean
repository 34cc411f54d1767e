import Classpath.Proofs.ProjectFile.Validation
import Mathlib.Data.List.Infix

/-!
# What a refusal says

The text about a breach has a fixed wording, into which names of the file are put, each
between marks.  `ProjectFile.Tells` gives the wording for whatever can be wrong at a
checkpoint, with the names that are at fault there, and the message about a breach has
this wording.

For an entry that names nothing or several things there is a placeholder, but no text
needs it: such an entry is refused for this, before anything is said about its target.
If the text of the placeholder does stand in a message, the file uses it as a name.

## Main definitions

* `Wording` — a text taken apart at the names in it
* `ProjectFile.Tells` — what there is to be told at a checkpoint
* `Violation.names` — the names that a message quotes

## Main statements

* `Wording.exists_name_of_infix` — a text without marks that is not in the words of a
  wording is in a name
* `ProjectFile.Breaks.exists_tells` — a message is what there is to be told
* `ProjectFile.validate_finds_first_breach` — which files are accepted, and how the
  others are refused
-/

namespace Classpath

/-! ## Texts with names in them -/

/-- What stands around a name. -/
inductive Marks
  | apostrophes
  /-- The end of a heading, where the name follows a dot. -/
  | dotAndBracket

namespace Marks

/-- The mark before a name. -/
@[simp] def opening : Marks → Char
  | apostrophes => '\''
  | dotAndBracket => '.'

/-- The mark behind a name. -/
@[simp] def closing : Marks → Char
  | apostrophes => '\''
  | dotAndBracket => ']'

end Marks

/-- A name between its marks, and the words that follow. -/
structure Quotation where
  marks : Marks
  name : String
  after : String

/-- The text of a quotation, with the words that follow. -/
def Quotation.text (q : Quotation) : String :=
  .singleton q.marks.opening ++ q.name ++ .singleton q.marks.closing ++ q.after

@[simp] theorem Quotation.toList_text (q : Quotation) :
    q.text.toList = q.marks.opening :: (q.name.toList ++ q.marks.closing :: q.after.toList) := by
  simp [text]

/-- A text, taken apart at the names in it. -/
structure Wording where
  before : String
  quotations : List Quotation

namespace Wording

/-- The text as a whole. -/
def text (w : Wording) : String :=
  w.before ++ .join (w.quotations.map Quotation.text)

/-- The names in the text. -/
def names (w : Wording) : List String :=
  w.quotations.map (·.name)

/-- The words around the names. -/
def words (w : Wording) : List String :=
  w.before :: w.quotations.map (·.after)

@[simp] theorem toList_text (w : Wording) :
    w.text.toList = w.before.toList ++ w.quotations.flatMap (·.text.toList) := by
  simp [text, String.toList_join, List.flatMap_map]

/-- The text up to the first quotation, and the text from there on. -/
theorem toList_text_cons (before : String) (q : Quotation) (rest : List Quotation) :
    (⟨before, q :: rest⟩ : Wording).text.toList =
      before.toList ++ q.marks.opening ::
        (q.name.toList ++ q.marks.closing :: (⟨q.after, rest⟩ : Wording).text.toList) := by
  simp

/-- Every name stands in the text. -/
theorem infix_of_mem_names {w : Wording} {name : String} (quoted : name ∈ w.names) :
    name.toList <:+: w.text.toList := by
  obtain ⟨q, member, rfl⟩ := List.mem_map.1 quoted
  have own : q.name.toList <:+: q.text.toList :=
    ⟨[q.marks.opening], q.marks.closing :: q.after.toList, by simp⟩
  have whole : q.text.toList <:+: w.quotations.flatMap (·.text.toList) := by
    rw [List.flatMap_def]
    exact List.infix_of_mem_flatten (List.mem_map_of_mem member)
  rw [toList_text]
  exact (own.trans whole).trans (List.suffix_append _ _).isInfix

end Wording

section Infix

variable {p before after : List Char} {c : Char}

/-- A text without a certain character stands before this character or behind it. -/
theorem infix_of_infix_append_cons (absent : c ∉ p) (inside : p <:+: before ++ c :: after) :
    p <:+: before ∨ p <:+: after := by
  obtain here | there | ⟨front, back, rfl, ends, begins⟩ := List.infix_append_iff.1 inside
  · exact .inl here
  · obtain begins | behind := List.infix_cons_iff.1 there
    · obtain rfl | ⟨rest, rfl, -⟩ := List.prefix_cons_iff.1 begins
      · exact .inl List.nil_infix
      · exact absurd List.mem_cons_self absent
    · exact .inr behind
  · -- What runs over the character holds it, unless it ends in front of it.
    obtain rfl | ⟨rest, rfl, -⟩ := List.prefix_cons_iff.1 begins
    · rw [List.append_nil]
      exact .inl ends.isInfix
    · exact absurd (List.mem_append_right _ List.mem_cons_self) absent

/-- **A text without marks that is not in the words of a wording is in a name.** -/
theorem Wording.exists_name_of_infix {w : Wording}
    (unmarked : ∀ marks : Marks, marks.opening ∉ p ∧ marks.closing ∉ p)
    (unsaid : ∀ said ∈ w.words, ¬ p <:+: said.toList) (inside : p <:+: w.text.toList) :
    ∃ name ∈ w.names, p <:+: name.toList := by
  obtain ⟨before, quotations⟩ := w
  induction quotations generalizing before with
  | nil =>
    refine absurd ?_ (unsaid before List.mem_cons_self)
    simpa using inside
  | cons q rest ih =>
    rw [toList_text_cons] at inside
    obtain ⟨noOpening, noClosing⟩ := unmarked q.marks
    have notBefore : ¬ p <:+: before.toList := unsaid before List.mem_cons_self
    have quoted := (infix_of_infix_append_cons noOpening inside).resolve_left notBefore
    obtain here | behind := infix_of_infix_append_cons noClosing quoted
    · exact ⟨q.name, List.mem_cons_self, here⟩
    · obtain ⟨name, member, within⟩ :=
        ih q.after (fun said among => unsaid said (List.mem_cons_of_mem _ among)) behind
      exact ⟨name, List.mem_cons_of_mem _ member, within⟩

end Infix

/-! ## What there is to be told -/

/-- The word for a section. -/
inductive SectionKind.Called : SectionKind → String → Prop
  | module : Called .module "module"
  | library : Called .library "library"
  | sdk : Called .sdk "sdk"
  | handler : Called .handler "handler"

/-- The word for a target, and its name. -/
inductive Target.Called : Target → String → String → Prop
  | module (name : String) : Called (.module name) "module" name
  | library (name : String) : Called (.library name) "library" name
  | sdk (name : String) : Called (.sdk name) "sdk" name

/-- What there is to be told at a checkpoint where a rule is broken: which name is at fault,
and in which section, which list or whose dependencies it stands. -/
inductive ProjectFile.Tells (f : ProjectFile) : Checkpoint → Wording → Prop
  | noModules (none : f.modules.names = []) :
      f.Tells .file ⟨"project must contain at least one [module.<name>] section", []⟩
  | badName {kind : SectionKind} {word name : String} (called : kind.Called word)
      (used : name ∈ f.sectionNames kind) (bad : ¬ PlainName name) :
      f.Tells (.name kind name) ⟨"invalid " ++ word ++ " name ",
        [⟨.apostrophes, name, " (allowed: letters, digits, '_', '.', '-')"⟩]⟩
  | notOneTarget {owner : String} {m : ModuleSection} {i : ℕ} {e : DependencyEntry}
      (owned : f.modules.get? owner = some m) (here : m.dependencies[i]? = some e)
      (none : ∀ target, ¬ e.NamesOnly target) :
      f.Tells (.entry owner i) ⟨"module ",
        [⟨.apostrophes, owner, " has a dependency entry that must name " ++
          "exactly one of `module`, `library` or `sdk`"⟩]⟩
  | selfDependency {owner : String} {m : ModuleSection} {i : ℕ} {e : DependencyEntry}
      (owned : f.modules.get? owner = some m) (here : m.dependencies[i]? = some e)
      (only : e.NamesOnly (.module owner)) :
      f.Tells (.entry owner i) ⟨"module ", [⟨.apostrophes, owner, " cannot depend on itself"⟩]⟩
  | unknownTarget {owner : String} {m : ModuleSection} {i : ℕ} {e : DependencyEntry}
      {target : Target} {word name : String} (owned : f.modules.get? owner = some m)
      (here : m.dependencies[i]? = some e) (only : e.NamesOnly target)
      (other : target ≠ .module owner) (missing : ¬ f.Offers target)
      (called : target.Called word name) :
      f.Tells (.entry owner i) ⟨"module ",
        [⟨.apostrophes, owner, " has unknown dependency " ++ word ++ " "⟩,
          ⟨.apostrophes, name, ""⟩]⟩
  | unknownRoot {i : ℕ} {name : String} (here : f.project.roots[i]? = some name)
      (missing : name ∉ f.modules.names) :
      f.Tells (.member .projectRoots i) ⟨"[project].roots references unknown module ",
        [⟨.apostrophes, name, ""⟩]⟩
  | unknownApplication {handler name : String} {h : HandlerSection} {i : ℕ}
      (owned : f.handlers.get? handler = some h) (here : h.appliesTo[i]? = some name)
      (missing : name ∉ f.modules.names) :
      f.Tells (.member (.appliesTo handler) i) ⟨"[handler",
        [⟨.dotAndBracket, handler, ".applies_to references unknown module "⟩,
          ⟨.apostrophes, name, ""⟩]⟩
  | unknownOnTests {handler name : String} {h : HandlerSection} {i : ℕ}
      (owned : f.handlers.get? handler = some h) (here : h.productionOnTests[i]? = some name)
      (missing : name ∉ f.modules.names) :
      f.Tells (.member (.productionOnTests handler) i) ⟨"[handler",
        [⟨.dotAndBracket, handler, ".production_on_tests references unknown module "⟩,
          ⟨.apostrophes, name, ""⟩]⟩

/-! ## Messages -/

theorem SectionKind.called_key (kind : SectionKind) : kind.Called kind.key := by
  cases kind <;> constructor

/-- An entry that names one thing is described by its kind and this name. -/
theorem DependencyEntry.NamesOnly.exists_called {e : DependencyEntry} {target : Target}
    (only : e.NamesOnly target) :
    ∃ word name, target.Called word name ∧ target.name? = some name ∧
      e.describe = word ++ " '" ++ name ++ "'" := by
  have targets : e.targets = [target] := namesOnly_iff.1 only
  cases only with
  | module => exact ⟨_, _, .module _, rfl, by simp [describe, targets]⟩
  | library => exact ⟨_, _, .library _, rfl, by simp [describe, targets]⟩
  | sdk => exact ⟨_, _, .sdk _, rfl, by simp [describe, targets]⟩

/-- The handler that a list of modules belongs to. -/
def ModuleList.names : ModuleList → List String
  | projectRoots => []
  | appliesTo handler | productionOnTests handler => [handler]

/-- The names that a message quotes. -/
def Violation.names : Violation → List String
  | noModules => []
  | badName _ name => [name]
  | notOneTarget owner | selfDependency owner => [owner]
  | unknownTarget owner e => owner :: e.targets.filterMap (·.name?)
  | unknownModule list name => list.names ++ [name]

namespace ProjectFile

variable {f : ProjectFile} {x : Checkpoint} {v : Violation} {w : Wording}

/-- **The message about a breach is what there is to be told at its checkpoint.** -/
theorem Breaks.exists_tells (breaks : f.Breaks x v) :
    ∃ w, f.Tells x w ∧ v.message = w.text ∧ v.names = w.names := by
  cases breaks with
  | noModules none => exact ⟨_, .noModules none, rfl, rfl⟩
  | @badName kind name used bad =>
    refine ⟨_, .badName kind.called_key used bad, String.toList_inj.1 ?_, rfl⟩
    simp [Violation.message]
  | @dependency owner m i e v owned here breaks =>
    cases breaks with
    | notOneTarget none =>
      refine ⟨_, .notOneTarget owned here none, String.toList_inj.1 ?_, rfl⟩
      simp [Violation.message]
    | selfDependency only =>
      refine ⟨_, .selfDependency owned here only, String.toList_inj.1 ?_, rfl⟩
      simp [Violation.message]
    | @unknownTarget target only other missing =>
      obtain ⟨word, name, called, named, described⟩ := only.exists_called
      refine ⟨_, .unknownTarget owned here only other missing called, String.toList_inj.1 ?_, ?_⟩
      · simp [Violation.message, described]
      · have targets := DependencyEntry.namesOnly_iff.1 only
        simp [Violation.names, Wording.names, targets, named]
  | @unknownModule list i name here missing =>
    cases list with
    | projectRoots =>
      refine ⟨_, .unknownRoot here missing, String.toList_inj.1 ?_, rfl⟩
      simp [Violation.message, ModuleList.describe]
    | appliesTo handler =>
      obtain ⟨h, owned, here⟩ := getElem?_handlerList.1 here
      refine ⟨_, .unknownApplication owned here missing, String.toList_inj.1 ?_, rfl⟩
      simp [Violation.message, ModuleList.describe]
    | productionOnTests handler =>
      obtain ⟨h, owned, here⟩ := getElem?_handlerList.1 here
      refine ⟨_, .unknownOnTests owned here missing, String.toList_inj.1 ?_, rfl⟩
      simp [Violation.message, ModuleList.describe]

/-! ### The placeholder -/

/-- What an entry that does not name one thing is called. -/
def placeholder : List Char :=
  "<ambiguous dependency>".toList

/-- The placeholder is not among the words of anything that is told. -/
theorem Tells.placeholder_unsaid (tells : f.Tells x w) :
    ∀ said ∈ w.words, ¬ placeholder <:+: said.toList := by
  cases tells
  -- In two cases there is a word for a kind among the words.
  case badName called _ _ =>
    cases called <;> simp only [Wording.words, List.map_cons, List.map_nil] <;> decide +kernel
  case unknownTarget called =>
    cases called <;> simp only [Wording.words, List.map_cons, List.map_nil] <;> decide +kernel
  all_goals
    simp only [Wording.words, List.map_cons, List.map_nil]
    decide +kernel

theorem placeholder_unmarked (marks : Marks) :
    marks.opening ∉ placeholder ∧ marks.closing ∉ placeholder := by
  cases marks <;> decide +kernel

/-- **The text of the placeholder stands only in names.** -/
theorem Breaks.exists_name_of_placeholder (breaks : f.Breaks x v)
    (inside : placeholder <:+: v.message.toList) :
    ∃ name ∈ v.names, placeholder <:+: name.toList := by
  obtain ⟨w, tells, text, names⟩ := breaks.exists_tells
  rw [text] at inside
  rw [names]
  exact Wording.exists_name_of_infix placeholder_unmarked tells.placeholder_unsaid inside

/-- No entry that is said to be unknown is described by the placeholder. -/
theorem Breaks.describe_ne {owner : String} {e : DependencyEntry}
    (breaks : f.Breaks x (.unknownTarget owner e)) : e.describe ≠ "<ambiguous dependency>" := by
  cases breaks with
  | dependency owned here breaks =>
    cases breaks with
    | unknownTarget only other missing =>
      obtain ⟨word, name, -, -, described⟩ := only.exists_called
      intro same
      have apostrophe : '\'' ∈ "<ambiguous dependency>".toList := by
        rw [← same, described]
        simp
      exact absurd apostrophe (by decide +kernel)

/-! ## Acceptance and refusal -/

/-- **A file is accepted, as it is, if and only if it keeps the rules, and is refused
with what is wrong at the first checkpoint at which a rule is broken.**  The message then
is what there is to be told at this checkpoint, word for word, and every name at fault
stands in it.  The placeholder for an entry that does not name one thing is never used:
where its text stands in a message, it stands in a name that the message quotes. -/
theorem validate_finds_first_breach (f : ProjectFile) :
    (∀ g, f.validate = .ok g ↔ g = f ∧ f.KeepsRules) ∧
      (∀ v, f.validate = .error v ↔ ∃ x, f.Breaks x v ∧ ∀ y w, f.Breaks y w → ¬ y.Before x) ∧
      (∀ v, f.validate = .error v → ∃ x wording, f.Breaks x v ∧
        (∀ y w, f.Breaks y w → ¬ y.Before x) ∧ f.Tells x wording ∧
        v.message = wording.text ∧ v.names = wording.names ∧
        ∀ name ∈ v.names, name.toList <:+: v.message.toList) ∧
      (∀ owner e, f.validate = .error (.unknownTarget owner e) →
        e.describe ≠ "<ambiguous dependency>") ∧
      ∀ v, f.validate = .error v → "<ambiguous dependency>".toList <:+: v.message.toList →
        ∃ name ∈ v.names, "<ambiguous dependency>".toList <:+: name.toList := by
  refine ⟨fun g => validate_eq_ok_iff, fun v => validate_eq_error_iff, fun v refused => ?_,
    fun owner e refused => ?_, fun v refused inside => ?_⟩
  · obtain ⟨x, breaks, first⟩ := validate_eq_error_iff.1 refused
    obtain ⟨wording, tells, text, names⟩ := breaks.exists_tells
    refine ⟨x, wording, breaks, first, tells, text, names, fun name quoted => ?_⟩
    rw [text]
    exact Wording.infix_of_mem_names (names ▸ quoted)
  · obtain ⟨x, breaks, -⟩ := validate_eq_error_iff.1 refused
    exact breaks.describe_ne
  · obtain ⟨x, breaks, -⟩ := validate_eq_error_iff.1 refused
    exact breaks.exists_name_of_placeholder inside

end ProjectFile

/-! ## Two refusals -/

namespace Refusing

/-- A module that depends on a library which the file does not have, and on itself. -/
def app : ModuleSection where
  dependencies := [{ module := some "web" }, { library := some "zip" }, { module := some "app" }]

/-- A file in which dependencies, roots and handlers refer to what it does not have. -/
def file : ProjectFile where
  project := { roots := ["ghost"] }
  modules := .ofList [("app", app), ("web", { dependencies := [{}] })]
  handlers := .ofList [("veto", { appliesTo := ["phantom"] })]

/-- A file with a handler that has the text of the placeholder for its name. -/
def misnamed : ProjectFile where
  modules := .ofList [("app", { dependencies := [{}] })]
  handlers := .ofList [("<ambiguous dependency>", {})]

theorem eq_one_of_zip {i : ℕ} (here : app.dependencies[i]? = some { library := some "zip" }) :
    i = 1 := by
  obtain ⟨bound, -⟩ := List.getElem?_eq_some_iff.1 here
  have places : ∀ i < 3, app.dependencies[i]? = some { library := some "zip" } → i = 1 := by
    decide
  exact places i bound here

/-- Of the breaches of the first file, the unknown library comes first, and it is named with
the module that depends on it.  In the second file nothing comes before the name, which
then stands in the message. -/
theorem offenders_are_named :
    (file.Breaks (.entry "app" 1) (.unknownTarget "app" { library := some "zip" }) ∧
      (∀ y w, file.Breaks y w → ¬ y.Before (.entry "app" 1)) ∧
      ∃ wording, file.Tells (.entry "app" 1) wording ∧
        wording.text = "module 'app' has unknown dependency library 'zip'" ∧
        wording.names = ["app", "zip"]) ∧
    misnamed.validate = .error (.badName .handler "<ambiguous dependency>") ∧
    "<ambiguous dependency>".toList <:+:
      (Violation.badName .handler "<ambiguous dependency>").message.toList := by
  have refused : file.validate =
      .error (.unknownTarget "app" { library := some "zip" }) := by rfl
  have refused' : misnamed.validate = .error (.badName .handler "<ambiguous dependency>") := by
    rfl
  obtain ⟨-, -, told, -⟩ := ProjectFile.validate_finds_first_breach file
  obtain ⟨-, -, told', -⟩ := ProjectFile.validate_finds_first_breach misnamed
  obtain ⟨x, wording, breaks, first, tells, text, names, -⟩ := told _ refused
  obtain ⟨-, -, -, -, -, -, -, stands⟩ := told' _ refused'
  have place : x = .entry "app" 1 := by
    cases breaks with
    | dependency owned here breaks =>
      cases breaks with
      | unknownTarget =>
        obtain rfl : app = _ := Option.some.inj owned
        rw [eq_one_of_zip here]
  subst place
  refine ⟨⟨breaks, first, wording, tells, text.symm, names.symm⟩, refused', ?_⟩
  exact stands _ (List.mem_singleton_self _)

end Refusing

end Classpath
