import Classpath.Proofs.ProjectFile.Locality
import Classpath.Proofs.ProjectFile.Validation
import Classpath.Proofs.Roots.Provenance
import Classpath.Text.Basic

/-!
# Lines that show dependencies

A dependency is shown on a line of its own: the module that declares it, an arrow, the
target, and its scope and exported flag in brackets if it has them.  All this is written
one behind the other, without quotes.  It can still be read back, because the names of a
checked file are plain words.  The owner ends at the first blank, the target tells its kind
by its first character, its name ends at the next blank or with the line, and what follows
is one of finitely many texts.  As no name holds a line end, neither does a line, so
that a printed list is cut into its lines at the line ends.

## Main definitions

* `Dependency.Plain` — the owner and the target of a dependency have plain names
* `Dependency.OfCheckedFile` — a file that was accepted gives rise to the dependency

## Main statements

* `Text.splitLines_unlines` — the lines of a text made of lines
* `Dependency.display_inj` — a plain dependency is known by its line
* `Dependency.printed_lines_determine` — a list of dependencies is known by its text
-/

namespace Classpath

/-- Lists that are cut at the first occurrence of an element have the same parts. -/
theorem cut_inj {α : Type} [DecidableEq α] {c : α} {xs ys xs' ys' : List α} (first : c ∉ xs)
    (first' : c ∉ xs') (same : xs ++ c :: ys = xs' ++ c :: ys') : xs = xs' ∧ ys = ys' := by
  have parts := congrArg (List.splitOn c) same
  rw [List.splitOn_append_cons_self, List.splitOn_append_cons_self,
    List.splitOn_eq_singleton first, List.splitOn_eq_singleton first'] at parts
  obtain rfl : xs = xs' := List.head_eq_of_cons_eq parts
  exact ⟨rfl, List.tail_eq_of_cons_eq (List.append_cancel_left same)⟩

namespace Text

variable {lines lines' : List String}

/-- **The lines of a text made of lines**, and what stands behind the last line end. -/
theorem splitLines_unlines (single : ∀ line ∈ lines, '\n' ∉ line.toList) :
    splitLines (unlines lines) = lines ++ [""] := by
  induction lines with
  | nil => rfl
  | cons line rest ih =>
    obtain ⟨here, others⟩ := List.forall_mem_cons.1 single
    have written : (unlines (line :: rest)).toList =
        line.toList ++ '\n' :: (unlines rest).toList := by
      simp [unlines, String.join_cons]
    rw [splitLines, written, List.splitOn_append_cons_self, List.splitOn_eq_singleton here,
      List.map_append, List.map_singleton, String.ofList_toList]
    exact congrArg (line :: ·) (ih others)

/-- A text made of lines determines them. -/
theorem unlines_inj (single : ∀ line ∈ lines, '\n' ∉ line.toList)
    (single' : ∀ line ∈ lines', '\n' ∉ line.toList) (same : unlines lines = unlines lines') :
    lines = lines' := by
  have cut := congrArg splitLines same
  rw [splitLines_unlines single, splitLines_unlines single'] at cut
  exact List.append_cancel_right cut

end Text

/-- A plain name holds no other characters. -/
theorem PlainName.not_mem {name : String} (plain : PlainName name) {c : Char}
    (other : isNameChar c = false) : c ∉ name.toList := by
  intro member
  rw [isNameChar_iff.2 (plain.plain c member)] at other
  contradiction

/-! ## Behind the target -/

namespace Extension

/-- What is shown behind the target of a dependency. -/
def shown : Option Extension → String
  | some e => " " ++ e.display
  | none => ""

theorem display_injective : Function.Injective display := by
  rintro ⟨scope, exported⟩ ⟨scope', exported'⟩ same
  cases scope <;> cases scope' <;> cases exported <;> cases exported' <;>
    simp_all [display, Scope.name]

theorem shown_injective : Function.Injective shown := by
  intro e e' same
  cases e <;> cases e' <;> simp_all [shown, display_injective.eq_iff]

end Extension

/-- A word without blanks in front of an extension, or of none, ends where it ends. -/
theorem append_shown_inj {word word' : String} (blankless : ' ' ∉ word.toList)
    (blankless' : ' ' ∉ word'.toList) {e e' : Option Extension}
    (same : word ++ Extension.shown e = word' ++ Extension.shown e') : word = word' ∧ e = e' := by
  -- With a blank at the end, there is a blank behind the word in any case.
  have padded : ∀ e, ∃ rest, (Extension.shown e).toList ++ [' '] = ' ' :: rest := by
    intro e
    cases e with
    | none => exact ⟨[], rfl⟩
    | some e => exact ⟨e.display.toList ++ [' '], by simp [Extension.shown]⟩
  obtain ⟨rest, first⟩ := padded e
  obtain ⟨rest', first'⟩ := padded e'
  have chars : word.toList ++ ' ' :: rest = word'.toList ++ ' ' :: rest' := by
    rw [← first, ← first', ← List.append_assoc, ← List.append_assoc, ← String.toList_append,
      ← String.toList_append, same]
  obtain rfl : word = word' := String.toList_inj.1 (cut_inj blankless blankless' chars).1
  exact ⟨rfl, Extension.shown_injective ((String.append_right_inj _).1 same)⟩

/-! ## Plain dependencies -/

namespace Dependency

/-- The module that declares the dependency and what it points at have plain names. -/
structure Plain (d : Dependency) : Prop where
  owner : PlainName d.owner
  target : ∀ name ∈ d.target.name?, PlainName name

theorem display_eq (d : Dependency) :
    d.display = d.owner ++ " -> " ++ d.target.display ++ Extension.shown d.extension := by
  unfold display Extension.shown
  cases d.extension <;> rfl

/-- **What stands behind the arrow** tells the target and the extension. -/
theorem target_inj {t t' : Target} (plain : ∀ name ∈ t.name?, PlainName name)
    (plain' : ∀ name ∈ t'.name?, PlainName name) {e e' : Option Extension}
    (same : t.display ++ Extension.shown e = t'.display ++ Extension.shown e') :
    t = t' ∧ e = e' := by
  have named : ∀ {kind name name' : String}, PlainName name → PlainName name' →
      kind ++ name ++ Extension.shown e = kind ++ name' ++ Extension.shown e' →
        name = name' ∧ e = e' := by
    intro kind name name' plain plain' same
    rw [String.append_assoc, String.append_assoc, String.append_right_inj] at same
    exact append_shown_inj (plain.not_mem (by decide)) (plain'.not_mem (by decide)) same
  cases t <;> cases t'
  case source.source =>
    exact ⟨rfl, Extension.shown_injective ((String.append_right_inj _).1 same)⟩
  case module.module name name' =>
    obtain ⟨rfl, rfl⟩ := named (plain name rfl) (plain' name' rfl) same
    exact ⟨rfl, rfl⟩
  case library.library name name' =>
    obtain ⟨rfl, rfl⟩ := named (plain name rfl) (plain' name' rfl) same
    exact ⟨rfl, rfl⟩
  case sdk.sdk name name' =>
    obtain ⟨rfl, rfl⟩ := named (plain name rfl) (plain' name' rfl) same
    exact ⟨rfl, rfl⟩
  -- Targets of two kinds are shown with two different characters at the beginning.
  all_goals simp [Target.display, ← String.toList_inj] at same

/-- **A plain dependency is known by its line.** -/
theorem display_inj {d d' : Dependency} (plain : d.Plain) (plain' : d'.Plain)
    (same : d.display = d'.display) : d = d' := by
  obtain ⟨owner, target, extension⟩ := d
  obtain ⟨owner', target', extension'⟩ := d'
  have chars :
      owner.toList ++ ' ' :: ("-> " ++ (target.display ++ Extension.shown extension)).toList =
        owner'.toList ++ ' ' ::
          ("-> " ++ (target'.display ++ Extension.shown extension')).toList := by
    simpa [display_eq, ← String.toList_inj] using same
  obtain ⟨owners, behind⟩ := cut_inj (plain.owner.not_mem (by decide))
    (plain'.owner.not_mem (by decide)) chars
  obtain rfl : owner = owner' := String.toList_inj.1 owners
  obtain ⟨rfl, rfl⟩ := target_inj plain.target plain'.target
    ((String.append_right_inj _).1 (String.toList_inj.1 behind))
  rfl

/-- The line of a plain dependency is one line. -/
theorem Plain.single {d : Dependency} (plain : d.Plain) : '\n' ∉ d.display.toList := by
  have owner : '\n' ∉ d.owner.toList := plain.owner.not_mem (by decide)
  have target : '\n' ∉ d.target.display.toList := by
    have named : ∀ name ∈ d.target.name?, '\n' ∉ name.toList :=
      fun name member => (plain.target name member).not_mem (by decide)
    cases points : d.target <;> simp_all [Target.display, Target.name?]
  have extension : '\n' ∉ (Extension.shown d.extension).toList := by
    obtain _ | ⟨scope, exported⟩ := d.extension
    · simp [Extension.shown]
    · cases scope <;> cases exported <;> simp [Extension.shown, Extension.display, Scope.name]
  simp [display_eq, owner, target, extension]

/-- Plain dependencies are shown on one line each. -/
theorem single_of_plain {ds : List Dependency} (plain : ∀ d ∈ ds, d.Plain) :
    ∀ line ∈ ds.map display, '\n' ∉ line.toList := by
  intro line member
  obtain ⟨d, listed, rfl⟩ := List.mem_map.1 member
  exact (plain d listed).single

/-- Plain dependencies are known by their lines. -/
theorem map_display_inj {ds ds' : List Dependency} (plain : ∀ d ∈ ds, d.Plain)
    (plain' : ∀ d ∈ ds', d.Plain) (same : ds.map display = ds'.map display) : ds = ds' := by
  induction ds generalizing ds' with
  | nil => exact (List.map_eq_nil_iff.1 same.symm).symm
  | cons d rest ih =>
    cases ds' with
    | nil => contradiction
    | cons d' rest' =>
      obtain ⟨here, others⟩ := List.cons_eq_cons.1 same
      obtain ⟨first, later⟩ := List.forall_mem_cons.1 plain
      obtain ⟨first', later'⟩ := List.forall_mem_cons.1 plain'
      rw [display_inj first first' here, ih later later' others]

/-! ## Dependencies of checked files -/

/-- The dependency is one of a module of a file that was accepted. -/
def OfCheckedFile (d : Dependency) : Prop :=
  ∃ (f g : ProjectFile) (base : Path) (m : Module), f.validate = .ok g ∧
    m ∈ (g.toProject base).modules ∧ d ∈ m.dependencies

end Dependency

/-- In a file that keeps the rules, all dependencies are plain. -/
theorem ProjectFile.KeepsRules.plain {f : ProjectFile} (rules : f.KeepsRules) {base : Path}
    {m : Module} {d : Dependency} (member : m ∈ (f.toProject base).modules)
    (declared : d ∈ m.dependencies) : d.Plain := by
  obtain ⟨⟨name, s⟩, entry, rfl⟩ := List.mem_map.1 member
  have owned : f.modules.get? name = some s := NameTable.get?_eq_some_iff.2 entry
  refine ⟨?_, fun target named => ?_⟩
  · rw [f.ownsEdges_toProject base _ member d declared]
    exact rules.names .module name (NameTable.mem_names_iff.2 ⟨s, owned⟩)
  · have found : (f.toProject base).module? name = some (s.toModule base name) := by
      rw [module?_toProject, owned, Option.map_some]
    obtain ⟨own, -⟩ | ⟨s', owned', e, listed, mentioned⟩ := own_or_mentioned found declared
    · simp [own, Target.name?] at named
    · obtain ⟨only, names, -, offered⟩ := rules.dependencies name s' owned' e listed
      rw [DependencyEntry.namesOnly_iff.1 names, List.mem_singleton] at mentioned
      rw [mentioned] at named
      cases only with
      | source => exact offered.elim
      | module other =>
        obtain rfl : other = target := Option.some.inj named
        exact rules.names .module other offered
      | library other =>
        obtain rfl : other = target := Option.some.inj named
        exact rules.names .library other offered
      | sdk other =>
        obtain rfl : other = target := Option.some.inj named
        exact rules.names .sdk other offered

namespace Dependency

theorem OfCheckedFile.plain {d : Dependency} (checked : d.OfCheckedFile) : d.Plain := by
  obtain ⟨f, g, base, m, accepted, member, declared⟩ := checked
  obtain ⟨rfl, rules⟩ := ProjectFile.validate_eq_ok_iff.1 accepted
  exact rules.plain member declared

/-- **A list of dependencies is known by its text.**  Take two lists of dependencies, each of
which is declared by a module of some accepted file.  If the texts that are printed for
them, a line each, are equal, then the lists are: they have the same length, and place
by place the same owner, the same target and the same scope and exported flag, or none. -/
theorem printed_lines_determine (ds ds' : List Dependency) (checked : ∀ d ∈ ds, d.OfCheckedFile)
    (checked' : ∀ d ∈ ds', d.OfCheckedFile)
    (same : Text.unlines (ds.map display) = Text.unlines (ds'.map display)) : ds = ds' := by
  have plain : ∀ d ∈ ds, d.Plain := fun d member => (checked d member).plain
  have plain' : ∀ d ∈ ds', d.Plain := fun d member => (checked' d member).plain
  exact map_display_inj plain plain' (Text.unlines_inj (single_of_plain plain)
    (single_of_plain plain') same)

end Dependency

/-! ## Names that look like kinds and scopes -/

namespace Wordy

/-- A file whose names are the words that lines are made of. -/
def file : ProjectFile where
  libraries := .ofList [("module", {}), ("test-compile", {})]
  sdks := .ofList [("sdk", {})]
  modules := .ofList [
    ("library", { dependencies := [{ library := some "module", exported := some true },
                    { library := some "test-compile", scope := some .test },
                    { sdk := some "sdk" }] }),
    ("source", { dependencies := [{ module := some "library", scope := some .provided }] })]

/-- The dependencies of all modules, with the file in a directory. -/
def edges (base : Path) : List Dependency :=
  (file.toProject base).modules.flatMap Module.dependencies

/-- The texts for the file in two directories are equal, and so are the dependencies. -/
theorem edges_known_by_lines :
    (∀ base, ∀ d ∈ edges base, d.OfCheckedFile) ∧ (edges ⟨"/"⟩).length = 6 ∧
      edges ⟨"/"⟩ = edges ⟨"/work"⟩ := by
  have unbroken : file.violations = [] := by decide +kernel
  have accepted : file.validate = .ok file := by rw [ProjectFile.validate, unbroken]
  have checked : ∀ base, ∀ d ∈ edges base, d.OfCheckedFile := by
    intro base d listed
    obtain ⟨m, member, declared⟩ := List.mem_flatMap.1 listed
    exact ⟨file, file, base, m, accepted, member, declared⟩
  exact ⟨checked, by decide +kernel, Dependency.printed_lines_determine (edges ⟨"/"⟩)
    (edges ⟨"/work"⟩) (checked _) (checked _) rfl⟩

end Wordy

end Classpath
