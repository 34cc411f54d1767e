import Classpath.ProjectFile.Violation
import Mathlib.Data.Nat.Notation
import Mathlib.Tactic.Choose

/-!
# Checkpoints of a project file

A rule is broken at a checkpoint: at the file as a whole, at a name, at an entry of a
dependency list, or at a member of a list of modules.  Checkpoints are passed in a
fixed order, stage by stage, and what is reported is the breach at the first of them.

That a list holds the breaches of some rule in the order of their checkpoints
(`Enumerates`) is shown piece by piece: for one list, where a checkpoint is an index
(`Enumerates.filterMap`), for two lists that follow each other
(`Enumerates.append`), and for a list of lists (`Enumerates.flatMap`).

## Main definitions

* `Checkpoint`, `Checkpoint.Before` — checkpoints and the order in which they are passed
* `Enumerates` — a list of violations holds the breaches of a rule in order

## Main statements

* `Enumerates.head?_eq_some_iff` — the first violation is the one at the first
  checkpoint
-/

namespace Classpath

/-- What is looked at together: the whole file, the names of a section, the
dependencies, the root modules, and the module lists of the handlers. -/
inductive Stage
  | file
  | names (kind : SectionKind)
  | dependencies
  | roots
  | handlers
deriving DecidableEq

namespace Stage

/-- The stages in their order. -/
def all : List Stage :=
  [file, names .module, names .library, names .sdk, names .handler, dependencies, roots, handlers]

/-- When a stage comes. -/
def rank : Stage → ℕ
  | file => 0
  | names .module => 1
  | names .library => 2
  | names .sdk => 3
  | names .handler => 4
  | dependencies => 5
  | roots => 6
  | handlers => 7

theorem mem_all (stage : Stage) : stage ∈ all := by
  rcases stage with _ | kind | _ | _ | _
  case names => cases kind <;> decide
  all_goals decide

theorem pairwise_all : all.Pairwise fun a b => a.rank < b.rank := by
  decide

end Stage

/-- Where a rule can be broken. -/
inductive Checkpoint
  | file
  | name (kind : SectionKind) (name : String)
  /-- The entry at a position in the dependency list of a module. -/
  | entry (owner : String) (position : ℕ)
  /-- The member at a position in a list of modules. -/
  | member (list : ModuleList) (position : ℕ)

namespace Checkpoint

/-- The stage to which a checkpoint belongs. -/
def stage : Checkpoint → Stage
  | file => .file
  | name kind _ => .names kind
  | entry _ _ => .dependencies
  | member .projectRoots _ => .roots
  | member (.appliesTo _) _ | member (.productionOnTests _) _ => .handlers

/-- The name under which a checkpoint stands in its section. -/
def heading : Checkpoint → String
  | file => ""
  | name _ word => word
  | entry owner _ => owner
  | member .projectRoots _ => ""
  | member (.appliesTo handler) _ | member (.productionOnTests handler) _ => handler

/-- Of the lists under one name, the one in which a checkpoint stands: a handler says what
it applies to before it says what is on tests. -/
def part : Checkpoint → ℕ
  | member (.productionOnTests _) _ => 1
  | _ => 0

/-- The position in a list. -/
def position : Checkpoint → ℕ
  | entry _ position | member _ position => position
  | _ => 0

/-- The first checkpoint is passed before the second: in an earlier stage, or under a
smaller name, or in an earlier list, or at an earlier position. -/
def Before (x y : Checkpoint) : Prop :=
  x.stage.rank < y.stage.rank ∨ x.stage = y.stage ∧
    (x.heading < y.heading ∨ x.heading = y.heading ∧
      (x.part < y.part ∨ x.part = y.part ∧ x.position < y.position))

theorem Before.asymm {x y : Checkpoint} (before : x.Before y) : ¬ y.Before x := by
  rintro (stage' | ⟨sameStage', heading' | ⟨sameHeading', inner'⟩⟩) <;>
    obtain stage | ⟨sameStage, heading | ⟨sameHeading, inner⟩⟩ := before
  · omega
  · rw [sameStage] at stage'
    omega
  · rw [sameStage] at stage'
    omega
  · rw [sameStage'] at stage
    omega
  · exact String.lt_asymm heading heading'
  · rw [sameHeading] at heading'
    exact String.lt_irrefl _ heading'
  · rw [sameStage'] at stage
    omega
  · rw [sameHeading'] at heading
    exact String.lt_irrefl _ heading
  · omega

/-! The cases in which two checkpoints differ in one respect. -/

theorem before_name {kind : SectionKind} {a b : String} (less : a < b) :
    (name kind a).Before (name kind b) :=
  .inr ⟨rfl, .inl less⟩

theorem before_owner {a b : String} (less : a < b) (i j : ℕ) :
    (entry a i).Before (entry b j) :=
  .inr ⟨rfl, .inl less⟩

theorem before_entry {owner : String} {i j : ℕ} (less : i < j) :
    (entry owner i).Before (entry owner j) :=
  .inr ⟨rfl, .inr ⟨rfl, .inr ⟨rfl, less⟩⟩⟩

theorem before_member (list : ModuleList) {i j : ℕ} (less : i < j) :
    (member list i).Before (member list j) := by
  cases list <;> exact .inr ⟨rfl, .inr ⟨rfl, .inr ⟨rfl, less⟩⟩⟩

theorem before_productionOnTests (handler : String) (i j : ℕ) :
    (member (.appliesTo handler) i).Before (member (.productionOnTests handler) j) :=
  .inr ⟨rfl, .inr ⟨rfl, .inl Nat.zero_lt_one⟩⟩

end Checkpoint

/-- The list holds the violations of a rule in the order of the checkpoints at which the
rule is broken. -/
def Enumerates (breaks : Checkpoint → Violation → Prop) (vs : List Violation) : Prop :=
  ∃ located : List (Checkpoint × Violation),
    located.map (·.2) = vs ∧ located.Pairwise (fun a b => a.1.Before b.1) ∧
      ∀ x v, (x, v) ∈ located ↔ breaks x v

namespace Enumerates

variable {α : Type} {breaks breaks' : Checkpoint → Violation → Prop} {vs vs' : List Violation}

theorem congr (enumerates : Enumerates breaks vs) (same : ∀ x v, breaks x v ↔ breaks' x v) :
    Enumerates breaks' vs := by
  obtain ⟨located, rfl, sorted, members⟩ := enumerates
  exact ⟨located, rfl, sorted, fun x v => (members x v).trans (same x v)⟩

theorem nil (unbroken : ∀ x v, ¬ breaks x v) : Enumerates breaks [] :=
  ⟨[], rfl, .nil, fun x v => by simp [unbroken x v]⟩

theorem singleton (x : Checkpoint) (v : Violation) : Enumerates (fun y w => y = x ∧ w = v) [v] :=
  ⟨[(x, v)], rfl, List.pairwise_singleton _ _, fun y w => by simp⟩

/-- The elements of a list that break a rule, each at its own checkpoint. -/
theorem map_of_pairwise {l : List α} {place : α → Checkpoint} {violation : α → Violation}
    (sorted : l.Pairwise fun a b => (place a).Before (place b)) :
    Enumerates (fun x v => ∃ a ∈ l, x = place a ∧ v = violation a) (l.map violation) := by
  refine ⟨l.map fun a => (place a, violation a), ?_, List.pairwise_map.2 sorted, fun x v => ?_⟩
  · rw [List.map_map]
    rfl
  · simp only [List.mem_map, Prod.mk.injEq, eq_comm]

/-- What the elements of a list break, each at the checkpoint of its position. -/
theorem filterMap {l : List α} {breach : α → Option Violation} (place : ℕ → Checkpoint)
    (sorted : ∀ i j, i < j → (place i).Before (place j)) :
    Enumerates (fun x v => ∃ i a, l[i]? = some a ∧ breach a = some v ∧ x = place i)
      (l.filterMap breach) := by
  have whole : l.filterMap breach = l.zipIdx.filterMap fun a => breach a.1 :=
    calc l.filterMap breach
      _ = (l.zipIdx.map (·.1)).filterMap breach := by rw [List.zipIdx_map_fst]
      _ = l.zipIdx.filterMap fun a => breach a.1 := List.filterMap_map
  have positions : l.zipIdx.Pairwise fun a b => a.2 < b.2 := by
    rw [← List.pairwise_map, List.zipIdx_map_snd]
    exact List.pairwise_lt_range'
  -- Every element keeps its position beside it, and with it its checkpoint.
  refine ⟨l.zipIdx.filterMap fun a => (breach a.1).map (place a.2, ·), ?_, ?_, fun x v => ?_⟩
  · rw [whole, List.map_filterMap]
    congr 1
    funext a
    cases breach a.1 <;> rfl
  · refine List.pairwise_filterMap.2 (positions.imp ?_)
    intro a b less c hc d hd
    obtain ⟨-, -, rfl⟩ := Option.map_eq_some_iff.1 hc
    obtain ⟨-, -, rfl⟩ := Option.map_eq_some_iff.1 hd
    exact sorted _ _ less
  · rw [List.mem_filterMap]
    constructor
    · rintro ⟨⟨a, i⟩, member, given⟩
      obtain ⟨u, broken, same⟩ := Option.map_eq_some_iff.1 given
      obtain ⟨rfl, rfl⟩ := Prod.mk.inj same
      exact ⟨i, a, List.mem_zipIdx_iff_getElem?.1 member, broken, rfl⟩
    · rintro ⟨i, a, here, broken, rfl⟩
      exact ⟨(a, i), List.mem_zipIdx_iff_getElem?.2 here, by simp [broken]⟩

/-- One list after another, if all checkpoints of the first come before those of the second. -/
theorem append (first : Enumerates breaks vs) (second : Enumerates breaks' vs')
    (apart : ∀ x v y w, breaks x v → breaks' y w → x.Before y) :
    Enumerates (fun x v => breaks x v ∨ breaks' x v) (vs ++ vs') := by
  obtain ⟨located, rfl, sorted, members⟩ := first
  obtain ⟨located', rfl, sorted', members'⟩ := second
  refine ⟨located ++ located', by simp, ?_, fun x v => ?_⟩
  · refine List.pairwise_append.2 ⟨sorted, sorted', ?_⟩
    intro a ha b hb
    exact apart a.1 a.2 b.1 b.2 ((members _ _).1 ha) ((members' _ _).1 hb)
  · rw [List.mem_append, members, members']

/-- The lists of the elements of a list, if the checkpoints under one element come
before those under the next. -/
theorem flatMap {l : List α} {breaksOf : α → Checkpoint → Violation → Prop}
    {violationsOf : α → List Violation} (each : ∀ a, Enumerates (breaksOf a) (violationsOf a))
    (apart : l.Pairwise fun a b => ∀ x v y w, breaksOf a x v → breaksOf b y w → x.Before y) :
    Enumerates (fun x v => ∃ a ∈ l, breaksOf a x v) (l.flatMap violationsOf) := by
  choose located same sorted members using each
  refine ⟨l.flatMap located, ?_, ?_, fun x v => ?_⟩
  · rw [List.map_flatMap]
    simp only [same]
  · refine List.pairwise_flatMap.2 ⟨fun a _ => sorted a, apart.imp ?_⟩
    intro a b before c hc d hd
    exact before c.1 c.2 d.1 d.2 ((members a _ _).1 hc) ((members b _ _).1 hd)
  · simp only [List.mem_flatMap, members]

/-- **The first violation is the one at the first checkpoint.** -/
theorem head?_eq_some_iff (enumerates : Enumerates breaks vs) {v : Violation} :
    vs.head? = some v ↔ ∃ x, breaks x v ∧ ∀ y w, breaks y w → ¬ y.Before x := by
  obtain ⟨located, rfl, sorted, members⟩ := enumerates
  cases located with
  | nil => simp [← members]
  | cons first rest =>
    obtain ⟨z, u⟩ := first
    obtain ⟨below, -⟩ := List.pairwise_cons.1 sorted
    have least : ∀ y w, breaks y w → ¬ y.Before z := by
      intro y w broken before
      rcases List.mem_cons.1 ((members y w).2 broken) with here | later
      · obtain rfl : y = z := (Prod.mk.inj here).1
        exact before.asymm before
      · exact before.asymm (below _ later)
    rw [List.map_cons, List.head?_cons, Option.some.injEq]
    constructor
    · rintro rfl
      exact ⟨z, (members z u).1 List.mem_cons_self, least⟩
    · rintro ⟨x, broken, earliest⟩
      rcases List.mem_cons.1 ((members x v).2 broken) with here | later
      · exact (Prod.mk.inj here).2.symm
      · exact absurd (below _ later) (earliest z u ((members z u).1 List.mem_cons_self))

theorem eq_nil_iff (enumerates : Enumerates breaks vs) : vs = [] ↔ ∀ x v, ¬ breaks x v := by
  obtain ⟨located, rfl, -, members⟩ := enumerates
  rw [List.map_eq_nil_iff, List.eq_nil_iff_forall_not_mem, Prod.forall]
  exact forall₂_congr fun x v => not_congr (members x v)

end Enumerates

end Classpath
