import Classpath.Session.Roots
import Mathlib.Data.List.Induction

/-!
# First occurrences

Paths, modules and libraries are listed each once: of the elements with one key
the first is kept, as it stands.  The views of a session take the whole list and
erase repetitions from it; the roots are collected one after the other, and a
table tells which were seen.  Both come to the same, because a list that grows
at its end either keeps its first occurrences or gains the new element
(`distinct_concat`).

## Main definitions

* `distinct` — the elements of a list that no earlier element has the key of

## Main statements

* `distinct_concat` — one element more
* `mem_distinct_iff` — which elements are kept
* `pairwise_distinct_filterMap` — in which order they are kept
* `RootSink.roots_extend` — the sink collects first occurrences
* `Session.rootPaths_eq_distinct` — the roots of a session
-/

namespace Classpath

section

variable {α κ : Type} [DecidableEq κ] {key : α → κ}

/-- The elements of a list that no earlier element has the key of. -/
def distinct (key : α → κ) (l : List α) : List α :=
  l.eraseDupsBy fun a b => key a == key b

@[simp] theorem distinct_nil : distinct key [] = [] := rfl

theorem distinct_cons (a : α) (l : List α) :
    distinct key (a :: l) = a :: distinct key (l.filter fun b => key b ≠ key a) := by
  simp only [distinct, List.eraseDupsBy_cons]
  congr 2
  apply List.filter_congr
  intro b _
  by_cases same : key b = key a <;> simp [same]

/-- Induction along `distinct_cons`: the rest of a list is considered without the
elements that have the key of the first. -/
theorem distinct_induction (key : α → κ) {P : List α → Prop} (nil : P [])
    (cons : ∀ a l, P (l.filter fun b => key b ≠ key a) → P (a :: l)) : ∀ l, P l
  | [] => nil
  | a :: l => cons a l (distinct_induction key nil cons (l.filter fun b => key b ≠ key a))
termination_by l => l.length
decreasing_by
  rw [List.length_cons, Nat.lt_succ_iff]
  exact List.length_filter_le _ l

/-- An element at the end is kept if and only if its key is new. -/
theorem distinct_concat (l : List α) (a : α) :
    distinct key (l ++ [a]) =
      if key a ∈ l.map key then distinct key l else distinct key l ++ [a] := by
  induction l using distinct_induction key with
  | nil => simp [distinct_cons]
  | cons b l ih =>
    rw [List.cons_append, distinct_cons, distinct_cons, List.filter_append]
    by_cases same : key a = key b
    · simp [same]
    · have member : key a ∈ (l.filter fun c => key c ≠ key b).map key ↔
          key a ∈ (b :: l).map key := by
        simp only [List.mem_map, List.mem_filter, List.map_cons, List.mem_cons, same, false_or,
          decide_eq_true_eq]
        constructor
        · rintro ⟨c, ⟨hc, -⟩, equal⟩
          exact ⟨c, hc, equal⟩
        · rintro ⟨c, hc, equal⟩
          exact ⟨c, ⟨hc, equal ▸ same⟩, equal⟩
      have kept : [a].filter (fun c => key c ≠ key b) = [a] := by simp [same]
      rw [kept, ih]
      by_cases known : key a ∈ (b :: l).map key
      · rw [if_pos (member.2 known), if_pos known]
      · rw [if_neg (mt member.1 known), if_neg known, List.cons_append]

/-- No key is lost. -/
theorem mem_map_distinct {l : List α} {k : κ} : k ∈ (distinct key l).map key ↔ k ∈ l.map key := by
  induction l using List.reverseRecOn with
  | nil => rfl
  | append_singleton l a ih =>
    rw [distinct_concat]
    by_cases known : key a ∈ l.map key
    · have again : k = key a → k ∈ l.map key := fun same => same ▸ known
      rw [if_pos known, ih, List.map_append, List.mem_append, List.map_singleton,
        List.mem_singleton, or_iff_left_of_imp again]
    · rw [if_neg known, List.map_append, List.map_append, List.mem_append, List.mem_append, ih]

/-- An element is kept if and only if it stands in the list with no element of its
key before it. -/
theorem mem_distinct_iff {l : List α} {a : α} :
    a ∈ distinct key l ↔
      ∃ before after, l = before ++ a :: after ∧ ∀ b ∈ before, key b ≠ key a := by
  induction l using List.reverseRecOn with
  | nil => simp
  | append_singleton l c ih =>
    -- Either `a` stands in `l` already, or it is the new element.
    have splits : (∃ before after, l ++ [c] = before ++ a :: after ∧ ∀ b ∈ before, key b ≠ key a) ↔
        (∃ before after, l = before ++ a :: after ∧ ∀ b ∈ before, key b ≠ key a) ∨
          a = c ∧ key c ∉ l.map key := by
      constructor
      · rintro ⟨before, after, whole, new⟩
        obtain rfl | ⟨after, d, rfl⟩ := List.eq_nil_or_concat after
        · obtain ⟨rfl, last⟩ := List.append_inj' whole rfl
          obtain rfl : c = a := List.head_eq_of_cons_eq last
          refine .inr ⟨rfl, ?_⟩
          rw [List.mem_map]
          rintro ⟨b, hb, same⟩
          exact new b hb same
        · rw [List.concat_eq_append, ← List.cons_append, ← List.append_assoc] at whole
          obtain ⟨rfl, -⟩ := List.append_inj' whole rfl
          exact .inl ⟨before, after, rfl, new⟩
      · rintro (⟨before, after, rfl, new⟩ | ⟨rfl, new⟩)
        · exact ⟨before, after ++ [c], by simp, new⟩
        · exact ⟨l, [], rfl, fun b hb same => new (List.mem_map.2 ⟨b, hb, same⟩)⟩
    rw [splits, ← ih, distinct_concat]
    by_cases known : key c ∈ l.map key <;> simp [known]

/-- No key is kept twice. -/
theorem nodup_map_distinct (l : List α) : ((distinct key l).map key).Nodup := by
  induction l using List.reverseRecOn with
  | nil => exact .nil
  | append_singleton l a ih =>
    rw [distinct_concat]
    by_cases known : key a ∈ l.map key
    · rwa [if_pos known]
    · have new : key a ∉ (distinct key l).map key := mt mem_map_distinct.1 known
      rw [if_neg known, List.map_append, List.nodup_append]
      refine ⟨ih, by simp, fun k here k' last => ?_⟩
      rw [List.map_singleton, List.mem_singleton] at last
      exact last ▸ ne_of_mem_of_not_mem here new

/-- A list in which no key is twice is kept as it is. -/
theorem distinct_of_nodup {l : List α} (once : (l.map key).Nodup) : distinct key l = l := by
  induction l using List.reverseRecOn with
  | nil => rfl
  | append_singleton l a ih =>
    rw [List.map_append, List.map_singleton, List.nodup_append] at once
    obtain ⟨before, -, apart⟩ := once
    have new : key a ∉ l.map key := fun known => apart _ known _ List.mem_cons_self rfl
    rw [distinct_concat, if_neg new, ih before]

/-- Nothing is kept that was not there. -/
theorem distinct_subset (l : List α) : distinct key l ⊆ l := by
  intro a member
  obtain ⟨before, after, rfl, -⟩ := mem_distinct_iff.1 member
  exact List.mem_append_right _ List.mem_cons_self

/-- **What is kept comes in the order of first occurrences**: of two elements that are kept,
some beginning of the list gives the one and not yet the other. -/
theorem pairwise_distinct_filterMap {ε : Type} (key : α → κ) (gives : ε → Option α)
    (l : List ε) :
    (distinct key (l.filterMap gives)).Pairwise fun a b =>
      ∃ first, first <+: l ∧ (∃ e ∈ first, gives e = some a) ∧ ∀ e ∈ first, gives e ≠ some b := by
  induction l using List.reverseRecOn with
  | nil => exact .nil
  | append_singleton l x ih =>
    have earlier : (distinct key (l.filterMap gives)).Pairwise fun a b =>
        ∃ first, first <+: l ++ [x] ∧ (∃ e ∈ first, gives e = some a) ∧
          ∀ e ∈ first, gives e ≠ some b :=
      ih.imp fun ⟨first, before, given⟩ => ⟨first, before.trans (List.prefix_append l [x]), given⟩
    rw [List.filterMap_append]
    cases given : gives x with
    | none => simpa [given] using earlier
    | some c =>
      rw [List.filterMap_cons_some given, List.filterMap_nil, distinct_concat]
      by_cases known : key c ∈ (l.filterMap gives).map key
      · rwa [if_pos known]
      · rw [if_neg known, List.pairwise_append]
        refine ⟨earlier, List.pairwise_singleton _ _, fun a kept b last => ?_⟩
        obtain rfl := List.mem_singleton.1 last
        refine ⟨l, List.prefix_append l [x], ?_, fun e member again => ?_⟩
        · exact List.mem_filterMap.1 (distinct_subset _ kept)
        · exact known (List.mem_map_of_mem (List.mem_filterMap.2 ⟨e, member, again⟩))

/-- Where a key stands for one element, no element is lost. -/
theorem mem_distinct_of_stands (key : α → κ) {l : List α} {find : κ → Option α}
    (stands : ∀ a ∈ l, find (key a) = some a) {a : α} : a ∈ distinct key l ↔ a ∈ l := by
  refine ⟨fun member => distinct_subset l member, fun member => ?_⟩
  have kept : key a ∈ (distinct key l).map key := mem_map_distinct.2 (List.mem_map_of_mem member)
  obtain ⟨b, keptHere, same⟩ := List.mem_map.1 kept
  have found := stands b (distinct_subset l keptHere)
  rw [same, stands a member] at found
  rwa [Option.some.inj found]

end

/-- Paths are the same if their components are. -/
theorem Path.same_iff {p q : Path} : p.same q = true ↔ p.components = q.components := by
  simp [same]

theorem eraseDupsBy_same (paths : List Path) :
    paths.eraseDupsBy Path.same = distinct Path.components paths := by
  have comparison : Path.same = fun p q => decide (p.components = q.components) := by
    funext p q
    rw [Bool.eq_iff_iff, Path.same_iff, decide_eq_true_iff]
  rw [comparison]
  rfl

/-- Of two spellings of one path the first is kept. -/
example : [Path.mk "a//b", ⟨"c"⟩, ⟨"a/b/"⟩, ⟨"./c"⟩].eraseDupsBy Path.same =
    [⟨"a//b"⟩, ⟨"c"⟩, ⟨"./c"⟩] := by
  decide +kernel

namespace RootSink

variable {sink : RootSink} {all : List Path}

/-- A sink that holds the first occurrences of some paths holds those of one path
more after that path is pushed. -/
theorem roots_push (p : Path) (held : sink.roots.toList = distinct Path.components all) :
    (sink.push p).roots.toList = distinct Path.components (all ++ [p]) := by
  have known : p.components ∈ sink.seen ↔ p.components ∈ all.map Path.components := by
    rw [sink.inStep, ← mem_map_distinct, ← held]
    simp
  rw [push, distinct_concat]
  by_cases seen : p.components ∈ sink.seen
  · rw [if_pos seen, if_pos (known.1 seen), held]
  · rw [if_neg seen, if_neg (mt known.2 seen), Array.toList_push, held]

/-- The sink collects first occurrences. -/
theorem roots_extend (paths : List Path)
    (held : sink.roots.toList = distinct Path.components all) :
    (sink.extend paths).roots.toList = distinct Path.components (all ++ paths) := by
  induction paths generalizing sink all with
  | nil => simpa [extend] using held
  | cons p rest ih =>
    rw [List.append_cons]
    exact ih (roots_push p held)

/-- So it does when each element of a list adds paths of its own. -/
theorem roots_foldl_extend {ε : Type} (paths : ε → List Path) (es : List ε)
    (held : sink.roots.toList = distinct Path.components all) :
    (es.foldl (fun sink e => sink.extend (paths e)) sink).roots.toList =
      distinct Path.components (all ++ es.flatMap paths) := by
  induction es generalizing sink all with
  | nil => simpa using held
  | cons e rest ih =>
    rw [List.foldl_cons, List.flatMap_cons, ← List.append_assoc]
    exact ih (roots_extend (paths e) held)

end RootSink

namespace Session

/-- **The roots are the first occurrences of what the entries contribute.** -/
theorem rootPaths_eq_distinct (s : Session) (q : RootQuery) :
    s.rootPaths q = distinct Path.components (s.dependencies.flatMap (s.contribution q)) := by
  have empty : ({} : RootSink).roots.toList = distinct Path.components [] := rfl
  exact RootSink.roots_foldl_extend (s.contribution q) s.dependencies empty

end Session

end Classpath
