import Classpath.ProjectFile.Cycles
import Mathlib.Data.List.Sort
import Mathlib.Data.String.Basic
import Mathlib.Logic.Relation

/-!
# Circles of modules are strongly connected components

The modules of a file form a graph, with an edge wherever a dependency names a module that
exists.  The groups that are reported are the strongly connected components of this graph
that have at least two members, and they come in one order only: names increase within a
group, and the groups increase among each other.

The search behind it visits modules in an order of its own, which leaves no trace.  It
finds what is reached and nothing else (`Graph.mem_reachedFrom_iff`), because what was
found is closed under edges but for what is still to be looked at.

## Main definitions

* `DependsOn` — an edge of the graph
* `Connected` — two modules reach each other
* `IsComponent`, `IsPartition` — one component, and a list of all of them
* `groupsOf` — components put in order, those with one member left out

## Main statements

* `Graph.mem_reachedFrom_iff` — the search finds what is reached
* `mem_moduleCycles_iff` — which groups there are
* `module_cycles_are_components` — groups and components

## Design notes

Nothing is assumed of the file.  An entry may name several things at once, of which the
module counts, and modules may name themselves or modules that do not exist.
-/

namespace Classpath

/-! ## The search -/

namespace Graph

variable {g : Graph} {found : Std.HashSet String} {todo : List String} {name x : String}

/-- The graph has an edge from `a` to `b`. -/
def Edge (g : Graph) (a b : String) : Prop :=
  b ∈ g.getD a []

/-- Edges end at modules of the graph. -/
def Closed (g : Graph) : Prop :=
  ∀ a b, g.Edge a b → b ∈ g

/-- What was found stays found. -/
theorem mem_reachable_of_found (member : x ∈ found) : x ∈ g.reachable found todo := by
  fun_induction reachable g found todo with
  | case1 found => exact member
  | case2 found n todo new ih => exact ih (Std.HashSet.mem_insert.2 (.inr member))
  | case3 found n todo old ih => exact ih member

/-- What is to be looked at is found. -/
theorem mem_reachable_of_todo (known : x ∈ g) (member : x ∈ todo) :
    x ∈ g.reachable found todo := by
  fun_induction reachable g found todo with
  | case1 found => contradiction
  | case2 found n todo new ih =>
    obtain rfl | later := List.mem_cons.1 member
    · exact mem_reachable_of_found Std.HashSet.mem_insert_self
    · exact ih (List.mem_append_right _ later)
  | case3 found n todo old ih =>
    obtain rfl | later := List.mem_cons.1 member
    · have before : x ∈ found := by
        by_contra unfound
        exact old ⟨known, unfound⟩
      exact mem_reachable_of_found before
    · exact ih later

/-- Nothing is found but what was to be looked at leads to. -/
theorem exists_of_mem_reachable (member : x ∈ g.reachable found todo) :
    x ∈ found ∨ ∃ n ∈ todo, Relation.ReflTransGen g.Edge n x := by
  fun_induction reachable g found todo with
  | case1 found => exact .inl member
  | case2 found n todo new ih =>
    obtain here | ⟨k, later, path⟩ := ih member
    · obtain same | before := Std.HashSet.mem_insert.1 here
      · obtain rfl : n = x := by simpa using same
        exact .inr ⟨n, List.mem_cons_self, .refl⟩
      · exact .inl before
    · obtain next | later := List.mem_append.1 later
      · exact .inr ⟨n, List.mem_cons_self, .head next path⟩
      · exact .inr ⟨k, List.mem_cons_of_mem _ later, path⟩
  | case3 found n todo old ih =>
    obtain before | ⟨k, later, path⟩ := ih member
    · exact .inl before
    · exact .inr ⟨k, List.mem_cons_of_mem _ later, path⟩

/-- **What is found is closed under edges** if what was found before is, but for what is to
be looked at. -/
theorem reachable_closed (closed : g.Closed)
    (covered : ∀ a ∈ found, ∀ b, g.Edge a b → b ∈ found ∨ b ∈ todo) {a b : String}
    (member : a ∈ g.reachable found todo) (edge : g.Edge a b) : b ∈ g.reachable found todo := by
  fun_induction reachable g found todo with
  | case1 found =>
    obtain here | later := covered a member b edge
    · exact here
    · contradiction
  | case2 found n todo new ih =>
    refine ih ?_ member
    intro c here d edge
    rw [Std.HashSet.mem_insert, List.mem_append]
    obtain same | before := Std.HashSet.mem_insert.1 here
    · obtain rfl : n = c := by simpa using same
      exact .inr (.inl edge)
    · obtain before' | later := covered c before d edge
      · exact .inl (.inr before')
      · obtain rfl | later := List.mem_cons.1 later
        · exact .inl (.inl (by simp))
        · exact .inr (.inr later)
  | case3 found n todo old ih =>
    refine ih ?_ member
    intro c before d edge
    obtain before' | later := covered c before d edge
    · exact .inl before'
    · obtain rfl | later := List.mem_cons.1 later
      · have known : d ∈ g := closed c d edge
        by_contra missing
        exact old ⟨known, fun here => missing (.inl here)⟩
      · exact .inr later

/-- **The search finds what is reached.** -/
theorem mem_reachedFrom_iff (closed : g.Closed) :
    x ∈ g.reachedFrom name ↔ Relation.TransGen g.Edge name x := by
  constructor
  · intro member
    obtain none | ⟨n, first, path⟩ := exists_of_mem_reachable member
    · exact absurd none Std.HashSet.not_mem_empty
    · exact .head' first path
  · intro path
    induction path with
    | single edge => exact mem_reachable_of_todo (closed _ _ edge) edge
    | tail _ edge ih =>
      refine reachable_closed closed (fun a none => ?_) ih edge
      exact absurd none Std.HashSet.not_mem_empty

end Graph

/-! ## The graph of a file -/

variable {modules : NameTable ModuleSection} {a b name other : String} {group : List String}

/-- A dependency of the module `a` names `b`, and there is a module `b`. -/
def DependsOn (modules : NameTable ModuleSection) (a b : String) : Prop :=
  (∃ s, modules.get? a = some s ∧ ∃ e ∈ s.dependencies, e.module = some b) ∧ b ∈ modules.names

/-- Two modules reach each other. Every module reaches itself. -/
def Connected (modules : NameTable ModuleSection) (a b : String) : Prop :=
  Relation.ReflTransGen (DependsOn modules) a b ∧ Relation.ReflTransGen (DependsOn modules) b a

namespace Connected

variable {c : String}

theorem refl (modules : NameTable ModuleSection) (a : String) : Connected modules a a :=
  ⟨.refl, .refl⟩

theorem symm (connected : Connected modules a b) : Connected modules b a :=
  ⟨connected.2, connected.1⟩

theorem trans (connected : Connected modules a b) (connected' : Connected modules b c) :
    Connected modules a c :=
  ⟨connected.1.trans connected'.1, connected'.2.trans connected.2⟩

/-- Different modules that reach each other exist. -/
theorem mem_names (connected : Connected modules a b) (different : a ≠ b) :
    a ∈ modules.names := by
  obtain same | ⟨c, -, -, last⟩ := Relation.ReflTransGen.cases_tail connected.2
  · exact absurd same different
  · exact last

end Connected

/-- Names in a table differ. -/
theorem NameTable.distinct_entries {α : Type} (t : NameTable α) :
    t.entries.Pairwise fun e e' => (e.1 == e'.1) = false := by
  refine t.sorted.imp fun less => ?_
  simpa using (ne_of_lt less)

theorem getD_dependencyGraph (modules : NameTable ModuleSection) (name : String) :
    (dependencyGraph modules).getD name [] =
      ((modules.get? name).map (successors modules)).getD [] := by
  have distinct : (modules.entries.map fun e => (e.1, successors modules e.2)).Pairwise
      fun e e' => (e.1 == e'.1) = false :=
    List.pairwise_map.2 modules.distinct_entries
  cases found : modules.get? name with
  | some s =>
    have listed : (name, successors modules s) ∈
        modules.entries.map fun e => (e.1, successors modules e.2) :=
      List.mem_map.2 ⟨(name, s), NameTable.get?_eq_some_iff.1 found, rfl⟩
    exact Std.HashMap.getD_ofList_of_mem (beq_self_eq_true name) distinct listed
  | none =>
    refine Std.HashMap.getD_ofList_of_contains_eq_false ?_
    rw [← Bool.not_eq_true, List.contains_iff_mem, List.map_map]
    intro member
    obtain ⟨s, found'⟩ := NameTable.mem_names_iff.1 member
    rw [found] at found'
    contradiction

theorem mem_dependencyGraph_iff : name ∈ dependencyGraph modules ↔ name ∈ modules.names := by
  rw [dependencyGraph, Std.HashMap.mem_ofList, List.contains_iff_mem, List.map_map]
  rfl

/-- The edges of the graph are the dependencies among modules that exist. -/
theorem edge_dependencyGraph_iff :
    (dependencyGraph modules).Edge a b ↔ DependsOn modules a b := by
  rw [Graph.Edge, getD_dependencyGraph, DependsOn]
  cases found : modules.get? a with
  | none => simp
  | some s =>
    simp [successors, List.mem_filter, List.mem_filterMap, NameTable.contains_iff]

theorem closed_dependencyGraph : (dependencyGraph modules).Closed :=
  fun _ _ edge => mem_dependencyGraph_iff.2 (edge_dependencyGraph_iff.1 edge).2

/-- The search finds the modules that a module leads to. -/
theorem mem_reachedFrom_dependencyGraph_iff :
    other ∈ (dependencyGraph modules).reachedFrom name ↔
      Relation.TransGen (DependsOn modules) name other := by
  have edges : (dependencyGraph modules).Edge = DependsOn modules := by
    funext a b
    exact propext edge_dependencyGraph_iff
  rw [Graph.mem_reachedFrom_iff closed_dependencyGraph, edges]

/-! ## The circle of a module -/

/-- The modules that are connected with a module, in the order of their names. -/
def circleOf (modules : NameTable ModuleSection) (name : String) : List String :=
  let g := dependencyGraph modules
  modules.names.filter fun other =>
    other = name || ((g.reachedFrom name).contains other && (g.reachedFrom other).contains name)

theorem cycleOf_eq_circleOf (modules : NameTable ModuleSection) (name : String) :
    let g := dependencyGraph modules
    cycleOf (modules.names.map fun name => (name, g.reachedFrom name)) name (g.reachedFrom name) =
      circleOf modules name := by
  intro g
  rw [cycleOf, List.filter_map, List.map_map]
  exact List.map_id _

theorem mem_circleOf :
    other ∈ circleOf modules name ↔ other ∈ modules.names ∧ Connected modules name other := by
  rw [circleOf, List.mem_filter, Connected, Relation.reflTransGen_iff_eq_or_transGen,
    Relation.reflTransGen_iff_eq_or_transGen]
  simp only [Bool.or_eq_true, Bool.and_eq_true, decide_eq_true_eq, Std.HashSet.contains_iff_mem,
    mem_reachedFrom_dependencyGraph_iff]
  refine and_congr_right fun _ => ?_
  constructor
  · rintro (rfl | ⟨there, back⟩)
    · exact ⟨.inl rfl, .inl rfl⟩
    · exact ⟨.inr there, .inr back⟩
  · rintro ⟨same | there, same' | back⟩
    · exact .inl same
    · exact .inl same
    · exact .inl same'.symm
    · exact .inr ⟨there, back⟩

theorem pairwise_circleOf : (circleOf modules name).Pairwise (· < ·) :=
  modules.pairwise_names.filter _

/-- Connected modules have the same circle. -/
theorem circleOf_congr (connected : Connected modules a b) :
    circleOf modules a = circleOf modules b := by
  refine pairwise_circleOf.eq_of_mem_iff pairwise_circleOf fun other => ?_
  rw [mem_circleOf, mem_circleOf]
  exact and_congr_right fun _ => ⟨connected.symm.trans, connected.trans⟩

/-- The circle of a module, if it has two members and this module comes first. -/
def circleLedBy? (modules : NameTable ModuleSection) (name : String) : Option (List String) :=
  let group := circleOf modules name
  if 1 < group.length && group.head? = some name then some group else none

theorem circleLedBy?_eq_some_iff :
    circleLedBy? modules name = some group ↔
      circleOf modules name = group ∧ 1 < group.length ∧ group.head? = some name := by
  simp only [circleLedBy?, Option.ite_none_right_eq_some, Option.some.injEq, Bool.and_eq_true,
    decide_eq_true_eq]
  constructor
  · rintro ⟨reported, rfl⟩
    exact ⟨rfl, reported⟩
  · rintro ⟨rfl, reported⟩
    exact ⟨reported, rfl⟩

/-- A circle is reported under its first member. -/
theorem moduleCycles_eq (modules : NameTable ModuleSection) :
    moduleCycles modules = modules.names.filterMap (circleLedBy? modules) := by
  rw [moduleCycles, List.filterMap_map]
  refine List.filterMap_congr fun name _ => ?_
  simp only [Function.comp_apply, cycleOf_eq_circleOf, circleLedBy?]

/-- A circle that is reported is that of each of its members. -/
theorem circleOf_eq_of_ledBy (led : circleLedBy? modules name = some group) (member : a ∈ group) :
    circleOf modules a = group := by
  obtain ⟨rfl, -, -⟩ := circleLedBy?_eq_some_iff.1 led
  exact circleOf_congr (mem_circleOf.1 member).2.symm

/-! ## Components -/

/-- The members of a component, in some order: whatever is connected with one of them is
one of them. -/
structure IsComponent (modules : NameTable ModuleSection) (group : List String) : Prop where
  nonempty : group ≠ []
  declared : group ⊆ modules.names
  connected : ∀ a ∈ group, ∀ b, b ∈ group ↔ Connected modules a b

/-- All components, in some order, with every module in one place. -/
structure IsPartition (modules : NameTable ModuleSection) (groups : List (List String)) :
    Prop where
  components : ∀ group ∈ groups, IsComponent modules group
  once : groups.flatten.Perm modules.names

/-- The components with two members and more, their members in order and themselves in
order. -/
def groupsOf (groups : List (List String)) : List (List String) :=
  ((groups.filter (1 < ·.length)).map (·.mergeSort)).mergeSort

theorem isComponent_circleOf (member : name ∈ modules.names) :
    IsComponent modules (circleOf modules name) where
  nonempty := List.ne_nil_of_mem (mem_circleOf.2 ⟨member, .refl modules name⟩)
  declared := fun _ here => (mem_circleOf.1 here).1
  connected := by
    intro a here b
    have same := circleOf_congr (mem_circleOf.1 here).2
    rw [same, mem_circleOf]
    refine and_iff_right_of_imp fun connected => ?_
    by_cases equal : a = b
    · exact equal ▸ (mem_circleOf.1 here).1
    · exact connected.symm.mem_names (Ne.symm equal)

namespace IsComponent

/-- The order of the members does not matter. -/
theorem of_perm {group' : List String} (component : IsComponent modules group)
    (perm : group.Perm group') : IsComponent modules group' where
  nonempty := fun empty => component.nonempty (empty ▸ perm).eq_nil
  declared := fun _ here => component.declared (perm.mem_iff.2 here)
  connected := by
    intro a here b
    rw [← perm.mem_iff]
    exact component.connected a (perm.mem_iff.2 here) b

/-- A component in order is the circle of each of its members. -/
theorem eq_circleOf (component : IsComponent modules group) (sorted : group.Pairwise (· < ·))
    (member : a ∈ group) : circleOf modules a = group := by
  refine pairwise_circleOf.eq_of_mem_iff sorted fun b => ?_
  rw [mem_circleOf, component.connected a member]
  refine and_iff_right_of_imp fun connected => ?_
  exact component.declared ((component.connected a member b).2 connected)

end IsComponent

/-- **The groups are the components with two members and more**, each with its members in
order. -/
theorem mem_moduleCycles_iff :
    group ∈ moduleCycles modules ↔
      IsComponent modules group ∧ 1 < group.length ∧ group.Pairwise (· < ·) := by
  rw [moduleCycles_eq, List.mem_filterMap]
  constructor
  · rintro ⟨name, member, led⟩
    obtain ⟨rfl, several, -⟩ := circleLedBy?_eq_some_iff.1 led
    exact ⟨isComponent_circleOf member, several, pairwise_circleOf⟩
  · rintro ⟨component, several, sorted⟩
    obtain ⟨first, rest, rfl⟩ := List.exists_cons_of_ne_nil component.nonempty
    have here : first ∈ first :: rest := List.mem_cons_self
    exact ⟨first, component.declared here,
      circleLedBy?_eq_some_iff.2 ⟨component.eq_circleOf sorted here, several, rfl⟩⟩

/-- Different modules are in a common group if and only if they reach each other. -/
theorem exists_group_iff (different : a ≠ b) :
    (∃ group ∈ moduleCycles modules, a ∈ group ∧ b ∈ group) ↔ Connected modules a b := by
  constructor
  · rintro ⟨group, reported, ha, hb⟩
    exact ((mem_moduleCycles_iff.1 reported).1.connected a ha b).1 hb
  · intro connected
    have known := connected.mem_names different
    have component := isComponent_circleOf known
    have ha : a ∈ circleOf modules a := mem_circleOf.2 ⟨known, .refl modules a⟩
    have hb : b ∈ circleOf modules a := (component.connected a ha b).2 connected
    have several : 1 < (circleOf modules a).length := by
      have pair : [a, b].Subperm (circleOf modules a) :=
        List.subperm_of_subset (by simpa using different) (by simp [ha, hb])
      exact pair.length_le
    exact ⟨_, mem_moduleCycles_iff.2 ⟨component, several, pairwise_circleOf⟩, ha, hb⟩

/-- **The groups have no member in common and come in order**, because they are reported
under their first members. -/
theorem pairwise_moduleCycles (modules : NameTable ModuleSection) :
    (moduleCycles modules).Pairwise fun group group' => group.Disjoint group' ∧ group < group' := by
  rw [moduleCycles_eq]
  refine modules.pairwise_names.filterMap _ ?_
  intro first first' less group led group' led'
  obtain ⟨-, -, head⟩ := circleLedBy?_eq_some_iff.1 led
  obtain ⟨-, -, head'⟩ := circleLedBy?_eq_some_iff.1 led'
  constructor
  · intro a member member'
    have same : group = group' :=
      (circleOf_eq_of_ledBy led member).symm.trans (circleOf_eq_of_ledBy led' member')
    rw [same, head'] at head
    exact ne_of_gt less (Option.some.inj head)
  · obtain ⟨rest, rfl⟩ := List.head?_eq_some_iff.1 head
    obtain ⟨rest', rfl⟩ := List.head?_eq_some_iff.1 head'
    exact .rel less

/-! ## Components in whatever order -/

namespace IsPartition

variable {groups : List (List String)}

/-- No module is twice in a component, and none in two of them. -/
theorem nodup_flatten (partition : IsPartition modules groups) :
    (∀ group ∈ groups, group.Nodup) ∧ groups.Pairwise List.Disjoint :=
  List.nodup_flatten.1 (partition.once.nodup_iff.2 modules.pairwise_names.nodup)

/-- A component is, up to the order of its members, in a list of all components. -/
theorem exists_perm (partition : IsPartition modules groups) (component : IsComponent modules group)
    (sorted : group.Pairwise (· < ·)) : ∃ group' ∈ groups, group'.Perm group := by
  obtain ⟨a, member⟩ := List.exists_mem_of_ne_nil _ component.nonempty
  obtain ⟨group', found, member'⟩ :=
    List.mem_flatten.1 (partition.once.mem_iff.2 (component.declared member))
  have distinct : group'.Nodup := partition.nodup_flatten.1 _ found
  refine ⟨group', found, (List.perm_ext_iff_of_nodup distinct sorted.nodup).2 fun b => ?_⟩
  rw [component.connected a member, (partition.components _ found).connected a member']

/-- The members of a component increase strictly once they are in order. -/
theorem sorted_mergeSort (partition : IsPartition modules groups) (member : group ∈ groups) :
    group.mergeSort.Pairwise (· < ·) := by
  have distinct : group.mergeSort.Nodup :=
    (List.mergeSort_perm _ _).nodup_iff.2 (partition.nodup_flatten.1 _ member)
  have sorted : group.mergeSort.Pairwise (· ≤ ·) := List.pairwise_mergeSort' (· ≤ ·) group
  exact (sorted.and distinct).imp fun both => lt_of_le_of_ne both.1 both.2

/-- Put in order, the components that are kept are the groups. -/
theorem mem_map_mergeSort_iff (partition : IsPartition modules groups) :
    group ∈ (groups.filter (1 < ·.length)).map (·.mergeSort) ↔ group ∈ moduleCycles modules := by
  rw [mem_moduleCycles_iff, List.mem_map]
  constructor
  · rintro ⟨c, kept, rfl⟩
    obtain ⟨found, several⟩ := List.mem_filter.1 kept
    have perm := List.mergeSort_perm c (· ≤ ·)
    refine ⟨(partition.components c found).of_perm perm.symm, ?_, partition.sorted_mergeSort found⟩
    rw [perm.length_eq]
    exact of_decide_eq_true several
  · rintro ⟨component, several, sorted⟩
    obtain ⟨c, found, perm⟩ := partition.exists_perm component sorted
    refine ⟨c, List.mem_filter.2 ⟨found, ?_⟩, ?_⟩
    · rw [perm.length_eq]
      exact decide_eq_true several
    · have perm' := (List.mergeSort_perm c (· ≤ ·)).trans perm
      exact (partition.sorted_mergeSort found).eq_of_mem_iff sorted fun _ => perm'.mem_iff

/-- Components that differ have no member in common, so that they differ in order as well. -/
theorem nodup_map_mergeSort (partition : IsPartition modules groups) :
    ((groups.filter (1 < ·.length)).map (·.mergeSort)).Nodup := by
  refine List.pairwise_map.2 ((partition.nodup_flatten.2.imp_of_mem ?_).filter _)
  intro c c' found _ disjoint same
  obtain ⟨a, member⟩ := List.exists_mem_of_ne_nil _ (partition.components c found).nonempty
  have member' : a ∈ c' := by
    rw [← List.mem_mergeSort, ← same, List.mem_mergeSort]
    exact member
  exact disjoint member member'

/-- **Put in order, the components are the groups**, in whatever order they were found. -/
theorem groupsOf_eq (partition : IsPartition modules groups) :
    groupsOf groups = moduleCycles modules := by
  have increasing : (moduleCycles modules).Pairwise (· < ·) :=
    (pairwise_moduleCycles modules).imp And.right
  have perm : (groupsOf groups).Perm (moduleCycles modules) := by
    refine (List.mergeSort_perm _ _).trans ?_
    exact (List.perm_ext_iff_of_nodup partition.nodup_map_mergeSort increasing.nodup).2 fun _ =>
      partition.mem_map_mergeSort_iff
  exact perm.eq_of_pairwise' (List.pairwise_mergeSort' (· ≤ ·) _) (increasing.imp le_of_lt)

end IsPartition

/-- **The groups of modules are the strongly connected components.**  For every section of
modules, checked or not, the groups are exactly the components with two members and more,
each with its members in order.  Different modules are in a common group if and only if
they reach each other.  Groups have no member in common and come in order.  And whoever
finds the components, each module in one of them, in whatever order, has the groups once
the components are put in order and those with one member are left out. -/
theorem module_cycles_are_components (modules : NameTable ModuleSection) :
    (∀ group, group ∈ moduleCycles modules ↔
      IsComponent modules group ∧ 1 < group.length ∧ group.Pairwise (· < ·)) ∧
    (∀ a b, a ≠ b →
      ((∃ group ∈ moduleCycles modules, a ∈ group ∧ b ∈ group) ↔ Connected modules a b)) ∧
    ((moduleCycles modules).Pairwise fun group group' =>
      group.Disjoint group' ∧ group < group') ∧
    ∀ groups, IsPartition modules groups → groupsOf groups = moduleCycles modules :=
  ⟨fun _ => mem_moduleCycles_iff, fun _ _ different => exists_group_iff different,
    pairwise_moduleCycles modules, fun _ partition => partition.groupsOf_eq⟩

/-- A section with a dependency on each of some modules. -/
def ModuleSection.naming (names : List String) : ModuleSection :=
  { dependencies := names.map fun name => { module := some name } }

/-- Two modules that name each other, and one that leads to them.  `a` names itself as well,
and a module that does not exist. -/
def circle : NameTable ModuleSection where
  entries := [("a", .naming ["b", "a", "ghost"]), ("b", .naming ["a"]), ("c", .naming ["a"])]
  sorted := by decide

theorem dependsOn_circle_iff :
    DependsOn circle a b ↔ (a, b) ∈ [("a", "b"), ("a", "a"), ("b", "a"), ("c", "a")] := by
  simp only [DependsOn, NameTable.get?_eq_some_iff, NameTable.names, circle, ModuleSection.naming]
  simp only [List.map_cons, List.map_nil, List.mem_cons, Prod.mk.injEq, List.not_mem_nil,
    or_false, or_and_right, and_assoc, exists_or, ↓existsAndEq, Option.some.injEq, true_and,
    exists_eq_left]
  grind

/-- Nothing leads to `c`. -/
theorem mem_of_dependsOn_circle (edge : DependsOn circle a b) : b ∈ ["b", "a"] := by
  rw [dependsOn_circle_iff] at edge
  grind

theorem connected_circle : Connected circle "a" "b" :=
  ⟨.single (dependsOn_circle_iff.2 (by simp)), .single (dependsOn_circle_iff.2 (by simp))⟩

theorem isPartition_circle : IsPartition circle [["c"], ["b", "a"]] where
  once := by decide
  components := by
    simp only [List.mem_cons, List.not_mem_nil, or_false, forall_eq_or_imp, forall_eq]
    refine ⟨⟨by simp, by decide, ?_⟩, ⟨by simp, by decide, ?_⟩⟩
    · intro a here b
      obtain rfl : a = "c" := by simpa using here
      constructor
      · intro same
        obtain rfl : b = "c" := by simpa using same
        exact .refl circle "c"
      · rintro ⟨-, path⟩
        obtain same | ⟨d, -, last⟩ := Relation.ReflTransGen.cases_tail path
        · simp [same]
        · exact absurd (mem_of_dependsOn_circle last) (by simp)
    · intro a here b
      constructor
      · intro here'
        simp only [List.mem_cons, List.not_mem_nil, or_false] at here here'
        obtain rfl | rfl := here <;> obtain rfl | rfl := here'
        · exact .refl circle "b"
        · exact connected_circle.symm
        · exact connected_circle
        · exact .refl circle "a"
      · rintro ⟨path, -⟩
        obtain rfl | ⟨d, -, last⟩ := Relation.ReflTransGen.cases_tail path
        · exact here
        · exact mem_of_dependsOn_circle last

/-- The two modules that name each other are the only group, whichever component comes
first. -/
theorem circle_is_the_only_group :
    "a" ≠ "b" ∧ IsPartition circle [["c"], ["b", "a"]] ∧
    (∃ group ∈ moduleCycles circle, "a" ∈ group ∧ "b" ∈ group) ∧
    moduleCycles circle = [["a", "b"]] := by
  obtain ⟨-, common, -, found⟩ := module_cycles_are_components circle
  have groups : groupsOf [["c"], ["b", "a"]] = [["a", "b"]] := by
    simp [groupsOf, List.mergeSort]
  exact ⟨by decide, isPartition_circle, (common "a" "b" (by decide)).2 connected_circle,
    (found _ isPartition_circle).symm.trans groups⟩

end Classpath
