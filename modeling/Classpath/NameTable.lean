/-!
# Tables in name order

What a section of a project file holds: entries under distinct names, in increasing order of the
names.

## Main definitions

* `NameTable` — the entries, and that their names increase
* `NameTable.get?`, `NameTable.contains` — what is under a name
* `NameTable.insert`, `NameTable.ofList` — adding entries; the last of a name counts
-/

namespace Classpath

/-- Entries whose names strictly increase. -/
structure NameTable (α : Type) where
  entries : List (String × α)
  sorted : entries.Pairwise fun a b => a.1 < b.1

namespace NameTable

variable {α β : Type}

/-- The table without entries. -/
def empty : NameTable α :=
  ⟨[], .nil⟩

instance : Inhabited (NameTable α) :=
  ⟨empty⟩

/-- The entry under a name. -/
def get? (t : NameTable α) (name : String) : Option α :=
  t.entries.lookup name

/-- Whether there is an entry under a name. -/
def contains (t : NameTable α) (name : String) : Bool :=
  (t.get? name).isSome

/-- The names, in increasing order. -/
def names (t : NameTable α) : List String :=
  t.entries.map (·.1)

/-- The number of entries. -/
def size (t : NameTable α) : Nat :=
  t.entries.length

/-- Whether there are no entries. -/
def isEmpty (t : NameTable α) : Bool :=
  t.entries.isEmpty

theorem lookup_eq_some_iff {es : List (String × α)} (sorted : es.Pairwise fun a b => a.1 < b.1)
    {name : String} {a : α} : es.lookup name = some a ↔ (name, a) ∈ es := by
  induction es with
  | nil => simp
  | cons e rest ih =>
    obtain ⟨below, sortedRest⟩ := List.pairwise_cons.1 sorted
    obtain ⟨first, b⟩ := e
    rw [List.lookup_cons, List.mem_cons]
    by_cases same : name = first
    · subst same
      have fresh : (name, a) ∉ rest := fun member => String.lt_irrefl name (below _ member)
      simp [fresh, eq_comm]
    · have other : (name == first) = false := by simpa using same
      rw [other, ih sortedRest]
      simp [same]

theorem get?_eq_some_iff {t : NameTable α} {name : String} {a : α} :
    t.get? name = some a ↔ (name, a) ∈ t.entries :=
  lookup_eq_some_iff t.sorted

theorem mem_names_iff {t : NameTable α} {name : String} :
    name ∈ t.names ↔ ∃ a, t.get? name = some a := by
  rw [names, List.mem_map]
  constructor
  · rintro ⟨⟨_, a⟩, member, rfl⟩
    exact ⟨a, get?_eq_some_iff.2 member⟩
  · rintro ⟨a, found⟩
    exact ⟨(name, a), get?_eq_some_iff.1 found, rfl⟩

theorem contains_iff {t : NameTable α} {name : String} :
    t.contains name = true ↔ name ∈ t.names := by
  rw [contains, Option.isSome_iff_exists, mem_names_iff]

/-- The names of a table increase. -/
theorem pairwise_names (t : NameTable α) : t.names.Pairwise (· < ·) :=
  List.pairwise_map.2 t.sorted

/-- Things built from the entries of a table are found under the names of the entries. -/
theorem find?_map_entries (t : NameTable α) (build : String → α → β) (nameOf : β → String)
    (named : ∀ name a, nameOf (build name a) = name) (name : String) :
    (t.entries.map fun e => build e.1 e.2).find? (nameOf · = name) =
      (t.get? name).map (build name) := by
  unfold get?
  induction t.entries with
  | nil => rfl
  | cons e rest ih =>
    rw [List.map_cons, List.find?_cons, List.lookup_cons, named]
    by_cases same : name = e.1
    · simp [same]
    · have other : (name == e.1) = false := by simpa using same
      simp [other, Ne.symm same, ih]

/-- An entry put at its place; an entry of the same name gives way. -/
def insertEntry (name : String) (value : α) : List (String × α) → List (String × α)
  | [] => [(name, value)]
  | e :: rest =>
    if name < e.1 then (name, value) :: e :: rest
    else if name = e.1 then (name, value) :: rest
    else e :: insertEntry name value rest

theorem mem_insertEntry {name : String} {value : α} {es : List (String × α)} {x : String × α}
    (h : x ∈ insertEntry name value es) : x = (name, value) ∨ x ∈ es := by
  induction es with
  | nil => simpa [insertEntry] using h
  | cons e rest ih =>
    unfold insertEntry at h
    split at h
    · simpa using h
    · split at h
      · rcases List.mem_cons.1 h with h | h
        · exact .inl h
        · exact .inr (List.mem_cons_of_mem _ h)
      · rcases List.mem_cons.1 h with h | h
        · exact .inr (h ▸ List.mem_cons_self)
        · exact (ih h).imp_right (List.mem_cons_of_mem _)

theorem sorted_insertEntry (name : String) (value : α) {es : List (String × α)}
    (h : es.Pairwise fun a b => a.1 < b.1) :
    (insertEntry name value es).Pairwise fun a b => a.1 < b.1 := by
  induction es with
  | nil => simp [insertEntry]
  | cons e rest ih =>
    obtain ⟨below, sorted⟩ := List.pairwise_cons.1 h
    unfold insertEntry
    split
    · next lt =>
      refine List.pairwise_cons.2 ⟨fun x hx => ?_, h⟩
      rcases List.mem_cons.1 hx with rfl | hx
      · exact lt
      · exact String.lt_trans lt (below x hx)
    · split
      · next eq =>
        refine List.pairwise_cons.2 ⟨fun x hx => ?_, sorted⟩
        exact (eq ▸ below x hx : name < x.1)
      · next notLt ne =>
        refine List.pairwise_cons.2 ⟨fun x hx => ?_, ih sorted⟩
        rcases mem_insertEntry hx with rfl | hx
        · exact String.not_le.1 fun le => ne (String.le_antisymm le (String.not_lt.1 notLt))
        · exact below x hx

/-- Puts an entry under a name, in the place of the one that was there. -/
def insert (t : NameTable α) (name : String) (value : α) : NameTable α :=
  ⟨insertEntry name value t.entries, sorted_insertEntry name value t.sorted⟩

/-- The table of a list of entries, of which the last of a name counts. -/
def ofList (es : List (String × α)) : NameTable α :=
  es.foldl (fun t (name, value) => t.insert name value) empty

end NameTable

end Classpath
