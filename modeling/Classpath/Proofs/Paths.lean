import Classpath.Proofs.Distinct

/-!
# Relative paths

A path that is taken relative to a directory is written behind the text of the directory.
Of its components it keeps all but one: a `.` at its beginning is a component of its own as
long as nothing stands before it, and counts for nothing once something does.  What a path
adds to a directory is therefore its parts between slashes (`Path.below`), and this does
not depend on the directory, however that is spelt.

The empty path is no directory in this sense, as nothing is written before a path that is
taken relative to it.

## Main definitions

* `Path.below` — what a relative path adds to the components of a directory

## Main statements

* `Path.components_join` — the components of a path that is taken relative to a directory
* `Path.same_join_iff` — when two such paths are the same
-/

namespace Classpath

namespace Path

/-- What a relative path adds to the components of a directory. -/
def below (p : Path) : List Component :=
  (segments p.text).filterMap component?

theorem components_eq (p : Path) : p.components = p.anchor.toList ++ p.below := rfl

variable {base p p' : Path} {front rest : List Char}

/-- The characters of a directory in front of the slash that divides it from what lies below.
The slash may belong to the directory or not. -/
def Front (base : Path) (front : List Char) : Prop :=
  base.text.toList = front ++ ['/'] ∨ base.text.toList = front ∧ front ≠ []

/-- A path below a directory is written with one slash behind the characters of the
directory. -/
theorem exists_front_of_join (relative : p.isAbsolute = false) (nonempty : base.text ≠ "") :
    ∃ front, base.Front front ∧ (base.join p).text.toList = front ++ '/' :: p.text.toList := by
  have written_on : base.text.toList ≠ [] := by simpa using nonempty
  obtain ⟨front, last, written⟩ := (List.eq_nil_or_concat base.text.toList).resolve_left written_on
  rw [List.concat_eq_append] at written
  by_cases slash : last = '/'
  · subst slash
    refine ⟨front, .inl written, ?_⟩
    simp [join, relative, written]
  · refine ⟨base.text.toList, .inr ⟨rfl, written_on⟩, ?_⟩
    have unended : base.text.toList.getLast?.all (· == '/') = false := by simp [written, slash]
    simp [join, relative, unended]

/-- What lies behind the slash has no part in the anchor. -/
theorem anchor_of_front (directory : base.Front front)
    (written : p.text.toList = front ++ '/' :: rest) : p.anchor = base.anchor := by
  unfold anchor
  -- The first two characters decide, and they differ only where the directory is one character.
  obtain whole | ⟨whole, nonempty⟩ := directory <;> rw [written, whole]
  · match front with
    | [] => rfl
    | [c] => by_cases dot : c = '.' <;> by_cases slash : c = '/' <;> simp [dot, slash]
    | c :: d :: _ =>
      rw [List.cons_append, List.cons_append, List.cons_append, List.cons_append]
      split <;> split <;> simp_all
  · match front with
    | [c] => by_cases dot : c = '.' <;> by_cases slash : c = '/' <;> simp [dot, slash]
    | c :: d :: _ =>
      rw [List.cons_append, List.cons_append]
      split <;> split <;> simp_all

/-- The parts between slashes are those of the directory, and those behind it. -/
theorem below_of_front (directory : base.Front front)
    (written : p'.text.toList = front ++ '/' :: p.text.toList) :
    p'.below = base.below ++ p.below := by
  have parts : (front ++ '/' :: p.text.toList).splitOn '/' =
      front.splitOn '/' ++ p.text.toList.splitOn '/' := List.splitOn_append_cons_self _ _
  have directory_parts : (base.text.toList.splitOn '/').filterMap component? =
      (front.splitOn '/').filterMap component? := by
    obtain whole | ⟨whole, -⟩ := directory <;> rw [whole]
    -- Behind the slash that ends a directory stands an empty part.
    have ended : (front ++ ['/']).splitOn '/' = front.splitOn '/' ++ [].splitOn '/' :=
      List.splitOn_append_cons_self _ _
    simp [ended, component?]
  simp only [below, segments]
  rw [written, parts, List.filterMap_append, directory_parts]

/-- **The components of a path below a directory** are those of the directory and what the path
adds to them. -/
theorem components_join (relative : p.isAbsolute = false) (nonempty : base.text ≠ "") :
    (base.join p).components = base.components ++ p.below := by
  obtain ⟨front, directory, written⟩ := exists_front_of_join relative nonempty
  rw [components_eq, components_eq, anchor_of_front directory written,
    below_of_front directory written, List.append_assoc]

/-- **Two paths below a directory are the same** if they add the same to it, whatever the
directory is. -/
theorem same_join_iff (relative : p.isAbsolute = false) (relative' : p'.isAbsolute = false)
    (nonempty : base.text ≠ "") :
    (base.join p).same (base.join p') = true ↔ p.below = p'.below := by
  rw [same_iff, components_join relative nonempty, components_join relative' nonempty,
    List.append_cancel_left_eq]

/-- A `.` at the beginning counts in a path that is compared as it stands, and not below a
directory. -/
example : Path.same ⟨"./a"⟩ ⟨"a"⟩ = false ∧ (join ⟨"/"⟩ ⟨"./a"⟩).same (join ⟨"/"⟩ ⟨"a"⟩) = true ∧
    (join ⟨""⟩ ⟨"./a"⟩).same (join ⟨""⟩ ⟨"a"⟩) = false := by
  decide +kernel

end Path

end Classpath
