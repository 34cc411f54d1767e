import Classpath.ProjectFile.Project
import Classpath.Proofs.Roots.Contribution
import Classpath.Proofs.Walk.Move
import Classpath.Session.Roots
import Classpath.Text.Basic

/-!
# What a fingerprint tells

A fingerprint is the digest of the roots of a session with a line end behind each.  So long
as digests tell byte strings apart, it determines the lines of the roots and their order,
and is determined by them: a path without a line end is one line, and the lines of a text
can be read back from its bytes.

A path may hold a line end itself.  It then stands for several lines, and one such path
has the fingerprint of several paths without (`Splitting.same_fingerprint`).

No assumption is made about the digest.  Digests have a fixed length, so that some byte
strings collide; what is shown is that equal fingerprints of different lines exhibit such a
pair.

## Main definitions

* `pathLines` — the lines that paths stand for
* `Digest.Collide` — different byte strings with one digest

## Main statements

* `rootBytes_eq_iff` — the byte strings of paths with the same lines are the same, and of
  no others
* `Session.fingerprints_compare_lines` — what equal fingerprints tell about two sessions
-/

namespace Classpath

/-! ## Digits -/

namespace Digest

theorem digitChar_inj {a b : Nat} (small : a < 16) (small' : b < 16)
    (same : Nat.digitChar a = Nat.digitChar b) : a = b := by
  have table : ∀ a : Fin 16, ∀ b : Fin 16,
      Nat.digitChar a.val = Nat.digitChar b.val → a = b := by decide
  exact Fin.val_eq_of_eq (table ⟨a, small⟩ ⟨b, small'⟩ same)

/-- A byte is known by its two digits. -/
theorem byteHex_inj {b c : UInt8} (same : byteHex b = byteHex c) : b = c := by
  obtain ⟨high, rest⟩ := List.cons_eq_cons.1 same
  obtain ⟨low, -⟩ := List.cons_eq_cons.1 rest
  have below := b.toNat_lt
  have below' := c.toNat_lt
  have quotients := digitChar_inj (by omega) (by omega) high
  have remainders := digitChar_inj (by omega) (by omega) low
  exact UInt8.toNat_inj.1 (by omega)

/-- Bytes are known by their digits. -/
theorem flatMap_byteHex_inj {bs cs : List UInt8}
    (same : bs.flatMap byteHex = cs.flatMap byteHex) : bs = cs := by
  induction bs generalizing cs with
  | nil =>
    cases cs with
    | nil => rfl
    | cons c cs => contradiction
  | cons b bs ih =>
    cases cs with
    | nil => contradiction
    | cons c cs =>
      rw [List.flatMap_cons, List.flatMap_cons] at same
      obtain ⟨first, rest⟩ := List.append_inj same rfl
      rw [byteHex_inj first, ih rest]

/-- Different byte strings with the same digest. -/
def Collide (xs ys : List UInt8) : Prop :=
  xs ≠ ys ∧ blake3 xs = blake3 ys

end Digest

theorem blake3Hex_eq_iff {xs ys : List UInt8} :
    blake3Hex xs = blake3Hex ys ↔ blake3 xs = blake3 ys := by
  constructor
  · intro same
    exact Digest.flatMap_byteHex_inj (String.ofList_inj.1 same)
  · intro same
    rw [blake3Hex, blake3Hex, same]

/-- Equal digests of different byte strings are a collision. -/
theorem blake3Hex_eq_iff_or_collide {xs ys : List UInt8} :
    blake3Hex xs = blake3Hex ys ↔ xs = ys ∨ Digest.Collide xs ys := by
  rw [blake3Hex_eq_iff, Digest.Collide]
  by_cases same : xs = ys
  · simp [same]
  · simp [same]

/-! ## Lines -/

/-- The lines that paths stand for, one or more for each path. -/
def pathLines (paths : List Path) : List String :=
  paths.flatMap fun p => Text.splitLines p.text

/-- The characters of paths with a line end behind each. -/
def lineChars (paths : List Path) : List Char :=
  paths.flatMap fun p => p.text.toList ++ ['\n']

/-- Characters are known by their bytes. -/
theorem flatMap_utf8EncodeChar_inj {cs ds : List Char}
    (same : cs.flatMap String.utf8EncodeChar = ds.flatMap String.utf8EncodeChar) : cs = ds := by
  have bytes : cs.utf8Encode = ds.utf8Encode := congrArg List.toByteArray same
  rw [← String.toByteArray_ofList, ← String.toByteArray_ofList] at bytes
  exact String.ofList_inj.1 (String.toByteArray_inj.1 bytes)

theorem rootBytes_eq (paths : List Path) :
    rootBytes paths = (lineChars paths).flatMap String.utf8EncodeChar := by
  have lineEnd : String.utf8EncodeChar '\n' = [10] := rfl
  rw [rootBytes, lineChars, List.flatMap_assoc]
  refine List.flatMap_congr fun p _ => ?_
  rw [lineBytes, List.flatMap_append, List.flatMap_singleton, lineEnd]

/-- What stands between the line ends of the characters are the lines, and behind the last
line end stands nothing. -/
theorem splitOn_lineChars (paths : List Path) :
    (lineChars paths).splitOn '\n' =
      paths.flatMap (fun p => p.text.toList.splitOn '\n') ++ [[]] := by
  induction paths with
  | nil => exact List.splitOn_nil _
  | cons p rest ih =>
    calc (lineChars (p :: rest)).splitOn '\n'
        = (p.text.toList ++ '\n' :: lineChars rest).splitOn '\n' := by
          simp [lineChars]
      _ = p.text.toList.splitOn '\n' ++ (lineChars rest).splitOn '\n' :=
          List.splitOn_append_cons_self _ _
      _ = _ := by rw [ih, List.flatMap_cons, List.append_assoc]

theorem pathLines_eq (paths : List Path) :
    pathLines paths = (paths.flatMap fun p => p.text.toList.splitOn '\n').map String.ofList := by
  rw [pathLines, List.map_flatMap]
  rfl

/-- Characters of paths are the same if and only if the lines are: the lines are read back
by splitting, and put together again by joining. -/
theorem lineChars_eq_iff {ps qs : List Path} :
    lineChars ps = lineChars qs ↔ pathLines ps = pathLines qs := by
  have ofList : Function.Injective String.ofList := fun _ _ => String.ofList_inj.1
  rw [pathLines_eq, pathLines_eq, (List.map_injective_iff.2 ofList).eq_iff]
  constructor
  · intro same
    have parts := congrArg (List.splitOn '\n') same
    rw [splitOn_lineChars, splitOn_lineChars] at parts
    exact List.append_cancel_right parts
  · intro same
    have joined : ∀ cs : List Char, ['\n'].intercalate (cs.splitOn '\n') = cs :=
      fun _ => List.intercalate_splitOn _
    calc lineChars ps = ['\n'].intercalate ((lineChars ps).splitOn '\n') := (joined _).symm
      _ = ['\n'].intercalate ((lineChars qs).splitOn '\n') := by
          rw [splitOn_lineChars, splitOn_lineChars, same]
      _ = lineChars qs := joined _

/-- **The byte string of paths determines their lines, and is determined by them.** -/
theorem rootBytes_eq_iff {ps qs : List Path} :
    rootBytes ps = rootBytes qs ↔ pathLines ps = pathLines qs := by
  rw [← lineChars_eq_iff, rootBytes_eq, rootBytes_eq]
  exact ⟨flatMap_utf8EncodeChar_inj, congrArg _⟩

/-- A path without a line end is one line. -/
theorem pathLines_of_single {paths : List Path} (single : ∀ p ∈ paths, '\n' ∉ p.text.toList) :
    pathLines paths = paths.map Path.text := by
  rw [pathLines, List.map_eq_flatMap]
  refine List.flatMap_congr fun p member => ?_
  rw [Text.splitLines, List.splitOn_eq_singleton (single p member), List.map_singleton,
    String.ofList_toList]

/-- Paths without line ends are known by their lines. -/
theorem pathLines_eq_iff {ps qs : List Path} (single : ∀ p ∈ ps, '\n' ∉ p.text.toList)
    (single' : ∀ p ∈ qs, '\n' ∉ p.text.toList) : pathLines ps = pathLines qs ↔ ps = qs := by
  have text : Function.Injective Path.text := fun p q same => by cases p; cases q; congr
  rw [pathLines_of_single single, pathLines_of_single single',
    (List.map_injective_iff.2 text).eq_iff]

theorem fingerprint_eq_iff {ps qs : List Path} :
    fingerprint ps = fingerprint qs ↔
      pathLines ps = pathLines qs ∨ Digest.Collide (rootBytes ps) (rootBytes qs) := by
  rw [fingerprint, fingerprint, blake3Hex_eq_iff_or_collide, rootBytes_eq_iff]

/-- **Fingerprints compare lines.**  The fingerprints of two sessions are equal exactly if
their roots stand for the same lines in the same order, or if the digest collides on the
two byte strings.  Where no root holds a line end, this means that they have the same
roots, spelled the same way and in the same order. -/
theorem Session.fingerprints_compare_lines (s t : Session) (q q' : RootQuery) :
    (fingerprint (s.rootPaths q) = fingerprint (t.rootPaths q') ↔
      pathLines (s.rootPaths q) = pathLines (t.rootPaths q') ∨
        Digest.Collide (rootBytes (s.rootPaths q)) (rootBytes (t.rootPaths q'))) ∧
    ((∀ p ∈ s.rootPaths q, '\n' ∉ p.text.toList) →
      (∀ p ∈ t.rootPaths q', '\n' ∉ p.text.toList) →
      (fingerprint (s.rootPaths q) = fingerprint (t.rootPaths q') ↔
        s.rootPaths q = t.rootPaths q' ∨
          Digest.Collide (rootBytes (s.rootPaths q)) (rootBytes (t.rootPaths q')))) := by
  constructor
  · exact fingerprint_eq_iff
  · intro single single'
    rw [fingerprint_eq_iff, pathLines_eq_iff single single']

/-- Two spellings of one path have different byte strings. -/
example : Path.same ⟨"lib//a.jar"⟩ ⟨"lib/a.jar"⟩ = true ∧
    rootBytes [⟨"lib//a.jar"⟩] ≠ rootBytes [⟨"lib/a.jar"⟩] := by
  decide +kernel

/-! ## A line end in a path -/

namespace Splitting

/-- A library with one class path that holds a line end, and the two parts of that path as
sources; and a library with the parts in turned order. -/
def file : ProjectFile where
  libraries := .ofList [
    ("joined", { classes := [⟨"/a\n/b"⟩], sources := [⟨"/a"⟩, ⟨"/b"⟩] }),
    ("turned", { classes := [⟨"/b"⟩, ⟨"/a"⟩] })]
  modules := .ofList [
    ("app", { dependencies := [{ library := some "joined" }] }),
    ("tool", { dependencies := [{ library := some "turned" }] })]

/-- The module that depends on the first library. -/
def app : Module where
  name := "app"
  dependencies := [⟨"app", .source, none⟩, ⟨"app", .library "joined", some {}⟩]

/-- The module that depends on the second library. -/
def tool : Module where
  name := "tool"
  dependencies := [⟨"tool", .source, none⟩, ⟨"tool", .library "turned", some {}⟩]

/-- The project of the file. -/
def project : Project where
  modules := [app, tool]
  libraries := [⟨"joined", [⟨"/a\n/b"⟩], [⟨"/a"⟩, ⟨"/b"⟩]⟩, ⟨"turned", [⟨"/b"⟩, ⟨"/a"⟩], []⟩]

theorem project_eq : project = file.toProject ⟨"/work"⟩ := by
  decide +kernel

/-- A session on the project without options. -/
def session (root : Module) : Session where
  project := project
  roots := [root]

theorem dependencies_app : (session app).dependencies =
    [⟨⟨app, ⟨0, by decide⟩⟩, false⟩, ⟨⟨app, ⟨1, by decide⟩⟩, false⟩] := by
  cbv

theorem dependencies_tool : (session tool).dependencies =
    [⟨⟨tool, ⟨0, by decide⟩⟩, false⟩, ⟨⟨tool, ⟨1, by decide⟩⟩, false⟩] := by
  cbv

theorem compiled_app : (session app).rootPaths { kind := .compiled } = [⟨"/a\n/b"⟩] := by
  rw [Session.rootPaths_eq_distinct, dependencies_app]
  decide +kernel

theorem sources_app : (session app).rootPaths { kind := .sources } = [⟨"/a"⟩, ⟨"/b"⟩] := by
  rw [Session.rootPaths_eq_distinct, dependencies_app]
  decide +kernel

theorem compiled_tool :
    (session tool).rootPaths { kind := .compiled } = [⟨"/b"⟩, ⟨"/a"⟩] := by
  rw [Session.rootPaths_eq_distinct, dependencies_tool]
  decide +kernel

/-- The roots of the two sessions hold no line end, and stand in different order: their
fingerprints are equal only if the digest collides. -/
theorem turned_fingerprints_differ :
    (∀ p ∈ (session app).rootPaths { kind := .sources }, '\n' ∉ p.text.toList) ∧
      (∀ p ∈ (session tool).rootPaths { kind := .compiled }, '\n' ∉ p.text.toList) ∧
      (fingerprint ((session app).rootPaths { kind := .sources }) =
          fingerprint ((session tool).rootPaths { kind := .compiled }) →
        Digest.Collide (rootBytes [⟨"/a"⟩, ⟨"/b"⟩]) (rootBytes [⟨"/b"⟩, ⟨"/a"⟩])) := by
  have single : ∀ p ∈ (session app).rootPaths { kind := .sources }, '\n' ∉ p.text.toList := by
    rw [sources_app]
    decide
  have single' :
      ∀ p ∈ (session tool).rootPaths { kind := .compiled }, '\n' ∉ p.text.toList := by
    rw [compiled_tool]
    decide
  refine ⟨single, single', fun same => ?_⟩
  have compared := (Session.fingerprints_compare_lines (session app) (session tool)
    { kind := .sources } { kind := .compiled }).2 single single'
  rw [sources_app, compiled_tool] at compared same
  obtain listed | collide := compared.1 same
  · exact absurd listed (by decide)
  · exact collide

/-- One root and two roots have the same fingerprint. -/
theorem same_fingerprint :
    (session app).project = file.toProject ⟨"/work"⟩ ∧ (session app).RootsDeclared ∧
      (session app).rootPaths { kind := .compiled } = [⟨"/a\n/b"⟩] ∧
      (session app).rootPaths { kind := .sources } = [⟨"/a"⟩, ⟨"/b"⟩] ∧
      rootBytes ((session app).rootPaths { kind := .compiled }) =
        rootBytes ((session app).rootPaths { kind := .sources }) ∧
      fingerprint ((session app).rootPaths { kind := .compiled }) =
        fingerprint ((session app).rootPaths { kind := .sources }) := by
  have bytes : rootBytes ((session app).rootPaths { kind := .compiled }) =
      rootBytes ((session app).rootPaths { kind := .sources }) := by
    rw [compiled_app, sources_app]
    decide +kernel
  exact ⟨project_eq, by decide, compiled_app, sources_app, bytes,
    congrArg blake3Hex bytes⟩

end Splitting

end Classpath
