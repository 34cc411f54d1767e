/-!
# Characters and lines

Sets of characters, the blanks that separate words, and texts made of lines.

## Main definitions

* `CodeSet` — a property of characters, as the intervals of code points that have it
* `trim` — a text without the blanks at its ends
* `unlines`, `splitLines` — a text made of lines, and the lines of a text
-/

namespace Classpath.Text

/-- A set of code points, as closed intervals in increasing order. -/
structure CodeSet where
  intervals : List (Nat × Nat)

namespace CodeSet

/-- Whether some interval holds the code point of `c`. -/
def contains (s : CodeSet) (c : Char) : Bool :=
  s.intervals.any fun (first, last) => first ≤ c.toNat && c.toNat ≤ last

end CodeSet

/-- Characters with the Unicode property `White_Space`. -/
def blanks : CodeSet := ⟨[
  (0x9, 0xd), (0x20, 0x20), (0x85, 0x85), (0xa0, 0xa0), (0x1680, 0x1680), (0x2000, 0x200a),
  (0x2028, 0x2029), (0x202f, 0x202f), (0x205f, 0x205f), (0x3000, 0x3000)]⟩

/-- Whether `c` is a blank. -/
def isBlank (c : Char) : Bool :=
  blanks.contains c

/-- `s` without the blanks at its two ends. -/
def trim (s : String) : String :=
  .ofList ((s.toList.dropWhile isBlank).reverse.dropWhile isBlank).reverse

/-- Texts with a line end behind each. -/
def unlines (lines : List String) : String :=
  .join (lines.map (· ++ "\n"))

/-- The parts of a text between line ends. -/
def splitLines (s : String) : List String :=
  (s.toList.splitOn '\n').map .ofList

end Classpath.Text
