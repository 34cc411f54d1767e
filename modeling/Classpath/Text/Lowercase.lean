import Classpath.Text.Unicode.Casing

/-!
# Small letters

A text in small letters, by the full mapping of Unicode. Two rules go beyond a map of single
characters: the dotted capital I becomes an i followed by a combining dot, and a capital sigma
becomes a final sigma where it ends a word.

## Main definitions

* `lowercase` — the text in small letters
* `endsWord` — the condition for a final sigma
-/

namespace Classpath.Text

open Unicode

/-- The small letter of a character; a character that is no capital stands for itself. -/
def smallLetter (c : Char) : Char :=
  let n := c.toNat
  match capitalRuns.find? fun (first, last, step, _) =>
      first ≤ n && n ≤ last && (n - first) % step == 0 with
  | some (first, _, _, small) => .ofNat (small + (n - first))
  | none => c

/-- Whether a letter with case comes first once ignorable characters are passed over. -/
def meetsCased (cs : List Char) : Bool :=
  match cs.dropWhile caseIgnorable.contains with
  | [] => false
  | c :: _ => cased.contains c

/-- Whether a letter ends a word, given the characters before it, nearest first, and those after
it. -/
def endsWord (before after : List Char) : Bool :=
  meetsCased before && !meetsCased after

/-- The small letters of a text, given the characters before it, nearest first. -/
def lowercaseAfter (before : List Char) : List Char → List Char
  | [] => []
  | c :: rest =>
    let small :=
      if c = 'İ' then ['i', '\u0307']
      else if c = 'Σ' then [if endsWord before rest then 'ς' else 'σ']
      else [smallLetter c]
    small ++ lowercaseAfter (c :: before) rest

/-- `s` in small letters. -/
def lowercase (s : String) : String :=
  .ofList (lowercaseAfter [] s.toList)

/-- The small letter of an ASCII character; any other character stands for itself. -/
def lowercaseAscii (s : String) : String :=
  .ofList (s.toList.map Char.toLower)

end Classpath.Text
