import Classpath.Text.Unicode.Display

/-!
# Quoted texts

How a name, a path or a list of names is shown in a message: in double quotes, with quotes,
backslashes and everything that cannot be seen spelled out, so that the text shown determines the
text meant.

## Main definitions

* `escape` — the spelling of one character
* `quoted` — a text between quotes
* `quotedList` — a list of texts between square brackets
* `record` — a value with its fields
-/

namespace Classpath.Text

/-- Whether a character is spelled by its code point. -/
def isHidden (c : Char) : Bool :=
  if c.toNat < 0x80 then c.toNat < 0x20 || c.toNat = 0x7f
  else
    (Unicode.graphemeExtend.contains c && !Unicode.halfwidthMarks.contains c) ||
      Unicode.fillers.contains c || Unicode.unprintable.contains c

/-- The lower-case hexadecimal digits of a number, without leading zeros. -/
def hexDigits (n : Nat) : List Char :=
  Nat.toDigits 16 n

/-- The spelling of one character inside quotes. -/
def escape (c : Char) : List Char :=
  match c with
  | '\x00' => ['\\', '0']
  | '\t' => ['\\', 't']
  | '\r' => ['\\', 'r']
  | '\n' => ['\\', 'n']
  | '"' => ['\\', '"']
  | '\\' => ['\\', '\\']
  | c => if isHidden c then ['\\', 'u', '\x7b'] ++ hexDigits c.toNat ++ ['\x7d'] else [c]

/-- A text in quotes. -/
def quoted (s : String) : String :=
  .ofList ('"' :: s.toList.flatMap escape ++ ['"'])

/-- A list of texts, each in quotes, in square brackets. -/
def quotedList (names : List String) : String :=
  "[" ++ ", ".intercalate (names.map quoted) ++ "]"

/-- The fields of a value, each behind its name, between braces. -/
def record (name : String) (fields : List (String × String)) : String :=
  name ++ " \x7b " ++ ", ".intercalate (fields.map fun (field, value) => field ++ ": " ++ value) ++
    " \x7d"

end Classpath.Text
