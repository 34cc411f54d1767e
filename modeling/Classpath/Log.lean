import Classpath.Text.Basic
import Classpath.Text.Lowercase

/-!
# The log

What the program reports about its work beside its output: entries of five levels, and the level
from which on they are written.

## Main definitions

* `Log.Level` — how important an entry is
* `Log.Entry` — a message with named values
* `Log.effectiveLevel` — the level asked for by the command line or the environment
-/

namespace Classpath.Log

/-- How important an entry is. -/
inductive Level
  | error
  | warn
  | info
  | debug
  | trace
deriving DecidableEq, Repr

namespace Level

/-- All levels, the most important first. -/
def all : List Level :=
  [error, warn, info, debug, trace]

/-- The word for a level. -/
def name : Level → String
  | error => "ERROR"
  | warn => "WARN"
  | info => "INFO"
  | debug => "DEBUG"
  | trace => "TRACE"

/-- The place of a level among all, from one on. -/
def rank : Level → Nat
  | error => 1
  | warn => 2
  | info => 3
  | debug => 4
  | trace => 5

/-- Whether entries of a level are written where `limit` is asked for. -/
def isShownAt (level limit : Level) : Bool :=
  level.rank ≤ limit.rank

/-- The level with this word, in any mixture of capital and small letters. -/
def ofName? (s : String) : Option Level :=
  all.find? fun level => Text.lowercaseAscii level.name = Text.lowercaseAscii s

/-- The value of a number in decimal digits, which a plus sign may precede. -/
def number? (s : String) : Option Nat :=
  let digits := match s.toList with
    | '+' :: rest => rest
    | cs => cs
  if !digits.isEmpty && digits.all Char.isDigit then
    some (digits.foldl (fun n c => 10 * n + (c.toNat - '0'.toNat)) 0)
  else none

/-- The level a text asks for: by name, by rank, or by the long form of `warn`. -/
def parse? (s : String) : Option Level :=
  let word := Text.trim s
  if Text.lowercaseAscii word = "warning" then some warn
  else match number? word with
    | some n => all.find? (·.rank = n)
    | none => ofName? word

end Level

/-- A message with named values. -/
structure Entry where
  level : Level
  message : String
  fields : List (String × String) := []
deriving DecidableEq, Repr

namespace Entry

/-- The line that shows an entry. -/
def line (e : Entry) : String :=
  e.level.name ++ " " ++ e.message ++
    .join (e.fields.map fun (field, value) => " " ++ field ++ "=" ++ value)

end Entry

/-- The level from which on entries are written: the one on the command line, else the one in the
environment if it can be read, else `info`. -/
def effectiveLevel (chosen : Option Level) (environment : Option String) : Level :=
  chosen.getD ((environment.bind Level.parse?).getD .info)

end Classpath.Log
