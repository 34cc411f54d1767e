import Classpath.Glob.Pattern

/-!
# Reading glob patterns

## Main definitions

* `Glob.Fault` — why a text is no pattern
* `Glob.parse` — the pattern of a text
-/

namespace Classpath.Glob

/-- Why a text is no pattern. -/
inductive Fault
  | unclosedClass
  | invalidRange (first last : Char)
  | unopenedAlternatives
  | unclosedAlternatives
  | danglingEscape
  | tooDeep
deriving DecidableEq, Repr

namespace Fault

/-- What is said about a fault. -/
def message : Fault → String
  | unclosedClass => "unclosed character class; missing ']'"
  | invalidRange first last =>
    "invalid range; '" ++ first.toString ++ "' > '" ++ last.toString ++ "'"
  | unopenedAlternatives => "unopened alternate group; missing '\x7b'"
  | unclosedAlternatives => "unclosed alternate group; missing '\x7d'"
  | danglingEscape => "dangling '\\'"
  | tooDeep => "too many groups inside each other"

end Fault

/-- A group of alternatives that is not closed. -/
structure OpenGroup where
  /-- The complete branches, newest first. -/
  branches : List Pattern
  /-- The items in front of the group, newest first. -/
  before : List Item

/-- A class that is not closed; the newest range comes first. -/
structure OpenClass where
  negated : Bool
  ranges : List (Char × Char) := []
  /-- Nothing of the class has been read, so that a bracket or hyphen stands for itself. -/
  isFirst : Bool := true
  /-- A hyphen has been read, so that a character ends a range. -/
  inRange : Bool := false

/-- What has been read of a pattern. -/
structure Reading where
  /-- The items of the current branch, newest first. -/
  items : List Item := []
  /-- The groups that are not closed, the innermost first. -/
  groups : List OpenGroup := []

namespace OpenClass

/-- Ends a range with a character. -/
def endRange (c : OpenClass) (last : Char) : Except Fault OpenClass :=
  match c.ranges with
  | (first, _) :: ranges =>
    if last < first then .error (.invalidRange first last)
    else .ok { c with ranges := (first, last) :: ranges, isFirst := false, inRange := false }
  | [] => .ok { c with ranges := [(last, last)], isFirst := false, inRange := false }

/-- Adds a character that stands for itself. -/
def add (c : OpenClass) (char : Char) : OpenClass :=
  { c with ranges := (char, char) :: c.ranges, isFirst := false, inRange := false }

/-- Reads a character of a class that does not close it. -/
def step (c : OpenClass) (char : Char) : Except Fault OpenClass :=
  if c.inRange then c.endRange char
  else if char = '-' && !c.isFirst then .ok { c with inRange := true }
  else .ok (c.add char)

/-- The item of a class. A hyphen at its end stands for itself. -/
def close (c : OpenClass) : Item :=
  .oneOf c.negated (if c.inRange then c.add '-' else c).ranges.reverse

end OpenClass

namespace Reading

/-- Adds an item. -/
def push (r : Reading) (i : Item) : Reading :=
  { r with items := i :: r.items }

/-- Adds a star twice, which is what two stars mean that do not stand for a path. -/
def pushStars (r : Reading) : Reading :=
  (r.push .anything).push .anything

/-- Puts two stars that stand for a path in the place of the slash in front of them. Stars behind
stars add nothing. -/
def putPath (r : Reading) (meaning : Item) : Reading :=
  match r.items with
  | .anyPath :: _ | .beneath :: _ => r
  | _ :: before => { r with items := meaning :: before }
  | [] => r.push meaning

/-- Opens a group of alternatives. -/
def openGroup (r : Reading) : Reading :=
  { items := [], groups := ⟨[], r.items⟩ :: r.groups }

/-- Closes the innermost group. -/
def closeGroup (r : Reading) : Except Fault Reading :=
  match r.groups with
  | [] => .error .unopenedAlternatives
  | g :: groups =>
    .ok { items := .alternatives (r.items.reverse :: g.branches).reverse :: g.before, groups }

/-- Reads a comma, which starts a new branch inside a group. -/
def comma (r : Reading) : Reading :=
  match r.groups with
  | [] => r.push (.literal ',')
  | g :: groups =>
    { items := [], groups := { g with branches := r.items.reverse :: g.branches } :: groups }

/-- The pattern that has been read. -/
def finish (r : Reading) : Except Fault Pattern :=
  if r.groups.isEmpty then .ok r.items.reverse else .error .unclosedAlternatives

/-- Whether two stars behind a character can stand for a path. -/
def startsPath (r : Reading) (previous : Option Char) : Bool :=
  previous = some '/' ||
    (!r.groups.isEmpty && (previous = some ',' || previous = some '\x7b'))

/-- Whether a branch or the pattern ends in front of a character. -/
def endsBranch (r : Reading) : Option Char → Bool
  | none => true
  | some c => !r.groups.isEmpty && (c = ',' || c = '\x7d')

/-- The path that two stars between two characters stand for. -/
def path? (r : Reading) (previous next : Option Char) : Option Item :=
  if r.items.isEmpty then
    if next = none || next = some '/' then some .anyPath else none
  else if r.startsPath previous then
    if next = some '/' then some .between
    else if r.endsBranch next then some .beneath
    else none
  else none

end Reading

/-- Reads the rest of a pattern, given the class that is not closed and the character before. -/
def parseFrom (r : Reading) :
    (openClass : Option OpenClass) → (previous : Option Char) → List Char → Except Fault Pattern
  | some _, _, [] => .error .unclosedClass
  | some c, _, char :: rest =>
    if char = ']' && !c.isFirst then parseFrom (r.push c.close) none (some char) rest
    else do parseFrom r (some (← c.step char)) (some char) rest
  | none, _, [] => r.finish
  | none, previous, '*' :: '*' :: '/' :: rest =>
    match r.path? previous (some '/') with
    | some meaning => parseFrom (r.putPath meaning) none (some '/') rest
    | none => parseFrom (r.pushStars.push (.literal '/')) none (some '/') rest
  | none, previous, '*' :: '*' :: rest =>
    match r.path? previous rest.head? with
    | some meaning => parseFrom (r.putPath meaning) none (some '*') rest
    | none => parseFrom r.pushStars none (some '*') rest
  | none, _, '*' :: rest => parseFrom (r.push .anything) none (some '*') rest
  | none, _, '?' :: rest => parseFrom (r.push .any) none (some '?') rest
  | none, _, '[' :: '!' :: rest => parseFrom r (some { negated := true }) (some '!') rest
  | none, _, '[' :: '^' :: rest => parseFrom r (some { negated := true }) (some '^') rest
  | none, _, '[' :: rest => parseFrom r (some { negated := false }) (some '[') rest
  | none, _, '\x7b' :: rest => parseFrom r.openGroup none (some '\x7b') rest
  | none, _, '\x7d' :: rest => do parseFrom (← r.closeGroup) none (some '\x7d') rest
  | none, _, ',' :: rest => parseFrom r.comma none (some ',') rest
  | none, _, ['\\'] => .error .danglingEscape
  | none, _, '\\' :: c :: rest => parseFrom (r.push (.literal c)) none (some c) rest
  | none, _, c :: rest => parseFrom (r.push (.literal c)) none (some c) rest

/-- The pattern of a text. -/
def parse (text : String) : Except Fault Pattern :=
  parseFrom {} none none text.toList

end Classpath.Glob
