import Classpath.Glob.Pattern

/-!
# How deeply patterns are nested

A pattern is built of bytes by repetition, sequence, choice and grouping. How deeply these stand in
each other is bounded, so that a pattern can be compiled.

## Main definitions

* `Glob.Item.terms` — how many parts of a sequence an item is
* `Glob.Item.depth` — how deeply the parts of an item stand in each other
* `Glob.isTooDeep` — whether a pattern goes beyond the bound
-/

namespace Classpath.Glob

/-- The number of bytes and ranges of bytes that a range of characters in a class stands for. -/
def rangeSize (first last : Char) : Nat :=
  if first = last then (bytesOf first).length
  else (bytesOf first).length + (bytesOf last).length - 1

/-- How deeply a class is nested: it is a set, and inside it a list unless it has one member. -/
def classDepth : List (Char × Char) → Nat
  | [(first, last)] => if rangeSize first last = 1 then 1 else 2
  | _ => 2

/-- How many parts of a sequence an item is. -/
def Item.terms : Item → Nat
  | .literal c => (bytesOf c).length
  | .any | .anything | .anyPath | .between | .oneOf .. => 1
  | .beneath => 2
  | .alternatives branches => if areVoid branches then 0 else 1

/-- How many parts of a sequence several items are together. -/
def termCount (items : List Item) : Nat :=
  items.foldr (fun item count => item.terms + count) 0

/-- The depth of a sequence of so many parts, the deepest of which has depth `inner`. -/
def sequenceDepth (terms inner : Nat) : Nat :=
  if 2 ≤ terms then inner + 1 else inner

mutual

/-- How deeply the parts of an item stand in each other. Two stars that stand for a path are a group
with a choice, one branch of which is a sequence with a repetition. -/
def Item.depth : Item → Nat
  | .literal _ | .any => 0
  | .anything | .beneath => 1
  | .anyPath | .between => 4
  | .oneOf _ ranges => classDepth ranges
  | .alternatives branches =>
    if areVoid branches then 0
    else
      let choice := if 2 ≤ branches.countP (fun items => !isVoid items) then 1 else 0
      1 + choice + deepestBranch branches

/-- The depth of the deepest of several sequences. -/
def deepestBranch : List (List Item) → Nat
  | [] => 0
  | items :: branches =>
    max (sequenceDepth (termCount items) (deepest items)) (deepestBranch branches)

/-- The depth of the deepest of several items. -/
def deepest : List Item → Nat
  | [] => 0
  | item :: items => max item.depth (deepest items)

end

/-- How deeply the parts of a pattern may stand in each other. -/
def maxDepth : Nat := 250

/-- Whether the parts of a pattern stand in each other too deeply. With the two ends of the name a
pattern is always a sequence. -/
def isTooDeep (p : Pattern) : Bool :=
  maxDepth < 1 + deepest p

end Classpath.Glob
