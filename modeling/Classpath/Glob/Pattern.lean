/-!
# Glob patterns

Patterns over names with `?`, `*`, `**`, classes in brackets and alternatives in braces.

## Main definitions

* `Glob.Item` — a part of a pattern
* `Glob.Ends` — a choice among the ends of a name
* `Glob.Item.endsBefore` — the ends that an item takes to given ends
* `Glob.fits` — whether the items of a pattern match a whole name

## Design notes

Names are matched byte by byte: `?` and a class take one byte, and a class holds the bytes of its
characters. A question mark and a star also match a slash. An alternative that matches nothing but
the empty text does not count, unless all do.

A name is matched from its end: for each item in turn, the last one first, it is found which ends of
the name the items from there on match. So every item looks at the name once, however many stars a
pattern has.
-/

namespace Classpath.Glob

/-- A part of a pattern. -/
inductive Item
  | literal (c : Char)
  /-- Any byte. -/
  | any
  /-- Any bytes. -/
  | anything
  /-- `**` at the start: nothing, a slash, or anything that ends in a slash. -/
  | anyPath
  /-- `/**` at the end: a slash and anything behind it. -/
  | beneath
  /-- `/**/`: a slash, or anything between two slashes. -/
  | between
  | oneOf (negated : Bool) (ranges : List (Char × Char))
  | alternatives (branches : List (List Item))
deriving Repr

/-- A pattern. -/
abbrev Pattern := List Item

/-- The bytes of a character. -/
def bytesOf (c : Char) : List UInt8 :=
  String.utf8EncodeChar c

/-- The bytes of a name. -/
def nameBytes (name : String) : List UInt8 :=
  name.toList.flatMap bytesOf

/-- Whether a byte belongs to a range of characters: it lies between the last byte of the first
character and the first byte of the last, or is another byte of one of them. -/
def inRange (b : UInt8) (first last : Char) : Bool :=
  let low := bytesOf first
  let high := bytesOf last
  if first = last then low.contains b
  else
    low.dropLast.contains b || high.tail.contains b ||
      (low.getLast?.any (· ≤ b) && high.head?.any (b ≤ ·))

/-- The byte of a slash. -/
def slash : UInt8 := 47

/-- A choice among the ends of a name: a truth value for each end, the whole name first and the
empty end last. -/
abbrev Ends := List Bool

namespace Ends

/-- The choice of the empty end alone. -/
def onlyEmpty (name : List UInt8) : Ends :=
  name.map (fun _ => false) ++ [true]

/-- Whether the whole name is chosen. -/
def hasWhole (e : Ends) : Bool :=
  e.headD false

/-- The ends that begin with a byte that `accept` admits and go on with a chosen end. -/
def behind (accept : UInt8 → Bool) : List UInt8 → Ends → Ends
  | b :: name, _ :: e => (accept b && hasWhole e) :: behind accept name e
  | _, _ => [false]

/-- The ends that a chosen end is an end of. -/
def above : Ends → Ends
  | [] => []
  | chosen :: e =>
    let rest := above e
    (chosen || hasWhole rest) :: rest

/-- The ends that at least one of two choices has. -/
def union (e f : Ends) : Ends :=
  List.zipWith (· || ·) e f

/-- The ends that are chosen, and those with a slash somewhere and a chosen end behind it. -/
def pathsTo (name : List UInt8) (e : Ends) : Ends :=
  e.union (e.behind (· = slash) name).above

end Ends

mutual

/-- Whether an item stands for the empty text whatever it is matched with: a group all of whose
branches do. -/
def Item.isVoid : Item → Bool
  | .alternatives branches => areVoid branches
  | _ => false

/-- Whether all patterns of a list stand for the empty text. -/
def areVoid : List (List Item) → Bool
  | [] => true
  | items :: branches => isVoid items && areVoid branches

/-- Whether a pattern stands for the empty text. -/
def isVoid : List Item → Bool
  | [] => true
  | item :: items => item.isVoid && isVoid items

end

mutual

/-- The ends of a name that begin with something an item matches and go on with one of the ends
`e`. -/
def Item.endsBefore (name : List UInt8) : Item → Ends → Ends
  | .literal c, e => (bytesOf c).foldr (fun b e => e.behind (· = b) name) e
  | .any, e => e.behind (fun _ => true) name
  | .anything, e => e.above
  | .anyPath, e => e.pathsTo name
  | .beneath, e => e.above.behind (· = slash) name
  | .between, e => (e.pathsTo name).behind (· = slash) name
  | .oneOf negated ranges, e =>
    e.behind (fun b => ranges.any (fun (first, last) => inRange b first last) != negated) name
  | .alternatives branches, e =>
    if areVoid branches then e else endsBeforeAny name branches e

/-- The ends that begin with something one of several patterns matches. -/
def endsBeforeAny (name : List UInt8) : List (List Item) → Ends → Ends
  | [], e => e.map fun _ => false
  | items :: branches, e =>
    if isVoid items then endsBeforeAny name branches e
    else (endsBeforeAll name items e).union (endsBeforeAny name branches e)

/-- The ends that begin with something all items match one after the other. -/
def endsBeforeAll (name : List UInt8) : List Item → Ends → Ends
  | [], e => e
  | item :: items, e => item.endsBefore name (endsBeforeAll name items e)

end

/-- Whether the items of a pattern match a whole name one after the other. A pattern that is nothing
but `**` matches all. -/
def fits (p : Pattern) (name : String) : Bool :=
  match p with
  | [.anyPath] => true
  | _ =>
    let bytes := nameBytes name
    (endsBeforeAll bytes p (.onlyEmpty bytes)).hasWhole

end Classpath.Glob
