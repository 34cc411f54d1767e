import Classpath.Glob.Pattern

/-!
# What patterns look at

Most patterns look at a whole name. Those that can be told by the file name or by its extension look
at that first. The file name is what follows the last slash, and a name that ends in `..` has none.

## Main definitions

* `Glob.Basis` — what of a name a pattern looks at
* `Glob.basis` — the basis of a pattern
* `Glob.isMatch` — whether a pattern matches a name
-/

namespace Classpath.Glob

/-- What of a name a pattern looks at. -/
inductive Basis
  /-- The file name, which is given: `**/text`. -/
  | fileName
  /-- The whole name, which is given. -/
  | fullName
  /-- The extension, before which anything may stand. -/
  | extension
  /-- The start of the name, behind which anything may stand. -/
  | start
  /-- The end of the name, before which anything may stand. -/
  | finish
  /-- The extension, and then the whole name. -/
  | extensionFirst
  /-- The whole name. -/
  | everything
deriving DecidableEq, Repr

namespace Item

/-- Whether an item is a character that stands for itself. -/
def isLiteral : Item → Bool
  | .literal _ => true
  | _ => false

/-- Whether an item is one of the characters that belong to a file name. -/
def isInFileName : Item → Bool
  | .literal c => c != '/'
  | _ => false

/-- Whether an item is one of the characters that belong to an extension. -/
def isInExtension : Item → Bool
  | .literal c => c != '/' && c != '.'
  | _ => false

end Item

/-- Whether a pattern is two stars that stand for a path and a file name. -/
def isFileName : Pattern → Bool
  | .anyPath :: p => !p.isEmpty && p.all Item.isInFileName
  | _ => false

/-- Whether a pattern is a name. -/
def isFullName (p : Pattern) : Bool :=
  !p.isEmpty && p.all Item.isLiteral

/-- Whether a pattern is a star and an extension, perhaps behind any path. -/
def isExtension : Pattern → Bool
  | .anyPath :: .anything :: .literal '.' :: p | .anything :: .literal '.' :: p =>
    p.all Item.isInExtension
  | _ => false

/-- Whether a pattern is a text with a star behind it, or a path and all beneath it. -/
def isStart (p : Pattern) : Bool :=
  match p.getLast? with
  | some .anything => isFullName p.dropLast
  | some .beneath => p.dropLast.all Item.isLiteral
  | _ => false

/-- Whether a pattern is a text, but not a single slash, behind a star or any path. -/
def isFinish : Pattern → Bool
  | .anyPath :: .literal _ :: p => p.all Item.isLiteral
  | .anyPath :: .anything :: p | .anything :: p =>
    isFullName p && !(match p with
      | [.literal '/'] => true
      | _ => false)
  | _ => false

/-- Whether the items of a pattern, the last one first, begin with an extension. -/
def endsInExtension : List Item → Bool
  | .literal '.' :: _ => true
  | .literal '/' :: _ => false
  | .literal _ :: items => endsInExtension items
  | _ => false

/-- What of a name a pattern looks at. -/
def basis (p : Pattern) : Basis :=
  if isFileName p then .fileName
  else if isFullName p then .fullName
  else if isExtension p then .extension
  else if isStart p then .start
  else if isFinish p then .finish
  else if endsInExtension p.reverse then .extensionFirst
  else .everything

/-- Whether a basis is the file name or a part of it. -/
def Basis.usesFileName : Basis → Bool
  | .fileName | .extension | .extensionFirst => true
  | _ => false

/-- Whether a name has a file name: what follows its last slash is not `..`. -/
def hasFileName (name : String) : Bool :=
  name.toList.reverse.takeWhile (· ≠ '/') ≠ ['.', '.']

/-- Whether a pattern matches a name. -/
def isMatch (p : Pattern) (name : String) : Bool :=
  fits p name && ((basis p).usesFileName → hasFileName name)

end Classpath.Glob
