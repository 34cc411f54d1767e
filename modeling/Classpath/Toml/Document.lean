import Classpath.Toml.Scalar
import Classpath.Toml.Token

/-!
# TOML documents

A document is read token by token. Values that are not yet complete stand on a stack: the pair
that a value is for, and the arrays and tables in braces around it.

## Main definitions

* `Toml.Container` — a value that is not yet complete
* `Toml.Reader` — the document so far, the stack, and what may come next
* `Toml.Reader.feed` — reads one token
* `Toml.parse` — the document of a text
-/

namespace Classpath.Toml

/-- A value that is not yet complete. -/
inductive Container
  /-- A value of the document, under a dotted key of the current table. -/
  | pair (path : List String) (key : String)
  /-- An array; the newest item comes first. -/
  | array (items : List Value)
  /-- A table in braces, and the dotted key whose value is being read. -/
  | inline (table : Table) (path : List String) (key : String)

/-- What a dotted key is for. -/
inductive KeyUse
  | table
  | tables
  | pair
  | inline
deriving DecidableEq, Repr

/-- What may come next. Parts of a key are kept newest first. -/
inductive ReadMode
  /-- A line. -/
  | line
  /-- Nothing but the end of the line. -/
  | lineEnd
  /-- A second bracket or a key. -/
  | header
  /-- A part of a key. -/
  | keyPart (use : KeyUse) (parts : List String)
  /-- What follows a part of a key. -/
  | keyEnd (use : KeyUse) (parts : List String)
  /-- The equals sign behind a key in braces, on a later line than the key. -/
  | inlineEquals (parts : List String)
  /-- The second closing bracket. -/
  | tablesEnd (parts : List String)
  /-- A value. -/
  | value
  /-- More of a word. -/
  | word (text : String)
  /-- A time of day behind a date and a space. -/
  | dated (text : String)
  /-- What follows an item. -/
  | item
  /-- A key in braces. -/
  | inlineKey
deriving Repr

/-- The state of reading a document. -/
structure Reader where
  document : Table := ⟨.declared, []⟩
  /-- The path of the table of the last header. -/
  current : List String := []
  containers : List Container := []
  mode : ReadMode := .line

/-- How many arrays and tables in braces may stand inside each other. -/
def maxDepth : Nat := 80

/-- How many parts a dotted key may have. -/
def maxKeyParts : Nat := 80

/-- Whether a word can be a key without quotes. -/
def isBareKey (text : String) : Bool :=
  text.toList.all fun c => c.isAlphanum || c = '_' || c = '-'

/-- The part of a key that a token is. -/
def keyPart : Token → Except Fault String
  | .bare text => if isBareKey text then .ok text else .error (.bareKey text)
  | .quoted text false => .ok text
  | t => .error (.unexpected t.describe)

namespace Reader

/-- The table that the keys of the document go to is changed. -/
def changeCurrent (r : Reader) (change : Table → Except Fault Table) : Except Fault Reader := do
  let document ← r.document.alter false change r.current
  return { r with document }

/-- Hands a complete value to what it is for. -/
def deliver (r : Reader) (v : Value) : Except Fault Reader :=
  match r.containers with
  | [] => .error .unterminated
  | .pair path key :: _ => do
    let r ← r.changeCurrent (·.insert path key v)
    return { r with containers := [], mode := .lineEnd }
  | .array items :: rest => .ok { r with containers := .array (v :: items) :: rest, mode := .item }
  | .inline table path key :: rest => do
    let table ← table.insert path key v
    return { r with containers := .inline table [] "" :: rest, mode := .item }

/-- Opens an array or a table in braces. -/
def openContainer (r : Reader) (c : Container) (mode : ReadMode) : Except Fault Reader :=
  if r.containers.length ≤ maxDepth then
    .ok { r with containers := c :: r.containers, mode }
  else .error .tooDeep

/-- Closes the innermost array. -/
def closeArray (r : Reader) : Except Fault Reader :=
  match r.containers with
  | .array items :: rest => deliver { r with containers := rest } (.array false items.reverse)
  | _ => .error (.unexpected Token.closeBracket.describe)

/-- Closes the innermost table in braces. -/
def closeInline (r : Reader) : Except Fault Reader :=
  match r.containers with
  | .inline table _ _ :: rest => deliver { r with containers := rest } table.toValue
  | _ => .error (.unexpected Token.closeBrace.describe)

/-- Whether the innermost value that is not complete is an array. -/
def inArray (r : Reader) : Bool :=
  match r.containers with
  | .array _ :: _ => true
  | _ => false

/-- Whether an array or a table in braces is being read, where values may start on a later line. -/
def inBrackets (r : Reader) : Bool :=
  match r.containers with
  | .array _ :: _ | .inline .. :: _ => true
  | _ => false

/-- Adds a part to a key. -/
def addKeyPart (r : Reader) (use : KeyUse) (parts : List String) (t : Token) :
    Except Fault Reader := do
  let part ← keyPart t
  if parts.length < maxKeyParts then return { r with mode := .keyEnd use (part :: parts) }
  else throw .tooDeep

/-- Goes on from a complete key to its value. -/
def startValue (r : Reader) (use : KeyUse) (path : List String) (key : String) :
    Except Fault Reader :=
  match use, r.containers with
  | .pair, containers => .ok { r with containers := .pair path key :: containers, mode := .value }
  | .inline, .inline table _ _ :: rest =>
    .ok { r with containers := .inline table path key :: rest, mode := .value }
  | _, _ => .error (.unexpected Token.equals.describe)

/-- Reads a token that is not inside a word. -/
def feedMark (r : Reader) (t : Token) : Except Fault Reader :=
  let unexpected := Except.error (.unexpected t.describe)
  match r.mode, t with
  | .line, .blank _ | .line, .newline => .ok r
  | .line, .openBracket => .ok { r with mode := .header }
  | .line, t => r.addKeyPart .pair [] t
  | .lineEnd, .blank _ => .ok r
  | .lineEnd, .newline => .ok { r with mode := .line }
  | .lineEnd, _ => unexpected
  | .header, .openBracket => .ok { r with mode := .keyPart .tables [] }
  | .header, .blank _ => .ok { r with mode := .keyPart .table [] }
  | .header, t => r.addKeyPart .table [] t
  | .keyPart .., .blank _ => .ok r
  | .keyPart use parts, t => r.addKeyPart use parts t
  | .keyEnd .., .blank _ => .ok r
  | .keyEnd .inline parts, .newline => .ok { r with mode := .inlineEquals parts }
  | .keyEnd use parts, .dot => .ok { r with mode := .keyPart use parts }
  | .keyEnd use (key :: above), .equals => r.startValue use above.reverse key
  | .keyEnd .table (key :: above), .closeBracket => do
    let document ← r.document.declare above.reverse key
    return { r with document, current := (key :: above).reverse, mode := .lineEnd }
  | .keyEnd .tables parts, .closeBracket => .ok { r with mode := .tablesEnd parts }
  | .keyEnd .., _ => unexpected
  | .inlineEquals _, .blank _ | .inlineEquals _, .newline => .ok r
  | .inlineEquals (key :: above), .equals => r.startValue .inline above.reverse key
  | .inlineEquals _, _ => unexpected
  | .tablesEnd (key :: above), .closeBracket => do
    let document ← r.document.declareElement above.reverse key
    return { r with document, current := (key :: above).reverse, mode := .lineEnd }
  | .tablesEnd _, _ => unexpected
  | .value, .blank _ => .ok r
  | .value, .newline => if r.inBrackets then .ok r else unexpected
  | .value, .quoted text _ => r.deliver (.string text)
  | .value, .bare text => .ok { r with mode := .word text }
  | .value, .openBracket => r.openContainer (.array []) .value
  | .value, .openBrace => r.openContainer (.inline ⟨.inline, []⟩ [] "") .inlineKey
  | .value, .closeBracket => r.closeArray
  | .value, _ => unexpected
  | .item, .blank _ | .item, .newline => .ok r
  | .item, .comma => .ok { r with mode := if r.inArray then .value else .inlineKey }
  | .item, .closeBracket => r.closeArray
  | .item, .closeBrace => r.closeInline
  | .item, _ => unexpected
  | .inlineKey, .blank _ | .inlineKey, .newline => .ok r
  | .inlineKey, .closeBrace => r.closeInline
  | .inlineKey, t => r.addKeyPart .inline [] t
  | .word _, _ | .dated _, _ => unexpected

/-- Hands over the value of a word, and reads the token behind it. -/
def endWord (r : Reader) (text : String) (t : Token) : Except Fault Reader := do
  (← r.deliver (← scalar text)).feedMark t

/-- Reads one token. Dots and the words around them belong to one number, and a date, a single
space and a time of day to one date. -/
def feed (r : Reader) (t : Token) : Except Fault Reader :=
  match r.mode, t with
  | .word text, .bare more => .ok { r with mode := .word (text ++ more) }
  | .word text, .dot => .ok { r with mode := .word (text ++ ".") }
  | .word text, .blank ' ' =>
    if isDate text.toList then .ok { r with mode := .dated text } else r.endWord text t
  | .word text, t => r.endWord text t
  | .dated text, .bare more => .ok { r with mode := .word (text ++ " " ++ more) }
  | .dated text, t => r.endWord text t
  | _, t => r.feedMark t

end Reader

/-- The document of a text. -/
def parse (text : String) : Except Fault Table := do
  let tokens ← scan text
  let last ← (tokens ++ [Token.newline]).foldlM Reader.feed {}
  match last.mode with
  | .line => return last.document
  | _ => throw Fault.unterminated

end Classpath.Toml
