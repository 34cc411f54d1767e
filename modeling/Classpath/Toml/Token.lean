import Classpath.Toml.Value

/-!
# TOML tokens

A TOML text is cut into tokens by reading it one character at a time. What a character means
depends on the mode: between tokens, in a word, in a comment, or somewhere in a quoted text.

## Main definitions

* `Toml.Token` — words, quoted texts, marks, blanks and line ends
* `Toml.Scanner` — the mode and the tokens read so far
* `Toml.scan` — the tokens of a text
-/

namespace Classpath.Toml

/-- A piece of a text. Comments belong to the line end that follows. -/
inductive Token
  /-- One space or tab. -/
  | blank (c : Char)
  | newline
  | dot
  | equals
  | comma
  | openBracket
  | closeBracket
  | openBrace
  | closeBrace
  | bare (text : String)
  | quoted (text : String) (multiline : Bool)
deriving DecidableEq, Repr

namespace Token

/-- How a token is named in a message. -/
def describe : Token → String
  | blank _ => "blank"
  | newline => "end of line"
  | dot => "dot"
  | equals => "equals sign"
  | comma => "comma"
  | openBracket => "opening bracket"
  | closeBracket => "closing bracket"
  | openBrace => "opening brace"
  | closeBrace => "closing brace"
  | bare text => text
  | quoted .. => "string"

end Token

/-- The two kinds of quotes; escape sequences have a meaning only between double ones. -/
inductive Quote
  | double
  | single
deriving DecidableEq, Repr

namespace Quote

/-- The character of a quote. -/
def char : Quote → Char
  | double => '"'
  | single => '\''

end Quote

/-- Where a scanner is. Texts read so far are kept with the newest character first. -/
inductive ScanMode
  | between
  | word (text : List Char)
  | comment
  /-- Behind a carriage return, which a line feed has to follow. -/
  | carriage
  /-- Behind one quote. -/
  | opened (q : Quote)
  /-- Behind two quotes. -/
  | openedTwice (q : Quote)
  /-- Behind three quotes, where a line end does not count. -/
  | firstLine (q : Quote)
  | firstCarriage (q : Quote)
  | body (q : Quote) (multiline : Bool) (text : List Char)
  | bodyCarriage (q : Quote) (text : List Char)
  /-- Behind so many quotes in a text of several lines. -/
  | closing (q : Quote) (count : Nat) (text : List Char)
  | escape (multiline : Bool) (text : List Char)
  /-- In the digits of a code point. -/
  | code (multiline : Bool) (text : List Char) (left : Nat) (value : Nat)
  /-- Behind a backslash at the end of a line, which takes all blanks and line ends with it. -/
  | folded (text : List Char) (lineEnded : Bool)
  | foldedCarriage (text : List Char)
deriving Repr

/-- A mode, and the tokens read so far, newest first. -/
structure Scanner where
  mode : ScanMode := .between
  tokens : List Token := []

/-- Whether a character may stand neither in a text nor in a comment. -/
def isControl (c : Char) : Bool :=
  (c.toNat < 0x20 && c ≠ '\t') || c.toNat = 0x7f

/-- The mark that a character is. -/
def mark? : Char → Option Token
  | ' ' => some (.blank ' ')
  | '\t' => some (.blank '\t')
  | '\n' => some .newline
  | '.' => some .dot
  | '=' => some .equals
  | ',' => some .comma
  | '[' => some .openBracket
  | ']' => some .closeBracket
  | '\x7b' => some .openBrace
  | '\x7d' => some .closeBrace
  | _ => none

/-- Whether a character ends a word. A quote does not: a quoted text starts only between tokens. -/
def endsWord (c : Char) : Bool :=
  (mark? c).isSome || c = '#' || c = '\r'

/-- The character that a single letter behind a backslash stands for. -/
def escaped? : Char → Option Char
  | 'b' => some '\x08'
  | 't' => some '\t'
  | 'n' => some '\n'
  | 'f' => some '\x0c'
  | 'r' => some '\r'
  | 'e' => some '\x1b'
  | '"' => some '"'
  | '\\' => some '\\'
  | _ => none

/-- The number of digits of a code point behind this letter. -/
def codeLength? : Char → Option Nat
  | 'x' => some 2
  | 'u' => some 4
  | 'U' => some 8
  | _ => none

namespace Scanner

/-- Adds a token, and is between tokens. -/
def emit (tokens : List Token) (t : Token) : Scanner :=
  ⟨.between, t :: tokens⟩

/-- Reads a character between tokens. -/
def between (tokens : List Token) (c : Char) : Scanner :=
  match mark? c with
  | some t => emit tokens t
  | none =>
    if c = '#' then ⟨.comment, tokens⟩
    else if c = '\r' then ⟨.carriage, tokens⟩
    else if c = '"' then ⟨.opened .double, tokens⟩
    else if c = '\'' then ⟨.opened .single, tokens⟩
    else ⟨.word [c], tokens⟩

/-- Reads a character of a quoted text. -/
def body (tokens : List Token) (q : Quote) (multiline : Bool) (text : List Char) (c : Char) :
    Except Fault Scanner :=
  if c = q.char then
    .ok (if multiline then ⟨.closing q 1 text, tokens⟩
      else emit tokens (.quoted (.ofList text.reverse) false))
  else if c = '\\' && q = .double then .ok ⟨.escape multiline text, tokens⟩
  else if multiline && c = '\n' then .ok ⟨.body q true (c :: text), tokens⟩
  else if multiline && c = '\r' then .ok ⟨.bodyCarriage q text, tokens⟩
  else if isControl c then .error (.character c)
  else .ok ⟨.body q multiline (c :: text), tokens⟩

/-- The scanner behind a line feed, which is all that may follow a carriage return. -/
def afterCarriage (c : Char) (next : Scanner) : Except Fault Scanner :=
  if c = '\n' then .ok next else .error (.character c)

/-- The token of a text of several lines that ends with so many quotes, of which three close it. -/
def closed (q : Quote) (count : Nat) (text : List Char) : Token :=
  .quoted (.ofList (List.replicate (count - 3) q.char ++ text).reverse) true

/-- Reads one character. -/
def step (s : Scanner) (c : Char) : Except Fault Scanner :=
  match s.mode with
  | .between => .ok (between s.tokens c)
  | .word text =>
    .ok (if endsWord c then between (.bare (.ofList text.reverse) :: s.tokens) c
      else ⟨.word (c :: text), s.tokens⟩)
  | .comment =>
    if c = '\n' || c = '\r' then .ok (between s.tokens c)
    else if isControl c then .error (.character c)
    else .ok s
  | .carriage => afterCarriage c (emit s.tokens .newline)
  | .opened q =>
    if c = q.char then .ok ⟨.openedTwice q, s.tokens⟩ else body s.tokens q false [] c
  | .openedTwice q =>
    .ok (if c = q.char then ⟨.firstLine q, s.tokens⟩
      else between (.quoted "" false :: s.tokens) c)
  | .firstLine q =>
    if c = '\n' then .ok ⟨.body q true [], s.tokens⟩
    else if c = '\r' then .ok ⟨.firstCarriage q, s.tokens⟩
    else body s.tokens q true [] c
  | .firstCarriage q => afterCarriage c ⟨.body q true [], s.tokens⟩
  | .body q multiline text => body s.tokens q multiline text c
  | .bodyCarriage q text => afterCarriage c ⟨.body q true ('\n' :: '\r' :: text), s.tokens⟩
  | .closing q count text =>
    if c = q.char && count < 5 then .ok ⟨.closing q (count + 1) text, s.tokens⟩
    else if 3 ≤ count then .ok (between (closed q count text :: s.tokens) c)
    else body s.tokens q true (List.replicate count q.char ++ text) c
  | .escape multiline text =>
    match escaped? c, codeLength? c with
    | some meant, _ => .ok ⟨.body .double multiline (meant :: text), s.tokens⟩
    | none, some count => .ok ⟨.code multiline text count 0, s.tokens⟩
    | none, none =>
      if !multiline then .error .escape
      else if c = ' ' || c = '\t' then .ok ⟨.folded text false, s.tokens⟩
      else if c = '\n' then .ok ⟨.folded text true, s.tokens⟩
      else if c = '\r' then .ok ⟨.foldedCarriage text, s.tokens⟩
      else .error .escape
  | .code multiline text left value =>
    match digitValue? c with
    | none => .error .escape
    | some digit =>
      let value := 16 * value + digit
      if 1 < left then .ok ⟨.code multiline text (left - 1) value, s.tokens⟩
      else if value.isValidChar then
        .ok ⟨.body .double multiline (.ofNat value :: text), s.tokens⟩
      else .error .escape
  | .folded text lineEnded =>
    if c = ' ' || c = '\t' then .ok s
    else if c = '\n' then .ok ⟨.folded text true, s.tokens⟩
    else if c = '\r' then .ok ⟨.foldedCarriage text, s.tokens⟩
    else if lineEnded then body s.tokens .double true text c
    else .error .escape
  | .foldedCarriage text => afterCarriage c ⟨.folded text true, s.tokens⟩

/-- The tokens, newest first, at the end of the text. -/
def finish (s : Scanner) : Except Fault (List Token) :=
  match s.mode with
  | .between | .comment => .ok s.tokens
  | .word text => .ok (.bare (.ofList text.reverse) :: s.tokens)
  | .openedTwice _ => .ok (.quoted "" false :: s.tokens)
  | .closing q count text =>
    if 3 ≤ count then .ok (closed q count text :: s.tokens) else .error .unterminated
  | _ => .error .unterminated

end Scanner

/-- The tokens of a text. A byte order mark at its start does not count. -/
def scan (text : String) : Except Fault (List Token) := do
  let chars := match text.toList with
    | '\ufeff' :: rest => rest
    | cs => cs
  let last ← chars.foldlM Scanner.step {}
  return (← last.finish).reverse

end Classpath.Toml
