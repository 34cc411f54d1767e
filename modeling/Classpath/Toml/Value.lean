/-!
# TOML values

The values of a TOML document, the digits that numbers are written with, and the faults for which a
text is refused as a document.

## Main definitions

* `Toml.isDigitIn` — the digits of a base
* `Toml.numeral?` — the number that digits stand for
* `Toml.Value` — strings, numbers, truth values, dates, arrays and tables
* `Toml.Table` — the entries of a table, and how it came about
* `Toml.Fault` — why a text is not a document, or a document not what is asked for

## Design notes

Numbers and dates are kept as they are written, because nothing is computed from them.
-/

namespace Classpath.Toml

/-! ## Digits -/

/-- The value of a digit in base 16; smaller bases use the first of these digits. -/
def digitValue? (c : Char) : Option Nat :=
  if c.isDigit then some (c.toNat - '0'.toNat)
  else if 'a' ≤ c ∧ c ≤ 'f' then some (c.toNat - 'a'.toNat + 10)
  else if 'A' ≤ c ∧ c ≤ 'F' then some (c.toNat - 'A'.toNat + 10)
  else none

/-- Whether a character is a digit in a base. -/
def isDigitIn (base : Nat) (c : Char) : Bool :=
  (digitValue? c).any (· < base)

/-- The number that a text stands for, if it is digits in a base and there is at least one. -/
def numeral? (base : Nat) (cs : List Char) : Option Nat :=
  if !cs.isEmpty && cs.all (isDigitIn base) then
    some (cs.foldl (fun n c => base * n + (digitValue? c).getD 0) 0)
  else none

/-! ## Values -/

/-- How a table came about, which decides what may still be added to it. -/
inductive Origin
  /-- A part of the path of a header. -/
  | implied
  /-- A part of a dotted key. -/
  | dotted
  /-- Its own header. -/
  | declared
  /-- Braces. -/
  | inline
deriving DecidableEq, Repr

/-- A value. Arrays that headers built up are told apart from arrays in brackets. -/
inductive Value
  | string (text : String)
  | integer (text : String)
  | float (text : String)
  | boolean (value : Bool)
  | dateTime (text : String)
  | array (ofTables : Bool) (items : List Value)
  | table (origin : Origin) (entries : List (String × Value))
deriving Repr

/-- A table. -/
structure Table where
  origin : Origin
  entries : List (String × Value)

/-- Why a text is refused. -/
inductive Fault
  /-- A character that may not stand where it does. -/
  | character (c : Char)
  /-- The text ends too early. -/
  | unterminated
  /-- A backslash before something that has no meaning behind one. -/
  | escape
  /-- A token that may not stand where it does. -/
  | unexpected (token : String)
  /-- A key that is not quoted although it has to be. -/
  | bareKey (text : String)
  /-- Something that is neither a number, a truth value nor a date. -/
  | scalar (text : String)
  /-- A key that is already taken. -/
  | duplicateKey (key : String)
  /-- A key under which nothing can be added. -/
  | notExtensible (key : String)
  /-- Too many values inside each other. -/
  | tooDeep
  /-- A word with the form of a number that is too large to be read, or is none. -/
  | number
  /-- A value of another type than the one asked for. -/
  | wrongType (expected : String)
  /-- A word that is not among the words asked for. -/
  | unknownVariant (word : String)
deriving DecidableEq, Repr

namespace Fault

/-- What is said about a fault. -/
def message : Fault → String
  | character c => "unexpected character " ++ toString c.toNat
  | unterminated => "unexpected end of the text"
  | escape => "unknown escape sequence"
  | unexpected token => "unexpected " ++ token
  | bareKey text => "key " ++ text ++ " needs quotes"
  | scalar text => "invalid value " ++ text
  | duplicateKey key => "duplicate key " ++ key
  | notExtensible key => "cannot extend the value of " ++ key
  | tooDeep => "values are nested too deeply"
  | number => "number cannot be read"
  | wrongType expected => "invalid type, expected " ++ expected
  | unknownVariant word => "unknown variant " ++ word

end Fault

namespace Table

/-- The table as a value. -/
def toValue (t : Table) : Value :=
  .table t.origin t.entries

/-- Whether a key is taken. -/
def contains (t : Table) (key : String) : Bool :=
  (t.entries.lookup key).isSome

/-- The table with a value under a key, in the place of the old one or at the end. -/
def put (t : Table) (key : String) (v : Value) : Table :=
  if t.contains key then
    { t with entries := t.entries.map fun (k, old) => (k, if k = key then v else old) }
  else { t with entries := t.entries ++ [(key, v)] }

/-- Changes the table that a path of keys leads to. Missing tables are made on the way. The path
goes on into the newest table of an array that headers built up, and nowhere else into an array;
nor does it go into a table in braces, or with a dotted key into a table that has its own
header. -/
def alter (dotted : Bool) (change : Table → Except Fault Table) :
    List String → Table → Except Fault Table
  | [], t => change t
  | key :: path, t =>
    match t.entries.lookup key with
    | none => do
      let made ← alter dotted change path ⟨if dotted then .dotted else .implied, []⟩
      return t.put key made.toValue
    | some (.table origin entries) =>
      if origin = .inline then .error (.notExtensible key)
      else if dotted && origin = .declared then .error (.duplicateKey key)
      else do
        let changed ← alter dotted change path ⟨origin, entries⟩
        return t.put key changed.toValue
    | some (.array true items) =>
      match items.getLast? with
      | some (.table origin entries) => do
        let changed ← alter dotted change path ⟨origin, entries⟩
        return t.put key (.array true (items.dropLast ++ [changed.toValue]))
      | _ => .error (.notExtensible key)
    | some _ => .error (.notExtensible key)

/-- Puts a value under a dotted key. The tables on the way have to be tables of dotted keys, and
the last part of the key must not be taken. -/
def insert (t : Table) (path : List String) (key : String) (v : Value) : Except Fault Table :=
  alter true
    (fun parent =>
      if parent.origin = .dotted ↔ path = [] then .error (.duplicateKey key)
      else if parent.contains key then .error (.duplicateKey key)
      else .ok (parent.put key v))
    path t

/-- Declares the table of a header. It must be new, or known only as a part of other headers. -/
def declare (t : Table) (path : List String) (key : String) : Except Fault Table :=
  alter false
    (fun parent =>
      match parent.entries.lookup key with
      | none => .ok (parent.put key (.table .declared []))
      | some (.table .implied entries) => .ok (parent.put key (.table .declared entries))
      | some _ => .error (.duplicateKey key))
    path t

/-- Adds a table to the array of a header in double brackets. -/
def declareElement (t : Table) (path : List String) (key : String) : Except Fault Table :=
  alter false
    (fun parent =>
      match parent.entries.lookup key with
      | none => .ok (parent.put key (.array true [.table .declared []]))
      | some (.array true items) =>
        .ok (parent.put key (.array true (items ++ [.table .declared []])))
      | some _ => .error (.duplicateKey key))
    path t

end Table

end Classpath.Toml
