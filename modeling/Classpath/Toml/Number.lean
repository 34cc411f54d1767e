import Classpath.Toml.Value

/-!
# Reading numbers

An integer is read as a number of up to 128 bits, with or without sign, and a number with a point or
an exponent as the nearest one of 64 bits. Numbers are kept as they are written and are read when
their value is asked for.

## Main definitions

* `Toml.isReadableInteger`, `Toml.isReadableFloat` — whether a word with the form of a number is one
  that can be read
* `Toml.Value.isReadable` — whether all numbers in a value can be read
-/

namespace Classpath.Toml

/-- The number that a text stands for whose digits are in base 10, perhaps behind a sign. -/
def signedNumeral? : List Char → Option Int
  | '-' :: digits => (numeral? 10 digits).map fun n => -(n : Int)
  | '+' :: digits => (numeral? 10 digits).map Int.ofNat
  | digits => (numeral? 10 digits).map Int.ofNat

/-- The number that an integer without underscores stands for. -/
def integerNumber? : List Char → Option Int
  | '0' :: 'x' :: digits => (numeral? 16 digits).map Int.ofNat
  | '0' :: 'o' :: digits => (numeral? 8 digits).map Int.ofNat
  | '0' :: 'b' :: digits => (numeral? 2 digits).map Int.ofNat
  | cs => signedNumeral? cs

/-- A text without its underscores. -/
def withoutUnderscores (cs : List Char) : List Char :=
  cs.filter (· ≠ '_')

/-- Whether an integer is a number of 128 bits: without sign, or negative and in two's complement,
where `.negSucc n` stands for `-(n + 1)`. -/
def isReadableInteger (cs : List Char) : Bool :=
  match integerNumber? (withoutUnderscores cs) with
  | some (.ofNat n) => n < Nat.pow 2 128
  | some (.negSucc n) => n < Nat.pow 2 127
  | none => false

/-- The least number that is too large for 64 bits: it lies halfway between the largest such number
and the next power of two, and would be rounded up. -/
def floatLimit : Nat :=
  Nat.pow 2 1024 - Nat.pow 2 970

/-- Whether the number with these digits and so many zeros behind them is less than `floatLimit`; a
negative number of zeros moves the point to the left. How many digits there are decides, unless
they are as many as those of the limit. -/
def isBelowLimit (digits : List Char) (zeros : Int) : Bool :=
  let digits := digits.dropWhile (· = '0')
  let places := digits.length + zeros
  match numeral? 10 digits with
  | none => true
  | some n =>
    if places < 309 then true
    else if 309 < places then false
    else if 0 ≤ zeros then n * Nat.pow 10 zeros.toNat < floatLimit
    else n < floatLimit * Nat.pow 10 (-zeros).toNat

/-- Whether a number with a point or an exponent is not too large. The words for an infinite and an
undefined number have no digits and can be read. -/
def isReadableFloat (cs : List Char) : Bool :=
  let (mantissa, exponent) := (withoutUnderscores cs).span fun c => c ≠ 'e' && c ≠ 'E'
  let (whole, fraction) := mantissa.span (· ≠ '.')
  let whole := whole.filter Char.isDigit
  let fraction := fraction.filter Char.isDigit
  let exponent := (signedNumeral? (exponent.drop 1)).getD 0
  isBelowLimit (whole ++ fraction) (exponent - fraction.length)

mutual

/-- Whether all numbers in a value can be read. -/
def Value.isReadable : Value → Bool
  | .integer text => isReadableInteger text.toList
  | .float text => isReadableFloat text.toList
  | .array _ items => areReadable items
  | .table _ entries => areEntriesReadable entries
  | _ => true

/-- Whether all numbers in the items of an array can be read. -/
def areReadable : List Value → Bool
  | [] => true
  | v :: items => v.isReadable && areReadable items

/-- Whether all numbers in the entries of a table can be read. -/
def areEntriesReadable : List (String × Value) → Bool
  | [] => true
  | (_, v) :: entries => v.isReadable && areEntriesReadable entries

end

end Classpath.Toml
