import Classpath.Toml.Value

/-!
# TOML scalars

Which words are truth values, numbers and dates.

## Main definitions

* `Toml.isInteger`, `Toml.isFloat`, `Toml.isDateTime` — the forms of numbers and dates
* `Toml.scalar` — the value of a word

## Design notes

A word with the form of an integer need not be a number: `0x` has no digit, and `1_a` one of another
base. Such a word is refused only when its value is asked for.
-/

namespace Classpath.Toml

/-- Whether a text is digits, with at most one underscore between any two of them. -/
def isSpacedDigits (isDigit : Char → Bool) : List Char → Bool
  | [] => false
  | [c] => isDigit c
  | c :: '_' :: rest => isDigit c && isSpacedDigits isDigit rest
  | c :: rest => isDigit c && isSpacedDigits isDigit rest

/-- Whether a text is a decimal number without sign and without leading zeros. -/
def isDecimal : List Char → Bool
  | ['0'] => true
  | '0' :: _ => false
  | cs => isSpacedDigits Char.isDigit cs

/-- A text without the sign in front of it. -/
def withoutSign : List Char → List Char
  | '+' :: rest | '-' :: rest => rest
  | cs => cs

/-- Whether every underscore of a text stands between two digits in base 16, where `before` says
whether such a digit stands in front of the text. -/
def isSpacing (before : Bool) : List Char → Bool
  | [] => true
  | '_' :: rest => before && rest.head?.any (isDigitIn 16) && isSpacing false rest
  | c :: rest => isSpacing (isDigitIn 16 c) rest

/-- Whether a text is digits without leading zeros, an underscore, and more behind it that has
neither a point nor the letter of an exponent. -/
def isGrouped (cs : List Char) : Bool :=
  match cs.span Char.isDigit with
  | ('0' :: _, _) => false
  | (_, '_' :: rest) => isSpacing false cs && !rest.any fun c => c = '.' || c = 'e' || c = 'E'
  | _ => false

/-- Whether a text is digits in a base, perhaps none at all. -/
def isBased (base : Nat) (cs : List Char) : Bool :=
  cs.isEmpty || isSpacedDigits (isDigitIn base) cs

/-- Whether a text has the form of an integer: decimal or in groups, or without sign in base 16, 8
or 2. -/
def isInteger : List Char → Bool
  | '0' :: 'x' :: digits => isBased 16 digits
  | '0' :: 'o' :: digits => isBased 8 digits
  | '0' :: 'b' :: digits => isBased 2 digits
  | cs => isDecimal (withoutSign cs) || isGrouped (withoutSign cs)

/-- Whether a text is a decimal number, perhaps with digits behind a point. -/
def isMantissa (cs : List Char) : Bool :=
  match cs.span (· ≠ '.') with
  | (whole, []) => isDecimal whole
  | (whole, _ :: fraction) => isDecimal whole && isSpacedDigits Char.isDigit fraction

/-- Whether a text is a number with a point or an exponent, or one of the words for an infinite
or undefined number. -/
def isFloat (cs : List Char) : Bool :=
  let number := withoutSign cs
  number = ['i', 'n', 'f'] || number = ['n', 'a', 'n'] ||
    match number.span (fun c => c ≠ 'e' && c ≠ 'E') with
    | (mantissa, []) => mantissa.contains '.' && isMantissa mantissa
    | (mantissa, _ :: exponent) =>
      isMantissa mantissa && isSpacedDigits Char.isDigit (withoutSign exponent)

/-- The number of days of a month. -/
def daysInMonth (year month : Nat) : Nat :=
  if month = 2 then
    if year % 4 = 0 ∧ (year % 100 ≠ 0 ∨ year % 400 = 0) then 29 else 28
  else if month = 4 ∨ month = 6 ∨ month = 9 ∨ month = 11 then 30
  else 31

/-- Whether a text is the digits of a number within bounds. -/
def isNumberIn (first last : Nat) (cs : List Char) : Bool :=
  (numeral? 10 cs).any fun n => first ≤ n && n ≤ last

/-- Whether four, two and two digits name a day. -/
def isDay (year month day : List Char) : Bool :=
  match numeral? 10 year, numeral? 10 month with
  | some y, some m => 1 ≤ m && m ≤ 12 && isNumberIn 1 (daysInMonth y m) day
  | _, _ => false

/-- Whether a text is a date. -/
def isDate : List Char → Bool
  | [y1, y2, y3, y4, '-', m1, m2, '-', d1, d2] => isDay [y1, y2, y3, y4] [m1, m2] [d1, d2]
  | _ => false

/-- Whether a text is an offset from universal time, or nothing. -/
def isOffset : List Char → Bool
  | [] => true
  | ['Z'] | ['z'] => true
  | [sign, h1, h2, ':', m1, m2] =>
    (sign = '+' || sign = '-') && isNumberIn 0 23 [h1, h2] && isNumberIn 0 59 [m1, m2]
  | _ => false

/-- What follows a time of day at the start of a text. Seconds may be left out, and may have
digits behind a point. -/
def afterTime? : List Char → Option (List Char)
  | h1 :: h2 :: ':' :: m1 :: m2 :: rest =>
    if isNumberIn 0 23 [h1, h2] && isNumberIn 0 59 [m1, m2] then
      match rest with
      | ':' :: s1 :: s2 :: rest =>
        if !isNumberIn 0 60 [s1, s2] then none
        else match rest with
          | '.' :: digit :: rest =>
            if digit.isDigit then some (rest.dropWhile Char.isDigit) else none
          | '.' :: [] => none
          | rest => some rest
      | rest => some rest
    else none
  | _ => none

/-- Whether a text is a date, a time of day, or both, the latter perhaps with an offset. -/
def isDateTime (cs : List Char) : Bool :=
  if isDate cs then true
  else if afterTime? cs = some [] then true
  else match cs.drop 10 with
    | separator :: time =>
      isDate (cs.take 10) && (separator = 'T' || separator = 't' || separator = ' ') &&
        (afterTime? time).any isOffset
    | [] => false

/-- The value of a word. -/
def scalar (text : String) : Except Fault Value :=
  let cs := text.toList
  if text = "true" then .ok (.boolean true)
  else if text = "false" then .ok (.boolean false)
  else if isInteger cs then .ok (.integer text)
  else if isFloat cs then .ok (.float text)
  else if isDateTime cs then .ok (.dateTime text)
  else .error (.scalar text)

end Classpath.Toml
