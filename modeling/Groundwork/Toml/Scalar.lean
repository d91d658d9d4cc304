/-!
# Numbers and dates

Settings are never numbers or dates, but a document may hold some, and a malformed one makes the
whole document unreadable. `isScalar` tells the well-formed ones.

* `isInteger`: decimal integers of 64 bits, and those written in base 16, 8 or 2.
* `isFloat`: decimal fractions that do not round to infinity, and the special ones.
* `isDateTime`: dates, times of day and both.
-/

namespace Groundwork.Toml

/-! ## Digits -/

/-- A decimal digit. -/
def isDigit (c : Char) : Bool := '0' ≤ c && c ≤ '9'

/-- The value of a digit in bases up to 16. -/
def digitValue? (c : Char) : Option Nat :=
  if '0' ≤ c ∧ c ≤ '9' then some (c.toNat - '0'.toNat)
  else if 'a' ≤ c ∧ c ≤ 'f' then some (c.toNat - 'a'.toNat + 10)
  else if 'A' ≤ c ∧ c ≤ 'F' then some (c.toNat - 'A'.toNat + 10)
  else none

/-- A digit of a base. -/
def isDigitOf (base : Nat) (c : Char) : Bool := (digitValue? c).any (· < base)

/-- What may follow the first digit: digits, each with at most one underscore before it. -/
def areMoreDigits (digit : Char → Bool) : List Char → Bool
  | [] => true
  | '_' :: c :: rest => digit c && areMoreDigits digit rest
  | c :: rest => digit c && areMoreDigits digit rest

/-- **Digits**, at least one, that underscores may set apart. -/
def areDigits (digit : Char → Bool) : List Char → Bool
  | [] => false
  | c :: rest => digit c && areMoreDigits digit rest

/-- The number that digits of a base spell; underscores do not count. -/
def digitsValue (base : Nat) (cs : List Char) : Nat :=
  (cs.filterMap digitValue?).foldl (fun n d => n * base + d) 0

/-! ## Integers -/

/-- A sign, if there is one, and what follows it. -/
def splitSign : List Char → Option Char × List Char
  | '+' :: rest => (some '+', rest)
  | '-' :: rest => (some '-', rest)
  | cs => (none, cs)

/-- Decimal digits without a zero in front. -/
def isWhole (cs : List Char) : Bool :=
  areDigits isDigit cs && (cs.head? ≠ some '0' || cs = ['0'])

/-- The digits of another base, of a number of 63 bits. -/
def isInBase (base : Nat) (cs : List Char) : Bool :=
  areDigits (isDigitOf base) cs && digitsValue base cs < Nat.pow 2 63

/-- **An integer** of 64 bits, decimal or in base 16, 8 or 2. -/
def isInteger (cs : List Char) : Bool :=
  match cs with
  | '0' :: 'x' :: rest => isInBase 16 rest
  | '0' :: 'o' :: rest => isInBase 8 rest
  | '0' :: 'b' :: rest => isInBase 2 rest
  | cs =>
    let (sign, digits) := splitSign cs
    isWhole digits
      && (digitsValue 10 digits < Nat.pow 2 63
        || (sign = some '-' && digitsValue 10 digits = Nat.pow 2 63))

/-! ## Floats -/

/-- The number `digits · 10 ^ exponent` rounds to infinity: it is at least the half-way point
above the largest double. -/
def roundsToInfinity (digits : Nat) (exponent : Int) : Bool :=
  let limit := (Nat.pow 2 54 - 1) * Nat.pow 2 970
  let length := (Nat.toDigits 10 digits).length
  if digits = 0 then false
  else if 309 ≤ length - 1 + exponent then true
  else if length + exponent ≤ 308 then false
  else if 0 ≤ exponent then limit ≤ digits * Nat.pow 10 exponent.toNat
  else limit * Nat.pow 10 (-exponent).toNat ≤ digits

/-- The exponent that digits and a sign spell. -/
def exponentValue (cs : List Char) : Int :=
  let (sign, digits) := splitSign cs
  if sign = some '-' then -(digitsValue 10 digits : Int) else digitsValue 10 digits

/-- A decimal fraction: whole digits, then a point with digits, an exponent, or both. -/
def isFraction (cs : List Char) : Bool :=
  let (sign, number) := splitSign cs
  let base := number.takeWhile fun c => c ≠ 'e' && c ≠ 'E'
  let power := number.dropWhile fun c => c ≠ 'e' && c ≠ 'E'
  let whole := base.takeWhile (· ≠ '.')
  let point := base.dropWhile (· ≠ '.')
  let powerDigits := (splitSign (power.drop 1)).2
  isWhole whole
    && (point ≠ [] || power ≠ [])
    && (point = [] || areDigits isDigit (point.drop 1))
    && (power = [] || areDigits isDigit powerDigits)
    && (sign = some '-' || !roundsToInfinity (digitsValue 10 (whole ++ point))
      (exponentValue (power.drop 1) - (point.filter isDigit).length))

/-- **A decimal fraction** that does not round to infinity, or a special one. -/
def isFloat (cs : List Char) : Bool :=
  let number := (splitSign cs).2
  number = ['i', 'n', 'f'] || number = ['n', 'a', 'n'] || isFraction cs

/-! ## Dates and times -/

/-- Two digits that spell a number in a range. -/
def isPairIn (low high : Nat) (a b : Char) : Bool :=
  isDigit a && isDigit b && low ≤ digitsValue 10 [a, b] && digitsValue 10 [a, b] ≤ high

/-- The number of days of a month. -/
def daysIn (year month : Nat) : Nat :=
  if month = 2 then
    if year % 4 = 0 ∧ (year % 100 ≠ 0 ∨ year % 400 = 0) then 29 else 28
  else if month = 4 ∨ month = 6 ∨ month = 9 ∨ month = 11 then 30
  else 31

/-- A date that exists. -/
def isDate : List Char → Bool
  | [y1, y2, y3, y4, '-', m1, m2, '-', d1, d2] =>
    [y1, y2, y3, y4].all isDigit && isPairIn 1 12 m1 m2
      && isPairIn 1 (daysIn (digitsValue 10 [y1, y2, y3, y4]) (digitsValue 10 [m1, m2])) d1 d2
  | _ => false

/-- An offset from universal time. -/
def isOffset : List Char → Bool
  | ['Z'] | ['z'] => true
  | [sign, h1, h2, ':', m1, m2] =>
    (sign = '+' || sign = '-') && isPairIn 0 23 h1 h2 && isPairIn 0 59 m1 m2
  | _ => false

/-- What may follow the seconds: a fraction, and an offset where one is allowed. -/
def isAfterSeconds (withOffset : Bool) (cs : List Char) : Bool :=
  match cs with
  | '.' :: rest =>
    rest.head?.any isDigit
      && (let tail := rest.dropWhile isDigit; tail = [] || (withOffset && isOffset tail))
  | tail => tail = [] || (withOffset && isOffset tail)

/-- **A time of day**, with an offset where one is allowed. -/
def isTime (withOffset : Bool) : List Char → Bool
  | h1 :: h2 :: ':' :: m1 :: m2 :: ':' :: s1 :: s2 :: rest =>
    isPairIn 0 23 h1 h2 && isPairIn 0 59 m1 m2 && isPairIn 0 60 s1 s2
      && isAfterSeconds withOffset rest
  | _ => false

/-- **A date, a time, or both** with a `T` between them. -/
def isDateTime (cs : List Char) : Bool :=
  isDate cs || isTime false cs
    || (isDate (cs.take 10) && (cs[10]? = some 'T' || cs[10]? = some 't')
      && isTime true (cs.drop 11))

/-- **A number or a date.** -/
def isScalar (cs : List Char) : Bool := isInteger cs || isFloat cs || isDateTime cs

end Groundwork.Toml
