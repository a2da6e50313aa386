import Relay.Json.Fault
import Relay.Json.Value

/-!
# Numbers in JSON text

Reading a number has two parts.

* `scanNumeral` finds the extent of the numeral by the grammar: an integer part without a
  superfluous leading zero, an optional fraction, an optional exponent (`Numeral`).
* `Numeral.value` gives its value. Without fraction and exponent an integer that fits 64 bits is
  exact. Everything else is computed from a *significand* of 64 bits: the digits are taken as long
  as they fit, the later digits of the integer part count as zeros and those of the fraction are
  dropped; the significand is then multiplied or divided once by a power of ten. This is quick and
  not always the nearest number.
-/

namespace Relay.Json

/-! ## 1. Extent -/

/-- Whether the exponent of a numeral is counted up or down. -/
structure Exponent where
  negative : Bool
  digits : List Char
  /-- What follows each of the digits is `digits.drop k ++ rest`. -/
  rest : List Char

/-- The parts of a numeral behind its sign. -/
structure Numeral where
  integer : List Char
  fraction : Option (List Char)
  exponent : Option Exponent

/-- The run of digits at the front, and what follows it. -/
def spanDigits (s : List Char) : List Char × List Char :=
  s.span Char.isDigit

/-- The integer part: a zero alone, or digits that start with another one. -/
def scanInteger : List Char → Reading (List Char)
  | [] => failAt .eofInValue []
  | '0' :: rest =>
    match rest with
    | c :: _ => if c.isDigit then failNext .invalidNumber rest else .ok (['0'], rest)
    | [] => .ok (['0'], [])
  | c :: rest =>
    if c.isDigit then .ok (c :: (spanDigits rest).1, (spanDigits rest).2)
    else failNext .invalidNumber (c :: rest)

/-- The fraction, if one follows: a point and at least one digit. -/
def scanFraction : List Char → Reading (Option (List Char))
  | '.' :: rest =>
    match spanDigits rest with
    | ([], []) => failAt .eofInValue []
    | ([], after) => failNext .invalidNumber after
    | (digits, after) => .ok (some digits, after)
  | rest => .ok (none, rest)

/-- The sign of an exponent. -/
def scanSign : List Char → Bool × List Char
  | '+' :: rest => (false, rest)
  | '-' :: rest => (true, rest)
  | rest => (false, rest)

/-- The exponent behind its letter: an optional sign and at least one digit. -/
def scanExponentDigits (rest : List Char) : Reading (Option Exponent) :=
  let (negative, rest) := scanSign rest
  match spanDigits rest with
  | ([], []) => failAt .eofInValue []
  | ([], after) => failNext .invalidNumber after
  | (digits, after) => .ok (some { negative, digits, rest := after }, after)

/-- The exponent, if one follows. -/
def scanExponent : List Char → Reading (Option Exponent)
  | 'e' :: rest => scanExponentDigits rest
  | 'E' :: rest => scanExponentDigits rest
  | rest => .ok (none, rest)

/-- The numeral at the front of a text, its sign already read. -/
def scanNumeral (s : List Char) : Except Fault (Numeral × List Char) := do
  let (integer, s) ← scanInteger s
  let (fraction, s) ← scanFraction s
  let (exponent, s) ← scanExponent s
  .ok ({ integer, fraction, exponent }, s)

/-! ## 2. The significand -/

/-- The largest significand. -/
def maxSignificand : Nat := twoTo 64 - 1

/-- The value of a decimal digit. -/
def digitValue (c : Char) : Nat :=
  c.toNat - '0'.toNat

/-- Takes digits as long as the significand stays in 64 bits: the significand and the digits that
did not fit. -/
def takeSignificand (start : Nat) : List Char → Nat × List Char
  | [] => (start, [])
  | c :: more =>
    let next := start * 10 + digitValue c
    if next ≤ maxSignificand then takeSignificand next more else (start, c :: more)

/-- The value of an exponent, or the digits from the one on that takes it past 31 bits. -/
def exponentValue (start : Nat) : List Char → Except (List Char) Nat
  | [] => .ok start
  | c :: more =>
    let next := start * 10 + digitValue c
    if next < twoTo 31 then exponentValue next more else .error (c :: more)

/-! ## 3. Scaling -/

/-- `10 ^ n` as a binary64 number, for `n` up to 308. -/
def powerOfTen (n : Nat) : Option Binary64 :=
  Binary64.ofRatio false (tenTo n) 1

/-- `significand * 10 ^ exponent`, rounded at every step: the significand, the power of ten and the
product or quotient. Below `10 ^ (-308)` the division is done in two steps. `none` means that the
number is out of range. -/
def scaleBy (significand : Nat) (exponent : Int) : Option Binary64 := do
  let f ← Binary64.ofRatio false significand 1
  if f.isZero then some f
  else if 308 < exponent then none
  else if 0 ≤ exponent then f.mul (← powerOfTen exponent.toNat)
  else if -308 ≤ exponent then f.div (← powerOfTen (-exponent).toNat)
  else if -616 ≤ exponent then
    (← f.div (← powerOfTen 308)).div (← powerOfTen (-(exponent + 308)).toNat)
  else some (Binary64.zero false)

/-! ## 4. Values -/

/-- The scaled number with its sign. -/
def realValue (negative : Bool) (significand : Nat) (exponent : Int) (rest : List Char) :
    Except Fault Number :=
  match scaleBy significand exponent with
  | some x => .ok (.real (x.withSign negative))
  | none => failAt .numberOutOfRange rest

/-- The value of an integer that fits 64 bits. A negative zero, and a negative number below
`-2 ^ 63`, are binary64 numbers. -/
def integerValue (negative : Bool) (n : Nat) (rest : List Char) : Except Fault Number :=
  if !negative then .ok (.integer n)
  else if n = 0 ∨ twoTo 63 < n then realValue true n 0 rest
  else .ok (.integer (-n))

/-- The value of a numeral that ends before `rest`. -/
def Numeral.value (numeral : Numeral) (negative : Bool) (rest : List Char) : Except Fault Number :=
  let (whole, dropped) := takeSignificand 0 numeral.integer
  let digits := numeral.fraction.getD []
  let (significand, unused) := takeSignificand whole digits
  let shift : Int := (dropped.length : Int) - (digits.length - unused.length : Nat)
  match numeral.exponent with
  | some e =>
    match exponentValue 0 e.digits with
    | .ok value =>
      realValue negative significand (if e.negative then shift - value else shift + value) rest
    | .error beyond =>
      if significand ≠ 0 ∧ !e.negative then failAt .numberOutOfRange (beyond.drop 1 ++ e.rest)
      else .ok (.real (Binary64.zero negative))
  | none =>
    if numeral.fraction.isNone ∧ dropped.isEmpty then integerValue negative whole rest
    else realValue negative significand shift rest

/-- Reads a number whose sign, if any, has been read. -/
def readNumber (negative : Bool) (s : List Char) : Except Fault (Number × List Char) := do
  let (numeral, rest) ← scanNumeral s
  let number ← numeral.value negative rest
  .ok (number, rest)

end Relay.Json
