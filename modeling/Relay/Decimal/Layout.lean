import Relay.Decimal.Shortest

/-!
# Writing decimals

Two ways to write a decimal: *positional*, with a point and at least one digit on each side of it,
and *scientific*, with one digit before the point and an exponent that carries its sign. A `Format`
says for which leading exponents the positional form is used and how ties between shortest decimals
go.
-/

namespace Relay.Decimal

/-- So many zeros. -/
def zeros (n : Nat) : List Char :=
  List.replicate n '0'

/-- The digits of a natural number. -/
def digitsOf (n : Nat) : List Char :=
  Nat.toDigits 10 n

/-- A decimal with a point. -/
def positional (d : Scaled) : List Char :=
  let digits := digitsOf d.digits
  let places := (-d.exponent).toNat
  if 0 ≤ d.exponent then digits ++ zeros d.exponent.toNat ++ ".0".toList
  else if places < digits.length then
    digits.take (digits.length - places) ++ '.' :: digits.drop (digits.length - places)
  else "0.".toList ++ zeros (places - digits.length) ++ digits

/-- A decimal with one digit before the point and an exponent. -/
def scientific (d : Scaled) : List Char :=
  let digits := digitsOf d.digits
  let exponent := d.exponent + digits.length - 1
  let mantissa := match digits with
    | first :: more@(_ :: _) => first :: '.' :: more
    | short => short
  mantissa ++ 'e' :: (if exponent < 0 then '-' else '+') :: digitsOf exponent.natAbs

/-- How numbers are written in one kind of text. -/
structure Format where
  /-- Whether a leading exponent is written positionally. -/
  isPositional : Int → Bool
  tie : Tie

/-- A number in a format. -/
def Format.write (format : Format) (x : Binary64) : List Char :=
  let d := shortest format.tie x
  let lead := d.exponent + (digitsOf d.digits).length - 1
  let text := if format.isPositional lead then positional d else scientific d
  if x.negative then '-' :: text else text

end Relay.Decimal
