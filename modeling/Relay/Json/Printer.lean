import Relay.Decimal.Layout
import Relay.Json.Value

/-!
# The compact text of a JSON value

`Value.text` writes a value without any white space, the members of an object in their order. The
escapes are the short ones where they exist and `\u00xx` for the other controls; every other
character stands for itself. A binary64 number is written by `numberFormat`.
-/

namespace Relay.Json

/-! ## 1. Numbers -/

/-- Numbers have the fewest digits that read back, a tie going to the even digit; a point divides
them from `1e-5` up to below `1e16`, and an exponent with its sign follows elsewhere. -/
def numberFormat : Decimal.Format :=
  { isPositional := fun lead => -5 ≤ lead && lead < 16, tie := .toEven }

/-- The text of an integer. -/
def integerText (n : Int) : List Char :=
  if n < 0 then '-' :: Decimal.digitsOf n.natAbs else Decimal.digitsOf n.natAbs

/-- The text of a number. -/
def Number.text : Number → List Char
  | .integer n => integerText n
  | .real x => numberFormat.write x

/-! ## 2. Strings -/

/-- The digits of a number below 16. -/
def hexDigit (n : Nat) : Char :=
  Nat.digitChar (n % 16)

/-- One character inside a string. -/
def escapeChar (c : Char) : List Char :=
  if c = '"' then ['\\', '"']
  else if c = '\\' then ['\\', '\\']
  else if c.toNat < 0x20 then
    if c.toNat = 0x08 then ['\\', 'b']
    else if c.toNat = 0x0C then ['\\', 'f']
    else if c = '\n' then ['\\', 'n']
    else if c = '\r' then ['\\', 'r']
    else if c = '\t' then ['\\', 't']
    else ['\\', 'u', '0', '0', hexDigit (c.toNat / 16), hexDigit c.toNat]
  else [c]

/-- The text of a string, with its quotes. -/
def stringText (s : List Char) : List Char :=
  '"' :: s.flatMap escapeChar ++ ['"']

/-! ## 3. Values -/

mutual

/-- The compact text of a value. -/
def Value.text : Value → List Char
  | .null => "null".toList
  | .bool true => "true".toList
  | .bool false => "false".toList
  | .number n => n.text
  | .string s => stringText s.toList
  | .array [] => "[]".toList
  | .array (item :: more) => '[' :: item.text ++ laterItems more ++ [']']
  | .object [] => ['\x7b', '\x7d']
  | .object ((key, value) :: more) =>
    '\x7b' :: stringText key.toList ++ ':' :: value.text ++ laterMembers more ++ ['\x7d']

/-- The items after the first one, each behind its comma. -/
def laterItems : List Value → List Char
  | [] => []
  | item :: more => ',' :: item.text ++ laterItems more

/-- The members after the first one, each behind its comma. -/
def laterMembers : List (String × Value) → List Char
  | [] => []
  | (key, value) :: more => ',' :: stringText key.toList ++ ':' :: value.text ++ laterMembers more

end

/-- The compact text of a value as a string. -/
def Value.toText (v : Value) : String :=
  String.ofList v.text

end Relay.Json
