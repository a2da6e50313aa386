import Relay.Decimal.Layout
import Relay.Text.Quoted
import Relay.Yaml.Node

/-!
# What a scalar means

The text of a plain scalar without a tag may spell more than a string. `Meaning.ofPlain` tries in
this order:

* nothing (the empty text, `null`, `~`), a truth value;
* an integer: decimal or, behind `0x`, `0o`, `0b`, to base 16, 8, 2, with an optional sign. A
  decimal with a superfluous leading zero is no number at all;
* a float: `.inf` and `.nan` in three spellings each, or a decimal with point or exponent. A decimal
  that is too large for binary64 is no number.

`Meaning.ofScalar` is the general rule: some tags ask for one kind, and refuse a text of another.
-/

namespace Relay.Yaml

/-! ## 1. Meanings -/

/-- What a scalar spells. -/
inductive Meaning where
  | null
  | bool (b : Bool)
  /-- An integer of 64 bits, with or without a sign. -/
  | integer (n : Int)
  /-- An integer that needs up to 128 bits. -/
  | wide (n : Int)
  | real (x : Binary64)
  | infinity (negative : Bool)
  | nan
  | string (text : List Char)
  deriving DecidableEq, Repr

/-- Numbers in messages are written positionally, with the fewest digits that read back. -/
def messageFormat : Decimal.Format :=
  { isPositional := fun _ => true, tie := .up }

/-- How a message names what a scalar spells. -/
def Meaning.describe : Meaning → String
  | .null => "unit value"
  | .bool b => "boolean `" ++ toString b ++ "`"
  | .integer n => "integer `" ++ toString n ++ "`"
  | .wide n => "integer `" ++ toString n ++ (if 0 ≤ n then "` as u128" else "` as i128")
  | .real x => "floating point `" ++ String.ofList (messageFormat.write x) ++ "`"
  | .infinity negative => "floating point `" ++ (if negative then "-inf" else "inf") ++ "`"
  | .nan => "floating point `NaN`"
  | .string text => "string " ++ Text.quote (String.ofList text)

/-! ## 2. Words -/

/-- Whether a text spells nothing. -/
def isNullWord (text : List Char) : Bool :=
  ["null", "Null", "NULL", "~"].contains (String.ofList text)

/-- The truth value that a text spells. -/
def boolWord? (text : List Char) : Option Bool :=
  if ["true", "True", "TRUE"].contains (String.ofList text) then some true
  else if ["false", "False", "FALSE"].contains (String.ofList text) then some false
  else none

/-! ## 3. Integers -/

/-- The value of a digit to some base. -/
def digitOf? (base : Nat) (c : Char) : Option Nat :=
  (Text.hexValue? c).filter (· < base)

/-- The number that digits spell, of which there must be one. -/
def digitsValue? (base : Nat) (digits : List Char) : Option Nat :=
  if digits.isEmpty then none
  else digits.foldlM (fun n c => (digitOf? base c).map (n * base + ·)) 0

/-- A text behind its sign. -/
def dropSign : List Char → List Char
  | '+' :: rest => rest
  | '-' :: rest => rest
  | text => text

/-- Whether a text is a decimal with a superfluous leading zero. -/
def hasLeadingZero (text : List Char) : Bool :=
  match dropSign text with
  | '0' :: d :: more => (d :: more).all Char.isDigit
  | _ => false

/-- The size of an integer behind its sign. `padded` tells whether a decimal has a superfluous zero.
-/
def magnitude? (padded : Bool) (text : List Char) : Option Nat :=
  let decimal := if padded then none else digitsValue? 10 text
  match text with
  | '0' :: 'x' :: rest => digitsValue? 16 rest <|> decimal
  | '0' :: 'o' :: rest => digitsValue? 8 rest <|> decimal
  | '0' :: 'b' :: rest => digitsValue? 2 rest <|> decimal
  | _ => decimal

/-- An integer, if it needs at most 128 bits. -/
def Meaning.ofInt? (n : Int) : Option Meaning :=
  if -(twoTo 63 : Int) ≤ n ∧ n < twoTo 64 then some (.integer n)
  else if -(twoTo 127 : Int) ≤ n ∧ n < twoTo 128 then some (.wide n)
  else none

/-- The integer that a text spells. -/
def integerWord? (text : List Char) : Option Meaning :=
  let padded := hasLeadingZero text
  match text with
  | '-' :: rest => (magnitude? padded rest).bind (fun n => Meaning.ofInt? (-n))
  | '+' :: rest => (magnitude? padded rest).bind (fun n => Meaning.ofInt? n)
  | _ => (magnitude? padded text).bind (fun n => Meaning.ofInt? n)

/-! ## 4. Floats -/

/-- The exponent that a text spells behind its letter. -/
def exponentWord? : List Char → Option Int
  | '+' :: rest => (digitsValue? 10 rest).map Int.ofNat
  | '-' :: rest => (digitsValue? 10 rest).map (fun n => -Int.ofNat n)
  | rest => (digitsValue? 10 rest).map Int.ofNat

/-- The finite number that a text behind its sign spells. -/
def decimalWord? (negative : Bool) (text : List Char) : Option Meaning := do
  let (whole, rest) := text.span Char.isDigit
  let (places, rest) := match rest with
    | '.' :: rest => rest.span Char.isDigit
    | rest => ([], rest)
  let exponent ← match rest with
    | [] => some 0
    | 'e' :: rest => exponentWord? rest
    | 'E' :: rest => exponentWord? rest
    | _ => none
  let digits ← digitsValue? 10 (whole ++ places)
  let x ← Binary64.ofDecimal negative digits (exponent - places.length)
  some (.real x)

/-- The float that a text spells. -/
def floatWord? (text : List Char) : Option Meaning :=
  let (negative, rest) := match text with
    | '-' :: rest => (true, rest)
    | '+' :: rest => (false, rest)
    | rest => (false, rest)
  if [".inf", ".Inf", ".INF"].contains (String.ofList rest) then some (.infinity negative)
  else if [".nan", ".NaN", ".NAN"].contains (String.ofList text) then some .nan
  else decimalWord? negative rest

/-! ## 5. Scalars -/

/-- What a plain text without a tag spells. -/
def Meaning.ofPlain (text : List Char) : Meaning :=
  if text.isEmpty || isNullWord text then .null
  else match boolWord? text with
    | some b => .bool b
    | none =>
      match integerWord? text with
      | some m => m
      | none =>
        match (if hasLeadingZero text then none else floatWord? text) with
        | some m => m
        | none => .string text

/-- The tags that ask for one kind of scalar. -/
inductive KindTag where
  | bool
  | integer
  | float
  | null
  deriving DecidableEq, Repr

/-- The kind that a tag asks for. -/
def KindTag.ofTag? (tag : List Char) : Option KindTag :=
  match String.ofList tag with
  | "tag:yaml.org,2002:bool" => some .bool
  | "tag:yaml.org,2002:int" => some .integer
  | "tag:yaml.org,2002:float" => some .float
  | "tag:yaml.org,2002:null" => some .null
  | _ => none

/-- How a message names a kind. -/
def KindTag.describe : KindTag → String
  | .bool => "a boolean"
  | .integer => "an integer"
  | .float => "a float"
  | .null => "null"

/-- The meaning of a text that must be of one kind. -/
def KindTag.read? (kind : KindTag) (text : List Char) : Option Meaning :=
  match kind with
  | .bool => (boolWord? text).map .bool
  | .integer => integerWord? text
  | .float => floatWord? text
  | .null => if isNullWord text then some .null else none

/-- Whether a tag is of the text's own making. -/
def isLocalTag (tag : List Char) : Bool :=
  tag.head? == some '!'

/-- What a scalar means, or the kind that its tag asks for in vain. -/
def Meaning.ofScalar (tag : Option (List Char)) (text : List Char) (style : ScalarStyle) :
    Except KindTag Meaning :=
  match tag with
  | none => .ok (if style = .plain then .ofPlain text else .string text)
  | some tag =>
    match KindTag.ofTag? tag with
    | some kind =>
      match kind.read? text with
      | some m => .ok m
      | none => .error kind
    | none => .ok (if isLocalTag tag && style = .plain then .ofPlain text else .string text)

end Relay.Yaml
