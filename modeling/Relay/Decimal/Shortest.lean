import Relay.Binary64

/-!
# The shortest decimal that reads back

A binary64 number is printed with the fewest digits that determine it. Every real nearer to the
number than to its neighbours reads back as the number: these reals form an interval, closed exactly
when the mantissa is even. For one, two, … seventeen digits the two decimals next to the number on
the grid with so many digits are tested; the first grid with a hit wins, the nearer of two hits is
taken, and a tie goes as the caller says. All comparisons are between natural numbers.
-/

namespace Relay.Decimal

/-- The number `digits * 10 ^ exponent`. -/
structure Scaled where
  digits : Nat
  exponent : Int
  deriving DecidableEq, Repr

/-- Which of two equally near decimals is taken. -/
inductive Tie where
  /-- The one with the even last digit. -/
  | toEven
  /-- The larger one. -/
  | up
  deriving DecidableEq, Repr

/-! ## 1. The interval -/

/-- The reals that read back as one number: from `low / den` to `high / den` around `value / den`,
ends included when `closed`. -/
structure Interval where
  low : Nat
  value : Nat
  high : Nat
  den : Nat
  closed : Bool

/-- The interval of a positive number, in quarters of the gap above it. Below a power of two the
gap is half as wide. -/
def interval (x : Binary64) : Interval :=
  let gap := twoTo x.scale
  { value := 4 * x.units
    high := 4 * x.units + 2 * gap
    low := 4 * x.units - (if x.mantissa = twoTo 52 ∧ 0 < x.scale then gap else 2 * gap)
    den := twoTo 1076
    closed := x.mantissa % 2 == 0 }

/-- Whether the fraction `a / b` lies in the interval. -/
def Interval.holds (i : Interval) (a b : Nat) : Bool :=
  if i.closed then i.low * b ≤ a * i.den && a * i.den ≤ i.high * b
  else i.low * b < a * i.den && a * i.den < i.high * b

/-! ## 2. One grid -/

/-- `10 ^ e` as a fraction. -/
def tenPower (e : Int) : Nat × Nat :=
  (tenTo e.toNat, tenTo (-e).toNat)

/-- The hit on the grid of the multiples of `10 ^ e`, if there is one. -/
def hit (tie : Tie) (i : Interval) (e : Int) : Option Nat :=
  let (p, q) := tenPower e
  let a := i.value * q
  let b := i.den * p
  let below := a / b
  let above := below + 1
  match i.holds (below * p) q && below != 0, i.holds (above * p) q with
  | true, false => some below
  | false, true => some above
  | false, false => none
  | true, true =>
    let r := a % b
    if 2 * r < b then some below
    else if b < 2 * r then some above
    else match tie with
      | .up => some above
      | .toEven => some (if below % 2 = 0 then below else above)

/-- The exponent of the leading decimal digit of a positive fraction that is not below
`10 ^ (-400)`. -/
def leadingExponent (a b : Nat) : Int :=
  (Nat.toDigits 10 (a * tenTo 400 / b)).length - 401

/-! ## 3. The search -/

/-- The decimal without trailing zeros. At most `room` of them are dropped. -/
def Scaled.strip (d : Scaled) : (room : Nat) → Scaled
  | 0 => d
  | room + 1 =>
    if d.digits % 10 = 0 ∧ d.digits ≠ 0 then
      Scaled.strip { digits := d.digits / 10, exponent := d.exponent + 1 } room
    else d

/-- The shortest decimal that reads back as the size of the number. -/
def shortest (tie : Tie) (x : Binary64) : Scaled :=
  if x.isZero then { digits := 0, exponent := 0 }
  else
    let i := interval x
    let lead := leadingExponent i.value i.den
    let grids := (List.range 17).map (fun n : Nat => lead - (n : Int))
    match grids.findSome? (fun e => (hit tie i e).map (fun d => (⟨d, e⟩ : Scaled))) with
    | some d => d.strip 17
    | none => { digits := i.value, exponent := 0 }

end Relay.Decimal
