/-!
# Punycode

The ASCII form of a label with characters beyond ASCII (RFC 3492): its ASCII characters, then, in
increasing order of the other characters, how far to go in the list of all places where the next one
could be inserted. Each distance is written in base 36 with the least digit first, and digit
thresholds that adapt to the distances seen so far.

`encode` writes that form and `decode` reads it.
-/

namespace Relay.Url.Punycode

/-! ## 1. Distances -/

/-- A digit in base 36: letters, then figures. -/
def digit (n : Nat) : Char :=
  if n < 26 then Char.ofNat (0x61 + n) else Char.ofNat (0x30 + (n - 26))

/-- The value of a digit in base 36. -/
def digitValue? (c : Char) : Option Nat :=
  if 'a' ≤ c ∧ c ≤ 'z' then some (c.toNat - 0x61)
  else if 'A' ≤ c ∧ c ≤ 'Z' then some (c.toNat - 0x41)
  else if '0' ≤ c ∧ c ≤ '9' then some (c.toNat - 0x30 + 26)
  else none

/-- A digit that was written has its value. -/
theorem digitValue?_digit {n : Nat} (h : n < 36) : digitValue? (digit n) = some n := by
  have all : ∀ m ∈ List.range 36, digitValue? (digit m) = some m := by decide
  exact all n (List.mem_range.2 h)

/-- The threshold of the digit at a place, where places count in steps of 36. -/
def threshold (place bias : Nat) : Nat :=
  if place ≤ bias then 1 else if bias + 26 ≤ place then 26 else place - bias

theorem threshold_pos (place bias : Nat) : 1 ≤ threshold place bias := by
  unfold threshold
  split
  · omega
  · split <;> omega

theorem threshold_le (place bias : Nat) : threshold place bias ≤ 26 := by
  unfold threshold
  split
  · omega
  · split <;> omega

/-- The digits of a distance, from a place on. -/
def digitsOf (bias place distance : Nat) : List Char :=
  if _h : distance < threshold place bias then [digit distance]
  else
    let t := threshold place bias
    digit (t + (distance - t) % (36 - t)) ::
      digitsOf bias (place + 36) ((distance - t) / (36 - t))
termination_by distance
decreasing_by
  have h₁ := threshold_pos place bias
  have h₂ := threshold_le place bias
  have h₃ := Nat.div_le_self (distance - threshold place bias) (36 - threshold place bias)
  omega

/-- How often a distance is to be divided before it is small, in steps of 36, and what is left. -/
def scaleDown (distance steps : Nat) : Nat × Nat :=
  if _h : 455 < distance then scaleDown (distance / 35) (steps + 36) else (distance, steps)
termination_by distance
decreasing_by omega

/-- The bias after a distance, when so many characters are in place. -/
def adapt (distance placed : Nat) (isFirst : Bool) : Nat :=
  let d := if isFirst then distance / 700 else distance / 2
  let (d, steps) := scaleDown (d + d / placed) 0
  steps + 36 * d / (d + 38)

/-! ## 2. Writing -/

/-- Where the writing stands: the text, the distance since the last character, the bias, and how
many characters are in place. -/
structure State where
  text : List Char
  distance : Nat := 0
  bias : Nat := 72
  placed : Nat

/-- Goes over one character of the label while `target` is being inserted. -/
def pass (ascii target : Nat) (state : State) (c : Char) : State :=
  if c.toNat < target then { state with distance := state.distance + 1 }
  else if c.toNat = target then
    { text := state.text ++ digitsOf state.bias 36 state.distance
      distance := 0
      bias := adapt state.distance (state.placed + 1) (state.placed == ascii)
      placed := state.placed + 1 }
  else state

/-- Inserts the other characters, in increasing order, from the code point `next` on. -/
def insertAll (label : List Char) (ascii : Nat) :
    (targets : List Nat) → (next : Nat) → State → State
  | [], _, state => state
  | target :: more, next, state =>
    let moved := { state with distance := state.distance + (target - next) * (state.placed + 1) }
    let passed := label.foldl (pass ascii target) moved
    insertAll label ascii more (target + 1) { passed with distance := passed.distance + 1 }

/-- The ASCII form of a label, without the mark that it is one. -/
def encode (label : List Char) : List Char :=
  let ascii := label.filter (fun c => c.toNat < 0x80)
  let others := (label.filter (fun c => 0x80 ≤ c.toNat)).map Char.toNat
  let start := if ascii.isEmpty then [] else ascii ++ ['-']
  (insertAll label ascii.length (others.mergeSort.eraseDups) 0x80
    { text := start, placed := ascii.length }).text

/-! ## 3. Reading -/

/-- Where the reading stands: the label so far, the code point and the place of the next insertion
but for the distance to it, the bias, and what the digits of that distance add up to so far. -/
structure Reading where
  label : List Char
  code : Nat := 0x80
  spot : Nat := 0
  bias : Nat := 72
  distance : Nat := 0
  weight : Nat := 1
  place : Nat := 36

/-- Inserts the next character, a distance away. -/
def Reading.insert? (reading : Reading) (distance : Nat) : Option Reading :=
  let count := reading.label.length + 1
  let spot := reading.spot + distance
  let code := reading.code + spot / count
  if code.isValidChar then
    some { label := reading.label.insertIdx (spot % count) (Char.ofNat code)
           code
           spot := spot % count + 1
           bias := adapt distance count (reading.spot == 0) }
  else none

/-- Reads a digit. The last one of a distance is below its threshold. -/
def Reading.step? (reading : Reading) (c : Char) : Option Reading :=
  match digitValue? c with
  | none => none
  | some n =>
    let t := threshold reading.place reading.bias
    let distance := reading.distance + n * reading.weight
    if n < t then reading.insert? distance
    else
      some { reading with
        distance
        weight := reading.weight * (36 - t)
        place := reading.place + 36 }

/-- Reads digits, which must come to the end of a distance. -/
def Reading.run? (reading : Reading) (digits : List Char) : Option (List Char) :=
  match digits.foldlM Reading.step? reading with
  | none => none
  | some last => if last.place = 36 then some last.label else none

/-- The text in front of the last hyphen and behind it. A hyphen at the very start is none. -/
def splitLastHyphen (text : List Char) : List Char × List Char :=
  let behind := (text.reverse.takeWhile (· != '-')).reverse
  if behind.length + 1 < text.length then (text.take (text.length - behind.length - 1), behind)
  else ([], text)

/-- The label that a text is the ASCII form of. -/
def decode (text : List Char) : Option (List Char) :=
  let (ascii, digits) := splitLastHyphen text
  if ascii.all (fun c => c.toNat < 0x80) then Reading.run? { label := ascii } digits else none

end Relay.Url.Punycode
