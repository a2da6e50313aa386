/-!
# Digits

The numbers that digits spell, up to base 16. A letter is a digit in either case. `numeralValue`
reads a whole text; `numeral?` also asks that all of its characters are digits of the base.
-/

namespace Relay.Text

/-- The value of a hexadecimal digit. -/
def hexValue? (c : Char) : Option Nat :=
  if '0' ≤ c ∧ c ≤ '9' then some (c.toNat - '0'.toNat)
  else if 'a' ≤ c ∧ c ≤ 'f' then some (c.toNat - 'a'.toNat + 10)
  else if 'A' ≤ c ∧ c ≤ 'F' then some (c.toNat - 'A'.toNat + 10)
  else none

/-- Whether a character is a hexadecimal digit. -/
def isHexDigit (c : Char) : Bool :=
  (hexValue? c).isSome

/-- Whether a character is an octal digit. -/
def isOctalDigit (c : Char) : Bool :=
  '0' ≤ c && c ≤ '7'

/-- The number that digits spell. -/
def numeralValue (base : Nat) (digits : List Char) : Nat :=
  digits.foldl (fun n c => base * n + (hexValue? c).getD 0) 0

/-- The digits that all belong to a class, as a number. No digits are zero. -/
def numeral? (base : Nat) (isDigit : Char → Bool) (digits : List Char) : Option Nat :=
  if digits.all isDigit then some (numeralValue base digits) else none

/-- A digit is less than the base. -/
theorem hexValue?_lt {c : Char} {n : Nat} (h : hexValue? c = some n) : n < 16 := by
  unfold hexValue? at h
  split at h
  · next hc =>
    obtain ⟨_, hc⟩ := hc
    have : c.toNat ≤ 57 := hc
    have : n = c.toNat - 48 := by simpa using h.symm
    omega
  · split at h
    · next hc =>
      obtain ⟨_, hc⟩ := hc
      have : c.toNat ≤ 102 := hc
      have : n = c.toNat - 97 + 10 := by simpa using h.symm
      omega
    · split at h
      · next hc =>
        obtain ⟨_, hc⟩ := hc
        have : c.toNat ≤ 70 := hc
        have : n = c.toNat - 65 + 10 := by simpa using h.symm
        omega
      · simp at h

end Relay.Text
