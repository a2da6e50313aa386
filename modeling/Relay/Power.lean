/-!
# Powers of two and of ten

Word sizes and number formats are powers of two, and decimals are powers of ten.
-/

namespace Relay

/-- `2 ^ n`. -/
abbrev twoTo (n : Nat) : Nat :=
  Nat.pow 2 n

/-- `10 ^ n`. -/
abbrev tenTo (n : Nat) : Nat :=
  Nat.pow 10 n

end Relay
