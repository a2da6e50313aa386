/-!
# UTF-8

Text and bytes. This file fixes

* `encode`, the bytes of a text;
* `scan`, which reads one character off the front of a run of bytes, or says what is wrong there;
* two readings built on it: `decode` refuses at the first fault and says where, `decodeLossy` puts
  U+FFFD in the place of every faulty stretch.

A faulty stretch is the longest start of a character that the bytes there could still be: at least
one byte, at most three. When the input ends inside such a stretch the sequence is *incomplete*,
otherwise it is *invalid*.
-/

namespace Relay.Text.Utf8

/-! ## 1. Writing -/

/-- The bytes of a text. -/
def encode (text : List Char) : List UInt8 :=
  text.flatMap String.utf8EncodeChar

@[simp] theorem encode_nil : encode [] = [] := rfl

@[simp] theorem encode_cons (c : Char) (text : List Char) :
    encode (c :: text) = String.utf8EncodeChar c ++ encode text := rfl

theorem encode_append (s t : List Char) : encode (s ++ t) = encode s ++ encode t := by
  simp [encode]

/-! ## 2. One character -/

/-- What a first byte promises: the bits it brings, the number of bytes to follow, and the range
of the next of them. -/
structure Lead where
  bits : Nat
  owed : Nat
  low : Nat := 0x80
  high : Nat := 0xBF

/-- The first bytes of characters beyond ASCII. The ranges of the second byte leave out overlong
forms, surrogates and numbers above U+10FFFF. -/
def lead (b : Nat) : Option Lead :=
  if b < 0xC2 then none
  else if b ≤ 0xDF then some { bits := b - 0xC0, owed := 1 }
  else if b = 0xE0 then some { bits := 0, owed := 2, low := 0xA0 }
  else if b = 0xED then some { bits := 0xD, owed := 2, high := 0x9F }
  else if b ≤ 0xEF then some { bits := b - 0xE0, owed := 2 }
  else if b = 0xF0 then some { bits := 0, owed := 3, low := 0x90 }
  else if b ≤ 0xF3 then some { bits := b - 0xF0, owed := 3 }
  else if b = 0xF4 then some { bits := 4, owed := 3, high := 0x8F }
  else none

/-- What stands at the front of a run of bytes. -/
inductive Scan where
  /-- Nothing is left. -/
  | finished
  /-- A character, and what follows it. -/
  | char (c : Char) (rest : List UInt8)
  /-- A stretch of so many bytes that start no character, and what follows it. -/
  | invalid (length : Nat) (rest : List UInt8)
  /-- The input ends inside a character. -/
  | incomplete

/-- Reads the bytes still owed to a character whose first `seen` bytes gave `bits`. -/
def scanTail (seen : Nat) (bits : Nat) : (owed low high : Nat) → List UInt8 → Scan
  | 0, _, _, rest => .char (Char.ofNat bits) rest
  | _ + 1, _, _, [] => .incomplete
  | owed + 1, low, high, b :: rest =>
    if low ≤ b.toNat ∧ b.toNat ≤ high then
      scanTail (seen + 1) (bits * 64 + (b.toNat - 0x80)) owed 0x80 0xBF rest
    else
      .invalid seen (b :: rest)

/-- Reads one character off the front. -/
def scan : List UInt8 → Scan
  | [] => .finished
  | b :: rest =>
    if b.toNat < 0x80 then .char (Char.ofNat b.toNat) rest
    else match lead b.toNat with
      | none => .invalid 1 rest
      | some l => scanTail 1 l.bits l.owed l.low l.high rest

/-- What is left after a scan. -/
def Scan.rest : Scan → List UInt8
  | .finished => []
  | .char _ rest => rest
  | .invalid _ rest => rest
  | .incomplete => []

theorem length_scanTail_le (seen bits owed low high : Nat) (bytes : List UInt8) :
    (scanTail seen bits owed low high bytes).rest.length ≤ bytes.length := by
  fun_induction scanTail seen bits owed low high bytes <;> simp_all [Scan.rest]
  omega

/-- Every scan uses up at least one byte. -/
theorem length_scan_lt (b : UInt8) (rest : List UInt8) :
    (scan (b :: rest)).rest.length < (b :: rest).length := by
  simp only [scan]
  split
  · simp [Scan.rest]
  · split
    · simp [Scan.rest]
    · exact Nat.lt_succ_of_le (length_scanTail_le 1 _ _ _ _ _)

/-! ## 3. Whole texts -/

/-- Where a run of bytes stops being UTF-8. -/
inductive Fault where
  /-- So many bytes from this index on start no character. -/
  | invalid (index length : Nat)
  /-- The bytes end inside the character that starts at this index. -/
  | incomplete (index : Nat)
  deriving Repr, DecidableEq

/-- The wording of a fault. -/
def Fault.message : Fault → String
  | .invalid index length =>
    "invalid utf-8 sequence of " ++ toString length ++ " bytes from index " ++ toString index
  | .incomplete index => "incomplete utf-8 byte sequence from index " ++ toString index

/-- Reads bytes that start at `index` of a larger input. -/
def decodeFrom (index : Nat) (bytes : List UInt8) : Except Fault (List Char) :=
  match bytes with
  | [] => .ok []
  | b :: more =>
    match _h : scan (b :: more) with
    | .finished => .ok []
    | .char c rest =>
      (decodeFrom (index + c.utf8Size) rest).map (c :: ·)
    | .invalid length _ => .error (.invalid index length)
    | .incomplete => .error (.incomplete index)
termination_by bytes.length
decreasing_by
  have := length_scan_lt b more
  rw [_h] at this
  exact this

/-- The text that the bytes spell, or the first fault. -/
def decode (bytes : List UInt8) : Except Fault (List Char) :=
  decodeFrom 0 bytes

/-- The text that the bytes spell, with U+FFFD for every faulty stretch. -/
def decodeLossy (bytes : List UInt8) : List Char :=
  match bytes with
  | [] => []
  | b :: more =>
    match _h : scan (b :: more) with
    | .finished => []
    | .char c rest => c :: decodeLossy rest
    | .invalid _ rest => '\uFFFD' :: decodeLossy rest
    | .incomplete => ['\uFFFD']
termination_by bytes.length
decreasing_by
  all_goals
    have := length_scan_lt b more
    rw [_h] at this
    exact this

end Relay.Text.Utf8
