import Relay.Json.Fault
import Relay.Text.Digit

/-!
# Strings in JSON text

`readString` reads a string behind its opening quote. Control characters must be escaped. An escape
`\u` takes the next four bytes as a number in hexadecimal; a leading surrogate must be followed by
the escape of a trailing one, and the two make one character.

`skipString` passes over a string that nobody wants: it makes the same demands, except that
surrogates need not be paired. A control character is refused behind it where the string is read,
and in front of it where the string is passed over.
-/

namespace Relay.Json

/-! ## 1. Escapes -/

/-- The value of four hexadecimal digits. -/
def hexValue4? (a b c d : Char) : Option Nat := do
  let a ← Text.hexValue? a
  let b ← Text.hexValue? b
  let c ← Text.hexValue? c
  let d ← Text.hexValue? d
  some (a * 4096 + b * 256 + c * 16 + d)

/-- Reads the four digits of an escape. -/
def readHex4 (s : List Char) : Reading Nat :=
  if (Text.Utf8.encode (s.take 4)).length < 4 then failAt .eofInString []
  else match s with
    | a :: b :: c :: d :: rest =>
      match hexValue4? a b c d with
      | some n => .ok (n, rest)
      | none => .error { cause := .invalidEscape, rest := s, ahead := 4 }
    | _ => .error { cause := .invalidEscape, rest := s, ahead := 4 }

/-- Expects one character of the escape that must follow a leading surrogate. -/
def expectInPair (expected : Char) : List Char → Except Fault (List Char)
  | [] => failAt .eofInString []
  | c :: rest =>
    if c = expected then .ok rest else failNext .unexpectedEndOfHexEscape (c :: rest)

/-- Reads the character of an escape by number, behind its `u`. -/
def readUnicode (s : List Char) : Except Fault (Char × List Char) := do
  let (n, s) ← readHex4 s
  if 0xDC00 ≤ n ∧ n ≤ 0xDFFF then failAt .loneSurrogate s
  else if n < 0xD800 ∨ 0xDBFF < n then .ok (Char.ofNat n, s)
  else
    let s ← expectInPair '\\' s
    let s ← expectInPair 'u' s
    let (m, s) ← readHex4 s
    if 0xDC00 ≤ m ∧ m ≤ 0xDFFF then
      .ok (Char.ofNat ((n - 0xD800) * 0x400 + (m - 0xDC00) + 0x10000), s)
    else failAt .loneSurrogate s

/-- The character that a short escape stands for. -/
def shortEscape? (c : Char) : Option Char :=
  if c = '"' ∨ c = '\\' ∨ c = '/' then some c
  else if c = 'b' then some '\x08'
  else if c = 'f' then some '\x0C'
  else if c = 'n' then some '\n'
  else if c = 'r' then some '\r'
  else if c = 't' then some '\t'
  else none

/-- Reads the character of an escape, behind its backslash. -/
def readEscape : List Char → Reading Char
  | [] => failAt .eofInString []
  | c :: rest =>
    if c = 'u' then readUnicode rest
    else match shortEscape? c with
      | some e => .ok (e, rest)
      | none => failNext .invalidEscape (c :: rest)

/-- Passes over an escape, behind its backslash. -/
def skipEscape : List Char → Except Fault (List Char)
  | [] => failAt .eofInString []
  | c :: rest =>
    if c = 'u' then (readHex4 rest).map Prod.snd
    else match shortEscape? c with
      | some _ => .ok rest
      | none => failNext .invalidEscape (c :: rest)

/-! ## 2. Escapes use up text -/

theorem length_of_readHex4 {s rest : List Char} {n : Nat} (h : readHex4 s = .ok (n, rest)) :
    rest.length < s.length := by
  unfold readHex4 at h
  split at h
  · simp [failAt] at h
  · split at h
    · split at h
      · simp only [Except.ok.injEq, Prod.mk.injEq] at h
        obtain ⟨_, rfl⟩ := h
        simp only [List.length_cons]
        omega
      · simp at h
    · simp at h

theorem length_of_expectInPair {expected : Char} {s rest : List Char}
    (h : expectInPair expected s = .ok rest) : rest.length < s.length := by
  cases s with
  | nil => simp [expectInPair, failAt] at h
  | cons c more =>
    simp only [expectInPair] at h
    split at h
    · simp only [Except.ok.injEq] at h
      subst h
      simp
    · simp [failNext] at h

theorem length_of_readUnicode {s rest : List Char} {c : Char}
    (h : readUnicode s = .ok (c, rest)) : rest.length < s.length := by
  unfold readUnicode at h
  cases h₁ : readHex4 s with
  | error e => simp [h₁, bind, Except.bind] at h
  | ok r₁ =>
    have l₁ : r₁.2.length < s.length := length_of_readHex4 h₁
    simp only [h₁, bind, Except.bind] at h
    split at h
    · simp [failAt] at h
    · split at h
      · simp only [Except.ok.injEq, Prod.mk.injEq] at h
        exact h.2 ▸ l₁
      · cases h₂ : expectInPair '\\' r₁.2 with
        | error e => simp [h₂] at h
        | ok r₂ =>
          have l₂ := length_of_expectInPair h₂
          simp only [h₂] at h
          cases h₃ : expectInPair 'u' r₂ with
          | error e => simp [h₃] at h
          | ok r₃ =>
            have l₃ := length_of_expectInPair h₃
            simp only [h₃] at h
            cases h₄ : readHex4 r₃ with
            | error e => simp [h₄] at h
            | ok r₄ =>
              have l₄ : r₄.2.length < r₃.length := length_of_readHex4 h₄
              simp only [h₄] at h
              split at h
              · simp only [Except.ok.injEq, Prod.mk.injEq] at h
                have := h.2
                subst this
                omega
              · simp [failAt] at h

theorem length_of_readEscape {s rest : List Char} {c : Char}
    (h : readEscape s = .ok (c, rest)) : rest.length < s.length := by
  cases s with
  | nil => simp [readEscape, failAt] at h
  | cons d more =>
    simp only [readEscape] at h
    split at h
    · have := length_of_readUnicode h
      simp only [List.length_cons]
      omega
    · split at h
      · simp only [Except.ok.injEq, Prod.mk.injEq] at h
        obtain ⟨_, rfl⟩ := h
        simp
      · simp [failNext] at h

theorem length_of_skipEscape {s rest : List Char} (h : skipEscape s = .ok rest) :
    rest.length < s.length := by
  cases s with
  | nil => simp [skipEscape, failAt] at h
  | cons d more =>
    simp only [skipEscape] at h
    split at h
    · cases h₁ : readHex4 more with
      | error e => simp [h₁, Except.map] at h
      | ok r =>
        have : r.2.length < more.length := length_of_readHex4 h₁
        simp only [h₁, Except.map, Except.ok.injEq] at h
        subst h
        simp only [List.length_cons]
        omega
    · split at h
      · simp only [Except.ok.injEq] at h
        subst h
        simp
      · simp [failNext] at h

/-! ## 3. Strings -/

/-- Reads a string behind its opening quote. -/
def readString (s : List Char) : Reading (List Char) :=
  match s with
  | [] => failAt .eofInString []
  | c :: rest =>
    if c = '"' then .ok ([], rest)
    else if c = '\\' then
      match _h : readEscape rest with
      | .error fault => .error fault
      | .ok (e, after) => (readString after).map (fun r => (e :: r.1, r.2))
    else if c.toNat < 0x20 then failNext .controlCharacter (c :: rest)
    else (readString rest).map (fun r => (c :: r.1, r.2))
termination_by s.length
decreasing_by
  · have := length_of_readEscape _h
    simp only [List.length_cons]
    omega
  · simp

/-- Passes over a string behind its opening quote, and stops in front of a control character. -/
def skipString (s : List Char) : Except Fault (List Char) :=
  match s with
  | [] => failAt .eofInString []
  | c :: rest =>
    if c = '"' then .ok rest
    else if c = '\\' then
      match _h : skipEscape rest with
      | .error fault => .error fault
      | .ok after => skipString after
    else if c.toNat < 0x20 then failAt .controlCharacter (c :: rest)
    else skipString rest
termination_by s.length
decreasing_by
  · have := length_of_skipEscape _h
    simp only [List.length_cons]
    omega
  · simp

end Relay.Json
