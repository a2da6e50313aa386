import Mathlib.Tactic.SplitIfs
import Relay.Text.Utf8

/-!
# Reading back what was written

The bytes of a text spell the text, and no other bytes do (`decode_eq_ok_iff`): what a reader
accepts is what a writer writes. Only a newline is written with the byte of a newline
(`newline_mem_encode`): the bytes of characters beyond ASCII have their highest bit set.
-/

namespace Relay.Text.Utf8

/-! ## 1. One character -/

/-- The number of a character: neither a surrogate nor above U+10FFFF. -/
theorem toNat_char (c : Char) : c.toNat < 0xD800 ∨ 0xDFFF < c.toNat ∧ c.toNat < 0x110000 :=
  c.valid

/-- A byte in its range brings six more bits. -/
theorem scanTail_of_mem {seen bits owed low high n : Nat} (rest : List UInt8)
    (hlow : low ≤ n) (hhigh : n ≤ high) (hn : n < 256) :
    scanTail seen bits (owed + 1) low high (UInt8.ofNat n :: rest) =
      scanTail (seen + 1) (bits * 64 + (n - 0x80)) owed 0x80 0xBF rest := by
  simp only [scanTail, UInt8.toNat_ofNat_of_lt' hn, hlow, hhigh, and_self, if_true]

/-- A first byte beyond ASCII says what follows. -/
theorem scan_of_lead {n : Nat} {l : Lead} (rest : List UInt8) (hn : n < 256) (hbeyond : 0x80 ≤ n)
    (hlead : lead n = some l) :
    scan (UInt8.ofNat n :: rest) = scanTail 1 l.bits l.owed l.low l.high rest := by
  simp only [scan, UInt8.toNat_ofNat_of_lt' hn, Nat.not_lt.mpr hbeyond, if_false, hlead]

/-- The first byte of a character of two bytes. -/
theorem lead_two {v : Nat} (hlow : 0x7F < v) (hhigh : v ≤ 0x7FF) :
    lead (v / 64 % 32 + 192) = some { bits := v / 64, owed := 1 } := by
  have hbits : v / 64 % 32 + 192 - 0xC0 = v / 64 := by omega
  simp only [lead]
  rw [if_neg (by omega), if_pos (by omega), hbits]

/-- The first byte of a character of three bytes, and what it leaves for the second. -/
theorem lead_three {v : Nat} (hlow : 0x7FF < v) (hhigh : v ≤ 0xFFFF)
    (hvalid : v < 0xD800 ∨ 0xDFFF < v) :
    ∃ low high, lead (v / 4096 % 16 + 224) = some { bits := v / 4096, owed := 2, low, high } ∧
      low ≤ v / 64 % 64 + 128 ∧ v / 64 % 64 + 128 ≤ high := by
  have hbits : v / 4096 % 16 + 224 - 0xE0 = v / 4096 := by omega
  simp only [lead]
  rw [if_neg (by omega), if_neg (by omega)]
  by_cases hfirst : v / 4096 % 16 + 224 = 0xE0
  · have hzero : v / 4096 = 0 := by omega
    rw [if_pos hfirst, hzero]
    exact ⟨_, _, rfl, by omega, by omega⟩
  · rw [if_neg hfirst]
    by_cases hsurrogate : v / 4096 % 16 + 224 = 0xED
    · have hthirteen : v / 4096 = 0xD := by omega
      rw [if_pos hsurrogate, hthirteen]
      exact ⟨_, _, rfl, by omega, by omega⟩
    · rw [if_neg hsurrogate, if_pos (by omega), hbits]
      exact ⟨_, _, rfl, by omega, by omega⟩

/-- The first byte of a character of four bytes, and what it leaves for the second. -/
theorem lead_four {v : Nat} (hlow : 0xFFFF < v) (hhigh : v < 0x110000) :
    ∃ low high, lead (v / 262144 % 8 + 240) = some { bits := v / 262144, owed := 3, low, high } ∧
      low ≤ v / 4096 % 64 + 128 ∧ v / 4096 % 64 + 128 ≤ high := by
  have hbits : v / 262144 % 8 + 240 - 0xF0 = v / 262144 := by omega
  simp only [lead]
  rw [if_neg (by omega), if_neg (by omega), if_neg (by omega), if_neg (by omega), if_neg (by omega)]
  by_cases hfirst : v / 262144 % 8 + 240 = 0xF0
  · have hzero : v / 262144 = 0 := by omega
    rw [if_pos hfirst, hzero]
    exact ⟨_, _, rfl, by omega, by omega⟩
  · rw [if_neg hfirst]
    by_cases hlast : v / 262144 % 8 + 240 ≤ 0xF3
    · rw [if_pos hlast, hbits]
      exact ⟨_, _, rfl, by omega, by omega⟩
    · have hfour : v / 262144 = 4 := by omega
      rw [if_neg hlast, if_pos (by omega), hfour]
      exact ⟨_, _, rfl, by omega, by omega⟩

/-- **The bytes of a character spell it.** -/
theorem scan_encode (c : Char) (rest : List UInt8) :
    scan (String.utf8EncodeChar c ++ rest) = .char c rest := by
  have hvalid := toNat_char c
  have hchar : Char.ofNat c.toNat = c := Char.ofNat_toNat c
  have hval : c.val.toNat = c.toNat := rfl
  simp only [String.utf8EncodeChar, hval]
  by_cases hone : c.toNat ≤ 127
  · have hbyte : (UInt8.ofNat c.toNat).toNat = c.toNat :=
      UInt8.toNat_ofNat_of_lt' (show c.toNat < 256 by omega)
    rw [if_pos hone, List.singleton_append, scan, hbyte, if_pos (by omega), hchar]
  · rw [if_neg hone]
    by_cases htwo : c.toNat ≤ 2047
    · rw [if_pos htwo, List.cons_append,
        scan_of_lead _ (by omega) (by omega) (lead_two (by omega) htwo)]
      simp only [List.cons_append, List.nil_append]
      rw [scanTail_of_mem _ (by omega) (by omega) (by omega), scanTail]
      rw [show c.toNat / 64 * 64 + (c.toNat % 64 + 128 - 0x80) = c.toNat by omega, hchar]
    · rw [if_neg htwo]
      by_cases hthree : c.toNat ≤ 65535
      · obtain ⟨low, high, hlead, hlow, hhigh⟩ := lead_three (by omega) hthree (by omega)
        rw [if_pos hthree, List.cons_append, scan_of_lead _ (by omega) (by omega) hlead]
        simp only [List.cons_append, List.nil_append]
        rw [scanTail_of_mem _ hlow hhigh (by omega),
          scanTail_of_mem _ (by omega) (by omega) (by omega), scanTail]
        rw [show (c.toNat / 4096 * 64 + (c.toNat / 64 % 64 + 128 - 0x80)) * 64 +
          (c.toNat % 64 + 128 - 0x80) = c.toNat by omega, hchar]
      · obtain ⟨low, high, hlead, hlow, hhigh⟩ := lead_four (v := c.toNat) (by omega) (by omega)
        rw [if_neg hthree, List.cons_append, scan_of_lead _ (by omega) (by omega) hlead]
        simp only [List.cons_append, List.nil_append]
        rw [scanTail_of_mem _ hlow hhigh (by omega),
          scanTail_of_mem _ (by omega) (by omega) (by omega),
          scanTail_of_mem _ (by omega) (by omega) (by omega), scanTail]
        rw [show ((c.toNat / 262144 * 64 + (c.toNat / 4096 % 64 + 128 - 0x80)) * 64 +
          (c.toNat / 64 % 64 + 128 - 0x80)) * 64 + (c.toNat % 64 + 128 - 0x80) = c.toNat by omega,
          hchar]

/-! ## 2. Texts -/

/-- The bytes of a text begin with its first character. -/
theorem exists_cons_of_encode (c : Char) (more : List Char) :
    ∃ b bytes, encode (c :: more) = b :: bytes ∧ scan (b :: bytes) = .char c (encode more) := by
  have hscan := scan_encode c (encode more)
  rw [encode_cons]
  cases hbytes : String.utf8EncodeChar c ++ encode more with
  | nil => simp [hbytes, scan] at hscan
  | cons b bytes => exact ⟨b, bytes, rfl, hbytes ▸ hscan⟩

theorem decodeFrom_encode (index : Nat) (text : List Char) :
    decodeFrom index (encode text) = .ok text := by
  induction text generalizing index with
  | nil => rw [encode_nil, decodeFrom]
  | cons c more ih =>
    obtain ⟨b, bytes, hbytes, hscan⟩ := exists_cons_of_encode c more
    rw [hbytes, decodeFrom]
    split <;> rename_i h <;> rw [hscan] at h <;> cases h
    rw [ih]
    rfl

/-- **The bytes of a text spell the text.** -/
theorem decode_encode (text : List Char) : decode (encode text) = .ok text :=
  decodeFrom_encode 0 text

/-- There is nothing to be replaced in the bytes of a text. -/
theorem decodeLossy_encode (text : List Char) : decodeLossy (encode text) = text := by
  induction text with
  | nil => rw [encode_nil, decodeLossy]
  | cons c more ih =>
    obtain ⟨b, bytes, hbytes, hscan⟩ := exists_cons_of_encode c more
    rw [hbytes, decodeLossy]
    split <;> rename_i h <;> rw [hscan] at h <;> cases h
    rw [ih]

/-- The bytes of a character beyond ASCII have their highest bit set, and any other character is its
own byte. -/
theorem mem_utf8EncodeChar_iff {c : Char} {b : UInt8} (hb : b.toNat < 0x80) :
    b ∈ String.utf8EncodeChar c ↔ c.toNat = b.toNat := by
  have hvalid := toNat_char c
  have hsame {n : Nat} (hn : n < 256) : b = UInt8.ofNat n ↔ b.toNat = n := by
    rw [← UInt8.toNat_inj, UInt8.toNat_ofNat_of_lt' hn]
  have hval : c.val.toNat = c.toNat := rfl
  simp only [String.utf8EncodeChar, hval]
  split_ifs with hone htwo hthree
  · rw [List.mem_singleton, hsame (by omega)]
    omega
  all_goals
    simp only [List.mem_cons, List.not_mem_nil, or_false]
    rw [hsame (by omega), hsame (by omega)]
  · omega
  · rw [hsame (by omega)]
    omega
  · rw [hsame (by omega), hsame (by omega)]
    omega

/-- **A byte below 0x80 stands for the character of its number**, and for nothing else. -/
theorem mem_encode_iff {text : List Char} {b : UInt8} (hb : b.toNat < 0x80) :
    b ∈ encode text ↔ ∃ c ∈ text, c.toNat = b.toNat := by
  rw [encode, List.mem_flatMap]
  exact exists_congr fun c => and_congr_right fun _ => mem_utf8EncodeChar_iff hb

/-- Only a newline is written with the byte of a newline. -/
theorem newline_mem_encode {text : List Char} (h : (0x0A : UInt8) ∈ encode text) :
    '\n' ∈ text := by
  obtain ⟨c, hmem, hc⟩ := (mem_encode_iff (by decide)).mp h
  rwa [← Char.ofNat_toNat c, hc] at hmem

/-! ## 3. What can be read is what was written -/

/-- A byte that is owed to a character is in its range, and brings six more bits. -/
theorem eq_of_scanTail {seen bits owed low high : Nat} {bytes rest : List UInt8} {c : Char}
    (h : scanTail seen bits (owed + 1) low high bytes = .char c rest) :
    ∃ b more, bytes = b :: more ∧ low ≤ b.toNat ∧ b.toNat ≤ high ∧
      scanTail (seen + 1) (bits * 64 + (b.toNat - 0x80)) owed 0x80 0xBF more = .char c rest := by
  cases bytes with
  | nil => cases h
  | cons b more =>
    rw [scanTail] at h
    split at h
    · rename_i hrange
      exact ⟨b, more, rfl, hrange.1, hrange.2, h⟩
    · cases h

/-- Behind the last byte that is owed, the character is complete. -/
theorem eq_of_scanTail_zero {seen bits low high : Nat} {bytes rest : List UInt8} {c : Char}
    (h : scanTail seen bits 0 low high bytes = .char c rest) :
    c = Char.ofNat bits ∧ bytes = rest := by
  rw [scanTail] at h
  cases h
  exact ⟨rfl, rfl⟩

/-- What a first byte promises, by the number of bytes to follow. -/
theorem eq_of_lead {n : Nat} {l : Lead} (h : lead n = some l) :
    (l.owed = 1 ∧ l.bits = n - 0xC0 ∧ 0x80 ≤ l.low ∧ l.high ≤ 0xBF ∧ 0xC2 ≤ n ∧ n ≤ 0xDF) ∨
      (l.owed = 2 ∧ l.bits = n - 0xE0 ∧ 0x80 ≤ l.low ∧ l.high ≤ 0xBF ∧ 0xE0 ≤ n ∧ n ≤ 0xEF ∧
        (n = 0xE0 → 0xA0 ≤ l.low) ∧ (n = 0xED → l.high ≤ 0x9F)) ∨
      (l.owed = 3 ∧ l.bits = n - 0xF0 ∧ 0x80 ≤ l.low ∧ l.high ≤ 0xBF ∧ 0xF0 ≤ n ∧ n ≤ 0xF4 ∧
        (n = 0xF0 → 0x90 ≤ l.low) ∧ (n = 0xF4 → l.high ≤ 0x8F)) := by
  unfold lead at h
  obtain ⟨bits, owed, low, high⟩ := l
  split_ifs at h with hnone htwo hfirst hsurrogate hthree hfirst' hfour hlast
  all_goals simp only [Option.some.injEq, Lead.mk.injEq] at h
  · exact .inl (by simp only; omega)
  · exact .inr (.inl (by simp only; omega))
  · exact .inr (.inl (by simp only; omega))
  · exact .inr (.inl (by simp only; omega))
  · exact .inr (.inr (by simp only; omega))
  · exact .inr (.inr (by simp only; omega))
  · exact .inr (.inr (by simp only; omega))

/-- The number of the character of a number. -/
theorem toNat_ofNat {v : Nat} (h : v < 0xD800 ∨ 0xDFFF < v ∧ v < 0x110000) :
    (Char.ofNat v).val.toNat = v := by
  rw [Char.ofNat, dif_pos h]
  rfl

theorem ofNat_of_toNat {b : UInt8} {n : Nat} (h : b.toNat = n) : UInt8.ofNat n = b := by
  rw [← h]
  exact UInt8.ofNat_toNat

section Bytes

variable {b b₁ b₂ b₃ : UInt8} (h₁ : 0x80 ≤ b₁.toNat ∧ b₁.toNat ≤ 0xBF)
  (h₂ : 0x80 ≤ b₂.toNat ∧ b₂.toNat ≤ 0xBF) (h₃ : 0x80 ≤ b₃.toNat ∧ b₃.toNat ≤ 0xBF)

include h₁

theorem utf8EncodeChar_two (hb : 0xC2 ≤ b.toNat ∧ b.toNat ≤ 0xDF) :
    String.utf8EncodeChar (Char.ofNat ((b.toNat - 0xC0) * 64 + (b₁.toNat - 0x80))) = [b, b₁] := by
  have hval := toNat_ofNat (v := (b.toNat - 0xC0) * 64 + (b₁.toNat - 0x80)) (by omega)
  rw [String.utf8EncodeChar, hval, if_neg (by omega), if_pos (by omega),
    ofNat_of_toNat (b := b) (by omega), ofNat_of_toNat (b := b₁) (by omega)]

include h₂

theorem utf8EncodeChar_three (hb : 0xE0 ≤ b.toNat ∧ b.toNat ≤ 0xEF)
    (hoverlong : b.toNat = 0xE0 → 0xA0 ≤ b₁.toNat) (hsurrogate : b.toNat = 0xED → b₁.toNat ≤ 0x9F) :
    String.utf8EncodeChar (Char.ofNat
      (((b.toNat - 0xE0) * 64 + (b₁.toNat - 0x80)) * 64 + (b₂.toNat - 0x80))) = [b, b₁, b₂] := by
  have hval := toNat_ofNat
    (v := ((b.toNat - 0xE0) * 64 + (b₁.toNat - 0x80)) * 64 + (b₂.toNat - 0x80)) (by omega)
  rw [String.utf8EncodeChar, hval, if_neg (by omega), if_neg (by omega), if_pos (by omega),
    ofNat_of_toNat (b := b) (by omega), ofNat_of_toNat (b := b₁) (by omega),
    ofNat_of_toNat (b := b₂) (by omega)]

include h₃

theorem utf8EncodeChar_four (hb : 0xF0 ≤ b.toNat ∧ b.toNat ≤ 0xF4)
    (hoverlong : b.toNat = 0xF0 → 0x90 ≤ b₁.toNat) (hlast : b.toNat = 0xF4 → b₁.toNat ≤ 0x8F) :
    String.utf8EncodeChar (Char.ofNat
      ((((b.toNat - 0xF0) * 64 + (b₁.toNat - 0x80)) * 64 + (b₂.toNat - 0x80)) * 64 +
        (b₃.toNat - 0x80))) = [b, b₁, b₂, b₃] := by
  have hval := toNat_ofNat
    (v := (((b.toNat - 0xF0) * 64 + (b₁.toNat - 0x80)) * 64 + (b₂.toNat - 0x80)) * 64 +
      (b₃.toNat - 0x80)) (by omega)
  rw [String.utf8EncodeChar, hval, if_neg (by omega), if_neg (by omega), if_neg (by omega),
    ofNat_of_toNat (b := b) (by omega), ofNat_of_toNat (b := b₁) (by omega),
    ofNat_of_toNat (b := b₂) (by omega), ofNat_of_toNat (b := b₃) (by omega)]

end Bytes

/-- **Bytes that begin with a character begin with the bytes of the character.** -/
theorem eq_of_scan {bytes rest : List UInt8} {c : Char} (h : scan bytes = .char c rest) :
    bytes = String.utf8EncodeChar c ++ rest := by
  cases bytes with
  | nil => cases h
  | cons b more =>
    rw [scan] at h
    split at h
    · rename_i hone
      cases h
      have hval := toNat_ofNat (v := b.toNat) (by omega)
      rw [String.utf8EncodeChar, hval, if_pos (by omega), UInt8.ofNat_toNat]
      rfl
    · split at h
      · cases h
      · rename_i l hlead
        rcases eq_of_lead hlead with ⟨howed, hbits, hlow, hhigh, hmin, hmax⟩ |
          ⟨howed, hbits, hlow, hhigh, hmin, hmax, hoverlong, hsurrogate⟩ |
          ⟨howed, hbits, hlow, hhigh, hmin, hmax, hoverlong, hlast⟩
        all_goals
          rw [howed, hbits] at h
          obtain ⟨b₁, more, rfl, hlow₁, hhigh₁, h⟩ := eq_of_scanTail h
        · obtain ⟨hc, hrest⟩ := eq_of_scanTail_zero h
          rw [hc, ← hrest, utf8EncodeChar_two (by omega) (by omega)]
          rfl
        · obtain ⟨b₂, more, rfl, hlow₂, hhigh₂, h⟩ := eq_of_scanTail h
          obtain ⟨hc, hrest⟩ := eq_of_scanTail_zero h
          rw [hc, ← hrest, utf8EncodeChar_three (by omega) (by omega) (by omega) (by omega)
            (by omega)]
          rfl
        · obtain ⟨b₂, more, rfl, hlow₂, hhigh₂, h⟩ := eq_of_scanTail h
          obtain ⟨b₃, more, rfl, hlow₃, hhigh₃, h⟩ := eq_of_scanTail h
          obtain ⟨hc, hrest⟩ := eq_of_scanTail_zero h
          rw [hc, ← hrest, utf8EncodeChar_four (by omega) (by omega) (by omega) (by omega)
            (by omega) (by omega)]
          rfl

theorem scanTail_ne_finished (seen bits owed low high : Nat) (bytes : List UInt8) :
    scanTail seen bits owed low high bytes ≠ .finished := by
  fun_induction scanTail seen bits owed low high bytes <;> simp_all

/-- Only where nothing is left is a scan finished. -/
theorem scan_cons_ne_finished (b : UInt8) (more : List UInt8) : scan (b :: more) ≠ .finished := by
  rw [scan]
  split
  · simp
  · split
    · simp
    · exact scanTail_ne_finished _ _ _ _ _ _

theorem encode_of_decodeFrom {index : Nat} {bytes : List UInt8} {text : List Char}
    (h : decodeFrom index bytes = .ok text) : encode text = bytes := by
  fun_induction decodeFrom index bytes generalizing text with
  | case1 =>
    cases h
    rfl
  | case2 index b more hscan => exact absurd hscan (scan_cons_ne_finished b more)
  | case3 index b more c rest hscan ih =>
    cases hrest : decodeFrom (index + c.utf8Size) rest with
    | error fault => simp [hrest, Except.map] at h
    | ok tail =>
      rw [hrest] at h
      obtain rfl := Except.ok.inj h
      rw [encode_cons, ih hrest, eq_of_scan hscan]
  | case4 => cases h
  | case5 => cases h

/-- **The bytes of a text spell the text, and no other bytes do.** -/
theorem decode_eq_ok_iff {bytes : List UInt8} {text : List Char} :
    decode bytes = .ok text ↔ bytes = encode text := by
  constructor
  · intro h
    exact (encode_of_decodeFrom h).symm
  · rintro rfl
    exact decode_encode text

end Relay.Text.Utf8
