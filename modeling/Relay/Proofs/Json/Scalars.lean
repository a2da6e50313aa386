import Mathlib.Data.List.TakeDrop
import Relay.Json.Number
import Relay.Json.Printer
import Relay.Json.Text

/-!
# Numbers and strings read back

What is written for an integer that fits 64 bits is read as this integer, when nothing follows that
a numeral could go on with (`readNumber_digitsOf`). What is written for a string is read as this
string, up to its closing quote (`readString_escaped`).
-/

namespace Relay.Json

/-! ## 1. Digits -/

/-- Whether a numeral cannot go on with what follows it. -/
def EndsNumeral (rest : List Char) : Prop :=
  ∀ c ∈ rest.head?, c.isDigit = false ∧ c ≠ '.' ∧ c ≠ 'e' ∧ c ≠ 'E'

/-- The digits of a greater number go on with its last one. -/
theorem digitsOf_of_ten_le {n : Nat} (h : 10 ≤ n) :
    Decimal.digitsOf n = Decimal.digitsOf (n / 10) ++ [Nat.digitChar (n % 10)] :=
  Nat.toDigits_of_base_le (by decide) h

theorem digitsOf_of_lt_ten {n : Nat} (h : n < 10) : Decimal.digitsOf n = [Nat.digitChar n] :=
  Nat.toDigits_of_lt_base h

theorem isDigit_of_mem_digitsOf {n : Nat} {c : Char} (h : c ∈ Decimal.digitsOf n) :
    c.isDigit = true :=
  Nat.isDigit_of_mem_toDigits (by decide) (by decide) h

/-- The digits of a number do not begin with a zero, unless it is zero. -/
theorem digitsOf_eq_cons {n : Nat} (h : 0 < n) :
    ∃ first more, Decimal.digitsOf n = first :: more ∧ first ≠ '0' := by
  induction n using Nat.strongRecOn with
  | ind n ih =>
    by_cases hten : 10 ≤ n
    · obtain ⟨first, more, hdigits, hfirst⟩ := ih (n / 10) (by omega) (by omega)
      exact ⟨first, more ++ [Nat.digitChar (n % 10)], by rw [digitsOf_of_ten_le hten, hdigits]; rfl,
        hfirst⟩
    · refine ⟨_, [], digitsOf_of_lt_ten (by omega), fun hzero => ?_⟩
      exact absurd (Nat.digitChar_eq_zero.mp hzero) (by omega)

theorem spanDigits_append {digits rest : List Char} (h : ∀ c ∈ digits, c.isDigit = true)
    (hrest : ∀ c ∈ rest.head?, c.isDigit = false) :
    spanDigits (digits ++ rest) = (digits, rest) := by
  have hends : rest.takeWhile Char.isDigit = [] ∧ rest.dropWhile Char.isDigit = rest := by
    cases rest with
    | nil => exact ⟨rfl, rfl⟩
    | cons c more => simp [hrest c rfl]
  rw [spanDigits, List.span_eq_takeWhile_dropWhile, List.takeWhile_append_of_pos h,
    List.dropWhile_append_of_pos h, hends.1, hends.2, List.append_nil]

/-- **The digits of a number are an integer part.** -/
theorem scanInteger_digitsOf (n : Nat) {rest : List Char}
    (hrest : ∀ c ∈ rest.head?, c.isDigit = false) :
    scanInteger (Decimal.digitsOf n ++ rest) = .ok (Decimal.digitsOf n, rest) := by
  cases n with
  | zero =>
    have hzero : Decimal.digitsOf 0 = ['0'] := rfl
    rw [hzero]
    cases rest with
    | nil => rfl
    | cons c more => simp [scanInteger, hrest c rfl]
  | succ n =>
    obtain ⟨first, more, hdigits, hfirst⟩ := digitsOf_eq_cons (Nat.succ_pos n)
    have hall : ∀ c ∈ first :: more, c.isDigit = true :=
      fun c hc => isDigit_of_mem_digitsOf (hdigits ▸ hc)
    rw [hdigits, List.cons_append, scanInteger]
    · rw [if_pos (hall first List.mem_cons_self),
        spanDigits_append (fun c hc => hall c (List.mem_cons_of_mem _ hc)) hrest]
    · exact hfirst

theorem scanFraction_of_ends {rest : List Char} (h : EndsNumeral rest) :
    scanFraction rest = .ok (none, rest) := by
  unfold scanFraction
  split
  · exact absurd rfl (h '.' rfl).2.1
  · rfl

theorem scanExponent_of_ends {rest : List Char} (h : EndsNumeral rest) :
    scanExponent rest = .ok (none, rest) := by
  unfold scanExponent
  split
  · exact absurd rfl (h 'e' rfl).2.2.1
  · exact absurd rfl (h 'E' rfl).2.2.2
  · rfl

/-! ## 2. Integers -/

/-- Digits that fit are taken one after another. -/
theorem takeSignificand_append {start whole : Nat} {digits : List Char} (more : List Char)
    (h : takeSignificand start digits = (whole, [])) :
    takeSignificand start (digits ++ more) = takeSignificand whole more := by
  induction digits generalizing start with
  | nil =>
    obtain rfl : start = whole := congrArg Prod.fst h
    rfl
  | cons c rest ih =>
    simp only [takeSignificand, List.cons_append] at h ⊢
    split
    · rename_i hfits
      rw [if_pos hfits] at h
      exact ih h
    · rename_i hfits
      rw [if_neg hfits] at h
      cases h

/-- The digits of a number that fits 64 bits are its significand. -/
theorem takeSignificand_digitsOf {n : Nat} (h : n ≤ maxSignificand) :
    takeSignificand 0 (Decimal.digitsOf n) = (n, []) := by
  have hdigit {d : Nat} (hd : d < 10) : digitValue (Nat.digitChar d) = d :=
    Nat.toNat_digitChar_sub_48_of_lt_ten hd
  induction n using Nat.strongRecOn with
  | ind n ih =>
    by_cases hten : 10 ≤ n
    · have hearlier := ih (n / 10) (by omega) (by omega)
      have hvalue : n / 10 * 10 + digitValue (Nat.digitChar (n % 10)) = n := by
        rw [hdigit (by omega)]
        omega
      rw [digitsOf_of_ten_le hten, takeSignificand_append _ hearlier]
      simp only [takeSignificand, hvalue, h, if_true]
    · have hvalue : 0 * 10 + digitValue (Nat.digitChar n) = n := by
        rw [hdigit (by omega)]
        omega
      rw [digitsOf_of_lt_ten (by omega)]
      simp only [takeSignificand, hvalue, h, if_true]

/-- **What is written for a number is read as this number.** -/
theorem readNumber_digitsOf (negative : Bool) {n : Nat} (hn : n ≤ maxSignificand)
    {rest : List Char} (h : EndsNumeral rest) :
    readNumber negative (Decimal.digitsOf n ++ rest) =
      (integerValue negative n rest).map (fun number => (number, rest)) := by
  simp only [readNumber, scanNumeral, scanInteger_digitsOf n fun c hc => (h c hc).1,
    scanFraction_of_ends h, scanExponent_of_ends h, bind, Except.bind, Numeral.value,
    takeSignificand_digitsOf hn, takeSignificand, Option.getD_none, Option.isNone_none,
    List.isEmpty_nil, and_self, if_true]
  cases integerValue negative n rest <;> rfl

/-! ## 3. Strings -/

theorem hexValue?_hexDigit (n : Nat) : Text.hexValue? (hexDigit n) = some (n % 16) := by
  have hall : ∀ m < 16, Text.hexValue? (Nat.digitChar m) = some m := by decide
  exact hall (n % 16) (Nat.mod_lt n (by decide))

/-- The two last of the four digits of an escape spell a number below 256. -/
theorem readHex4_low (a b : Nat) (rest : List Char) :
    readHex4 ('0' :: '0' :: hexDigit a :: hexDigit b :: rest) =
      .ok (a % 16 * 16 + b % 16, rest) := by
  have hlong : ¬ (Text.Utf8.encode ['0', '0', hexDigit a, hexDigit b]).length < 4 := by
    have ha := String.length_utf8EncodeChar (hexDigit a)
    have hb := String.length_utf8EncodeChar (hexDigit b)
    have ha' := Char.utf8Size_pos (hexDigit a)
    have hb' := Char.utf8Size_pos (hexDigit b)
    have hzero : (String.utf8EncodeChar '0').length = 1 := rfl
    simp only [Text.Utf8.encode_cons, Text.Utf8.encode_nil, List.length_append, List.length_nil]
    omega
  have hvalue : hexValue4? '0' '0' (hexDigit a) (hexDigit b) = some (a % 16 * 16 + b % 16) := by
    have hzero : Text.hexValue? '0' = some 0 := by decide
    simp [hexValue4?, hexValue?_hexDigit, hzero]
  unfold readHex4
  rw [List.take, List.take, List.take, List.take, List.take_zero, if_neg hlong]
  simp only [hvalue]

/-- What an escape by number spells that is written for a control character. -/
theorem readUnicode_control {c : Char} (h : c.toNat < 0x20) (rest : List Char) :
    readUnicode ('0' :: '0' :: hexDigit (c.toNat / 16) :: hexDigit c.toNat :: rest) =
      .ok (c, rest) := by
  have hvalue : c.toNat / 16 % 16 * 16 + c.toNat % 16 = c.toNat := by omega
  have hlow : ¬ (0xDC00 ≤ c.toNat ∧ c.toNat ≤ 0xDFFF) := by omega
  have hbelow : c.toNat < 0xD800 ∨ 0xDBFF < c.toNat := by omega
  simp only [readUnicode, readHex4_low, hvalue, bind, Except.bind, hlow, hbelow, if_false, if_true,
    Char.ofNat_toNat]

theorem readString_of_escape {s after : List Char} {e : Char} (h : readEscape s = .ok (e, after)) :
    readString ('\\' :: s) = (readString after).map (fun r => (e :: r.1, r.2)) := by
  rw [readString, if_neg (by decide), if_pos rfl]
  split
  · simp_all
  · simp_all

/-- What follows the backslash of a control character. -/
theorem readEscape_control {c : Char} (h : c.toNat < 0x20) (rest : List Char) :
    readEscape ((escapeChar c).drop 1 ++ rest) = .ok (c, rest) := by
  have heq {n : Nat} (hn : c.toNat = n) : c = Char.ofNat n := by rw [← hn, Char.ofNat_toNat]
  unfold escapeChar
  by_cases hquote : c = '"'
  · subst hquote
    exact absurd h (by decide)
  by_cases hbackslash : c = '\\'
  · subst hbackslash
    exact absurd h (by decide)
  rw [if_neg hquote, if_neg hbackslash, if_pos h]
  by_cases hb : c.toNat = 0x08
  · rw [if_pos hb, heq hb]
    rfl
  by_cases hf : c.toNat = 0x0C
  · rw [if_neg hb, if_pos hf, heq hf]
    rfl
  rw [if_neg hb, if_neg hf]
  by_cases hn : c = '\n'
  · subst hn
    rfl
  by_cases hr : c = '\r'
  · subst hr
    rfl
  by_cases ht : c = '\t'
  · subst ht
    rfl
  rw [if_neg hn, if_neg hr, if_neg ht]
  exact readUnicode_control h rest

/-- **What is written for a character is read as this character.** -/
theorem readString_escapeChar (c : Char) (rest : List Char) :
    readString (escapeChar c ++ rest) = (readString rest).map (fun r => (c :: r.1, r.2)) := by
  by_cases hquote : c = '"'
  · subst hquote
    exact readString_of_escape rfl
  by_cases hbackslash : c = '\\'
  · subst hbackslash
    exact readString_of_escape rfl
  by_cases hcontrol : c.toNat < 0x20
  · have hescape := readEscape_control hcontrol rest
    have hhead : escapeChar c = '\\' :: (escapeChar c).drop 1 := by
      unfold escapeChar
      split_ifs <;> rfl
    rw [hhead, List.cons_append]
    exact readString_of_escape hescape
  · rw [escapeChar, if_neg hquote, if_neg hbackslash, if_neg hcontrol, List.singleton_append,
      readString, if_neg hquote, if_neg hbackslash, if_neg hcontrol]

/-- **What is written for a string is read as this string.** -/
theorem readString_escaped (s rest : List Char) :
    readString (s.flatMap escapeChar ++ '"' :: rest) = .ok (s, rest) := by
  induction s with
  | nil =>
    rw [List.flatMap_nil, List.nil_append, readString]
    rfl
  | cons c more ih =>
    rw [List.flatMap_cons, List.append_assoc, readString_escapeChar, ih]
    rfl

end Relay.Json
