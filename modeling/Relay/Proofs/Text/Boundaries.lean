import Mathlib.Data.List.Basic
import Relay.Proofs.Text.Utf8
import Relay.Text.Charset

/-!
# Where characters begin

Bytes can be divided without knowing the characters in them, as long as no part begins inside a
character. A byte that goes on with a character is never the first byte of one (`IsContinuation`),
and so

* bytes that are divided in front of any other byte spell a text only if both parts do
  (`exists_of_encode_eq_append`). What stands between two texts spells one exactly when the whole
  does (`isText_between_iff`);
* the bytes of a text are divided at the newline byte as the text is divided at the newlines
  (`splitOn_encode`), and if all parts spell texts then so does the whole (`isText_of_splitOn`);
* the bytes of a text are read as this text with the character set UTF-8, unless a byte order mark
  stands in front (`decodeMarked?_encode`).
-/

namespace Relay.Text.Utf8

/-- Whether bytes spell a text. -/
def IsText (bytes : List UInt8) : Prop :=
  ∃ text, bytes = encode text

theorem isText_encode (text : List Char) : IsText (encode text) := ⟨text, rfl⟩

/-! ## 1. First bytes -/

/-- Whether a byte goes on with a character. -/
def IsContinuation (b : UInt8) : Prop :=
  0x80 ≤ b.toNat ∧ b.toNat ≤ 0xBF

/-- **Of the bytes of a character, all but the first go on with it.** -/
theorem exists_cons_of_utf8EncodeChar (c : Char) :
    ∃ first more, String.utf8EncodeChar c = first :: more ∧ ¬IsContinuation first ∧
      ∀ b ∈ more, IsContinuation b := by
  have hvalid := toNat_char c
  have hval : c.val.toNat = c.toNat := rfl
  have hbyte {n : Nat} (hn : n < 256) : IsContinuation (UInt8.ofNat n) ↔ 0x80 ≤ n ∧ n ≤ 0xBF := by
    rw [IsContinuation, UInt8.toNat_ofNat_of_lt' hn]
  simp only [String.utf8EncodeChar, hval]
  split_ifs with hone htwo hthree
  all_goals
    refine ⟨_, _, rfl, ?_, ?_⟩
    · rw [hbyte (by omega)]
      omega
  · simp
  · simp only [List.forall_mem_cons, hbyte (show c.toNat % 64 + 128 < 256 by omega)]
    exact ⟨by omega, by simp⟩
  · simp only [List.forall_mem_cons, hbyte (show c.toNat % 64 + 128 < 256 by omega),
      hbyte (show c.toNat / 64 % 64 + 128 < 256 by omega)]
    exact ⟨by omega, by omega, by simp⟩
  · simp only [List.forall_mem_cons, hbyte (show c.toNat % 64 + 128 < 256 by omega),
      hbyte (show c.toNat / 64 % 64 + 128 < 256 by omega),
      hbyte (show c.toNat / 4096 % 64 + 128 < 256 by omega)]
    exact ⟨by omega, by omega, by omega, by simp⟩

/-- Whether bytes do not begin inside a character. -/
def StartsCharacter (bytes : List UInt8) : Prop :=
  ∀ b ∈ bytes.head?, ¬IsContinuation b

theorem startsCharacter_encode (text : List Char) : StartsCharacter (encode text) := by
  cases text with
  | nil => simp [StartsCharacter]
  | cons c more =>
    obtain ⟨first, rest, hbytes, hfirst, -⟩ := exists_cons_of_utf8EncodeChar c
    simpa [StartsCharacter, hbytes] using hfirst

/-! ## 2. Dividing bytes -/

/-- **Where a text's bytes are divided in front of a first byte, the text is divided.** -/
theorem exists_of_encode_eq_append {text : List Char} {front rest : List UInt8}
    (h : encode text = front ++ rest) (hrest : StartsCharacter rest) :
    ∃ before behind, text = before ++ behind ∧ front = encode before ∧ rest = encode behind := by
  induction text generalizing front with
  | nil =>
    obtain ⟨rfl, rfl⟩ := List.append_eq_nil_iff.mp h.symm
    exact ⟨[], [], rfl, rfl, rfl⟩
  | cons c more ih =>
    obtain ⟨first, bytes, hbytes, hfirst, hgoeson⟩ := exists_cons_of_utf8EncodeChar c
    rcases front with _ | ⟨b, front⟩
    · exact ⟨[], c :: more, rfl, rfl, h.symm⟩
    · -- the division comes behind the first character: else a byte of it would be a first byte
      rw [encode_cons, hbytes, List.cons_append, List.cons_append] at h
      obtain ⟨rfl, htail⟩ := List.cons.inj h
      rcases List.append_eq_append_iff.mp htail with ⟨tail, rfl, hmore⟩ | ⟨tail, rfl, hrest'⟩
      · obtain ⟨before, behind, rfl, rfl, rfl⟩ := ih hmore
        exact ⟨c :: before, behind, rfl, by rw [encode_cons, hbytes, List.cons_append], rfl⟩
      · rcases tail with _ | ⟨d, tail⟩
        · exact ⟨[c], more, rfl, by simp [hbytes], by simpa using hrest'⟩
        · exact absurd (hgoeson d (by simp)) (hrest d (by simp [hrest']))

/-- Behind a text, a text goes on. -/
theorem exists_of_encode_append {text before : List Char} {rest : List UInt8}
    (h : encode text = encode before ++ rest) : ∃ behind, text = before ++ behind ∧
      rest = encode behind := by
  induction before generalizing text with
  | nil => exact ⟨text, rfl, h.symm⟩
  | cons c more ih =>
    have hscan := scan_encode c (encode more ++ rest)
    rw [← List.append_assoc, ← encode_cons, ← h] at hscan
    cases text with
    | nil => cases hscan
    | cons d tail =>
      rw [encode_cons, scan_encode] at hscan
      obtain ⟨rfl, htail⟩ := Scan.char.inj hscan
      obtain ⟨behind, rfl, rfl⟩ := ih htail
      exact ⟨behind, rfl, rfl⟩

/-- **What stands between two texts spells one exactly when the whole does.** -/
theorem isText_between_iff (before after : List Char) {bytes : List UInt8} :
    IsText (encode before ++ bytes ++ encode after) ↔ IsText bytes := by
  constructor
  · rintro ⟨text, htext⟩
    rw [List.append_assoc] at htext
    obtain ⟨rest, -, hrest⟩ := exists_of_encode_append htext.symm
    obtain ⟨inner, -, -, hinner, -⟩ :=
      exists_of_encode_eq_append hrest.symm (startsCharacter_encode after)
    exact ⟨inner, hinner⟩
  · rintro ⟨text, rfl⟩
    rw [← encode_append, ← encode_append]
    exact isText_encode _

/-! ## 3. Lines -/

/-- Dividing goes on behind a part that does not hold what is divided at. -/
theorem splitOn_append {α : Type} [BEq α] [LawfulBEq α] {a : α} {word : List α} (h : a ∉ word)
    (rest : List α) : (word ++ rest).splitOn a = (rest.splitOn a).modifyHead (word ++ ·) := by
  induction word with
  | nil => cases hrest : rest.splitOn a <;> simp [hrest]
  | cons b more ih =>
    obtain ⟨hb, hmore⟩ := not_or.mp (mt List.mem_cons.mpr h)
    have hne : (b == a) = false := beq_eq_false_iff_ne.mpr (Ne.symm hb)
    rw [List.cons_append, List.splitOn_cons_eq_if_modifyHead, hne, ih hmore,
      List.modifyHead_modifyHead]
    rfl

/-- **The bytes of a text are divided at the newline byte as the text is at the newlines.** -/
theorem splitOn_encode (text : List Char) :
    (encode text).splitOn 0x0A = (text.splitOn '\n').map encode := by
  induction text with
  | nil => rfl
  | cons c more ih =>
    obtain ⟨line, lines, hlines⟩ := List.exists_cons_of_ne_nil (List.splitOn_ne_nil '\n' more)
    rw [List.splitOn_cons_eq_if_modifyHead]
    by_cases hc : c = '\n'
    · subst hc
      rw [if_pos (beq_self_eq_true _), List.map_cons, ← ih]
      exact List.splitOn_cons_eq_if_modifyHead _ _
    · have hbyte : (0x0A : UInt8) ∉ String.utf8EncodeChar c := by
        intro hmem
        have hencoded : (0x0A : UInt8) ∈ encode [c] := by simpa using hmem
        exact hc (List.mem_singleton.mp (newline_mem_encode hencoded)).symm
      rw [if_neg (by simpa using hc), encode_cons, splitOn_append hbyte, ih, hlines]
      rfl

/-- Texts with newlines between them are written as their bytes with newline bytes between them. -/
theorem encode_intercalate (lines : List (List Char)) :
    encode (['\n'].intercalate lines) = [0x0A].intercalate (lines.map encode) := by
  induction lines with
  | nil => rfl
  | cons line more ih =>
    cases more with
    | nil => simp
    | cons next rest =>
      rw [List.map_cons, List.map_cons, List.intercalate_cons_cons, List.intercalate_cons_cons,
        encode_append, encode_append, ih]
      rfl

/-- **Bytes of which all lines spell texts spell a text.** -/
theorem isText_of_splitOn {bytes : List UInt8} (h : ∀ line ∈ bytes.splitOn 0x0A, IsText line) :
    IsText bytes := by
  have hlines (lines : List (List UInt8)) (h : ∀ line ∈ lines, IsText line) :
      ∃ texts : List (List Char), lines = texts.map encode := by
    induction lines with
    | nil => exact ⟨[], rfl⟩
    | cons line more ih =>
      obtain ⟨⟨text, rfl⟩, hmore⟩ := List.forall_mem_cons.mp h
      obtain ⟨texts, rfl⟩ := ih hmore
      exact ⟨text :: texts, rfl⟩
  obtain ⟨texts, htexts⟩ := hlines _ h
  refine ⟨['\n'].intercalate texts, ?_⟩
  rw [encode_intercalate, ← htexts, List.intercalate_splitOn]

/-! ## 4. Byte order marks -/

/-- **The bytes of a text are read as this text**, unless a byte order mark stands in front. -/
theorem decodeMarked?_encode {text : List Char} (hmark : text.head? ≠ some '\uFEFF') :
    Charset.utf8.decodeMarked? (encode text) = some text := by
  have hlossy : Charset.utf8.decode? (encode text) = some text :=
    congrArg some (decodeLossy_encode text)
  cases text with
  | nil => exact hlossy
  | cons c more =>
    have hscan := scan_encode c (encode more)
    rw [← encode_cons] at hscan
    unfold Charset.decodeMarked?
    split
    · rename_i rest hbytes
      have hfirst : scan (0xEF :: 0xBB :: 0xBF :: rest) = .char '\uFEFF' rest := rfl
      rw [hbytes, hfirst] at hscan
      exact absurd (congrArg some (Scan.char.inj hscan).1.symm) hmark
    · rename_i rest hbytes
      rw [hbytes] at hscan
      cases hscan
    · rename_i rest hbytes
      rw [hbytes] at hscan
      cases hscan
    · exact hlossy

end Relay.Text.Utf8
