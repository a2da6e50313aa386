import Mathlib.Data.List.TakeDrop
import Mathlib.Data.List.TakeWhile
import Relay.Http.Response
import Relay.Proofs.Text.Boundaries

/-!
# The character set of a body

A content type is read as it is written, and the first parameter that gives a character set decides
(`charsetOf_spelled`). It has to be read to its end: with a character in it that cannot be printed
it names no set (`charsetOf_of_unprintable`).

The sets of one byte for a character and UTF-8 do not differ in ASCII, so a body in ASCII is the
same text in all of them (`Response.text_of_ascii`).
-/

namespace Relay

namespace Http

open Text (Charset)
open Text.Utf8 (encode)

/-! ## 1. Content types as they are written -/

/-- Whether a text is a name. -/
structure IsToken (text : List Char) : Prop where
  nonempty : text ≠ []
  chars : ∀ c ∈ text, isTokenChar c = true

/-- A parameter as it is written behind others. -/
def Parameter.spelled (parameter : Parameter) : List Char :=
  ';' :: ' ' :: (parameter.1 ++ '=' :: parameter.2)

/-- A content type as it is written. -/
def spelled (kind subkind : List Char) (parameters : List Parameter) : List Char :=
  kind ++ '/' :: (subkind ++ parameters.flatMap Parameter.spelled)

variable {kind subkind name value text : List Char} {parameters : List Parameter}

theorem IsToken.isEmpty_reverse (h : IsToken text) : text.reverse.isEmpty = false := by
  rw [List.isEmpty_reverse, List.isEmpty_eq_false_iff]
  exact h.nonempty

theorem ne_of_isTokenChar {c d : Char} (hc : isTokenChar c = true) (hd : isTokenChar d = false) :
    c ≠ d := by
  rintro rfl
  exact Bool.false_ne_true (hd.symm.trans hc)

/-- Characters of names are read one by one, where each of them is added to what has been read. -/
theorem readParameters_append {part : List Char → ParameterPart}
    (hpart : ∀ c read rest, isTokenChar c = true →
      readParameters (part read) (c :: rest) = readParameters (part (c :: read)) rest)
    (h : ∀ c ∈ text, isTokenChar c = true) (read rest : List Char) :
    readParameters (part read) (text ++ rest) =
      readParameters (part (text.reverse ++ read)) rest := by
  induction text generalizing read with
  | nil => rfl
  | cons c more ih =>
    obtain ⟨hc, hmore⟩ := List.forall_mem_cons.mp h
    rw [List.cons_append, hpart c _ _ hc, ih hmore, List.reverse_cons, List.append_assoc,
      List.singleton_append]

theorem readParameters_name_cons (c : Char) (read rest : List Char) (hc : isTokenChar c = true) :
    readParameters (.name read) (c :: rest) = readParameters (.name (c :: read)) rest := by
  have hspace : (c == ' ') = false := beq_eq_false_iff_ne.mpr (ne_of_isTokenChar hc rfl)
  rw [readParameters, hspace, Bool.and_false, if_neg Bool.false_ne_true, if_pos hc]

theorem readParameters_plain_cons (c : Char) (read rest : List Char) (hc : isTokenChar c = true) :
    readParameters (.plain name read) (c :: rest) =
      readParameters (.plain name (c :: read)) rest := by
  have hquote : (c == '"') = false := beq_eq_false_iff_ne.mpr (ne_of_isTokenChar hc rfl)
  rw [readParameters, hquote, Bool.and_false, if_neg Bool.false_ne_true, if_pos hc]

/-- A parameter is read to the end of its value. -/
theorem readParameters_spelled (hname : IsToken name) (hvalue : IsToken value) (rest : List Char) :
    readParameters (.name []) (' ' :: (name ++ '=' :: value) ++ rest) =
      readParameters (.plain name value.reverse) rest := by
  have hread := hname.isEmpty_reverse
  calc readParameters (.name []) (' ' :: (name ++ '=' :: value) ++ rest)
      = readParameters (.name []) (name ++ '=' :: (value ++ rest)) := by
        rw [List.cons_append, List.append_assoc, List.cons_append]
        rfl
    _ = readParameters (.name name.reverse) ('=' :: (value ++ rest)) := by
        rw [readParameters_append readParameters_name_cons hname.chars, List.append_nil]
    _ = readParameters (.plain name []) (value ++ rest) := by
        have hequals : isTokenChar '=' = false := rfl
        simp only [readParameters, hread, hequals, Bool.false_and, Bool.false_eq_true, if_false,
          Bool.not_false, Bool.true_and, beq_self_eq_true, if_true, List.reverse_reverse]
    _ = readParameters (.plain name value.reverse) rest := by
        rw [readParameters_append readParameters_plain_cons hvalue.chars, List.append_nil]

/-- Parameters are read one by one. -/
theorem readParameters_flatMap (h : ∀ parameter ∈ parameters, IsToken parameter.1 ∧
      IsToken parameter.2) (hvalue : IsToken value) :
    readParameters (.plain name value.reverse) (parameters.flatMap Parameter.spelled) =
      some ((name, value) :: parameters) := by
  induction parameters generalizing name value with
  | nil => rw [List.flatMap_nil, readParameters, List.reverse_reverse]
  | cons parameter more ih =>
    obtain ⟨⟨hfirst, hsecond⟩, hmore⟩ := List.forall_mem_cons.mp h
    have hread := hvalue.isEmpty_reverse
    have hsemicolon : isTokenChar ';' = false := rfl
    rw [List.flatMap_cons, Parameter.spelled, List.cons_append, readParameters]
    simp only [hread, hsemicolon, Bool.false_and, Bool.false_eq_true, if_false, Bool.not_false,
      Bool.true_and, beq_self_eq_true, if_true, List.reverse_reverse]
    rw [readParameters_spelled hfirst hsecond, ih hmore hsecond]
    rfl

theorem IsToken.span (h : IsToken name) {c : Char} (hc : isTokenChar c = false)
    (rest : List Char) : (name ++ c :: rest).span isTokenChar = (name, c :: rest) := by
  rw [List.span_eq_takeWhile_dropWhile, List.takeWhile_append_of_pos h.chars,
    List.dropWhile_append_of_pos h.chars, List.takeWhile_cons_of_neg (by simp [hc]),
    List.dropWhile_cons_of_neg (by simp [hc]), List.append_nil]

/-- The parameters of a content type are those that are written there. -/
theorem parameters?_spelled (hkind : IsToken kind) (hsubkind : IsToken subkind)
    (h : ∀ parameter ∈ parameters, IsToken parameter.1 ∧ IsToken parameter.2) :
    parameters? (spelled kind subkind parameters) = some parameters := by
  obtain ⟨k, kind, rfl⟩ := List.exists_cons_of_ne_nil hkind.nonempty
  obtain ⟨s, subkind, rfl⟩ := List.exists_cons_of_ne_nil hsubkind.nonempty
  rw [parameters?, spelled, hkind.span rfl]
  cases parameters with
  | nil =>
    simp only [List.flatMap_nil, List.append_nil, List.span_eq_takeWhile_dropWhile,
      List.dropWhile_eq_nil_iff.mpr hsubkind.chars]
  | cons parameter more =>
    obtain ⟨⟨hfirst, hsecond⟩, hmore⟩ := List.forall_mem_cons.mp h
    have hspan : (s :: subkind ++ (parameter :: more).flatMap Parameter.spelled).span isTokenChar =
        (s :: subkind, ';' :: (' ' :: (parameter.1 ++ '=' :: parameter.2) ++
          more.flatMap Parameter.spelled)) :=
      hsubkind.span rfl _
    simp only [hspan]
    exact (readParameters_spelled hfirst hsecond _).trans (readParameters_flatMap hmore hsecond)

/-- What begins and ends with characters of names has no blanks around it. -/
theorem trimBlanks_eq_self (hfirst : ∀ c ∈ text.head?, isTokenChar c = true)
    (hlast : ∀ c ∈ text.getLast?, isTokenChar c = true) : trimBlanks text = text := by
  have hdrop (chars : List Char) (h : ∀ c ∈ chars.head?, isTokenChar c = true) :
      chars.dropWhile (fun c => c == ' ' || c == '\t') = chars := by
    cases chars with
    | nil => rfl
    | cons c more =>
      have hc := h c rfl
      exact List.dropWhile_cons_of_neg
        (by simp [ne_of_isTokenChar hc (d := ' ') rfl, ne_of_isTokenChar hc (d := '\t') rfl])
  rw [trimBlanks, hdrop text hfirst, hdrop text.reverse (by rwa [List.head?_reverse]),
    List.reverse_reverse]

/-- A content type ends in a name. -/
theorem exists_token_of_spelled (hsubkind : IsToken subkind)
    (h : ∀ parameter ∈ parameters, IsToken parameter.1 ∧ IsToken parameter.2) :
    ∃ front last, spelled kind subkind parameters = front ++ last ∧ IsToken last := by
  rcases List.eq_nil_or_concat parameters with rfl | ⟨more, parameter, rfl⟩
  · exact ⟨kind ++ ['/'], subkind, by simp [spelled], hsubkind⟩
  · refine ⟨spelled kind subkind more ++ ';' :: ' ' :: (parameter.1 ++ ['=']), parameter.2, ?_,
      (h parameter (by simp)).2⟩
    simp [spelled, Parameter.spelled]

/-- **The character set that a content type names is the one that is written there**, in the first
parameter that gives one. -/
theorem charsetOf_spelled (hkind : IsToken kind) (hsubkind : IsToken subkind)
    (h : ∀ parameter ∈ parameters, IsToken parameter.1 ∧ IsToken parameter.2) :
    charsetOf (some (String.ofList (spelled kind subkind parameters))) =
      ((parameters.find? Parameter.isCharset).map (fun parameter =>
        Charset.ofName parameter.2)).getD .utf8 := by
  have htrim : trimBlanks (spelled kind subkind parameters) = spelled kind subkind parameters := by
    refine trimBlanks_eq_self (fun c hc => hkind.chars c ?_) (fun c hc => ?_)
    · rw [spelled, List.head?_append_of_ne_nil _ hkind.nonempty] at hc
      exact List.mem_of_mem_head? hc
    · obtain ⟨front, last, hspelled, hlast⟩ := exists_token_of_spelled hsubkind h
      rw [hspelled, List.getLast?_append_of_ne_nil _ hlast.nonempty] at hc
      exact hlast.chars c (List.mem_of_mem_getLast? hc)
  rw [charsetOf, Option.bind_some, String.toList_ofList, htrim,
    parameters?_spelled hkind hsubkind h]
  cases hfound : parameters.find? Parameter.isCharset with
  | none => simp only [hfound, Option.map_none, Option.getD_none]
  | some parameter => simp only [hfound, Option.map_some, Option.getD_some]

/-! ## 2. Content types that cannot be read -/

theorem isQuotable_of_le {c : Char} (low high : Char) (hlow : 0x20 ≤ low.toNat)
    (hhigh : high.toNat < 0x7F) (h : low.val ≤ c.val ∧ c.val ≤ high.val) :
    isQuotable c = true := by
  have hfirst : low.toNat ≤ c.toNat := UInt32.le_iff_toNat_le.mp h.1
  have hlast : c.toNat ≤ high.toNat := UInt32.le_iff_toNat_le.mp h.2
  exact Bool.and_eq_true_iff.mpr ⟨decide_eq_true (hlow.trans hfirst),
    decide_eq_true (hlast.trans_lt hhigh)⟩

/-- The characters of names are printable. -/
theorem isQuotable_of_isTokenChar {c : Char} (h : isTokenChar c = true) : isQuotable c = true := by
  rcases Bool.or_eq_true_iff.mp h with halphanum | hother
  · rcases Bool.or_eq_true_iff.mp halphanum with halpha | hdigit
    · rcases Bool.or_eq_true_iff.mp halpha with hupper | hlower
      · exact isQuotable_of_le 'A' 'Z' (by decide) (by decide) (of_decide_eq_true hupper)
      · exact isQuotable_of_le 'a' 'z' (by decide) (by decide)
          ((Bool.and_eq_true_iff.mp hlower).imp of_decide_eq_true of_decide_eq_true)
    · exact isQuotable_of_le '0' '9' (by decide) (by decide)
        ((Bool.and_eq_true_iff.mp hdigit).imp of_decide_eq_true of_decide_eq_true)
  · have hquotable : "!#$%&'*+-.^_\x60|~".toList.all isQuotable = true := rfl
    exact List.all_eq_true.mp hquotable c (List.contains_iff_mem.mp hother)

/-- Whatever parameters are read in the middle of, the next character is printable, and they are
read on behind it. -/
theorem exists_of_readParameters_cons {part : ParameterPart} {c : Char} {rest : List Char}
    (h : readParameters part (c :: rest) = some parameters) :
    isQuotable c = true ∧ ∃ next more, readParameters next rest = some more := by
  have hliteral {d : Char} (hd : isQuotable d = true) (hc : (c == d) = true) :
      isQuotable c = true := by
    rwa [eq_of_beq hc]
  cases part with
  | name read =>
    rw [readParameters] at h
    split_ifs at h with hspace htoken hequals
    · exact ⟨hliteral rfl (Bool.and_eq_true_iff.mp hspace).2, _, _, h⟩
    · exact ⟨isQuotable_of_isTokenChar htoken, _, _, h⟩
    · exact ⟨hliteral rfl (Bool.and_eq_true_iff.mp hequals).2, _, _, h⟩
  | plain name read =>
    rw [readParameters] at h
    split_ifs at h with hquote htoken hsemicolon
    · exact ⟨hliteral rfl (Bool.and_eq_true_iff.mp hquote).2, _, _, h⟩
    · exact ⟨isQuotable_of_isTokenChar htoken, _, _, h⟩
    · obtain ⟨more, hmore, -⟩ := Option.map_eq_some_iff.mp h
      exact ⟨hliteral rfl (Bool.and_eq_true_iff.mp hsemicolon).2, _, _, hmore⟩
  | quoted name read =>
    rw [readParameters] at h
    split_ifs at h with hquote hquotable
    · obtain ⟨more, hmore, -⟩ := Option.map_eq_some_iff.mp h
      exact ⟨hliteral rfl (Bool.and_eq_true_iff.mp hquote).2, _, _, hmore⟩
    · exact ⟨hquotable, _, _, h⟩
  | behind =>
    rw [readParameters] at h
    split_ifs at h with hsemicolon hspace
    · exact ⟨hliteral rfl hsemicolon, _, _, h⟩
    · exact ⟨hliteral rfl hspace, _, _, h⟩

/-- Parameters that can be read are printable. -/
theorem isQuotable_of_readParameters {part : ParameterPart}
    (h : readParameters part text = some parameters) : ∀ c ∈ text, isQuotable c = true := by
  induction text generalizing part parameters with
  | nil => exact List.forall_mem_nil _
  | cons c rest ih =>
    obtain ⟨hc, next, more, hrest⟩ := exists_of_readParameters_cons h
    exact List.forall_mem_cons.mpr ⟨hc, ih hrest⟩

theorem eq_append_of_span {front rest : List Char}
    (h : text.span isTokenChar = (front, rest)) :
    text = front ++ rest ∧ ∀ c ∈ front, isQuotable c = true := by
  rw [List.span_eq_takeWhile_dropWhile] at h
  obtain ⟨rfl, rfl⟩ := Prod.mk.inj h
  exact ⟨List.takeWhile_append_dropWhile.symm,
    fun c hc => isQuotable_of_isTokenChar (List.mem_takeWhile_imp hc)⟩

/-- A content type that can be read is printable. -/
theorem isQuotable_of_parameters? (h : parameters? text = some parameters) :
    ∀ c ∈ text, isQuotable c = true := by
  rw [parameters?] at h
  split at h
  · rename_i k kind rest hspan
    obtain ⟨rfl, hkind⟩ := eq_append_of_span hspan
    refine List.forall_mem_append.mpr ⟨hkind, List.forall_mem_cons.mpr ⟨rfl, ?_⟩⟩
    split at h
    · rename_i subkind hspan
      obtain ⟨rfl, hsubkind⟩ := eq_append_of_span hspan
      rwa [List.append_nil]
    · rename_i s subkind more hspan
      obtain ⟨rfl, hsubkind⟩ := eq_append_of_span hspan
      exact List.forall_mem_append.mpr
        ⟨hsubkind, List.forall_mem_cons.mpr ⟨rfl, isQuotable_of_readParameters h⟩⟩
    · cases h
  · cases h

/-- **A content type with a character that cannot be printed names no character set**, whatever else
stands there. Only the tabs around it do no harm. -/
theorem charsetOf_of_unprintable {contentType : String}
    (h : ∃ c ∈ trimBlanks contentType.toList, isQuotable c = false) :
    charsetOf (some contentType) = .utf8 := by
  cases hread : parameters? (trimBlanks contentType.toList) with
  | none => rw [charsetOf, Option.bind_some, hread]
  | some parameters =>
    obtain ⟨c, hmem, hc⟩ := h
    exact absurd (isQuotable_of_parameters? hread c hmem) (by simp [hc])

/-! ## 3. Bodies in ASCII -/

/-- Whether a text is in ASCII. -/
def IsAscii (text : List Char) : Prop :=
  ∀ c ∈ text, c.toNat < 0x80

/-- A character of ASCII is one byte, and this byte is the character in every set. -/
theorem charOf_encode (page : Text.Codepage) {c : Char} (h : c.toNat < 0x80) :
    ∃ b : UInt8, String.utf8EncodeChar c = [b] ∧ b.toNat < 0x80 ∧ page.charOf b = c := by
  have hval : c.val.toNat = c.toNat := rfl
  have hbyte : (UInt8.ofNat c.toNat).toNat = c.toNat :=
    UInt8.toNat_ofNat_of_lt' (Nat.lt_trans h (by decide))
  refine ⟨UInt8.ofNat c.toNat, ?_, by rwa [hbyte], ?_⟩
  · have hone : c.toNat ≤ 127 := by omega
    simp only [String.utf8EncodeChar, hval, if_pos hone]
  · have hchar : page.charOf (UInt8.ofNat c.toNat) = Char.ofNat (UInt8.ofNat c.toNat).toNat :=
      if_pos (by rwa [hbyte])
    rw [hchar, hbyte, Char.ofNat_toNat]

theorem map_charOf_encode (page : Text.Codepage) (h : IsAscii text) :
    (encode text).map page.charOf = text := by
  induction text with
  | nil => rfl
  | cons c more ih =>
    obtain ⟨hc, hmore⟩ := List.forall_mem_cons.mp h
    obtain ⟨b, hencode, -, hchar⟩ := charOf_encode page hc
    rw [Text.Utf8.encode_cons, hencode, List.singleton_append, List.map_cons, hchar, ih hmore]

/-- No byte order mark begins in ASCII. -/
theorem decodeMarked?_of_head (charset : Charset) {bytes : List UInt8}
    (h : ∀ b ∈ bytes.head?, b.toNat < 0x80) :
    charset.decodeMarked? bytes = charset.decode? bytes := by
  unfold Charset.decodeMarked?
  split
  · exact absurd (h 0xEF rfl) (by decide)
  · exact absurd (h 0xFF rfl) (by decide)
  · exact absurd (h 0xFE rfl) (by decide)
  · rfl

/-- **A body in ASCII is the same text in UTF-8 and in all sets of one byte for a character.** -/
theorem Response.text_of_ascii {response : Response}
    (hcharset : charsetOf response.contentType = .utf8 ∨
      ∃ page, charsetOf response.contentType = .oneByte page)
    (hascii : IsAscii text) (hbytes : response.received.bytes = encode text) :
    response.text = text := by
  have hhead : ∀ b ∈ (encode text).head?, b.toNat < 0x80 := by
    intro b hb
    cases text with
    | nil => cases hb
    | cons c more =>
      obtain ⟨first, hencode, hfirst, -⟩ := charOf_encode .windows1252 (hascii c List.mem_cons_self)
      rw [Text.Utf8.encode_cons, hencode] at hb
      obtain rfl : first = b := Option.some.inj hb
      exact hfirst
  have hdecoded : (charsetOf response.contentType).decode? (encode text) = some text := by
    rcases hcharset with hutf8 | ⟨page, hpage⟩
    · rw [hutf8, Charset.decode?, Text.Utf8.decodeLossy_encode]
    · rw [hpage, Charset.decode?, map_charOf_encode page hascii]
  rw [Response.text, hbytes, decodeMarked?_of_head _ hhead, hdecoded, Option.getD_some]

end Http

end Relay
