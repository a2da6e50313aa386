import Relay.Proofs.Json.Grammar

/-!
# Values that are skipped

A value that nobody wants is passed over to its end, however it is written and however deep it is
(`skipValue_of_isValue`). There is a container for every bracket that is open, and each of them is
closed where its text says (`Skips`, `skipRest_inside`).
-/

namespace Relay.Json

/-! ## 1. Strings -/

/-- The four digits of an escape are read. -/
theorem readHex4_of_value {a b d e : Char} {n : Nat} (h : hexValue4? a b d e = some n)
    (rest : List Char) : readHex4 (a :: b :: d :: e :: rest) = .ok (n, rest) := by
  have hlength (c : Char) : 1 ≤ (String.utf8EncodeChar c).length := by
    rw [String.length_utf8EncodeChar]
    exact Char.utf8Size_pos c
  have hlong : ¬ (Text.Utf8.encode [a, b, d, e]).length < 4 := by
    have ha := hlength a
    have hb := hlength b
    have hd := hlength d
    have he := hlength e
    simp only [Text.Utf8.encode_cons, Text.Utf8.encode_nil, List.length_append, List.length_nil]
    omega
  have htake : (a :: b :: d :: e :: rest).take 4 = [a, b, d, e] := rfl
  rw [readHex4, htake, if_neg hlong]
  simp only [h]

theorem skipString_plain {c : Char} (hquote : c ≠ '"') (hbackslash : c ≠ '\\')
    (hcontrol : 0x20 ≤ c.toNat) (rest : List Char) : skipString (c :: rest) = skipString rest := by
  rw [skipString, if_neg hquote, if_neg hbackslash, if_neg (by omega)]

theorem skipString_of_escape {s after : List Char} (h : skipEscape s = .ok after) :
    skipString ('\\' :: s) = skipString after := by
  rw [skipString, if_neg (by decide), if_pos rfl]
  split
  · simp_all
  · simp_all

theorem ne_u_of_shortEscape {e c : Char} (h : shortEscape? e = some c) : e ≠ 'u' := by
  rintro rfl
  have hnone : shortEscape? 'u' = none := by decide
  rw [hnone] at h
  cases h

/-- A piece of a string is passed over. -/
theorem skipString_of_isPiece {piece : List Char} (h : IsPiece piece) (rest : List Char) :
    skipString (piece ++ rest) = skipString rest := by
  cases h with
  | plain hquote hbackslash hcontrol => exact skipString_plain hquote hbackslash hcontrol rest
  | @short e c h =>
    have hescape : skipEscape (e :: rest) = .ok rest := by
      simp only [skipEscape, if_neg (ne_u_of_shortEscape h), h]
    exact skipString_of_escape hescape
  | @number a b d e n h =>
    have hescape : skipEscape ('u' :: a :: b :: d :: e :: rest) = .ok rest := by
      simp only [skipEscape, if_true, readHex4_of_value h, Except.map]
    exact skipString_of_escape hescape

/-- **A string is passed over to its closing quote.** -/
theorem skipString_of_pieces {pieces : List (List Char)} (h : ∀ piece ∈ pieces, IsPiece piece)
    (rest : List Char) : skipString (pieces.flatten ++ '"' :: rest) = .ok rest := by
  induction pieces with
  | nil =>
    rw [List.flatten_nil, List.nil_append, skipString, if_pos rfl]
  | cons piece more ih =>
    obtain ⟨hpiece, hmore⟩ := List.forall_mem_cons.mp h
    rw [List.flatten_cons, List.append_assoc, skipString_of_isPiece hpiece, ih hmore]

/-! ## 2. Numbers -/

theorem spanDigits_of_isDigits {digits rest : List Char} (h : IsDigits digits)
    (hrest : ∀ c ∈ rest.head?, c.isDigit = false) :
    (digits ++ rest).takeWhile Char.isDigit = digits ∧
      (digits ++ rest).dropWhile Char.isDigit = rest := by
  have hspan := spanDigits_append h.2 hrest
  rw [spanDigits, List.span_eq_takeWhile_dropWhile] at hspan
  exact Prod.mk.inj hspan

theorem skipExponentDigits_of_isDigits {digits rest : List Char} (h : IsDigits digits)
    (hrest : EndsNumeral rest) : skipNumber.skipExponentDigits (digits ++ rest) = .ok rest := by
  obtain ⟨htake, hdrop⟩ := spanDigits_of_isDigits h fun c hc => (hrest c hc).1
  have hne : ¬digits.isEmpty = true := mt List.isEmpty_iff.mp h.1
  rw [skipNumber.skipExponentDigits, htake, hdrop, if_neg hne]

theorem scanSign_of_sign {sign digits : List Char} (hsign : sign = [] ∨ sign = ['+'] ∨ sign = ['-'])
    (hdigits : IsDigits digits) (rest : List Char) :
    (scanSign (sign ++ (digits ++ rest))).2 = digits ++ rest := by
  rcases hsign with rfl | rfl | rfl
  · obtain ⟨c, more, rfl⟩ := List.exists_cons_of_ne_nil hdigits.1
    have hdigit := hdigits.2 c List.mem_cons_self
    rw [List.nil_append, List.cons_append, scanSign]
    · intro others heq
      obtain ⟨rfl, -⟩ := List.cons.inj heq
      exact absurd hdigit (by decide)
    · intro others heq
      obtain ⟨rfl, -⟩ := List.cons.inj heq
      exact absurd hdigit (by decide)
  · rfl
  · rfl

/-- Passes over a fraction, if one follows. -/
def skipFraction : List Char → Except Fault (List Char)
  | '.' :: rest =>
    if (rest.takeWhile Char.isDigit).isEmpty then failNext .invalidNumber rest
    else .ok (rest.dropWhile Char.isDigit)
  | rest => .ok rest

/-- Passes over an exponent, if one follows. -/
def skipExponent : List Char → Except Fault (List Char)
  | 'e' :: rest => skipNumber.skipExponentDigits (scanSign rest).2
  | 'E' :: rest => skipNumber.skipExponentDigits (scanSign rest).2
  | rest => .ok rest

theorem skipFraction_bind (s : List Char) : skipFraction s >>= skipExponent = (match s with
    | '.' :: rest =>
      if (rest.takeWhile Char.isDigit).isEmpty then failNext .invalidNumber rest >>= skipExponent
      else .ok (rest.dropWhile Char.isDigit) >>= skipExponent
    | rest => .ok rest >>= skipExponent) := by
  unfold skipFraction
  split
  · split <;> rfl
  · rfl

/-- Behind its integer part, a number is passed over part by part. -/
theorem skipNumber_of_isInteger {integer rest : List Char} (h : IsInteger integer)
    (hrest : ∀ c ∈ rest.head?, c.isDigit = false) :
    skipNumber (integer ++ rest) = skipFraction rest >>= skipExponent := by
  obtain ⟨⟨hne, hdigits⟩, hzero⟩ := h
  obtain ⟨c, more, rfl⟩ := List.exists_cons_of_ne_nil hne
  by_cases hc : c = '0'
  · obtain ⟨rfl, rfl⟩ := List.cons.inj (hzero (congrArg some hc))
    cases rest with
    | nil => rfl
    | cons d after =>
      rw [skipFraction_bind, List.singleton_append, skipNumber]
      simp only [hrest d rfl, Bool.false_eq_true, if_false]
      rfl
  · have hall : ∀ d ∈ more, d.isDigit = true := fun d hd => hdigits d (List.mem_cons_of_mem _ hd)
    have hspan := spanDigits_append hall hrest
    rw [spanDigits, List.span_eq_takeWhile_dropWhile] at hspan
    rw [skipFraction_bind, List.cons_append, skipNumber]
    · simp only [hdigits c List.mem_cons_self, if_true, (Prod.mk.inj hspan).2]
      rfl
    · exact hc

theorem skipFraction_of_isFraction {fraction rest : List Char} (h : IsFraction fraction)
    (hrest : ∀ c ∈ rest.head?, c.isDigit = false ∧ c ≠ '.') :
    skipFraction (fraction ++ rest) = .ok rest := by
  rcases h with rfl | ⟨digits, hdigits, rfl⟩
  · rw [List.nil_append]
    unfold skipFraction
    split
    · exact absurd rfl (hrest '.' rfl).2
    · rfl
  · obtain ⟨htake, hdrop⟩ := spanDigits_of_isDigits hdigits fun c hc => (hrest c hc).1
    have hne : ¬digits.isEmpty = true := mt List.isEmpty_iff.mp hdigits.1
    rw [List.cons_append, skipFraction, htake, hdrop, if_neg hne]

theorem skipExponent_of_isExponent {exponent rest : List Char} (h : IsExponent exponent)
    (hrest : EndsNumeral rest) : skipExponent (exponent ++ rest) = .ok rest := by
  rcases h with rfl | ⟨letter, sign, digits, hletter, hsign, hdigits, rfl⟩
  · rw [List.nil_append]
    unfold skipExponent
    split
    · exact absurd rfl (hrest 'e' rfl).2.2.1
    · exact absurd rfl (hrest 'E' rfl).2.2.2
    · rfl
  · have hskip := skipExponentDigits_of_isDigits hdigits hrest
    rw [← scanSign_of_sign hsign hdigits] at hskip
    rcases hletter with rfl | rfl
    · simpa only [List.cons_append, List.append_assoc, skipExponent] using hskip
    · simpa only [List.cons_append, List.append_assoc, skipExponent] using hskip

/-- What follows an integer part, or a fraction, in a number. -/
theorem head_of_exponent {exponent rest : List Char} (h : IsExponent exponent)
    (hrest : EndsNumeral rest) : ∀ c ∈ (exponent ++ rest).head?, c.isDigit = false ∧ c ≠ '.' := by
  intro c hc
  rcases h with rfl | ⟨letter, sign, digits, hletter, -, -, rfl⟩
  · exact ⟨(hrest c hc).1, (hrest c hc).2.1⟩
  · obtain rfl : letter = c := Option.some.inj hc
    rcases hletter with rfl | rfl <;> decide

theorem head_of_fraction {fraction rest : List Char} (h : IsFraction fraction)
    (hrest : ∀ c ∈ rest.head?, c.isDigit = false ∧ c ≠ '.') :
    ∀ c ∈ (fraction ++ rest).head?, c.isDigit = false := by
  intro c hc
  rcases h with rfl | ⟨digits, -, rfl⟩
  · exact (hrest c hc).1
  · obtain rfl : '.' = c := Option.some.inj hc
    rfl

/-- **A number is passed over to its end.** -/
theorem skipNumber_of_isNumeral {text rest : List Char} (h : IsNumeral text)
    (hrest : EndsNumeral rest) : skipNumber (text ++ rest) = .ok rest := by
  obtain ⟨integer, fraction, exponent, hinteger, hfraction, hexponent, rfl⟩ := h
  have hbehind := head_of_exponent hexponent hrest
  have hlead := head_of_fraction hfraction hbehind
  rw [List.append_assoc, List.append_assoc, skipNumber_of_isInteger hinteger hlead]
  simp only [bind, Except.bind, skipFraction_of_isFraction hfraction hbehind,
    skipExponent_of_isExponent hexponent hrest]

/-! ## 3. Containers -/

/-- Passes over an item of a container, and goes on. -/
def skipItem : Container → Nat → List Container → List Char → Except Fault (List Char)
  | .list => skipValueIn
  | .object => skipMember

/-- Whether an item is passed over to its end. The bound falls by no more than its length. -/
def Skips (container : Container) (item : List Char) : Prop :=
  ∃ n ≤ item.length, ∀ bound around gap rest, Blank gap → EndsNumeral rest →
    skipItem container (n + bound) around (gap ++ (item ++ rest)) = skipRest bound around rest

section Containers

variable {container : Container} {text : List Char} {items : List (List Char)}

theorem close_facts (container : Container) :
    isJsonSpace container.close = false ∧ container.close ≠ ',' ∧
      (container.close = ']' ∨ container.close = '\x7d') := by
  cases container <;> decide

theorem skipRest_close {gap : List Char} (h : Blank gap) (bound : Nat) (around : List Container)
    (rest : List Char) :
    skipRest (bound + 1) (container :: around) (gap ++ container.close :: rest) =
      skipRest bound around rest := by
  obtain ⟨hspace, hcomma, -⟩ := close_facts container
  rw [skipRest, skipSpace_mark h hspace]
  simp only [hcomma, if_false, if_true]

theorem skipRest_comma {gap : List Char} (h : Blank gap) (bound : Nat) (around : List Container)
    (rest : List Char) :
    skipRest (bound + 1) (container :: around) (gap ++ ',' :: rest) =
      skipItem container bound (container :: around) rest := by
  rw [skipRest, skipSpace_mark h (c := ',') rfl]
  cases container <;> rfl

/-- **Behind an item, a container is passed over to its end.** -/
theorem skipRest_inside (h : Inside false text items) (hitems : ∀ item ∈ items, Skips container item) :
    ∃ n ≤ text.length + 1, ∀ bound around rest,
      skipRest (n + bound) (container :: around) (text ++ container.close :: rest) =
        skipRest bound around rest := by
  induction items generalizing text with
  | nil =>
    cases h with
    | ends h =>
      refine ⟨1, Nat.le_add_left _ _, fun bound around rest => ?_⟩
      rw [Nat.add_comm]
      exact skipRest_close h bound around rest
  | cons item more ih =>
    obtain ⟨hitem, hmore⟩ := List.forall_mem_cons.mp hitems
    cases h with
    | @later before gap _ behind _ hbefore hgap hbehind =>
      obtain ⟨n, hn, hskips⟩ := hitem
      obtain ⟨m, hm, hrest⟩ := ih hbehind hmore
      have hends := hbehind.endsNumeral (close_facts container).2.2
      refine ⟨n + m + 1, ?_, fun bound around rest => ?_⟩
      · simp only [List.length_append, List.length_cons]
        omega
      · have hbound : n + m + 1 + bound = (n + (m + bound)) + 1 := by omega
        simp only [List.append_assoc, List.cons_append, hbound]
        rw [skipRest_comma hbefore, hskips _ _ _ _ hgap (hends rest), hrest]

theorem skipValueIn_gap {gap : List Char} (h : Blank gap) (bound : Nat) (around : List Container)
    (s : List Char) : skipValueIn (bound + 1) around (gap ++ s) = skipValueIn (bound + 1) around s := by
  rw [skipValueIn, skipValueIn, skipSpace_append h]

theorem skipMember_gap {gap : List Char} (h : Blank gap) (bound : Nat) (around : List Container)
    (s : List Char) : skipMember (bound + 1) around (gap ++ s) = skipMember (bound + 1) around s := by
  rw [skipMember, skipMember, skipSpace_append h]

/-- **A container is passed over from bracket to bracket.** -/
theorem skips_of_inside (container : Container) {opening : Char} (h : Inside true text items)
    (hitems : ∀ item ∈ items, Begins item ∧ item.head? ≠ some container.close ∧ Skips container item)
    (hopen : ∀ bound around s, skipValueIn (bound + 1) around (opening :: s) =
      match skipSpace s with
      | [] => failAt container.eof []
      | d :: more =>
        if d = container.close then skipRest bound around more
        else skipItem container bound (container :: around) (d :: more)) :
    Skips .list (opening :: (text ++ [container.close])) := by
  have hstart {n : Nat} (hn : ∀ bound around rest,
      (match skipSpace (text ++ container.close :: rest) with
      | [] => failAt container.eof []
      | d :: more =>
        if d = container.close then skipRest (n + bound) around more
        else skipItem container (n + bound) (container :: around) (d :: more)) =
        skipRest bound around rest) (hlength : n ≤ text.length + 1) :
      Skips .list (opening :: (text ++ [container.close])) := by
    refine ⟨n + 1, ?_, fun bound around gap rest hgap _ => ?_⟩
    · simp only [List.length_cons, List.length_append, List.length_nil]
      omega
    · have hbound : n + 1 + bound = n + bound + 1 := by omega
      rw [hbound, skipItem, skipValueIn_gap hgap, List.cons_append, hopen, List.append_assoc]
      exact hn bound around rest
  cases h with
  | ends h =>
    refine hstart (n := 0) (fun bound around rest => ?_) (Nat.zero_le _)
    rw [skipSpace_mark h (close_facts container).1]
    simp only [if_true, Nat.zero_add]
  | @first gap item behind more hgap hbehind =>
    obtain ⟨⟨hbegins, hclose, n, hn, hskips⟩, hmore⟩ := List.forall_mem_cons.mp hitems
    obtain ⟨m, hm, hrest⟩ := skipRest_inside hbehind fun item h => (hmore item h).2.2
    have hends := hbehind.endsNumeral (close_facts container).2.2
    refine hstart (n := n + m) (fun bound around rest => ?_) ?_
    · have hskip := hskips (m + bound) (container :: around) [] _ blank_nil (hends rest)
      rw [hrest, List.nil_append] at hskip
      have hsame : gap ++ (item ++ behind) ++ container.close :: rest =
          gap ++ (item ++ (behind ++ container.close :: rest)) := by
        simp only [List.append_assoc]
      rw [hsame, skipSpace_gap hgap (hbegins.append _)]
      obtain ⟨c, others, rfl, -, -⟩ := hbegins
      have hne : c ≠ container.close := fun heq => hclose (congrArg some heq)
      simp only [List.cons_append, hne, if_false, Nat.add_assoc]
      exact hskip
    · simp only [List.length_append] at hm ⊢
      omega

end Containers

/-! ## 4. Values -/

/-- A value is passed over when it is in one step, from its first character on. -/
theorem skips_of_step {text : List Char} (hlength : 0 < text.length)
    (h : ∀ bound around rest, EndsNumeral rest →
      skipValueIn (bound + 1) around (text ++ rest) = skipRest bound around rest) :
    Skips .list text := by
  refine ⟨1, hlength, fun bound around gap rest hgap hrest => ?_⟩
  rw [Nat.add_comm, skipItem, skipValueIn_gap hgap, h bound around rest hrest]

theorem skips_positive {text : List Char} (h : IsNumeral text) : Skips .list text := by
  obtain ⟨c, more, rfl, hdigit⟩ := isDigits_of_isNumeral h
  refine skips_of_step (Nat.succ_pos _) fun bound around rest hrest => ?_
  have hne : ∀ d : Char, d.isDigit = false → c ≠ d := by
    rintro d hd rfl
    simp [hdigit] at hd
  have hskip := skipNumber_of_isNumeral h hrest
  rw [List.cons_append] at hskip ⊢
  rw [skipValueIn, skipSpace_of_begins (begins_of_isDigit _ hdigit)]
  simp only [hne 'n' rfl, hne 't' rfl, hne 'f' rfl, hne '-' rfl, hdigit, hskip, if_false, if_true]
  rfl

theorem skips_negative {text : List Char} (h : IsNumeral text) : Skips .list ('-' :: text) := by
  refine skips_of_step (Nat.succ_pos _) fun bound around rest hrest => ?_
  have hskip := skipNumber_of_isNumeral h hrest
  have hspace : skipSpace ('-' :: (text ++ rest)) = '-' :: (text ++ rest) := rfl
  rw [List.cons_append, skipValueIn, hspace]
  simp only [hskip]
  rfl

theorem skips_string {text : List Char} (h : IsString text) : Skips .list text := by
  obtain ⟨pieces, hpieces, rfl⟩ := h
  refine skips_of_step (Nat.succ_pos _) fun bound around rest _ => ?_
  have hskip := skipString_of_pieces hpieces rest
  have hspace (s : List Char) : skipSpace ('"' :: s) = '"' :: s := rfl
  rw [List.cons_append, List.append_assoc, List.singleton_append, skipValueIn, hspace]
  simp only [hskip]
  rfl

/-- A member is passed over when its value is. -/
theorem skips_member {item value : List Char} (h : IsMember IsString item value)
    (hvalue : Skips .list value) : Skips .object item := by
  obtain ⟨key, behind, before, ⟨pieces, hpieces, rfl⟩, hbehind, hbefore, rfl⟩ := h
  obtain ⟨n, hn, hskips⟩ := hvalue
  refine ⟨n + 1, ?_, fun bound around gap rest hgap hrest => ?_⟩
  · simp only [List.length_append, List.length_cons, List.length_nil]
    omega
  · have hbound : n + 1 + bound = n + bound + 1 := by omega
    have hsame : '"' :: (pieces.flatten ++ ['"']) ++ (behind ++ ':' :: (before ++ value)) ++ rest =
        '"' :: (pieces.flatten ++ '"' :: (behind ++ ':' :: (before ++ (value ++ rest)))) := by
      simp only [List.append_assoc, List.cons_append, List.nil_append]
    have hspace (s : List Char) : skipSpace ('"' :: s) = '"' :: s := rfl
    rw [hbound, skipItem, skipMember_gap hgap, hsame, skipMember, hspace]
    simp only [if_true, skipString_of_pieces hpieces, readColon_gap hbehind, bind, Except.bind]
    exact hskips bound around before rest hbefore hrest

theorem exists_of_forall₂ {R : List Char → List Char → Prop} {items values : List (List Char)}
    (h : List.Forall₂ R items values) {item : List Char} (hitem : item ∈ items) :
    ∃ value ∈ values, R item value := by
  induction h with
  | nil => cases hitem
  | @cons first value others more hfirst hmore ih =>
    rcases List.mem_cons.mp hitem with rfl | hitem
    · exact ⟨value, List.mem_cons_self, hfirst⟩
    · obtain ⟨other, hother, hR⟩ := ih hitem
      exact ⟨other, List.mem_cons_of_mem _ hother, hR⟩

/-- **Every value is passed over to its end.** -/
theorem skips_of_isValue {text : List Char} (h : IsValue text) : Skips .list text := by
  induction h with
  | null => exact skips_of_step (by decide) fun bound around rest _ => rfl
  | bool b => cases b <;> exact skips_of_step (by decide) fun bound around rest _ => rfl
  | positive h => exact skips_positive h
  | negative h => exact skips_negative h
  | string h => exact skips_string h
  | list h hitems ih =>
    obtain ⟨inside, hinside, rfl⟩ := h
    refine skips_of_inside .list hinside (fun item hitem => ?_) fun _ _ _ => rfl
    have hbegins := (hitems item hitem).begins
    obtain ⟨c, more, rfl, -, hclose⟩ := id hbegins
    exact ⟨hbegins, fun heq => hclose (Option.some.inj heq), ih _ hitem⟩
  | @object text items values h hmembers hvalues ih =>
    obtain ⟨inside, hinside, rfl⟩ := h
    refine skips_of_inside .object hinside (fun item hitem => ?_) fun _ _ _ => rfl
    obtain ⟨value, hvalue, hmember⟩ := exists_of_forall₂ hmembers hitem
    have hskips := skips_member hmember (ih value hvalue)
    obtain ⟨key, behind, before, ⟨pieces, -, rfl⟩, -, -, rfl⟩ := hmember
    exact ⟨⟨'"', _, rfl, rfl, by decide⟩, by simp [Container.close], hskips⟩

/-- **A value that is skipped is passed over**, however it is written and however deep it is. -/
theorem skipValue_of_isValue {text gap rest : List Char} (h : IsValue text) (hgap : Blank gap)
    (hrest : EndsNumeral rest) : skipValue (gap ++ (text ++ rest)) = .ok rest := by
  obtain ⟨n, hn, hskips⟩ := skips_of_isValue h
  have hlength : n ≤ (gap ++ (text ++ rest)).length := by
    simp only [List.length_append]
    omega
  obtain ⟨bound, hbound⟩ : ∃ bound, 2 * (gap ++ (text ++ rest)).length + 1 = n + (bound + 1) :=
    ⟨2 * (gap ++ (text ++ rest)).length - n, by omega⟩
  have hskip := hskips (bound + 1) [] gap rest hgap hrest
  rw [skipValue, hbound]
  exact hskip

end Relay.Json
