import Relay.Proofs.Json.Proper
import Relay.Proofs.Json.Scalars
import Relay.Text.Space

/-!
# Values read back

The compact text of a value spells the value (`parse_text`): of every proper value that nests no
deeper than a reader allows and whose numbers are integers. The proof reads a text piece by piece as
it was written, for any text that follows, with one step for each kind of value
(`readValue_text`).
-/

namespace Relay.Json

/-! ## 1. How a text begins -/

/-- Whether a value can begin so inside a list. -/
def Begins (s : List Char) : Prop :=
  ∃ c more, s = c :: more ∧ isJsonSpace c = false ∧ c ≠ ']'

theorem Begins.append {s : List Char} (h : Begins s) (rest : List Char) : Begins (s ++ rest) := by
  obtain ⟨c, more, rfl, hspace, hclose⟩ := h
  exact ⟨c, more ++ rest, rfl, hspace, hclose⟩

theorem begins_of_isDigit {c : Char} (more : List Char) (h : c.isDigit = true) :
    Begins (c :: more) := by
  refine ⟨c, more, rfl, ?_, ?_⟩
  · refine Bool.eq_false_iff.mpr fun hspace => ?_
    simp only [isJsonSpace, Bool.or_eq_true, beq_iff_eq] at hspace
    rcases hspace with ((rfl | rfl) | rfl) | rfl <;> exact absurd h (by decide)
  · rintro rfl
    exact absurd h (by decide)

theorem digitsOf_ne_nil (n : Nat) : Decimal.digitsOf n ≠ [] :=
  Nat.toDigits_ne_nil

theorem begins_integerText (n : Int) : Begins (integerText n) := by
  unfold integerText
  split
  · exact ⟨'-', _, rfl, rfl, by decide⟩
  · obtain ⟨c, more, hdigits⟩ := List.exists_cons_of_ne_nil (digitsOf_ne_nil n.natAbs)
    rw [hdigits]
    exact begins_of_isDigit more (isDigit_of_mem_digitsOf (hdigits ▸ List.mem_cons_self))

/-- **The text of a value begins like a value.** -/
theorem begins_text {value : Value} (h : value.isIntegral = true) : Begins value.text := by
  cases value with
  | null => exact ⟨'n', _, rfl, rfl, by decide⟩
  | bool b => cases b <;> exact ⟨_, _, rfl, rfl, by decide⟩
  | number n =>
    cases n with
    | integer n => exact begins_integerText n
    | real x => simp [Value.isIntegral] at h
  | string s => exact ⟨'"', _, rfl, rfl, by decide⟩
  | array items => cases items <;> exact ⟨'[', _, rfl, rfl, by decide⟩
  | object members => cases members <;> exact ⟨'\x7b', _, rfl, rfl, by decide⟩

theorem length_pos_of_begins {s : List Char} (h : Begins s) : 0 < s.length := by
  obtain ⟨c, more, rfl, -, -⟩ := h
  exact Nat.succ_pos _

theorem skipSpace_of_begins {s : List Char} (h : Begins s) : skipSpace s = s := by
  obtain ⟨c, more, rfl, hspace, -⟩ := h
  simp [skipSpace, hspace]

/-! ## 2. Steps of a reader -/

theorem nextItem_first {s : List Char} (h : Begins s) : nextItem true s = .ok (.item s) := by
  rw [nextItem, skipSpace_of_begins h]
  obtain ⟨c, more, rfl, -, hclose⟩ := h
  simp [hclose]

theorem nextItem_later {s : List Char} (h : Begins s) :
    nextItem false (',' :: s) = .ok (.item s) := by
  have hcomma : skipSpace (',' :: s) = ',' :: s := rfl
  simp only [nextItem, hcomma, skipSpace_of_begins h]
  obtain ⟨c, more, rfl, -, hclose⟩ := h
  simp [hclose]

theorem nextMember_first (s : List Char) : nextMember true ('"' :: s) = .ok (.item s) := rfl

theorem nextMember_later (s : List Char) : nextMember false (',' :: '"' :: s) = .ok (.item s) := rfl

section Steps

variable {bound depth : Nat} {first : Bool} {s after rest : List Char}

/-- An item, and the items behind it. -/
theorem readItems_of_item {item : Value} {more : List Value}
    (hnext : nextItem first s = .ok (.item (item.text ++ after)))
    (hitem : readValue bound depth (item.text ++ after) = .ok (item, after))
    (hmore : readItems bound depth false after = .ok (more, rest)) :
    readItems (bound + 1) depth first s = .ok (item :: more, rest) := by
  simp only [readItems, hnext, hitem, hmore, bind, Except.bind]

/-- A member, and the members behind it. -/
theorem readMembers_of_member (key : String) {value : Value} {more : List (String × Value)}
    (hnext : nextMember first s =
      .ok (.item (key.toList.flatMap escapeChar ++ '"' :: ':' :: (value.text ++ after))))
    (hvalue : readValue bound depth (value.text ++ after) = .ok (value, after))
    (hmore : readMembers bound depth false after = .ok (more, rest)) :
    readMembers (bound + 1) depth first s = .ok ((key, value) :: more, rest) := by
  have hkey := readString_escaped key.toList (':' :: (value.text ++ after))
  have hcolon : readColon (':' :: (value.text ++ after)) = .ok (value.text ++ after) := rfl
  simp only [readMembers, hnext, hkey, hcolon, hvalue, hmore, bind, Except.bind,
    String.ofList_toList]

end Steps

/-! ## 3. Values -/

theorem endsNumeral_cons {c : Char} (rest : List Char) (h : c = ',' ∨ c = ']' ∨ c = '\x7d') :
    EndsNumeral (c :: rest) := by
  rintro d hd
  obtain rfl : c = d := Option.some.inj hd
  rcases h with rfl | rfl | rfl <;> decide

theorem endsNumeral_laterItems (items : List Value) (rest : List Char) :
    EndsNumeral (laterItems items ++ ']' :: rest) := by
  cases items with
  | nil => exact endsNumeral_cons _ (.inr (.inl rfl))
  | cons item more => exact endsNumeral_cons _ (.inl rfl)

theorem endsNumeral_laterMembers (members : List (String × Value)) (rest : List Char) :
    EndsNumeral (laterMembers members ++ '\x7d' :: rest) := by
  cases members with
  | nil => exact endsNumeral_cons _ (.inr (.inr rfl))
  | cons member more => exact endsNumeral_cons _ (.inl rfl)

section First

variable (bound depth : Nat) (rest : List Char)

theorem readValue_null :
    readValue (bound + 1) depth ("null".toList ++ rest) = .ok (.null, rest) := by
  simp [readValue, skipSpace, isJsonSpace, withValue, readWord, Except.map]

theorem readValue_bool (b : Bool) :
    readValue (bound + 1) depth ((Value.bool b).text ++ rest) = .ok (.bool b, rest) := by
  cases b <;> simp [Value.text, readValue, skipSpace, isJsonSpace, withValue, readWord, Except.map]

theorem readValue_minus :
    readValue (bound + 1) depth ('-' :: rest) =
      (readNumber true rest).map (fun r => (.number r.1, r.2)) := by
  simp [readValue, skipSpace, isJsonSpace]

theorem readValue_digit {c : Char} (h : c.isDigit = true) :
    readValue (bound + 1) depth (c :: rest) =
      (readNumber false (c :: rest)).map (fun r => (.number r.1, r.2)) := by
  have hne : ∀ d : Char, d.isDigit = false → c ≠ d := by
    rintro d hd rfl
    simp [h] at hd
  rw [readValue, skipSpace_of_begins (begins_of_isDigit rest h)]
  simp only [hne 'n' rfl, hne 't' rfl, hne 'f' rfl, hne '-' rfl, h, if_false, if_true]

theorem readValue_quote :
    readValue (bound + 1) depth ('"' :: rest) =
      (readString rest).map (fun r => (.string (String.ofList r.1), r.2)) := by
  simp [readValue, skipSpace, isJsonSpace]

theorem readValue_bracket :
    readValue (bound + 1) (depth + 1) ('[' :: rest) =
      (readItems bound depth true rest).map (fun r => (.array r.1, r.2)) := by
  simp [readValue, skipSpace, isJsonSpace]

theorem readValue_brace :
    readValue (bound + 1) (depth + 1) ('\x7b' :: rest) =
      (readMembers bound depth true rest).map (fun r => (.object (Object.ofList r.1), r.2)) := by
  simp [readValue, skipSpace, isJsonSpace]

end First

/-- **What is written for an integer that fits is read as this integer.** -/
theorem readValue_integerText {n : Int} {rest : List Char} (bound depth : Nat)
    (hfits : fitsWord n = true) (hrest : EndsNumeral rest) :
    readValue (bound + 1) depth (integerText n ++ rest) = .ok (.number (.integer n), rest) := by
  have hmax : maxSignificand = 2 ^ 64 - 1 := rfl
  simp only [fitsWord, Bool.and_eq_true, decide_eq_true_eq] at hfits
  obtain ⟨hlow, hhigh⟩ := hfits
  have hlow' : -(2 ^ 63) ≤ n := by simpa using hlow
  have hhigh' : n < 2 ^ 64 := by simpa using hhigh
  unfold integerText
  split
  · rename_i hnegative
    have hvalue : integerValue true n.natAbs rest = .ok (.integer n) := by
      have hword : ¬ (n.natAbs = 0 ∨ twoTo 63 < n.natAbs) := by
        simp
        omega
      simp only [integerValue, Bool.not_true, Bool.false_eq_true, if_false, hword]
      rw [show -(n.natAbs : Int) = n by omega]
    rw [List.cons_append, readValue_minus, readNumber_digitsOf true (by omega) hrest, hvalue]
    rfl
  · rename_i hpositive
    have hvalue : integerValue false n.natAbs rest = .ok (.integer n) := by
      simp only [integerValue, Bool.not_false, if_true]
      rw [show (n.natAbs : Int) = n by omega]
    obtain ⟨c, more, hdigits⟩ := List.exists_cons_of_ne_nil (digitsOf_ne_nil n.natAbs)
    have hdigit : c.isDigit = true := isDigit_of_mem_digitsOf (hdigits ▸ List.mem_cons_self)
    have hread := readNumber_digitsOf false (n := n.natAbs) (by omega) hrest
    rw [hdigits, List.cons_append] at hread
    rw [hdigits, List.cons_append, readValue_digit bound depth _ hdigit, hread, hvalue]
    rfl

theorem depth_of_array {items : List Value} {depth : Nat} (h : (Value.array items).FitsIn depth) :
    ∃ inner, depth = inner + 1 := by
  have hdepth := h.2
  simp only [Value.depth] at hdepth
  exact ⟨depth - 1, by omega⟩

theorem depth_of_object {members : List (String × Value)} {depth : Nat}
    (h : (Value.object members).FitsIn depth) : ∃ inner, depth = inner + 1 := by
  have hdepth := h.2
  simp only [Value.depth] at hdepth
  exact ⟨depth - 1, by omega⟩

section Containers

variable {bound depth : Nat} {rest : List Char} {item value : Value} {key : String}
  {items : List Value} {members : List (String × Value)}

/-- A list is read when its first item and the later ones are. -/
theorem readValue_array (hbegins : Begins item.text)
    (hitem : readValue bound depth (item.text ++ (laterItems items ++ ']' :: rest)) =
      .ok (item, laterItems items ++ ']' :: rest))
    (hitems : readItems bound depth false (laterItems items ++ ']' :: rest) = .ok (items, rest)) :
    readValue (bound + 2) (depth + 1) ((Value.array (item :: items)).text ++ rest) =
      .ok (.array (item :: items), rest) := by
  have hread := readItems_of_item (nextItem_first (hbegins.append _)) hitem hitems
  simp only [Value.text, List.cons_append, List.append_assoc, List.nil_append]
  rw [readValue_bracket, hread]
  rfl

/-- An object is read when its first member and the later ones are, and its keys increase. -/
theorem readValue_object (hincreases : Object.Increases ((key, value) :: members))
    (hvalue : readValue bound depth (value.text ++ (laterMembers members ++ '\x7d' :: rest)) =
      .ok (value, laterMembers members ++ '\x7d' :: rest))
    (hmembers : readMembers bound depth false (laterMembers members ++ '\x7d' :: rest) =
      .ok (members, rest)) :
    readValue (bound + 2) (depth + 1) ((Value.object ((key, value) :: members)).text ++ rest) =
      .ok (.object ((key, value) :: members), rest) := by
  have hread := readMembers_of_member key (nextMember_first _) hvalue hmembers
  simp only [Value.text, stringText, List.cons_append, List.append_assoc, List.nil_append]
  rw [readValue_brace, hread]
  simp only [Except.map, Object.ofList_of_increases hincreases]

theorem length_text_array (item : Value) (items : List Value) :
    (Value.array (item :: items)).text.length =
      item.text.length + (laterItems items).length + 2 := by
  simp [Value.text]
  omega

/-- Besides the value and the later members, there are two braces and a colon, and a key with its
quotes. -/
theorem length_text_object (key : String) (value : Value) (members : List (String × Value)) :
    value.text.length + (laterMembers members).length + 5 ≤
      (Value.object ((key, value) :: members)).text.length := by
  simp [Value.text, stringText]
  omega

end Containers

mutual

/-- **The text of a value is read as this value**, whatever follows that a numeral cannot go on
with. -/
theorem readValue_text (value : Value) {bound depth : Nat} {rest : List Char}
    (hfits : value.FitsIn depth) (hintegral : value.isIntegral = true)
    (hbound : value.text.length ≤ bound) (hrest : EndsNumeral rest) :
    readValue bound depth (value.text ++ rest) = .ok (value, rest) := by
  match value, bound with
  | value, 0 =>
    exact absurd hbound (Nat.not_le.mpr (length_pos_of_begins (begins_text hintegral)))
  | .null, bound + 1 => exact readValue_null bound depth rest
  | .bool b, bound + 1 => exact readValue_bool bound depth rest b
  | .number (.integer n), bound + 1 =>
    simp only [Value.text, Number.text]
    exact readValue_integerText bound depth (by simpa only [Value.isProper] using hfits.1) hrest
  | .number (.real x), bound + 1 => simp [Value.isIntegral] at hintegral
  | .string s, bound + 1 =>
    simp only [Value.text, stringText, List.cons_append, List.append_assoc, List.nil_append]
    rw [readValue_quote, readString_escaped]
    simp only [Except.map, String.ofList_toList]
  | .array [], bound + 1 =>
    obtain ⟨depth, rfl⟩ := depth_of_array hfits
    have hlength : 2 ≤ bound + 1 := by simpa [Value.text] using hbound
    obtain ⟨bound, rfl⟩ : ∃ b, bound = b + 1 := ⟨bound - 1, by omega⟩
    exact readValue_bracket (bound + 1) depth (']' :: rest)
  | .array (item :: more), bound + 1 =>
    obtain ⟨depth, rfl⟩ := depth_of_array hfits
    obtain ⟨hitemFits, hmoreFits⟩ := List.forall_mem_cons.mp (fitsIn_array_iff.mp hfits)
    simp only [Value.isIntegral, integralItems_iff] at hintegral
    obtain ⟨hitemIntegral, hmoreIntegral⟩ := List.forall_mem_cons.mp hintegral
    have hbegins := begins_text hitemIntegral
    have hlength := length_pos_of_begins hbegins
    rw [length_text_array] at hbound
    obtain ⟨bound, rfl⟩ : ∃ b, bound = b + 1 := ⟨bound - 1, by omega⟩
    refine readValue_array hbegins ?_ ?_
    · exact readValue_text item hitemFits hitemIntegral (by omega)
        (endsNumeral_laterItems more rest)
    · exact readItems_later more hmoreFits hmoreIntegral (by omega)
  | .object [], bound + 1 =>
    obtain ⟨depth, rfl⟩ := depth_of_object hfits
    have hlength : 2 ≤ bound + 1 := by simpa [Value.text] using hbound
    obtain ⟨bound, rfl⟩ : ∃ b, bound = b + 1 := ⟨bound - 1, by omega⟩
    exact readValue_brace (bound + 1) depth ('\x7d' :: rest)
  | .object ((key, value) :: more), bound + 1 =>
    obtain ⟨depth, rfl⟩ := depth_of_object hfits
    obtain ⟨hincreases, hmembers⟩ := fitsIn_object_iff.mp hfits
    obtain ⟨hvalueFits, hmoreFits⟩ := List.forall_mem_cons.mp hmembers
    simp only [Value.isIntegral, integralMembers_iff] at hintegral
    obtain ⟨hvalueIntegral, hmoreIntegral⟩ := List.forall_mem_cons.mp hintegral
    have hlength := length_text_object key value more
    obtain ⟨bound, rfl⟩ : ∃ b, bound = b + 1 := ⟨bound - 1, by omega⟩
    refine readValue_object hincreases ?_ ?_
    · exact readValue_text value hvalueFits hvalueIntegral (by omega)
        (endsNumeral_laterMembers more rest)
    · exact readMembers_later more hmoreFits hmoreIntegral (by omega)

/-- The later items of a list are read as these items. -/
theorem readItems_later (items : List Value) {bound depth : Nat} {rest : List Char}
    (hfits : ∀ item ∈ items, item.FitsIn depth) (hintegral : ∀ item ∈ items, item.isIntegral = true)
    (hbound : (laterItems items).length < bound) :
    readItems bound depth false (laterItems items ++ ']' :: rest) = .ok (items, rest) := by
  match items, bound with
  | [], bound + 1 => rfl
  | item :: more, bound + 1 =>
    obtain ⟨hitemFits, hmoreFits⟩ := List.forall_mem_cons.mp hfits
    obtain ⟨hitemIntegral, hmoreIntegral⟩ := List.forall_mem_cons.mp hintegral
    simp only [laterItems, List.cons_append, List.append_assoc, List.length_cons,
      List.length_append] at hbound ⊢
    refine readItems_of_item (nextItem_later ((begins_text hitemIntegral).append _)) ?_ ?_
    · exact readValue_text item hitemFits hitemIntegral (by omega)
        (endsNumeral_laterItems more rest)
    · exact readItems_later more hmoreFits hmoreIntegral (by omega)

/-- The later members of an object are read as these members. -/
theorem readMembers_later (members : List (String × Value)) {bound depth : Nat} {rest : List Char}
    (hfits : ∀ member ∈ members, member.2.FitsIn depth)
    (hintegral : ∀ member ∈ members, member.2.isIntegral = true)
    (hbound : (laterMembers members).length < bound) :
    readMembers bound depth false (laterMembers members ++ '\x7d' :: rest) =
      .ok (members, rest) := by
  match members, bound with
  | [], bound + 1 => rfl
  | (key, value) :: more, bound + 1 =>
    obtain ⟨hvalueFits, hmoreFits⟩ := List.forall_mem_cons.mp hfits
    obtain ⟨hvalueIntegral, hmoreIntegral⟩ := List.forall_mem_cons.mp hintegral
    simp only [laterMembers, stringText, List.cons_append, List.append_assoc, List.nil_append,
      List.length_cons, List.length_append] at hbound ⊢
    refine readMembers_of_member key (nextMember_later _) ?_ ?_
    · exact readValue_text value hvalueFits hvalueIntegral (by omega)
        (endsNumeral_laterMembers more rest)
    · exact readMembers_later more hmoreFits hmoreIntegral (by omega)

end

/-- **The compact text of a value spells the value.** -/
theorem parse_text {value : Value} (hfits : value.FitsIn maxDepth)
    (hintegral : value.isIntegral = true) : parse value.text = .ok value := by
  have hread : readValue (2 * value.text.length + 1) maxDepth (value.text ++ []) =
      .ok (value, []) :=
    readValue_text value hfits hintegral (by omega) (by simp [EndsNumeral])
  rw [List.append_nil] at hread
  simp only [parse, readAll, hread]
  rfl

/-! ## 4. A text is a line -/

theorem newline_not_mem_digitsOf (n : Nat) : '\n' ∉ Decimal.digitsOf n :=
  fun h => absurd (isDigit_of_mem_digitsOf h) (by decide)

theorem newline_not_mem_zeros (n : Nat) : '\n' ∉ Decimal.zeros n := by
  simp [Decimal.zeros]

theorem newline_not_mem_positional (d : Decimal.Scaled) : '\n' ∉ Decimal.positional d := by
  have hdigits := newline_not_mem_digitsOf d.digits
  simp only [Decimal.positional]
  split
  · simp [newline_not_mem_zeros, hdigits]
  · split
    · simp [mt List.mem_of_mem_take hdigits, mt List.mem_of_mem_drop hdigits]
    · simp [newline_not_mem_zeros, hdigits]

theorem newline_not_mem_scientific (d : Decimal.Scaled) : '\n' ∉ Decimal.scientific d := by
  have hdigits := newline_not_mem_digitsOf d.digits
  have hbehind {mantissa : List Char} (h : '\n' ∉ mantissa) (exponent : Int) : '\n' ∉ mantissa ++
      'e' :: (if exponent < 0 then '-' else '+') :: Decimal.digitsOf exponent.natAbs := by
    split <;> simp [newline_not_mem_digitsOf, h]
  simp only [Decimal.scientific]
  generalize Decimal.digitsOf d.digits = digits at hdigits ⊢
  rcases digits with _ | ⟨first, _ | ⟨second, more⟩⟩
  · exact hbehind hdigits _
  · exact hbehind hdigits _
  · have hpoint : '\n' ∉ first :: '.' :: second :: more := by simpa using hdigits
    exact hbehind hpoint _

/-- A number is written with digits, a point, a letter and signs. -/
theorem newline_not_mem_write (format : Decimal.Format) (x : Binary64) :
    '\n' ∉ format.write x := by
  simp only [Decimal.Format.write]
  split <;> split <;> simp [newline_not_mem_positional, newline_not_mem_scientific]

theorem newline_not_mem_escapeChar (c : Char) : '\n' ∉ escapeChar c := by
  have hdigit (n : Nat) : hexDigit n ≠ '\n' := by
    have hall : ∀ m < 16, Nat.digitChar m ≠ '\n' := by decide
    exact hall (n % 16) (Nat.mod_lt n (by decide))
  unfold escapeChar
  split_ifs with hquote hbackslash hcontrol <;> try decide
  · simp [Ne.symm (hdigit _)]
  · rintro h
    obtain rfl := List.mem_singleton.mp h
    exact absurd (by decide) hcontrol

theorem newline_not_mem_stringText (s : List Char) : '\n' ∉ stringText s := by
  simp [stringText, newline_not_mem_escapeChar]

mutual

/-- **The text of a value fits on a line.** -/
theorem newline_not_mem_text (value : Value) : '\n' ∉ value.text := by
  match value with
  | .null => decide
  | .bool true => simp [Value.text]
  | .bool false => simp [Value.text]
  | .number (.integer n) =>
    simp only [Value.text, Number.text, integerText]
    split <;> simp [newline_not_mem_digitsOf]
  | .number (.real x) =>
    simp only [Value.text, Number.text]
    exact newline_not_mem_write numberFormat x
  | .string s =>
    simp only [Value.text]
    exact newline_not_mem_stringText s.toList
  | .array [] => simp [Value.text]
  | .array (item :: more) =>
    simp [Value.text, newline_not_mem_text item, newline_not_mem_laterItems more]
  | .object [] => simp [Value.text]
  | .object ((key, value) :: more) =>
    simp [Value.text, newline_not_mem_stringText, newline_not_mem_text value,
      newline_not_mem_laterMembers more]

theorem newline_not_mem_laterItems (items : List Value) : '\n' ∉ laterItems items := by
  match items with
  | [] => simp [laterItems]
  | item :: more =>
    simp [laterItems, newline_not_mem_text item, newline_not_mem_laterItems more]

theorem newline_not_mem_laterMembers (members : List (String × Value)) :
    '\n' ∉ laterMembers members := by
  match members with
  | [] => simp [laterMembers]
  | (key, value) :: more =>
    simp [laterMembers, newline_not_mem_stringText, newline_not_mem_text value,
      newline_not_mem_laterMembers more]

end

theorem digitsOf_eq_concat (n : Nat) :
    ∃ front last, Decimal.digitsOf n = front ++ [last] ∧ Text.isSpace last = false := by
  have hlast : ((Decimal.digitsOf n).getLast (digitsOf_ne_nil n)).isDigit = true :=
    isDigit_of_mem_digitsOf (List.getLast_mem _)
  refine ⟨_, _, (List.dropLast_concat_getLast (digitsOf_ne_nil n)).symm, ?_⟩
  generalize (Decimal.digitsOf n).getLast (digitsOf_ne_nil n) = last at hlast
  simp only [Char.isDigit, Bool.and_eq_true, decide_eq_true_eq, UInt32.le_iff_toNat_le] at hlast
  obtain ⟨hlow, hhigh⟩ := hlast
  have hlow' : 48 ≤ last.toNat := hlow
  have hhigh' : last.toNat ≤ 57 := hhigh
  simp only [Text.isSpace, Bool.or_eq_false_iff, Bool.and_eq_false_iff, beq_eq_false_iff_ne,
    decide_eq_false_iff_not]
  omega

/-- The text of a value does not end with white space. -/
theorem text_eq_concat {value : Value} (h : value.isIntegral = true) :
    ∃ front last, value.text = front ++ [last] ∧ Text.isSpace last = false := by
  cases value with
  | null => exact ⟨"nul".toList, 'l', by simp [Value.text], by decide⟩
  | bool b =>
    cases b
    · exact ⟨"fals".toList, 'e', by simp [Value.text], by decide⟩
    · exact ⟨"tru".toList, 'e', by simp [Value.text], by decide⟩
  | number n =>
    cases n with
    | integer n =>
      obtain ⟨front, last, hdigits, hlast⟩ := digitsOf_eq_concat n.natAbs
      simp only [Value.text, Number.text, integerText]
      split
      · exact ⟨'-' :: front, last, by rw [hdigits]; rfl, hlast⟩
      · exact ⟨front, last, hdigits, hlast⟩
    | real x => simp [Value.isIntegral] at h
  | string s =>
    exact ⟨'"' :: s.toList.flatMap escapeChar, '"', by simp [Value.text, stringText], by decide⟩
  | array items =>
    cases items with
    | nil => exact ⟨['['], ']', by simp [Value.text], by decide⟩
    | cons item more =>
      exact ⟨'[' :: item.text ++ laterItems more, ']', by simp [Value.text], by decide⟩
  | object members =>
    cases members with
    | nil => exact ⟨['\x7b'], '\x7d', by simp [Value.text], by decide⟩
    | cons member more =>
      obtain ⟨key, value⟩ := member
      exact ⟨'\x7b' :: stringText key.toList ++ ':' :: value.text ++ laterMembers more, '\x7d',
        by simp [Value.text], by decide⟩

end Relay.Json
