import Mathlib.Data.List.Forall2
import Relay.Proofs.Json.RoundTrip

/-!
# JSON text as it may be written

The same value can be written in many ways: with white space between its parts, with escapes in
place of characters, with the members of an object in any order. This file says what a text may look
like, apart from any reader.

* `SpellsString` ties a text to the string that it spells; `IsString` asks only that it is one.
* `Inside` ties what stands between two brackets to the items that are divided by commas there.
* `IsValue` holds of the texts of all values, as deep as they may be.
-/

namespace Relay.Json

/-! ## 1. White space -/

/-- Whether a text is white space. It may be empty. -/
def Blank (gap : List Char) : Prop :=
  ∀ c ∈ gap, isJsonSpace c = true

instance (gap : List Char) : Decidable (Blank gap) :=
  decidable_of_iff (gap.all isJsonSpace = true) List.all_eq_true

theorem blank_nil : Blank [] := nofun

theorem skipSpace_append {gap : List Char} (h : Blank gap) (s : List Char) :
    skipSpace (gap ++ s) = skipSpace s :=
  List.dropWhile_append_of_pos h

theorem skipSpace_gap {gap s : List Char} (h : Blank gap) (hs : Begins s) : skipSpace (gap ++ s) = s := by
  rw [skipSpace_append h, skipSpace_of_begins hs]

theorem skipSpace_mark {gap : List Char} (h : Blank gap) {c : Char} (hc : isJsonSpace c = false)
    (s : List Char) : skipSpace (gap ++ c :: s) = c :: s := by
  rw [skipSpace_append h]
  exact List.dropWhile_cons_of_neg (by rw [hc]; exact Bool.false_ne_true)

/-- White space ends a numeral. -/
theorem Blank.endsNumeral {gap : List Char} (h : Blank gap) : EndsNumeral gap := by
  intro c hc
  have hspace := h c (List.mem_of_mem_head? hc)
  simp only [isJsonSpace, Bool.or_eq_true, beq_iff_eq] at hspace
  rcases hspace with ((rfl | rfl) | rfl) | rfl <;> decide

/-- White space in front of a mark ends a numeral. -/
theorem endsNumeral_gap {gap : List Char} (h : Blank gap) {c : Char} (s : List Char)
    (hc : c = ',' ∨ c = ']' ∨ c = '\x7d') : EndsNumeral (gap ++ c :: s) := by
  cases gap with
  | nil => exact endsNumeral_cons s hc
  | cons first more => exact h.endsNumeral

/-! ## 2. Strings -/

/-- What spells a character inside a string: the character itself, a short escape, its number, or
the numbers of two surrogates. -/
inductive SpellsChar : List Char → Char → Prop
  | plain {c : Char} (hquote : c ≠ '"') (hbackslash : c ≠ '\\') (hcontrol : 0x20 ≤ c.toNat) :
      SpellsChar [c] c
  | short {e c : Char} (h : shortEscape? e = some c) : SpellsChar ['\\', e] c
  | number {a b d e c : Char} (h : hexValue4? a b d e = some c.toNat) :
      SpellsChar ['\\', 'u', a, b, d, e] c
  | pair {a b d e f g i j c : Char} (hbeyond : 0x10000 ≤ c.toNat)
      (hhigh : hexValue4? a b d e = some (0xD800 + (c.toNat - 0x10000) / 0x400))
      (hlow : hexValue4? f g i j = some (0xDC00 + (c.toNat - 0x10000) % 0x400)) :
      SpellsChar ['\\', 'u', a, b, d, e, '\\', 'u', f, g, i, j] c

/-- What spells characters inside a string. -/
inductive SpellsChars : List Char → List Char → Prop
  | nil : SpellsChars [] []
  | cons {piece text chars : List Char} {c : Char} (hfirst : SpellsChar piece c)
      (hmore : SpellsChars text chars) : SpellsChars (piece ++ text) (c :: chars)

/-- Whether a text spells a string. -/
def SpellsString (text : List Char) (s : String) : Prop :=
  ∃ inside, SpellsChars inside s.toList ∧ text = '"' :: (inside ++ ['"'])

/-- What may stand for a character inside a string, even when it is half of a character. -/
inductive IsPiece : List Char → Prop
  | plain {c : Char} (hquote : c ≠ '"') (hbackslash : c ≠ '\\') (hcontrol : 0x20 ≤ c.toNat) :
      IsPiece [c]
  | short {e c : Char} (h : shortEscape? e = some c) : IsPiece ['\\', e]
  | number {a b d e : Char} {n : Nat} (h : hexValue4? a b d e = some n) :
      IsPiece ['\\', 'u', a, b, d, e]

/-- Whether a text is a string, in its quotes. -/
def IsString (text : List Char) : Prop :=
  ∃ pieces : List (List Char), (∀ piece ∈ pieces, IsPiece piece) ∧
    text = '"' :: (pieces.flatten ++ ['"'])

/-! ## 3. Numbers -/

/-- Digits, at least one of them. -/
def IsDigits (text : List Char) : Prop :=
  text ≠ [] ∧ ∀ c ∈ text, c.isDigit = true

instance (text : List Char) : Decidable (IsDigits text) :=
  decidable_of_iff (text ≠ [] ∧ text.all Char.isDigit = true)
    (and_congr_right fun _ => List.all_eq_true)

/-- The integer part of a number: a zero alone, or digits that begin with another one. -/
def IsInteger (text : List Char) : Prop :=
  IsDigits text ∧ (text.head? = some '0' → text = ['0'])

/-- The fraction of a number, if any. -/
def IsFraction (text : List Char) : Prop :=
  text = [] ∨ ∃ digits, IsDigits digits ∧ text = '.' :: digits

/-- The exponent of a number, if any. -/
def IsExponent (text : List Char) : Prop :=
  text = [] ∨ ∃ letter sign digits, (letter = 'e' ∨ letter = 'E') ∧
    (sign = [] ∨ sign = ['+'] ∨ sign = ['-']) ∧ IsDigits digits ∧ text = letter :: (sign ++ digits)

/-- A number without its sign. -/
def IsNumeral (text : List Char) : Prop :=
  ∃ integer fraction exponent, IsInteger integer ∧ IsFraction fraction ∧ IsExponent exponent ∧
    text = integer ++ (fraction ++ exponent)

/-! ## 4. Brackets -/

/-- What stands inside of brackets, up to the closing one: the items, divided by commas, and white
space around them. `first` tells whether no item has come yet. -/
inductive Inside : (first : Bool) → List Char → List (List Char) → Prop
  | ends {first : Bool} {gap : List Char} (h : Blank gap) : Inside first gap []
  | first {gap item text : List Char} {more : List (List Char)} (h : Blank gap)
      (hmore : Inside false text more) : Inside true (gap ++ (item ++ text)) (item :: more)
  | later {before behind item text : List Char} {more : List (List Char)} (hbefore : Blank before)
      (hbehind : Blank behind) (hmore : Inside false text more) :
      Inside false (before ++ ',' :: (behind ++ (item ++ text))) (item :: more)

/-- Whether a text is a list of items. -/
def IsList (text : List Char) (items : List (List Char)) : Prop :=
  ∃ inside, Inside true inside items ∧ text = '[' :: (inside ++ [']'])

/-- Whether an item is a member with this value, and with a key of a kind. -/
def IsMember (Key : List Char → Prop) (item value : List Char) : Prop :=
  ∃ key behind before, Key key ∧ Blank behind ∧ Blank before ∧
    item = key ++ (behind ++ ':' :: (before ++ value))

/-- Whether a text is an object with these items. -/
def IsObject (text : List Char) (items : List (List Char)) : Prop :=
  ∃ inside, Inside true inside items ∧ text = '\x7b' :: (inside ++ ['\x7d'])

/-- Whether a text is an object with these members, each the name that is spelled and the text of
the value. -/
def HasMembers (text : List Char) (members : List (String × List Char)) : Prop :=
  ∃ items, IsObject text items ∧
    List.Forall₂ (fun item member => IsMember (SpellsString · member.1) item member.2) items members

/-! ## 5. Values -/

/-- The texts of all values. -/
inductive IsValue : List Char → Prop
  | null : IsValue "null".toList
  | bool (b : Bool) : IsValue (Value.bool b).text
  | positive {text : List Char} (h : IsNumeral text) : IsValue text
  | negative {text : List Char} (h : IsNumeral text) : IsValue ('-' :: text)
  | string {text : List Char} (h : IsString text) : IsValue text
  | list {text : List Char} {items : List (List Char)} (h : IsList text items)
      (hitems : ∀ item ∈ items, IsValue item) : IsValue text
  | object {text : List Char} {items values : List (List Char)} (h : IsObject text items)
      (hmembers : List.Forall₂ (IsMember IsString) items values)
      (hvalues : ∀ value ∈ values, IsValue value) : IsValue text

theorem isDigits_of_isNumeral {text : List Char} (h : IsNumeral text) :
    ∃ c more, text = c :: more ∧ c.isDigit = true := by
  obtain ⟨integer, fraction, exponent, ⟨⟨hne, hdigits⟩, -⟩, -, -, rfl⟩ := h
  obtain ⟨c, more, rfl⟩ := List.exists_cons_of_ne_nil hne
  exact ⟨c, _, rfl, hdigits c List.mem_cons_self⟩

theorem SpellsString.begins {text : List Char} {s : String} (h : SpellsString text s) :
    Begins text := by
  obtain ⟨inside, -, rfl⟩ := h
  exact ⟨'"', _, rfl, rfl, by decide⟩

/-- **The text of a value begins with no white space, and with no closing bracket.** -/
theorem IsValue.begins {text : List Char} (h : IsValue text) : Begins text := by
  cases h with
  | null => exact ⟨'n', _, rfl, rfl, by decide⟩
  | bool b =>
    have hintegral : (Value.bool b).isIntegral = true := rfl
    exact begins_text hintegral
  | positive h =>
    obtain ⟨c, more, rfl, hdigit⟩ := isDigits_of_isNumeral h
    exact begins_of_isDigit more hdigit
  | negative h => exact ⟨'-', _, rfl, rfl, by decide⟩
  | string h =>
    obtain ⟨pieces, -, rfl⟩ := h
    exact ⟨'"', _, rfl, rfl, by decide⟩
  | list h hitems =>
    obtain ⟨inside, -, rfl⟩ := h
    exact ⟨'[', _, rfl, rfl, by decide⟩
  | object h hmembers hvalues =>
    obtain ⟨inside, -, rfl⟩ := h
    exact ⟨'\x7b', _, rfl, rfl, by decide⟩

/-! ## 6. How brackets go on -/

section Inside

variable {first : Bool} {text item : List Char} {more items : List (List Char)}

/-- Behind an item, no numeral goes on. -/
theorem Inside.endsNumeral (h : Inside false text items) {close : Char}
    (hclose : close = ']' ∨ close = '\x7d') (rest : List Char) :
    EndsNumeral (text ++ close :: rest) := by
  cases h with
  | ends h => exact endsNumeral_gap h rest (.inr hclose)
  | later hbefore hbehind hmore =>
    rw [List.append_assoc]
    exact endsNumeral_gap hbefore _ (.inl rfl)

/-- Every item but the first one has its comma. -/
theorem Inside.length_le (h : Inside first text items) : items.length ≤ text.length + 1 := by
  have hlater {text : List Char} {items : List (List Char)} (h : Inside false text items) :
      items.length ≤ text.length := by
    induction items generalizing text with
    | nil => exact Nat.zero_le _
    | cons item more ih =>
      cases h with
      | later hbefore hbehind hmore =>
        have hlength := ih hmore
        simp only [List.length_cons, List.length_append]
        omega
  cases h with
  | ends h => exact Nat.zero_le _
  | first h hmore =>
    have hlength := hlater hmore
    simp only [List.length_cons, List.length_append]
    omega
  | later hbefore hbehind hmore =>
    have hlength := hlater hmore
    simp only [List.length_cons, List.length_append]
    omega

theorem nextItem_ends (h : Inside first text []) (rest : List Char) :
    nextItem first (text ++ ']' :: rest) = .ok (.done rest) := by
  cases h with
  | ends h => simp [nextItem, skipSpace_mark h (c := ']') rfl]

/-- **How a list goes on is how it is written.** -/
theorem nextItem_of_inside (h : Inside first text (item :: more)) (hbegins : Begins item) :
    ∃ behind, Inside false behind more ∧ ∀ rest,
      nextItem first (text ++ ']' :: rest) = .ok (.item (item ++ (behind ++ ']' :: rest))) := by
  cases h with
  | @first gap _ behind _ hgap hmore =>
    refine ⟨behind, hmore, fun rest => ?_⟩
    have hstart := hbegins.append (behind ++ ']' :: rest)
    have hsame : gap ++ (item ++ behind) ++ ']' :: rest = gap ++ (item ++ (behind ++ ']' :: rest)) := by
      simp only [List.append_assoc]
    have hnext := nextItem_first hstart
    rw [nextItem, skipSpace_of_begins hstart] at hnext
    rwa [hsame, nextItem, skipSpace_gap hgap hstart]
  | @later before gap _ behind _ hbefore hgap hmore =>
    refine ⟨behind, hmore, fun rest => ?_⟩
    have hstart := hbegins.append (behind ++ ']' :: rest)
    have hsame : before ++ ',' :: (gap ++ (item ++ behind)) ++ ']' :: rest =
        before ++ ',' :: (gap ++ (item ++ (behind ++ ']' :: rest))) := by
      simp only [List.append_assoc, List.cons_append]
    rw [hsame]
    simp only [nextItem, skipSpace_mark hbefore (c := ',') rfl, skipSpace_gap hgap hstart]
    obtain ⟨c, others, heq, -, hclose⟩ := hstart
    simp [heq, hclose]

theorem nextMember_ends (h : Inside first text []) (rest : List Char) :
    nextMember first (text ++ '\x7d' :: rest) = .ok (.done rest) := by
  cases h with
  | ends h => simp [nextMember, skipSpace_mark h (c := '\x7d') rfl]

/-- **How an object goes on is how it is written**: behind the quote of the next key. -/
theorem nextMember_of_inside (h : Inside first text (('"' :: item) :: more)) :
    ∃ behind, Inside false behind more ∧ ∀ rest,
      nextMember first (text ++ '\x7d' :: rest) =
        .ok (.item (item ++ (behind ++ '\x7d' :: rest))) := by
  cases h with
  | @first gap _ behind _ hgap hmore =>
    exact ⟨behind, hmore, fun rest => by simp [nextMember, skipSpace_mark hgap (c := '"') rfl]⟩
  | @later before gap _ behind _ hbefore hgap hmore =>
    refine ⟨behind, hmore, fun rest => ?_⟩
    simp [nextMember, skipSpace_mark hbefore (c := ',') rfl, skipSpace_mark hgap (c := '"') rfl]

theorem readColon_gap {gap : List Char} (h : Blank gap) (rest : List Char) :
    readColon (gap ++ ':' :: rest) = .ok rest := by
  simp [readColon, skipSpace_mark h (c := ':') rfl]

end Inside

/-! ## 7. Records -/

/-- A field of a record, as it may be written. -/
structure Field where
  name : String
  /-- The texts of its value. -/
  Spells : List Char → Prop
  /-- Whether it may be left out. -/
  Lacks : Prop

/-- **Whether members are those of a record**: each of the fields once, in any order, unless it may be
left out, and besides any others. -/
structure Lists (fields : List Field) (members : List (String × List Char)) : Prop where
  field : ∀ field ∈ fields,
    (∃ text, field.Spells text ∧
      members.filter (fun member => member.1 = field.name) = [(field.name, text)]) ∨
    field.Lacks ∧ field.name ∉ members.map Prod.fst
  other : ∀ member ∈ members, member.1 ∉ fields.map Field.name → IsValue member.2

section Records

variable {fields : List Field} {members done more : List (String × List Char)}
  {member : String × List Char}

/-- A member with the name of a field spells its value, and comes for the first time. -/
theorem Lists.spells (h : Lists fields members) (field : Field) (hfield : field ∈ fields)
    (hmembers : members = done ++ member :: more) (hname : member.1 = field.name) :
    field.Spells member.2 ∧ field.name ∉ done.map Prod.fst := by
  rcases h.field field hfield with ⟨text, hspells, honce⟩ | ⟨-, hlacks⟩
  · rw [hmembers, List.filter_append, List.filter_cons_of_pos (by simpa using hname)] at honce
    -- one member has the name, so it is this one
    have hearlier : done.filter (fun member => member.1 = field.name) = [] := by
      have hlength := congrArg List.length honce
      simp only [List.length_append, List.length_cons, List.length_nil] at hlength
      exact List.eq_nil_of_length_eq_zero (by omega)
    rw [hearlier, List.nil_append] at honce
    obtain ⟨rfl, -⟩ := List.cons.inj honce
    refine ⟨hspells, fun hmem => ?_⟩
    obtain ⟨other, hother, heq⟩ := List.mem_map.mp hmem
    exact absurd heq (by simpa using List.filter_eq_nil_iff.mp hearlier other hother)
  · refine absurd ?_ hlacks
    rw [hmembers, ← hname]
    simp

/-- A field that may not be left out has its member. -/
theorem Lists.mem (h : Lists fields members) (field : Field) (hfield : field ∈ fields) (hneeded : ¬field.Lacks) :
    field.name ∈ members.map Prod.fst := by
  rcases h.field field hfield with ⟨text, -, honce⟩ | ⟨hlacks, -⟩
  · have hmem : (field.name, text) ∈ members.filter (fun member => member.1 = field.name) := by
      rw [honce]
      exact List.mem_singleton_self _
    exact List.mem_map_of_mem (List.mem_filter.mp hmem).1
  · exact absurd hlacks hneeded

/-- A field without a member is one that may be left out. -/
theorem Lists.lacks (h : Lists fields members) (field : Field) (hfield : field ∈ fields)
    (hnone : field.name ∉ members.map Prod.fst) : field.Lacks :=
  by_contra fun hneeded => hnone (h.mem field hfield hneeded)

/-- The order in which fields are given does not matter. -/
theorem Lists.of_perm {others : List Field} (h : Lists others members) (hperm : others.Perm fields) :
    Lists fields members :=
  ⟨fun field hfield => h.field field (hperm.symm.subset hfield), fun member hmember hother =>
    h.other member hmember fun hmem => hother ((hperm.map Field.name).subset hmem)⟩

/-- Members that are the fields of a record in their order. -/
theorem lists_of_fields (fields : List Field) {texts : List (String × List Char)}
    (h : List.Forall₂ (fun field member => field.name = member.1 ∧ field.Spells member.2) fields texts)
    (hdistinct : (fields.map Field.name).Nodup) : Lists fields texts := by
  have hnames : fields.map Field.name = texts.map Prod.fst := by
    induction h with
    | nil => rfl
    | cons hfirst hmore ih =>
      rw [List.map_cons, List.map_cons, hfirst.1, ih (List.nodup_cons.mp hdistinct).2]
  refine ⟨fun field hfield => .inl ?_, fun member hmember hother => ?_⟩
  · induction h with
    | nil => cases hfield
    | @cons first member fields texts hfirst hmore ih =>
      obtain ⟨hnew, hdistinct⟩ := List.nodup_cons.mp hdistinct
      obtain ⟨hsame, hrest⟩ := List.cons.inj hnames
      rcases List.mem_cons.mp hfield with rfl | hfield
      · have hnone : texts.filter (fun member => member.1 = field.name) = [] := by
          refine List.filter_eq_nil_iff.mpr fun other hother heq => hnew ?_
          rw [hrest, ← of_decide_eq_true heq]
          exact List.mem_map_of_mem hother
        refine ⟨member.2, hfirst.2, ?_⟩
        rw [List.filter_cons_of_pos (by simpa using hfirst.1.symm), hnone, hfirst.1]
      · obtain ⟨text, hspells, honce⟩ := ih hdistinct hrest hfield
        refine ⟨text, hspells, ?_⟩
        rw [List.filter_cons_of_neg, honce]
        rw [decide_eq_true_eq, ← hfirst.1]
        intro heq
        exact hnew (heq ▸ List.mem_map_of_mem hfield)
  · rw [hnames] at hother
    exact absurd (List.mem_map_of_mem hmember) hother

end Records

/-! ## 8. Compact texts -/

theorem spellsChar_escapeChar (c : Char) : SpellsChar (escapeChar c) c := by
  have heq {n : Nat} (hn : c.toNat = n) : c = Char.ofNat n := by rw [← hn, Char.ofNat_toNat]
  unfold escapeChar
  split_ifs with hquote hbackslash hcontrol hb hf hn hr ht
  · exact .short (by rw [hquote]; decide)
  · exact .short (by rw [hbackslash]; decide)
  · exact .short (by rw [heq hb]; decide)
  · exact .short (by rw [heq hf]; decide)
  · exact .short (by rw [hn]; decide)
  · exact .short (by rw [hr]; decide)
  · exact .short (by rw [ht]; decide)
  · have hzero : Text.hexValue? '0' = some 0 := by decide
    have hvalue : c.toNat / 16 % 16 * 16 + c.toNat % 16 = c.toNat := by omega
    exact .number (by simp [hexValue4?, hexValue?_hexDigit, hzero, hvalue])
  · exact .plain hquote hbackslash (by omega)

/-- **The compact text of a string spells it.** -/
theorem spellsString_stringText (s : String) : SpellsString (stringText s.toList) s := by
  have hspells (chars : List Char) : SpellsChars (chars.flatMap escapeChar) chars := by
    induction chars with
    | nil => exact .nil
    | cons c more ih => exact .cons (spellsChar_escapeChar c) ih
  exact ⟨_, hspells s.toList, rfl⟩

/-- **The compact text of a list is one of the compact texts of its items.** -/
theorem isList_text (items : List Value) :
    IsList (Value.array items).text (items.map Value.text) := by
  have hlater (items : List Value) : Inside false (laterItems items) (items.map Value.text) := by
    induction items with
    | nil => exact .ends blank_nil
    | cons item more ih => exact .later blank_nil blank_nil ih
  cases items with
  | nil => exact ⟨[], .ends blank_nil, rfl⟩
  | cons item more =>
    exact ⟨_, .first blank_nil (hlater more), by simp [Value.text]⟩

/-- **The compact text of an object has its members in their order.** -/
theorem hasMembers_text (members : List (String × Value)) :
    HasMembers (Value.object members).text (members.map fun member => (member.1, member.2.text)) := by
  let item (member : String × Value) : List Char :=
    stringText member.1.toList ++ ':' :: member.2.text
  have hlater (members : List (String × Value)) :
      Inside false (laterMembers members) (members.map item) := by
    induction members with
    | nil => exact .ends blank_nil
    | cons member more ih =>
      have hinside : Inside false ([] ++ ',' :: ([] ++ (item member ++ laterMembers more)))
          (item member :: more.map item) := .later blank_nil blank_nil ih
      simpa [laterMembers, item] using hinside
  refine ⟨members.map item, ?_, ?_⟩
  · cases members with
    | nil => exact ⟨[], .ends blank_nil, rfl⟩
    | cons member more =>
      refine ⟨_, .first blank_nil (hlater more), ?_⟩
      simp [Value.text, item]
  · rw [List.forall₂_map_left_iff, List.forall₂_map_right_iff, List.forall₂_same]
    exact fun member _ =>
      ⟨_, [], [], spellsString_stringText member.1, blank_nil, blank_nil, rfl⟩

end Relay.Json
