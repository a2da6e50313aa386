import Relay.Json.Typed
import Relay.Proofs.Json.Skipping
import Relay.Proofs.Text.Utf8

/-!
# Typed readers and the ways of writing

A typed reader reads a text as a value when it answers the value whatever white space stands in front
of the text and whatever follows it (`Reads`). A list is read when its items are, a map when the
values of its members are (`reads_asList`, `reads_asMap`). A record is read when each of its members
is either a field that has not come yet or one that means nothing to it (`reads_record`).
-/

namespace Relay.Json

/-- Whether a reader reads a text as a value, up to the end of the text. -/
def Reads {α : Type} (read : List Char → Except Fault (α × List Char)) (text : List Char) (a : α) :
    Prop :=
  ∀ gap rest, Blank gap → EndsNumeral rest → read (gap ++ (text ++ rest)) = .ok (a, rest)

theorem Reads.map {α β : Type} {read : List Char → Except Fault (α × List Char)} {text : List Char}
    {a : α} (h : Reads read text a) (f : α → β) :
    Reads (fun s => (read s).map (fun r => (f r.1, r.2))) text (f a) := by
  intro gap rest hgap hrest
  simp only [h gap rest hgap hrest, Except.map]

theorem expectSome_gap {α : Type} (read : Char → List Char → Except Fault α) {gap : List Char}
    (h : Blank gap) {c : Char} (hc : isJsonSpace c = false) (s : List Char) :
    expectSome read (gap ++ c :: s) = read c s := by
  rw [expectSome, skipSpace_mark h hc]

/-! ## 1. Strings -/

/-- An escape by number stands for its character. -/
theorem readUnicode_number {a b d e c : Char} (h : hexValue4? a b d e = some c.toNat)
    (rest : List Char) : readUnicode (a :: b :: d :: e :: rest) = .ok (c, rest) := by
  have hvalid := Text.Utf8.toNat_char c
  have hlow : ¬ (0xDC00 ≤ c.toNat ∧ c.toNat ≤ 0xDFFF) := by omega
  have hplain : c.toNat < 0xD800 ∨ 0xDBFF < c.toNat := by omega
  simp only [readUnicode, readHex4_of_value h, bind, Except.bind, hlow, hplain, if_false, if_true,
    Char.ofNat_toNat]

/-- The escapes of two surrogates stand for their character. -/
theorem readUnicode_pair {a b d e f g i j c : Char} (hbeyond : 0x10000 ≤ c.toNat)
    (hhigh : hexValue4? a b d e = some (0xD800 + (c.toNat - 0x10000) / 0x400))
    (hlow : hexValue4? f g i j = some (0xDC00 + (c.toNat - 0x10000) % 0x400)) (rest : List Char) :
    readUnicode (a :: b :: d :: e :: '\\' :: 'u' :: f :: g :: i :: j :: rest) = .ok (c, rest) := by
  have hvalid := Text.Utf8.toNat_char c
  have hnotLow : ¬ (0xDC00 ≤ 0xD800 + (c.toNat - 0x10000) / 0x400 ∧
      0xD800 + (c.toNat - 0x10000) / 0x400 ≤ 0xDFFF) := by omega
  have hleads : ¬ (0xD800 + (c.toNat - 0x10000) / 0x400 < 0xD800 ∨
      0xDBFF < 0xD800 + (c.toNat - 0x10000) / 0x400) := by omega
  have htrails : 0xDC00 ≤ 0xDC00 + (c.toNat - 0x10000) % 0x400 ∧
      0xDC00 + (c.toNat - 0x10000) % 0x400 ≤ 0xDFFF := by omega
  have hvalue : (0xD800 + (c.toNat - 0x10000) / 0x400 - 0xD800) * 0x400 +
      (0xDC00 + (c.toNat - 0x10000) % 0x400 - 0xDC00) + 0x10000 = c.toNat := by omega
  simp only [readUnicode, readHex4_of_value hhigh, readHex4_of_value hlow, expectInPair, bind,
    Except.bind, hnotLow, hleads, htrails, hvalue, if_false, if_true, Char.ofNat_toNat, and_self]

/-- **Whatever spells a character is read as this character.** -/
theorem readString_of_spellsChar {piece : List Char} {c : Char} (h : SpellsChar piece c)
    (rest : List Char) :
    readString (piece ++ rest) = (readString rest).map (fun r => (c :: r.1, r.2)) := by
  cases h with
  | plain hquote hbackslash hcontrol =>
    rw [List.singleton_append, readString, if_neg hquote, if_neg hbackslash, if_neg (by omega)]
  | @short e c h =>
    have hescape : readEscape (e :: rest) = .ok (c, rest) := by
      simp only [readEscape, if_neg (ne_u_of_shortEscape h), h]
    exact readString_of_escape hescape
  | @number a b d e c h =>
    have hescape : readEscape ('u' :: a :: b :: d :: e :: rest) = .ok (c, rest) := by
      simp only [readEscape, if_true, readUnicode_number h]
    exact readString_of_escape hescape
  | @pair a b d e f g i j c hbeyond hhigh hlow =>
    have hescape : readEscape ('u' :: a :: b :: d :: e :: '\\' :: 'u' :: f :: g :: i :: j :: rest) =
        .ok (c, rest) := by
      simp only [readEscape, if_true, readUnicode_pair hbeyond hhigh hlow]
    exact readString_of_escape hescape

/-- **Whatever spells a string is read as this string.** -/
theorem readString_of_spells {inside chars : List Char} (h : SpellsChars inside chars)
    (rest : List Char) : readString (inside ++ '"' :: rest) = .ok (chars, rest) := by
  induction h with
  | nil => rw [List.nil_append, readString, if_pos rfl]
  | cons hfirst hmore ih =>
    rw [List.append_assoc, readString_of_spellsChar hfirst, ih]
    rfl

theorem reads_asString {text : List Char} {s : String} (h : SpellsString text s) :
    Reads asString text s := by
  obtain ⟨inside, hspells, rfl⟩ := h
  intro gap rest hgap _
  rw [asString, List.cons_append, List.append_assoc, List.singleton_append,
    expectSome_gap _ hgap (by decide)]
  simp only [if_true, readString_of_spells hspells, Except.map, String.ofList_toList]

/-! ## 2. Truth values and numbers -/

theorem reads_asBool (b : Bool) : Reads asBool (Value.bool b).text b := by
  intro gap rest hgap _
  cases b with
  | true =>
    have htext : (Value.bool true).text ++ rest = 't' :: ("rue".toList ++ rest) := rfl
    rw [asBool, htext, expectSome_gap _ hgap (by decide)]
    rfl
  | false =>
    have htext : (Value.bool false).text ++ rest = 'f' :: ("alse".toList ++ rest) := rfl
    rw [asBool, htext, expectSome_gap _ hgap (by decide)]
    rfl

/-- **The digits of a number that fits are read as this number.** -/
theorem reads_asNatural {n : Nat} (h : n ≤ maxSignificand) :
    Reads asNatural (Decimal.digitsOf n) n := by
  intro gap rest hgap hrest
  obtain ⟨c, more, hdigits⟩ := List.exists_cons_of_ne_nil (digitsOf_ne_nil n)
  have hdigit : c.isDigit = true := isDigit_of_mem_digitsOf (hdigits ▸ List.mem_cons_self)
  obtain ⟨_, _, heq, hspace, -⟩ := begins_of_isDigit more hdigit
  obtain ⟨rfl, -⟩ := List.cons.inj heq
  have hminus : c ≠ '-' := by
    rintro rfl
    exact absurd hdigit (by decide)
  have hread := readNumber_digitsOf false h hrest
  have hvalue : integerValue false n rest = .ok (.integer n) := rfl
  rw [hvalue, hdigits] at hread
  rw [hdigits, List.cons_append, asNatural, expectSome_gap _ hgap hspace]
  rw [List.cons_append] at hread
  simp only [hminus, if_false, hdigit, if_true, hread, bind, Except.bind, Except.map]
  rfl

/-! ## 3. Lists and maps -/

section Containers

variable {α : Type} {read : List Char → Except Fault (α × List Char)}

/-- The items of a list are read one after another. -/
theorem readItemsWith_of_inside {first : Bool} {text : List Char} {items : List (List Char)}
    {values : List α} (h : Inside first text items)
    (hitems : List.Forall₂ (fun item a => Begins item ∧ Reads read item a) items values) {bound : Nat}
    (hbound : items.length < bound) (rest : List Char) :
    readItemsWith read bound first (text ++ ']' :: rest) = .ok (values, rest) := by
  obtain ⟨bound, rfl⟩ : ∃ b, bound = b + 1 := ⟨bound - 1, by omega⟩
  induction hitems generalizing first text bound with
  | nil => simp only [readItemsWith, nextItem_ends h]
  | @cons item a items values hitem hitems ih =>
    obtain ⟨bound, rfl⟩ : ∃ b, bound = b + 1 := ⟨bound - 1, by simp only [List.length_cons] at hbound; omega⟩
    obtain ⟨hbegins, hreads⟩ := hitem
    obtain ⟨behind, hbehind, hnext⟩ := nextItem_of_inside h hbegins
    have hread := hreads [] _ blank_nil (hbehind.endsNumeral (.inl rfl) rest)
    have hmore := ih hbehind bound (by simp only [List.length_cons] at hbound; omega)
    rw [List.nil_append] at hread
    rw [readItemsWith, hnext]
    simp only [hread, hmore, bind, Except.bind]

/-- **A list is read when its items are.** -/
theorem reads_asList {text : List Char} {items : List (List Char)} {values : List α}
    (h : IsList text items)
    (hitems : List.Forall₂ (fun item a => Begins item ∧ Reads read item a) items values) :
    Reads (asList read) text values := by
  obtain ⟨inside, hinside, rfl⟩ := h
  intro gap rest hgap _
  have hbound : items.length < (inside ++ ']' :: rest).length + 1 := by
    have hlength := hinside.length_le
    simp only [List.length_append, List.length_cons]
    omega
  rw [asList, List.cons_append, List.append_assoc, List.singleton_append,
    expectSome_gap _ hgap (by decide)]
  simp only [if_true, readItemsWith_of_inside hinside hitems hbound]

/-- A member is read up to its value. -/
theorem key_of_isMember {name : String} {item value : List Char}
    (h : IsMember (SpellsString · name) item value) :
    ∃ inside, item = '"' :: inside ∧ ∀ rest, ∃ before, Blank before ∧
      ∃ s, readString (inside ++ rest) = .ok (name.toList, s) ∧
        readColon s = .ok (before ++ (value ++ rest)) := by
  obtain ⟨key, behind, before, ⟨inside, hspells, rfl⟩, hbehind, hbefore, rfl⟩ := h
  refine ⟨inside ++ '"' :: (behind ++ ':' :: (before ++ value)), by simp, fun rest => ?_⟩
  have hkey := readString_of_spells hspells (behind ++ ':' :: (before ++ (value ++ rest)))
  refine ⟨before, hbefore, _, ?_, readColon_gap hbehind _⟩
  simpa using hkey

/-- The members of a map are read one after another. -/
theorem readEntriesWith_of_inside {first : Bool} {text : List Char} {items : List (List Char)}
    {entries : List (String × α)} (h : Inside first text items)
    (hitems : List.Forall₂ (fun item entry => ∃ value,
      IsMember (SpellsString · entry.1) item value ∧ Reads read value entry.2) items entries)
    {bound : Nat} (hbound : items.length < bound) (rest : List Char) :
    readEntriesWith read bound first (text ++ '\x7d' :: rest) = .ok (entries, rest) := by
  obtain ⟨bound, rfl⟩ : ∃ b, bound = b + 1 := ⟨bound - 1, by omega⟩
  induction hitems generalizing first text bound with
  | nil => simp only [readEntriesWith, nextMember_ends h]
  | @cons item entry items entries hitem hitems ih =>
    obtain ⟨bound, rfl⟩ : ∃ b, bound = b + 1 := ⟨bound - 1, by simp only [List.length_cons] at hbound; omega⟩
    obtain ⟨value, hmember, hreads⟩ := hitem
    obtain ⟨inside, rfl, hkey⟩ := key_of_isMember hmember
    obtain ⟨behind, hbehind, hnext⟩ := nextMember_of_inside h
    obtain ⟨before, hbefore, s, hname, hcolon⟩ := hkey (behind ++ '\x7d' :: rest)
    have hread := hreads before _ hbefore (hbehind.endsNumeral (.inr rfl) rest)
    have hmore := ih hbehind bound (by simp only [List.length_cons] at hbound; omega)
    rw [readEntriesWith, hnext]
    simp only [hname, hcolon, hread, hmore, bind, Except.bind, String.ofList_toList]

/-- **A map is read when the values of its members are.** -/
theorem reads_asMap {text : List Char} {items : List (List Char)} {entries : List (String × α)}
    (h : IsObject text items)
    (hitems : List.Forall₂ (fun item entry => ∃ value,
      IsMember (SpellsString · entry.1) item value ∧ Reads read value entry.2) items entries) :
    Reads (asMap read) text entries := by
  obtain ⟨inside, hinside, rfl⟩ := h
  intro gap rest hgap _
  have hbound : items.length < (inside ++ '\x7d' :: rest).length + 1 := by
    have hlength := hinside.length_le
    simp only [List.length_append, List.length_cons]
    omega
  rw [asMap, List.cons_append, List.append_assoc, List.singleton_append,
    expectSome_gap _ hgap (by decide)]
  simp only [if_true, readEntriesWith_of_inside hinside hitems hbound]

end Containers

/-! ## 4. Records -/

/-- What a member does to what has been read of a record. -/
inductive Takes {σ : Type} (text : List Char) (state : σ) : MemberUse σ → σ → Prop
  /-- It means nothing, and its value is one. -/
  | skipped (h : IsValue text) : Takes text state .unknown state
  | read {after : σ} {read : List Char → Except Fault (σ × List Char)} (h : Reads read text after) :
      Takes text state (.known read) after

/-- **The members of a record are taken one after another.** `state` is what has been read when
members with these names have been taken. -/
theorem readRecordMembers_of_inside {σ : Type} {field : σ → String → MemberUse σ}
    (state : List String → σ) {first : Bool} {text : List Char} {items : List (List Char)}
    {members : List (String × List Char)} (h : Inside first text items)
    (hitems : List.Forall₂ (fun item member => IsMember (SpellsString · member.1) item member.2)
      items members)
    (earlier : List String)
    (htakes : ∀ done member more, members = done ++ member :: more →
      Takes member.2 (state (earlier ++ done.map Prod.fst))
        (field (state (earlier ++ done.map Prod.fst)) member.1)
        (state (earlier ++ (done ++ [member]).map Prod.fst)))
    {bound : Nat} (hbound : items.length < bound) (rest : List Char) :
    readRecordMembers field bound first (state earlier) (text ++ '\x7d' :: rest) =
      .ok (state (earlier ++ members.map Prod.fst), rest) := by
  obtain ⟨bound, rfl⟩ : ∃ b, bound = b + 1 := ⟨bound - 1, by omega⟩
  induction hitems generalizing first text bound earlier with
  | nil =>
    simp only [readRecordMembers, nextMember_ends h, List.map_nil, List.append_nil]
  | @cons item member items members hmember hitems ih =>
    obtain ⟨bound, rfl⟩ : ∃ b, bound = b + 1 := ⟨bound - 1, by simp only [List.length_cons] at hbound; omega⟩
    obtain ⟨inside, rfl, hkey⟩ := key_of_isMember hmember
    obtain ⟨behind, hbehind, hnext⟩ := nextMember_of_inside h
    obtain ⟨before, hbefore, s, hname, hcolon⟩ := hkey (behind ++ '\x7d' :: rest)
    have hends := hbehind.endsNumeral (.inr rfl) rest
    have hmore := ih hbehind (earlier ++ [member.1]) (fun done next more heq => by
      have hlater := htakes (member :: done) next more (by rw [heq]; rfl)
      simpa only [List.map_cons, List.append_assoc, List.singleton_append, List.cons_append,
        List.nil_append] using hlater) bound (by simp only [List.length_cons] at hbound; omega)
    rw [List.append_assoc] at hmore
    have hfirst := htakes [] member members rfl
    simp only [List.map_nil, List.append_nil, List.nil_append, List.map_cons] at hfirst
    rw [readRecordMembers, hnext]
    simp only [hname, bind, Except.bind, String.ofList_toList]
    cases hfield : field (state earlier) member.1 with
    | unknown =>
      rw [hfield] at hfirst
      generalize hafter : state (earlier ++ [member.1]) = after at hfirst hmore
      cases hfirst with
      | skipped hvalue =>
        simp only [hcolon, skipValue_of_isValue hvalue hbefore hends]
        exact hmore
    | repeated =>
      rw [hfield] at hfirst
      cases hfirst
    | known read =>
      rw [hfield] at hfirst
      cases hfirst with
      | read hreads =>
        simp only [hcolon, hreads before _ hbefore hends]
        exact hmore

/-- **A record is read when its members are taken**, and nothing is missing. -/
theorem reads_record {σ α : Type} {layout : Layout σ α} (state : List String → σ)
    {text : List Char} {members : List (String × List Char)} {a : α} (h : HasMembers text members)
    (hstart : state [] = layout.start)
    (htakes : ∀ done member more, members = done ++ member :: more →
      Takes member.2 (state (done.map Prod.fst)) (layout.field (state (done.map Prod.fst)) member.1)
        (state ((done ++ [member]).map Prod.fst)))
    (hfinish : layout.finish (state (members.map Prod.fst)) = .ok a) :
    Reads layout.read text a := by
  obtain ⟨items, ⟨inside, hinside, rfl⟩, hitems⟩ := h
  intro gap rest hgap _
  have hbound : items.length < (inside ++ '\x7d' :: rest).length + 1 := by
    have hlength := hinside.length_le
    simp only [List.length_append, List.length_cons]
    omega
  have hmembers := readRecordMembers_of_inside state hinside hitems [] htakes hbound rest
  rw [hstart] at hmembers
  have hbracket : '\x7b' ≠ '[' := by decide
  rw [Layout.read, List.cons_append, List.append_assoc, List.singleton_append,
    expectSome_gap _ hgap (by decide)]
  simp only [hbracket, if_false, if_true, hmembers, Layout.read.complete, bind, Except.bind,
    List.nil_append, hfinish]

/-! ## 5. What readers answer -/

/-- Whether all that a reader answers has a property. -/
def Answers {α : Type} (read : List Char → Except Fault (α × List Char)) (P : α → Prop) : Prop :=
  ∀ s a rest, read s = .ok (a, rest) → P a

theorem Answers.map {α β : Type} {read : List Char → Except Fault (α × List Char)} {P : α → Prop}
    {Q : β → Prop} {f : α → β} (h : Answers read P) (hf : ∀ a, P a → Q (f a)) :
    Answers (fun s => (read s).map (fun r => (f r.1, r.2))) Q := by
  intro s b rest hread
  obtain ⟨⟨a, after⟩, ha, heq⟩ := ok_of_map hread
  obtain rfl : f a = b := congrArg Prod.fst heq
  exact hf a (h s a after ha)

theorem ok_of_expectSome {α : Type} {read : Char → List Char → Except Fault α} {s : List Char} {a : α}
    (h : expectSome read s = .ok a) : ∃ c rest, read c rest = .ok a := by
  rw [expectSome] at h
  split at h
  · cases h
  · exact ⟨_, _, h⟩

/-- A value of another kind is never answered. -/
theorem mismatch_ne_ok {α : Type} {expected : String} {s : List Char} {a : α} :
    mismatch expected s ≠ .ok a := by
  intro h
  unfold mismatch at h
  cases s with
  | nil => cases h
  | cons c rest =>
    simp only at h
    split_ifs at h
    all_goals first
      | cases h
      | (obtain ⟨_, -, h⟩ := ok_of_bind h
         cases h)

theorem answers_asNatural : Answers asNatural (· ≤ maxSignificand) := by
  have hnatural {negative : Bool} {s rest : List Char} {n : Nat}
      (h : (readNumber negative s >>= fun r => r.1.natural r.2) = .ok (n, rest)) :
      n ≤ maxSignificand := by
    obtain ⟨⟨number, after⟩, hread, h⟩ := ok_of_bind h
    have hproper := proper_of_readNumber hread
    have hmax : maxSignificand = 2 ^ 64 - 1 := rfl
    cases number with
    | real x => cases h
    | integer k =>
      cases k with
      | negSucc k => cases h
      | ofNat k =>
        obtain ⟨rfl, -⟩ := Prod.mk.inj (Except.ok.inj h)
        simp [Value.isProper, fitsWord] at hproper
        omega
  intro s n rest h
  obtain ⟨c, more, h⟩ := ok_of_expectSome h
  split_ifs at h
  · exact hnatural h
  · exact hnatural h
  · exact absurd h mismatch_ne_ok

/-- All values of a map are answers of its reader. -/
theorem answers_asMap {α : Type} {read : List Char → Except Fault (α × List Char)} {P : α → Prop}
    (hread : Answers read P) : Answers (asMap read) fun entries => ∀ entry ∈ entries, P entry.2 := by
  have hentries (bound : Nat) (first : Bool) :
      Answers (readEntriesWith read bound first) fun entries => ∀ entry ∈ entries, P entry.2 := by
    induction bound generalizing first with
    | zero => exact fun s entries rest h => by cases h
    | succ bound ih =>
      intro s entries rest h
      rw [readEntriesWith] at h
      split at h
      · cases h
      · obtain ⟨rfl, -⟩ := Prod.mk.inj (Except.ok.inj h)
        exact nofun
      · obtain ⟨⟨key, s₁⟩, -, h⟩ := ok_of_bind h
        obtain ⟨s₂, -, h⟩ := ok_of_bind h
        obtain ⟨⟨value, s₃⟩, hvalue, h⟩ := ok_of_bind h
        obtain ⟨⟨more, s₄⟩, hmore, h⟩ := ok_of_bind h
        obtain ⟨rfl, -⟩ := Prod.mk.inj (Except.ok.inj h)
        exact List.forall_mem_cons.mpr ⟨hread _ _ _ hvalue, ih false _ _ _ hmore⟩
  intro s entries rest h
  obtain ⟨c, more, h⟩ := ok_of_expectSome h
  split_ifs at h
  · exact hentries _ _ _ _ _ h
  · exact absurd h mismatch_ne_ok

section Layouts

variable {σ α : Type} {layout : Layout σ α} {P : σ → Prop}

/-- What the members of a record keep holds when they have been read. -/
theorem answers_readRecordMembers {field : σ → String → MemberUse σ}
    (hfield : ∀ state name read, P state → field state name = .known read → Answers read P)
    (bound : Nat) (first : Bool) {state : σ} (hstate : P state) :
    Answers (readRecordMembers field bound first state) P := by
  induction bound generalizing first state with
  | zero => exact fun s final rest h => by cases h
  | succ bound ih =>
    intro s final rest h
    rw [readRecordMembers] at h
    split at h
    · cases h
    · obtain ⟨rfl, -⟩ := Prod.mk.inj (Except.ok.inj h)
      exact hstate
    · obtain ⟨⟨key, s₁⟩, -, h⟩ := ok_of_bind h
      simp only at h
      split at h
      · cases h
      · obtain ⟨s₂, -, h⟩ := ok_of_bind h
        obtain ⟨s₃, -, h⟩ := ok_of_bind h
        exact ih false hstate _ _ _ h
      · rename_i read hknown
        obtain ⟨s₂, -, h⟩ := ok_of_bind h
        obtain ⟨⟨after, s₃⟩, hread, h⟩ := ok_of_bind h
        exact ih false (hfield _ _ read hstate hknown _ _ _ hread) _ _ _ h

/-- What the fields of a record keep holds when they have been read from a list. -/
theorem answers_readFields {expected : String} {slots : List (Slot σ)} (count : Nat) {state : σ}
    (hslots : ∀ slot ∈ slots, ∀ state, P state → Answers (slot.read state) P) (hstate : P state) :
    Answers (fun s => readFields expected count state s slots) P := by
  induction slots generalizing count state with
  | nil =>
    intro s final rest h
    obtain ⟨after, -, heq⟩ := ok_of_map h
    obtain rfl : state = final := congrArg Prod.fst heq
    exact hstate
  | cons slot more ih =>
    obtain ⟨hslot, hmore⟩ := List.forall_mem_cons.mp hslots
    intro s final rest h
    simp only [readFields] at h
    split at h
    · cases h
    · split_ifs at h
      · obtain ⟨rfl, -⟩ := Prod.mk.inj (Except.ok.inj h)
        exact hstate
      · cases h
    · obtain ⟨⟨after, s₁⟩, hread, h⟩ := ok_of_bind h
      exact ih (count + 1) hmore (hslot state hstate _ _ _ hread) _ _ _ h

/-- **What is kept while a record is read, holds of the record**, from an object and from a list. -/
theorem answers_record {Q : α → Prop} (hstart : P layout.start)
    (hfield : ∀ state name read, P state → layout.field state name = .known read → Answers read P)
    (hslots : ∀ slot ∈ layout.slots, ∀ state, P state → Answers (slot.read state) P)
    (hfinish : ∀ state a, P state → layout.finish state = .ok a → Q a) : Answers layout.read Q := by
  have hcomplete {read : Except Fault (σ × List Char)} {a : α} {rest : List Char}
      (hread : ∀ final after, read = .ok (final, after) → P final)
      (h : Layout.read.complete layout read = .ok (a, rest)) : Q a := by
    obtain ⟨⟨final, after⟩, hfinal, h⟩ := ok_of_bind h
    simp only at h
    split at h
    · rename_i b hb
      obtain ⟨rfl, -⟩ := Prod.mk.inj (Except.ok.inj h)
      exact hfinish final b (hread final after hfinal) hb
    · cases h
  intro s a rest h
  obtain ⟨c, more, h⟩ := ok_of_expectSome h
  split_ifs at h
  · exact hcomplete (fun final after => answers_readFields 0 hslots hstart _ _ _) h
  · exact hcomplete (fun final after => answers_readRecordMembers hfield _ _ hstart _ _ _) h
  · exact absurd h mismatch_ne_ok

end Layouts

end Relay.Json
