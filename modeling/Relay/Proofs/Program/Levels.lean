import Mathlib.Data.List.Induction
import Mathlib.Tactic.ByContra
import Relay.Log

/-!
# How thresholds are spelled

A setting spells a threshold (`Threshold.Spells`) as a rank in digits, which may have zeros and one
plus sign in front, or as a name in any case; the empty text shows errors only.
`Threshold.parse?` reads these spellings and no others (`parse?_eq_some_iff`).

The same text is then used as a list of filter directives. What is known of such a list
(`Directives`) is enough to say how every spelling is used: the ones with a plus sign are refused,
and all others stand for the threshold that they spell (`Directives.read_of_parse?`).
-/

namespace Relay.Threshold

/-! ## 1. Spellings -/

/-- The names of thresholds, with their ranks. -/
def names : List (String × Nat) :=
  [("off", 0), ("error", 1), ("warn", 2), ("info", 3), ("debug", 4), ("trace", 5)]

/-- A rank in digits, behind zeros. -/
def padded (zeros rank : Nat) : List Char :=
  List.replicate zeros '0' ++ [rank.digitChar]

/-- Whether a text spells a threshold. -/
inductive Spells : List Char → Threshold → Prop
  | nothing : Spells [] ⟨1⟩
  | name {text : List Char} {name : String} {rank : Nat} (hname : (name, rank) ∈ names)
      (htext : text.map Char.toLower = name.toList) : Spells text ⟨rank⟩
  | rank {rank : Nat} (zeros : Nat) (hrank : rank ≤ 5) : Spells (padded zeros rank) ⟨rank⟩
  | signed {rank : Nat} (zeros : Nat) (hrank : rank ≤ 5) :
      Spells ('+' :: padded zeros rank) ⟨rank⟩

/-! ## 2. Numbers -/

/-- The number that digits stand for. -/
def value (digits : List Char) : Nat :=
  digits.foldl (fun n c => 10 * n + (c.toNat - '0'.toNat)) 0

/-- A text without a plus sign in front. -/
def unsigned : List Char → List Char
  | '+' :: digits => digits
  | digits => digits

section Numbers

variable {text digits : List Char} {n rank : Nat} {c : Char}

theorem unsigned_cases (text : List Char) : text = unsigned text ∨ text = '+' :: unsigned text := by
  unfold unsigned
  split
  · exact .inr rfl
  · exact .inl rfl

theorem readNumber?_eq_some_iff :
    readNumber? text = some n ↔
      unsigned text ≠ [] ∧ (∀ c ∈ unsigned text, c.isDigit = true) ∧ value (unsigned text) = n ∧
        n < twoTo 64 := by
  have hread : readNumber? text =
      if (unsigned text).isEmpty || !(unsigned text).all Char.isDigit then none
      else if value (unsigned text) < twoTo 64 then some (value (unsigned text)) else none := rfl
  rw [hread, ← List.all_eq_true, Ne, ← List.isEmpty_iff]
  cases (unsigned text).isEmpty with
  | true => simp
  | false =>
    cases (unsigned text).all Char.isDigit with
    | false => simp
    | true =>
      simp only [Bool.not_true, Bool.or_false, Bool.false_eq_true, if_false, not_false_eq_true,
        true_and, Option.ite_none_right_eq_some, Option.some.injEq]
      constructor
      · rintro ⟨hlt, rfl⟩
        exact ⟨rfl, hlt⟩
      · rintro ⟨rfl, hlt⟩
        exact ⟨hlt, rfl⟩

theorem value_append (digits : List Char) (c : Char) :
    value (digits ++ [c]) = 10 * value digits + (c.toNat - '0'.toNat) := by
  simp only [value, List.foldl_append, List.foldl_cons, List.foldl_nil]

theorem digitChar_of_isDigit (h : c.isDigit = true) : (c.toNat - '0'.toNat).digitChar = c := by
  obtain ⟨hlow, hhigh⟩ := Char.isDigit_iff_toNat.mp h
  have hten : c.toNat - '0'.toNat < 10 := Nat.sub_lt_left_of_lt_add hlow (Nat.lt_succ_of_le hhigh)
  apply Char.toNat_inj.mp
  rw [Nat.toNat_digitChar_of_lt_ten hten]
  exact Nat.add_sub_of_le hlow

/-- Digits that stand for zero are zeros. -/
theorem eq_replicate_of_value (hdigits : ∀ c ∈ digits, c.isDigit = true) (h : value digits = 0) :
    digits = List.replicate digits.length '0' := by
  induction digits using List.reverseRecOn with
  | nil => rfl
  | append_singleton front c ih =>
    rw [value_append] at h
    obtain ⟨hfront, hc⟩ := Nat.add_eq_zero_iff.mp h
    have hzeros := ih (fun d hd => hdigits d (List.mem_append_left _ hd))
      ((Nat.mul_eq_zero.mp hfront).resolve_left (by decide))
    have hlast : c = '0' := by
      rw [← digitChar_of_isDigit (hdigits c (List.mem_append_right _ List.mem_cons_self)), hc]
      rfl
    rw [List.length_append, List.length_singleton, List.replicate_succ', ← hzeros, hlast]

/-- **Digits that stand for a small number are that digit behind zeros.** -/
theorem exists_padded (hne : digits ≠ []) (hdigits : ∀ c ∈ digits, c.isDigit = true)
    (h : value digits < 10) : ∃ zeros, digits = padded zeros (value digits) := by
  cases digits using List.reverseRecOn with
  | nil => exact absurd rfl hne
  | append_singleton front c =>
    rw [value_append] at h ⊢
    have hfront : value front = 0 := by omega
    have hzeros := eq_replicate_of_value (fun d hd => hdigits d (List.mem_append_left _ hd)) hfront
    have hlast := digitChar_of_isDigit (hdigits c (List.mem_append_right _ List.mem_cons_self))
    refine ⟨front.length, ?_⟩
    rw [hfront, Nat.mul_zero, Nat.zero_add, padded, hlast, ← hzeros]

theorem value_padded (zeros : Nat) (h : rank < 10) : value (padded zeros rank) = rank := by
  have hzeros : value (List.replicate zeros '0') = 0 := by
    induction zeros with
    | zero => rfl
    | succ zeros ih =>
      rw [List.replicate_succ', value_append, ih]
      rfl
  rw [padded, value_append, hzeros, Nat.toNat_digitChar_of_lt_ten h]
  exact (Nat.zero_add _).trans (Nat.add_sub_cancel_left ..)

theorem isDigit_of_mem_padded {zeros : Nat} (hrank : rank < 10) (h : c ∈ padded zeros rank) :
    c.isDigit = true := by
  rcases List.mem_append.mp h with hzero | hlast
  · rw [List.eq_of_mem_replicate hzero]
    rfl
  · rw [List.mem_singleton.mp hlast, Nat.isDigit_digitChar, decide_eq_true hrank]

theorem padded_ne_nil (zeros rank : Nat) : padded zeros rank ≠ [] :=
  List.append_ne_nil_of_right_ne_nil _ (List.cons_ne_nil _ _)

theorem unsigned_padded (zeros : Nat) (h : rank < 10) :
    unsigned (padded zeros rank) = padded zeros rank := by
  rcases unsigned_cases (padded zeros rank) with hsame | hsigned
  · exact hsame.symm
  · have hplus : '+' ∈ padded zeros rank := by
      rw [hsigned]
      exact List.mem_cons_self
    have hdigit := isDigit_of_mem_padded h hplus
    cases hdigit

theorem readNumber?_of_unsigned {zeros : Nat} (hrank : rank ≤ 5)
    (h : unsigned text = padded zeros rank) : readNumber? text = some rank := by
  have hten : rank < 10 := by omega
  rw [readNumber?_eq_some_iff, h]
  refine ⟨padded_ne_nil zeros rank, fun c hc => isDigit_of_mem_padded hten hc,
    value_padded zeros hten, ?_⟩
  exact Nat.lt_of_le_of_lt hrank (by decide)

end Numbers

/-! ## 3. The reader of settings -/

section Reader

variable {text : List Char} {name : String} {rank : Nat} {threshold : Threshold} {c : Char}

theorem isAlpha_of_toLower (h : c.toLower.isAlpha = true) : c.isAlpha = true := by
  unfold Char.toLower at h
  split at h
  · next hupper => exact Bool.or_eq_true_iff.mpr (.inl (decide_eq_true hupper))
  · exact h

theorem isAlpha_of_isDigit (h : c.isDigit = true) : c.isAlpha = false := by
  obtain ⟨-, hhigh⟩ := Char.isDigit_iff_toNat.mp h
  have hupper : ¬('A'.val ≤ c.val) := by
    rw [UInt32.le_iff_toNat_le]
    exact Nat.not_le.mpr (Nat.lt_of_le_of_lt hhigh (by decide))
  have hlower : ¬('a'.val ≤ c.val) := by
    rw [UInt32.le_iff_toNat_le]
    exact Nat.not_le.mpr (Nat.lt_of_le_of_lt hhigh (by decide))
  have hisUpper : c.isUpper = false := decide_eq_false fun hboth => hupper hboth.1
  have hisLower : c.isLower = false := Bool.and_eq_false_iff.mpr (.inl (decide_eq_false hlower))
  exact Bool.or_eq_false_iff.mpr ⟨hisUpper, hisLower⟩

/-- Names are made of letters, in any case. -/
theorem isAlpha_of_name (hname : (name, rank) ∈ names)
    (htext : text.map Char.toLower = name.toList) :
    text ≠ [] ∧ ∀ c ∈ text, c.isAlpha = true := by
  have hletters : ∀ entry ∈ names,
      entry.1.toList ≠ [] ∧ entry.1.toList.all Char.isAlpha = true := by decide
  obtain ⟨hne, hall⟩ := hletters _ hname
  refine ⟨?_, fun c hc => isAlpha_of_toLower (List.all_eq_true.mp hall _ ?_)⟩
  · rintro rfl
    exact hne htext.symm
  · rw [← htext]
    exact List.mem_map_of_mem hc

/-- A name is no number. -/
theorem readNumber?_of_name (hname : (name, rank) ∈ names)
    (htext : text.map Char.toLower = name.toList) : readNumber? text = none := by
  obtain ⟨hne, hletters⟩ := isAlpha_of_name hname htext
  by_contra hread
  obtain ⟨n, hn⟩ := Option.ne_none_iff_exists'.mp hread
  obtain ⟨hdigits, hall, -, -⟩ := readNumber?_eq_some_iff.mp hn
  obtain ⟨c, hc⟩ := List.exists_mem_of_ne_nil _ hdigits
  have hmem : c ∈ text := by
    rcases unsigned_cases text with hsame | hsigned
    · rw [hsame]
      exact hc
    · rw [hsigned]
      exact List.mem_cons_of_mem _ hc
  have hletter := hletters c hmem
  rw [isAlpha_of_isDigit (hall c hc)] at hletter
  cases hletter

theorem ofName?_of_name (hname : (name, rank) ∈ names)
    (htext : text.map Char.toLower = name.toList) : ofName? text = some ⟨rank⟩ := by
  have hofName : ofName? text = ofName? name.toList := by
    have hlower : ∀ entry ∈ names, entry.1.toList.map Char.toLower = entry.1.toList := by decide
    rw [ofName?, ofName?, htext, hlower _ hname]
  have hnames : ∀ entry ∈ names, ofName? entry.1.toList = some ⟨entry.2⟩ := by decide
  rw [hofName, hnames _ hname]

theorem spells_of_ofName? (h : ofName? text = some threshold) : Spells text threshold := by
  have hname : ∀ {name : String} {rank : Nat}, (name, rank) ∈ names →
      String.ofList (text.map Char.toLower) = name → Spells text ⟨rank⟩ := by
    intro name rank hname htext
    refine .name hname ?_
    rw [← htext, String.toList_ofList]
  unfold ofName? at h
  split at h
  case h_1 htext =>
    obtain rfl := Option.some.inj h
    have hnil : text.map Char.toLower = [] := by
      rw [← String.toList_ofList (l := text.map Char.toLower), htext]
      rfl
    rw [List.map_eq_nil_iff.mp hnil]
    exact .nothing
  case h_8 => cases h
  all_goals
    next htext =>
      obtain rfl := Option.some.inj h
      exact hname (by decide) htext

/-- **A setting is read exactly when it spells a threshold.** -/
theorem parse?_eq_some_iff {text : String} :
    parse? text = some threshold ↔ Spells text.toList threshold := by
  constructor
  · intro h
    unfold parse? at h
    cases hread : readNumber? text.toList with
    | none =>
      rw [hread] at h
      exact spells_of_ofName? h
    | some n =>
      rw [hread] at h
      obtain ⟨hrank, hthreshold⟩ := Option.ite_none_right_eq_some.mp h
      obtain rfl := Option.some.inj hthreshold
      obtain ⟨hne, hdigits, rfl, -⟩ := readNumber?_eq_some_iff.mp hread
      obtain ⟨zeros, hpadded⟩ := exists_padded hne hdigits (by omega)
      generalize value (unsigned text.toList) = rank at hpadded hrank
      rcases unsigned_cases text.toList with hsame | hsigned
      · rw [hsame, hpadded]
        exact .rank zeros hrank
      · rw [hsigned, hpadded]
        exact .signed zeros hrank
  · intro h
    generalize hchars : text.toList = chars at h
    unfold parse?
    rw [hchars]
    cases h with
    | nothing => rfl
    | name hname htext => rw [readNumber?_of_name hname htext, ofName?_of_name hname htext]
    | rank zeros hrank =>
      rw [readNumber?_of_unsigned hrank (unsigned_padded zeros (by omega))]
      simp only [hrank, if_true]
    | @signed rank zeros hrank =>
      have hunsigned : unsigned ('+' :: padded zeros rank) = padded zeros rank := rfl
      rw [readNumber?_of_unsigned hrank hunsigned]
      simp only [hrank, if_true]

end Reader

/-! ## 4. The reader of filter directives -/

/-- What is known of reading a list of filter directives. An empty list shows errors only. A word of
letters and digits that names a level is one directive, and shows the events of this level. No
directive begins with a plus sign. -/
structure Directives (read : String → Option Threshold) : Prop where
  nothing : read "" = some ⟨1⟩
  word : ∀ text threshold, text ≠ "" → (∀ c ∈ text.toList, c.isAlphanum = true) →
    parse? text = some threshold → read text = some threshold
  sign : ∀ text, text.toList.head? = some '+' → read text = none

/-- Spellings are words of letters and digits, up to a plus sign. -/
theorem Spells.isAlphanum_or_sign {text : List Char} {threshold : Threshold}
    (h : Spells text threshold) :
    text = [] ∧ threshold = ⟨1⟩ ∨ (text ≠ [] ∧ ∀ c ∈ text, c.isAlphanum = true) ∨
      text.head? = some '+' := by
  cases h with
  | nothing => exact .inl ⟨rfl, rfl⟩
  | name hname htext =>
    obtain ⟨hne, hletters⟩ := isAlpha_of_name hname htext
    exact .inr (.inl ⟨hne, fun c hc => Bool.or_eq_true_iff.mpr (.inl (hletters c hc))⟩)
  | rank zeros hrank =>
    refine .inr (.inl ⟨padded_ne_nil _ _, fun c hc => Bool.or_eq_true_iff.mpr (.inr ?_)⟩)
    exact isDigit_of_mem_padded (Nat.lt_of_le_of_lt hrank (by decide)) hc
  | signed => exact .inr (.inr rfl)

theorem not_isAlphanum_plus : '+'.isAlphanum = false := by
  decide

/-- **The filter takes every spelling for what it is, unless it has a plus sign in front.** -/
theorem Directives.read_of_parse? {read : String → Option Threshold} (h : Directives read)
    {text : String} {threshold : Threshold} (hparse : parse? text = some threshold) :
    read text = if text.toList.head? = some '+' then none else some threshold := by
  rcases (parse?_eq_some_iff.mp hparse).isAlphanum_or_sign with
    ⟨hnil, rfl⟩ | ⟨hne, hword⟩ | hsign
  · obtain rfl : text = "" := String.toList_injective hnil
    exact h.nothing
  · have hhead : text.toList.head? ≠ some '+' := by
      intro hhead
      have hplus := hword '+' (List.mem_of_mem_head? hhead)
      rw [not_isAlphanum_plus] at hplus
      cases hplus
    have hnonempty : text ≠ "" := by
      rintro rfl
      exact hne rfl
    rw [if_neg hhead, h.word text threshold hnonempty hword hparse]
  · rw [if_pos hsign, h.sign text hsign]

theorem directives_ofDirectives? : Directives ofDirectives? := by
  refine ⟨rfl, fun text threshold hne hword hparse => ?_, fun text hsign => ?_⟩
  · unfold ofDirectives?
    split
    · next hnil => exact absurd (String.toList_injective hnil) hne
    · next c more hchars =>
      have hc : c.isAlphanum = true := hword c (hchars ▸ List.mem_cons_self)
      have hstarts : startsDirective c = true := by
        rw [startsDirective, Text.isAlphanumeric, hc, Bool.true_or, Bool.or_true]
      rw [if_pos hstarts, hparse]
  · obtain ⟨more, hchars⟩ := List.head?_eq_some_iff.mp hsign
    have hstarts : startsDirective '+' = false := by decide
    rw [ofDirectives?, hchars]
    simp only [hstarts, Bool.false_eq_true, if_false]

end Relay.Threshold
