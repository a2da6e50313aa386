import Relay.Proofs.Text.Words
import Relay.Text.Shorten

/-!
# Where a line may be cut

A line may be cut at a *break* (`IsBreak`): at the end of a word, or right after a hyphen that
stands between two letters or digits. What is said there about characters alone is what the units of
a text come to: between two units there is a break, and there are no others (`isBreak_iff`). So the
units that fit are the longest part of the line that ends at a break and has room
(`longestCut_fit`), and there is only one such part (`LongestCut.unique`).
-/

namespace Relay.Text

/-! ## 1. Breaks -/

/-- Whether a word ends between two parts of a line. -/
def EndsWord (before after : List Char) : Prop :=
  EndsSolid before ∧ after.head?.all isSpace = true

/-- Whether the first of two parts of a line ends in a hyphen that stands between two letters or
digits. -/
def EndsInHyphen (before after : List Char) : Prop :=
  ∃ front, before = front ++ ['-'] ∧ front.getLast?.any isAlphanumeric = true ∧
    after.head?.any isAlphanumeric = true

/-- Whether a line may be cut between these two parts of it. -/
def IsBreak (before after : List Char) : Prop :=
  EndsWord before after ∨ EndsInHyphen before after

/-! ## 2. Between two units -/

/-- Whether two parts of a text meet where a unit ends. -/
def Meet (us : List (List Char)) (before after : List Char) : Prop :=
  ∃ front back, us = front ++ back ∧ front ≠ [] ∧ before = front.flatten ∧ after = back.flatten

section Meet

variable {us vs : List (List Char)} {before after : List Char}

theorem not_meet_nil : ¬Meet [] before after := by
  rintro ⟨front, back, hsplit, hne, -⟩
  exact hne (List.append_eq_nil_iff.mp hsplit.symm).1

/-- The parts meet where the first unit ends, or behind. -/
theorem meet_cons_iff {unit : List Char} :
    Meet (unit :: us) before after ↔
      before = unit ∧ after = us.flatten ∨
        ∃ more, before = unit ++ more ∧ Meet us more after := by
  constructor
  · rintro ⟨front, back, hsplit, hne, rfl, rfl⟩
    cases front with
    | nil => exact absurd rfl hne
    | cons first rest =>
      obtain ⟨rfl, rfl⟩ := List.cons.inj hsplit
      by_cases hrest : rest = []
      · exact .inl ⟨by simp [hrest], by simp [hrest]⟩
      · exact .inr ⟨rest.flatten, rfl, rest, back, rfl, hrest, rfl, rfl⟩
  · rintro (⟨rfl, rfl⟩ | ⟨more, rfl, front, back, rfl, hne, rfl, rfl⟩)
    · exact ⟨[before], us, rfl, by simp, by simp, rfl⟩
    · exact ⟨unit :: front, back, rfl, by simp, rfl, rfl⟩

/-- The parts meet where one of the first units ends, or behind them. -/
theorem meet_append_iff :
    Meet (us ++ vs) before after ↔
      (∃ rest, after = rest ++ vs.flatten ∧ Meet us before rest) ∨
        ∃ more, before = us.flatten ++ more ∧ Meet vs more after := by
  induction us generalizing before with
  | nil =>
    simp only [List.nil_append, not_meet_nil, and_false, exists_false, List.flatten_nil, false_or]
    exact ⟨fun h => ⟨before, rfl, h⟩, fun ⟨more, hmore, h⟩ => hmore ▸ h⟩
  | cons unit us ih =>
    simp only [List.cons_append, meet_cons_iff, ih, List.flatten_append, List.flatten_cons]
    grind

/-- A character in front of the first unit moves with it. -/
theorem meet_consFirst_iff {c : Char} (h : us ≠ []) :
    Meet (consFirst c us) before after ↔ ∃ more, before = c :: more ∧ Meet us more after := by
  obtain ⟨unit, more, rfl⟩ := List.exists_cons_of_ne_nil h
  simp only [consFirst, meet_cons_iff]
  grind

end Meet

/-! ## 3. The pieces of a word -/

/-- Whether a word may be cut between these two parts of it, given the character before it. -/
def CutsAfter (previous : Option Char) (before after : List Char) : Prop :=
  ∃ front c, before = front ++ [c] ∧
    breaksAfter (front.getLast?.or previous) c after.head? = true

section Pieces

variable {previous : Option Char} {word before after : List Char}

theorem not_cutsAfter_nil : ¬CutsAfter previous [] after := by
  rintro ⟨front, c, hfront, -⟩
  exact List.append_ne_nil_of_right_ne_nil front (List.cons_ne_nil c []) hfront.symm

/-- The cut is right behind the first character, or further on. -/
theorem cutsAfter_cons_iff {c : Char} :
    CutsAfter previous (c :: before) after ↔
      before = [] ∧ breaksAfter previous c after.head? = true ∨
        CutsAfter (some c) before after := by
  have hlast (front : List Char) :
      (c :: front).getLast?.or previous = front.getLast?.or (some c) := by
    rw [List.getLast?_cons]
    cases front.getLast? <;> rfl
  constructor
  · rintro ⟨front, d, hfront, hbreaks⟩
    cases front with
    | nil =>
      obtain ⟨rfl, rfl⟩ := List.cons.inj hfront
      exact .inl ⟨rfl, hbreaks⟩
    | cons e front =>
      obtain ⟨rfl, rfl⟩ := List.cons.inj hfront
      exact .inr ⟨front, d, rfl, hlast front ▸ hbreaks⟩
  · rintro (⟨rfl, hbreaks⟩ | ⟨front, d, rfl, hbreaks⟩)
    · exact ⟨[], c, rfl, hbreaks⟩
    · exact ⟨c :: front, d, rfl, (hlast front).symm ▸ hbreaks⟩

theorem cutsAfter_none_iff : CutsAfter none before after ↔ EndsInHyphen before after := by
  simp only [CutsAfter, EndsInHyphen, breaksAfter, Option.or_none, Bool.and_eq_true, beq_iff_eq]
  grind

theorem pieces_ne_nil (word : List Char) : pieces word ≠ [] := by
  rw [pieces_eq]
  exact piecesAfter_ne_nil none word

/-- A word is cut right behind its first character, or where the rest of it is cut. -/
theorem cut_cons_iff {c : Char} {rest : List Char} :
    (c :: rest = before ++ after ∧ (after = [] ∨ CutsAfter previous before after)) ↔
      ∃ more, before = c :: more ∧ rest = more ++ after ∧
        (after = [] ∨ more = [] ∧ breaksAfter previous c rest.head? = true ∨
          CutsAfter (some c) more after) := by
  constructor
  · rintro ⟨hword, hcut⟩
    cases before with
    | nil =>
      -- no piece is empty
      rcases hcut with rfl | hcut
      · cases hword
      · exact absurd hcut not_cutsAfter_nil
    | cons d more =>
      obtain ⟨rfl, rfl⟩ := List.cons.inj hword
      refine ⟨more, rfl, rfl, hcut.imp_right fun hcut => ?_⟩
      rcases cutsAfter_cons_iff.mp hcut with ⟨rfl, hbreaks⟩ | hcut
      · exact .inl ⟨rfl, hbreaks⟩
      · exact .inr hcut
  · rintro ⟨more, rfl, rfl, hcut⟩
    refine ⟨rfl, hcut.imp_right fun hcut => cutsAfter_cons_iff.mpr ?_⟩
    rcases hcut with ⟨rfl, hbreaks⟩ | hcut
    · exact .inl ⟨rfl, hbreaks⟩
    · exact .inr hcut

/-- **The pieces of a word meet where it may be cut, and the last of them ends with it.** -/
theorem meet_piecesAfter_iff :
    Meet (piecesAfter previous word) before after ↔
      word = before ++ after ∧ (after = [] ∨ CutsAfter previous before after) := by
  induction word generalizing previous before with
  | nil =>
    simp only [piecesAfter, meet_cons_iff, not_meet_nil, and_false, exists_false, or_false,
      List.flatten_nil, List.nil_eq_append_iff]
    exact ⟨fun h => ⟨h, .inl h.2⟩, And.left⟩
  | cons c rest ih =>
    rw [cut_cons_iff]
    unfold piecesAfter
    split
    · rename_i hbreaks
      rw [meet_cons_iff, flatten_piecesAfter]
      constructor
      · rintro (⟨rfl, rfl⟩ | ⟨more, rfl, hmeet⟩)
        · exact ⟨[], rfl, rfl, .inr (.inl ⟨rfl, hbreaks⟩)⟩
        · obtain ⟨hrest, hcut⟩ := ih.mp hmeet
          exact ⟨more, rfl, hrest, hcut.imp_right .inr⟩
      · rintro ⟨more, rfl, hrest, hnil | ⟨rfl, -⟩ | hcut⟩
        · exact .inr ⟨more, rfl, ih.mpr ⟨hrest, .inl hnil⟩⟩
        · exact .inl ⟨rfl, hrest.symm⟩
        · exact .inr ⟨more, rfl, ih.mpr ⟨hrest, .inr hcut⟩⟩
    · rename_i hbreaks
      rw [meet_consFirst_iff (piecesAfter_ne_nil _ _)]
      refine exists_congr fun more => and_congr_right fun _ => ?_
      rw [ih]
      simp only [hbreaks, Bool.false_eq_true, and_false, false_or]

theorem meet_pieces_iff :
    Meet (pieces word) before after ↔
      word = before ++ after ∧ (after = [] ∨ EndsInHyphen before after) := by
  rw [pieces_eq, meet_piecesAfter_iff, cutsAfter_none_iff]

end Pieces

/-! ## 4. The units of a line -/

theorem consFirst_append (c : Char) {us : List (List Char)} (h : us ≠ []) (vs : List (List Char)) :
    consFirst c us ++ vs = consFirst c (us ++ vs) := by
  obtain ⟨unit, more, rfl⟩ := List.exists_cons_of_ne_nil h
  rfl

/-- The units of a line are the pieces of its first word and the units of the rest, which begins
with a space. -/
theorem units_cons (word : List Char) {more : List (List Char)} (h : more ≠ []) :
    units (word :: more) = pieces word ++ consFirst ' ' (units more) := by
  obtain ⟨next, rest, rfl⟩ := List.exists_cons_of_ne_nil h
  rw [units, units, List.flatMap_cons, laterPieces,
    consFirst_append ' ' (pieces_ne_nil next)]

theorem units_singleton (word : List Char) : units [word] = pieces word := by
  rw [units, List.flatMap_nil, List.append_nil]

theorem units_ne_nil {ws : List (List Char)} (h : ws ≠ []) : units ws ≠ [] := by
  obtain ⟨word, more, rfl⟩ := List.exists_cons_of_ne_nil h
  exact List.append_ne_nil_of_left_ne_nil (pieces_ne_nil word) _

/-- **The units of a line spell the line.** -/
theorem flatten_units (ws : List (List Char)) : (units ws).flatten = lineOf ws := by
  induction ws with
  | nil => rfl
  | cons word more ih =>
    by_cases hnil : more = []
    · rw [hnil, units_singleton, flatten_pieces, lineOf_singleton]
    · rw [units_cons word hnil, List.flatten_append, flatten_pieces, flatten_consFirst, ih,
        lineOf_cons word hnil]

section Breaks

variable {before after : List Char}

theorem isAlphanumeric_space : isAlphanumeric ' ' = false := by decide

/-- A break behind a space is a break of what is behind the space. -/
theorem isBreak_append_space_iff (front : List Char) :
    IsBreak (front ++ ' ' :: before) after ↔ IsBreak before after := by
  have hhyphen : EndsInHyphen (front ++ ' ' :: before) after ↔ EndsInHyphen before after := by
    have hlast (init : List Char) :
        (front ++ ' ' :: init).getLast?.any isAlphanumeric =
          init.getLast?.any isAlphanumeric := by
      rw [List.getLast?_append_of_ne_nil front (List.cons_ne_nil ' ' init), List.getLast?_cons]
      cases hinit : init.getLast? with
      | none => exact isAlphanumeric_space
      | some c => rfl
    rcases List.eq_nil_or_concat before with rfl | ⟨init, c, rfl⟩
    · refine iff_of_false ?_ ?_
      · rintro ⟨other, hother, -⟩
        cases (List.append_inj' hother rfl).2
      · rintro ⟨other, hother, -⟩
        exact List.append_ne_nil_of_right_ne_nil other (List.cons_ne_nil '-' []) hother.symm
    · rw [List.concat_eq_append, ← List.cons_append, ← List.append_assoc]
      constructor
      · rintro ⟨other, hother, hbefore, hafter⟩
        obtain ⟨rfl, hc⟩ := List.append_inj' hother rfl
        exact ⟨init, by rw [hc], hlast init ▸ hbefore, hafter⟩
      · rintro ⟨other, hother, hbefore, hafter⟩
        obtain ⟨rfl, hc⟩ := List.append_inj' hother rfl
        exact ⟨_, by rw [hc], (hlast init).symm ▸ hbefore, hafter⟩
  rw [IsBreak, IsBreak, hhyphen, EndsWord, EndsWord, EndsSolid.append_space_iff]

/-- Only the next character counts of what is behind a break. -/
theorem IsBreak.congr {other : List Char} (hhead : after.head? = other.head?) :
    IsBreak before after ↔ IsBreak before other := by
  rw [IsBreak, IsBreak, EndsWord, EndsWord, EndsInHyphen, EndsInHyphen, hhead]

/-- The breaks of a word with a space behind it, or nothing, are where its pieces meet. -/
theorem isBreak_iff_of_word {word rest : List Char} (hword : IsWord word)
    (hsplit : word = before ++ after) (hrest : rest.head?.all (· == ' ') = true) :
    IsBreak before (after ++ rest) ↔ after = [] ∨ EndsInHyphen before after := by
  cases after with
  | nil =>
    rw [List.append_nil] at hsplit
    subst hsplit
    refine iff_of_true (.inl ⟨hword.endsSolid, ?_⟩) (.inl rfl)
    cases rest with
    | nil => rfl
    | cons c more =>
      obtain rfl : c = ' ' := by simpa using hrest
      exact isSpace_space
  | cons c more =>
    have hc : isSpace c = false := hword.solid c (hsplit ▸ by simp)
    have hends : ¬EndsWord before (c :: more) := by
      rintro ⟨-, hspace⟩
      exact Bool.noConfusion (hc.symm.trans hspace)
    have hcut : IsBreak before (c :: more ++ rest) ↔ IsBreak before (c :: more) :=
      IsBreak.congr rfl
    rw [hcut, IsBreak]
    simp only [hends, false_or, reduceCtorEq]

end Breaks

/-- **The breaks of a line are where its units meet.** -/
theorem isBreak_iff {ws : List (List Char)} (h : ∀ word ∈ ws, IsWord word)
    {before after : List Char} (hline : lineOf ws = before ++ after) :
    IsBreak before after ↔ Meet (units ws) before after := by
  induction ws generalizing before with
  | nil =>
    obtain ⟨rfl, rfl⟩ := List.append_eq_nil_iff.mp hline.symm
    refine iff_of_false ?_ not_meet_nil
    rintro (⟨hsolid, -⟩ | ⟨front, hfront, -⟩)
    · exact hsolid.ne_nil rfl
    · exact List.append_ne_nil_of_right_ne_nil front (List.cons_ne_nil '-' []) hfront.symm
  | cons word more ih =>
    obtain ⟨hword, hmore⟩ := List.forall_mem_cons.mp h
    by_cases hnil : more = []
    · rw [hnil, lineOf_singleton] at hline
      have hbreak : IsBreak before (after ++ []) ↔ after = [] ∨ EndsInHyphen before after :=
        isBreak_iff_of_word hword hline rfl
      rw [List.append_nil] at hbreak
      rw [hnil, units_singleton, meet_pieces_iff, hbreak]
      simp only [hline, true_and]
    · rw [lineOf_cons word hnil] at hline
      rw [units_cons word hnil, meet_append_iff, flatten_pieces, flatten_consFirst, flatten_units]
      simp only [meet_pieces_iff, meet_consFirst_iff (units_ne_nil hnil)]
      rcases eq_of_append_space hline with ⟨back, hfront, rfl⟩ | ⟨back, rfl, hrest⟩
      · rw [isBreak_iff_of_word hword hfront rfl]
        constructor
        · exact fun hcut => .inl ⟨back, rfl, hfront, hcut⟩
        · rintro (⟨other, hother, -, hcut⟩ | ⟨other, hother, further, rfl, -⟩)
          · rwa [List.append_cancel_right hother]
          · have hlength := congrArg List.length (hother.trans (congrArg (· ++ _) hfront))
            simp at hlength
      · rw [isBreak_append_space_iff, ih hmore hrest]
        constructor
        · exact fun hmeet => .inr ⟨_, rfl, back, rfl, hmeet⟩
        · rintro (⟨other, -, hother, -⟩ | ⟨other, hother, further, rfl, hmeet⟩)
          · have hlength := congrArg List.length hother
            simp at hlength
          · have hsame := List.append_cancel_left hother
            rwa [(List.cons.inj hsame).2]

/-! ## 5. The longest part that fits -/

/-- Whether this is the longest part of a line, from its start, that ends at a break and has room;
it is empty when there is none. -/
structure LongestCut (line : List Char) (room : Nat) (kept : List Char) : Prop where
  cut : kept = [] ∨ ∃ rest, line = kept ++ rest ∧ IsBreak kept rest
  fits : kept.length ≤ room
  longest : ∀ before after, line = before ++ after → IsBreak before after →
    before.length ≤ room → before.length ≤ kept.length

/-- The units that fit are the first of all, and there is no room for one more. -/
theorem exists_fit (room : Nat) (us : List (List Char)) :
    ∃ front back, us = front ++ back ∧ fit room us = front.flatten ∧
      ∀ before after, us = before ++ after → before.flatten.length ≤ room →
        before.flatten.length ≤ front.flatten.length := by
  induction us generalizing room with
  | nil =>
    refine ⟨[], [], rfl, rfl, fun before after hsplit _ => ?_⟩
    obtain rfl := (List.append_eq_nil_iff.mp hsplit.symm).1
    exact Nat.le_refl _
  | cons unit more ih =>
    unfold fit
    split
    · rename_i hroom
      obtain ⟨front, back, rfl, hfit, hlongest⟩ := ih (room - unit.length)
      refine ⟨unit :: front, back, rfl, by rw [hfit, List.flatten_cons], ?_⟩
      intro before after hsplit hbefore
      cases before with
      | nil => exact Nat.zero_le _
      | cons first rest =>
        obtain ⟨rfl, hrest⟩ := List.cons.inj hsplit
        rw [List.flatten_cons, List.length_append] at hbefore ⊢
        have := hlongest rest after hrest (by omega)
        simp only [List.flatten_cons, List.length_append]
        omega
    · rename_i hroom
      refine ⟨[], unit :: more, rfl, rfl, fun before after hsplit hbefore => ?_⟩
      cases before with
      | nil => exact Nat.zero_le _
      | cons first rest =>
        obtain ⟨rfl, -⟩ := List.cons.inj hsplit
        rw [List.flatten_cons, List.length_append] at hbefore
        omega

/-- **The units that fit are the longest part of the line that ends at a break and has room.** -/
theorem longestCut_fit {ws : List (List Char)} (h : ∀ word ∈ ws, IsWord word) (room : Nat) :
    LongestCut (lineOf ws) room (fit room (units ws)) := by
  obtain ⟨front, back, hsplit, hfit, hlongest⟩ := exists_fit room (units ws)
  have hline : lineOf ws = front.flatten ++ back.flatten := by
    rw [← flatten_units, hsplit, List.flatten_append]
  refine ⟨?_, length_fit_le room (units ws), ?_⟩
  · by_cases hnil : front = []
    · exact .inl (by rw [hfit, hnil, List.flatten_nil])
    · rw [hfit]
      exact .inr ⟨back.flatten, hline, (isBreak_iff h hline).mpr
        ⟨front, back, hsplit, hnil, rfl, rfl⟩⟩
  · intro before after hcut hbreak hroom
    obtain ⟨firsts, rest, hfirsts, -, rfl, -⟩ := (isBreak_iff h hcut).mp hbreak
    rw [hfit]
    exact hlongest firsts rest hfirsts hroom

namespace LongestCut

variable {line kept other : List Char} {room less : Nat}

/-- Where there is less room, no more is kept. -/
theorem mono (h : LongestCut line room kept) (hless : less ≤ room)
    (hother : LongestCut line less other) : other.length ≤ kept.length := by
  rcases hother.cut with rfl | ⟨rest, hline, hbreak⟩
  · exact Nat.zero_le _
  · exact h.longest other rest hline hbreak (Nat.le_trans hother.fits hless)

theorem isPrefix (h : LongestCut line room kept) : kept <+: line := by
  rcases h.cut with rfl | ⟨rest, rfl, -⟩
  · exact List.nil_prefix
  · exact List.prefix_append kept rest

/-- **There is only one longest part.** -/
theorem unique (h : LongestCut line room kept) (hother : LongestCut line room other) :
    kept = other := by
  have hlength : kept.length = other.length :=
    Nat.le_antisymm (hother.mono (Nat.le_refl room) h) (h.mono (Nat.le_refl room) hother)
  have hprefix : kept <+: other :=
    List.prefix_of_prefix_length_le h.isPrefix hother.isPrefix (Nat.le_of_eq hlength)
  exact hprefix.eq_of_length hlength

/-- What is kept still is where the room is no more than it takes. -/
theorem of_fits (h : LongestCut line room kept) (hless : less ≤ room) (hfits : kept.length ≤ less) :
    LongestCut line less kept :=
  ⟨h.cut, hfits, fun before after hline hbreak hroom =>
    h.longest before after hline hbreak (Nat.le_trans hroom hless)⟩

/-- What is behind a part of a line does not count where there is less room than the part takes. -/
theorem congr {front rest back : List Char} (h : LongestCut (front ++ rest) room kept)
    (hroom : room < front.length) : LongestCut (front ++ back) room kept := by
  -- a break that has room is inside the part, and so is the character behind it
  have hcarry {rest back before after : List Char} (hline : front ++ rest = before ++ after)
      (hbreak : IsBreak before after) (hbefore : before.length ≤ room) :
      ∃ other, front ++ back = before ++ other ∧ IsBreak before other := by
    rcases List.append_eq_append_iff.mp hline with ⟨more, rfl, -⟩ | ⟨more, rfl, rfl⟩
    · rw [List.length_append] at hbefore
      omega
    · have hmore : more ≠ [] := by
        rintro rfl
        rw [List.append_nil] at hroom
        omega
      obtain ⟨c, more, rfl⟩ := List.exists_cons_of_ne_nil hmore
      exact ⟨c :: more ++ back, List.append_assoc _ _ _, (IsBreak.congr rfl).mp hbreak⟩
  refine ⟨?_, h.fits, fun before after hline hbreak hbefore => ?_⟩
  · rcases h.cut with hnil | ⟨after, hline, hbreak⟩
    · exact .inl hnil
    · exact .inr (hcarry hline hbreak h.fits)
  · obtain ⟨other, hother, hcut⟩ : ∃ other, front ++ rest = before ++ other ∧
        IsBreak before other := hcarry hline hbreak hbefore
    exact h.longest before other hother hcut hbefore

end LongestCut

end Relay.Text
