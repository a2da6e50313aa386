import Mathlib.Data.List.Basic
import Relay.Text.Space

/-!
# Words on a line

Collapsing a text puts its words on a line, with one space between any two (`lineOf`). This file
fixes what a line looks like:

* its words are found again (`words_lineOf`), so a line is collapsed already (`collapse_lineOf`);
* there is no white space in it but single spaces between other characters
  (`singleSpaced_lineOf`);
* a part of a line, from its start, that does not end in a space is a line (`eq_lineOf_of_front`).
-/

namespace Relay.Text

/-! ## 1. Words -/

/-- Whether a text is a word: not empty, and without white space. -/
structure IsWord (word : List Char) : Prop where
  ne_nil : word ≠ []
  solid : ∀ c ∈ word, isSpace c = false

theorem isSpace_space : isSpace ' ' = true := by decide

namespace IsWord

variable {word : List Char}

theorem space_not_mem (h : IsWord word) : ' ' ∉ word := by
  intro hmem
  exact Bool.noConfusion (isSpace_space.symm.trans (h.solid ' ' hmem))

/-- A word does not begin with a space. -/
theorem ne_space_cons (h : IsWord word) (rest : List Char) : word ≠ ' ' :: rest := by
  rintro rfl
  exact h.space_not_mem List.mem_cons_self

/-- A part of a word, from its start, is a word. -/
theorem of_append {front rest : List Char} (h : IsWord (front ++ rest)) (hne : front ≠ []) :
    IsWord front :=
  ⟨hne, fun c hc => h.solid c (List.mem_append_left rest hc)⟩

end IsWord

/-- No part of a split holds what the split was made at. -/
theorem solid_of_mem_splitOnP {text part : List Char} (h : part ∈ text.splitOnP isSpace) :
    ∀ c ∈ part, isSpace c = false := by
  induction text generalizing part with
  | nil =>
    obtain rfl : part = [] := by simpa using h
    simp
  | cons c rest ih =>
    rw [List.splitOnP_cons_eq_if_modifyHead] at h
    split at h
    · rcases List.mem_cons.mp h with rfl | hmem
      · simp
      · exact ih hmem
    · rename_i hc
      obtain ⟨first, more, hsplit⟩ :=
        List.exists_cons_of_ne_nil (List.splitOnP_ne_nil isSpace rest)
      rw [hsplit, List.modifyHead_cons] at h
      rcases List.mem_cons.mp h with rfl | hmem
      · exact List.forall_mem_cons.mpr ⟨Bool.not_eq_true _ ▸ hc,
          ih (hsplit ▸ List.mem_cons_self)⟩
      · exact ih (hsplit ▸ List.mem_cons_of_mem first hmem)

theorem isWord_of_mem_words {text word : List Char} (h : word ∈ words text) : IsWord word := by
  obtain ⟨hmem, hne⟩ := List.mem_filter.mp h
  exact ⟨by simpa using hne, solid_of_mem_splitOnP hmem⟩

/-- **White space divides the words of a text.** -/
theorem words_append_cons {c : Char} (hc : isSpace c = true) (front rest : List Char) :
    words (front ++ c :: rest) = words front ++ words rest := by
  rw [words, List.splitOnP_append_cons front rest hc, List.filter_append]
  rfl

theorem words_of_isWord {word : List Char} (h : IsWord word) : words word = [word] := by
  rw [words, List.splitOnP_eq_singleton h.solid]
  simp [h.ne_nil]

/-! ## 2. Lines -/

/-- Words on a line, with one space between any two. -/
def lineOf (words : List (List Char)) : List Char :=
  [' '].intercalate words

theorem collapse_eq (text : List Char) : collapse text = lineOf (words text) := rfl

@[simp] theorem lineOf_nil : lineOf [] = [] := rfl

@[simp] theorem lineOf_singleton (word : List Char) : lineOf [word] = word :=
  List.intercalate_singleton

theorem lineOf_cons (word : List Char) {more : List (List Char)} (h : more ≠ []) :
    lineOf (word :: more) = word ++ ' ' :: lineOf more := by
  obtain ⟨next, rest, rfl⟩ := List.exists_cons_of_ne_nil h
  rw [lineOf, List.intercalate_cons_cons, List.append_assoc]
  rfl

/-- One more word on a line that has some. -/
theorem lineOf_concat {ws : List (List Char)} (h : ws ≠ []) (last : List Char) :
    lineOf (ws ++ [last]) = lineOf ws ++ ' ' :: last := by
  induction ws with
  | nil => exact absurd rfl h
  | cons word more ih =>
    by_cases hmore : more = []
    · rw [hmore, lineOf_singleton, List.singleton_append, lineOf_cons _ (List.cons_ne_nil _ _),
        lineOf_singleton]
    · rw [List.cons_append, lineOf_cons _ (by simp), ih hmore, lineOf_cons _ hmore,
        List.append_assoc, List.cons_append]

/-- **The words of a line are found again.** -/
theorem words_lineOf {ws : List (List Char)} (h : ∀ word ∈ ws, IsWord word) :
    words (lineOf ws) = ws := by
  induction ws with
  | nil => rfl
  | cons word more ih =>
    obtain ⟨hword, hmore⟩ := List.forall_mem_cons.mp h
    by_cases hnil : more = []
    · rw [hnil, lineOf_singleton, words_of_isWord hword]
    · rw [lineOf_cons _ hnil, words_append_cons isSpace_space, words_of_isWord hword, ih hmore,
        List.singleton_append]

/-- **A line is collapsed already.** -/
theorem collapse_lineOf {ws : List (List Char)} (h : ∀ word ∈ ws, IsWord word) :
    collapse (lineOf ws) = lineOf ws := by
  rw [collapse_eq, words_lineOf h]

theorem collapse_collapse (text : List Char) : collapse (collapse text) = collapse text :=
  collapse_lineOf fun _ => isWord_of_mem_words

/-! ## 3. The last character -/

/-- Whether a text ends in a character that is no white space. -/
def EndsSolid (text : List Char) : Prop :=
  ∃ last ∈ text.getLast?, isSpace last = false

namespace EndsSolid

variable {text front rest : List Char}

theorem ne_nil (h : EndsSolid text) : text ≠ [] := by
  rintro rfl
  obtain ⟨last, hlast, -⟩ := h
  cases hlast

theorem ne_concat (h : EndsSolid text) : text ≠ front ++ [' '] := by
  rintro rfl
  obtain ⟨last, hlast, hsolid⟩ := h
  rw [List.getLast?_concat] at hlast
  obtain rfl := Option.some.inj hlast
  exact Bool.noConfusion (isSpace_space.symm.trans hsolid)

/-- What ends a text ends the last part of it. -/
theorem append_iff (h : rest ≠ []) : EndsSolid (front ++ rest) ↔ EndsSolid rest := by
  rw [EndsSolid, List.getLast?_append_of_ne_nil front h, EndsSolid]

/-- Behind a space, there is a character more. -/
theorem append_space_iff : EndsSolid (front ++ ' ' :: rest) ↔ EndsSolid rest := by
  by_cases hne : rest = []
  · subst hne
    exact iff_of_false (fun h => h.ne_concat rfl) (fun h => h.ne_nil rfl)
  · rw [← List.singleton_append, ← List.append_assoc, append_iff hne]

end EndsSolid

theorem IsWord.endsSolid {word : List Char} (h : IsWord word) : EndsSolid word :=
  ⟨_, List.getLast?_eq_some_getLast h.ne_nil, h.solid _ (List.getLast_mem h.ne_nil)⟩

theorem endsSolid_lineOf {ws : List (List Char)} (h : ∀ word ∈ ws, IsWord word) (hne : ws ≠ []) :
    EndsSolid (lineOf ws) := by
  induction ws with
  | nil => exact absurd rfl hne
  | cons word more ih =>
    obtain ⟨hword, hmore⟩ := List.forall_mem_cons.mp h
    by_cases hnil : more = []
    · rw [hnil, lineOf_singleton]
      exact hword.endsSolid
    · rw [lineOf_cons _ hnil, EndsSolid.append_space_iff]
      exact ih hmore hnil

/-! ## 4. Parts of a line -/

/-- A line is divided in front of a space, or behind it. -/
theorem eq_of_append_space {word line front rest : List Char}
    (h : word ++ ' ' :: line = front ++ rest) :
    (∃ back, word = front ++ back ∧ rest = back ++ ' ' :: line) ∨
      ∃ back, front = word ++ ' ' :: back ∧ line = back ++ rest := by
  rcases List.append_eq_append_iff.mp h with ⟨back, hfront, hback⟩ | hinside
  · cases back with
    | nil => exact .inl ⟨[], by rw [hfront, List.append_nil, List.append_nil], hback.symm⟩
    | cons c back =>
      obtain ⟨rfl, hline⟩ := List.cons.inj hback
      exact .inr ⟨back, hfront, hline⟩
  · exact .inl hinside

/-- **A part of a line, from its start, that does not end in a space is a line.** -/
theorem eq_lineOf_of_front {ws : List (List Char)} (h : ∀ word ∈ ws, IsWord word)
    {front rest : List Char} (hline : lineOf ws = front ++ rest) (hends : EndsSolid front) :
    ∃ us, us ≠ [] ∧ (∀ word ∈ us, IsWord word) ∧ front = lineOf us := by
  induction ws generalizing front with
  | nil => exact absurd (List.append_eq_nil_iff.mp hline.symm).1 hends.ne_nil
  | cons word more ih =>
    obtain ⟨hword, hmore⟩ := List.forall_mem_cons.mp h
    -- a part of the first word is a word
    have hinside {back : List Char} (hfront : word = front ++ back) :
        ∃ us, us ≠ [] ∧ (∀ word ∈ us, IsWord word) ∧ front = lineOf us := by
      have hpart : IsWord front := (hfront ▸ hword).of_append hends.ne_nil
      exact ⟨[front], by simp, by simpa using hpart, (lineOf_singleton front).symm⟩
    by_cases hnil : more = []
    · rw [hnil, lineOf_singleton] at hline
      exact hinside hline
    · rw [lineOf_cons _ hnil] at hline
      rcases eq_of_append_space hline with ⟨back, hfront, -⟩ | ⟨back, rfl, hrest⟩
      · exact hinside hfront
      · obtain ⟨us, hus, hwords, rfl⟩ := ih hmore hrest (EndsSolid.append_space_iff.mp hends)
        exact ⟨word :: us, by simp, List.forall_mem_cons.mpr ⟨hword, hwords⟩,
          (lineOf_cons word hus).symm⟩

/-- Whether there is no white space in a text but single spaces between other characters. -/
structure SingleSpaced (text : List Char) : Prop where
  only : ∀ c ∈ text, isSpace c = true → c = ' '
  begins : ∀ rest, text ≠ ' ' :: rest
  ends : ∀ front, text ≠ front ++ [' ']
  single : ∀ front rest, text ≠ front ++ ' ' :: ' ' :: rest

theorem lineOf_ne_space_cons {ws : List (List Char)} (h : ∀ word ∈ ws, IsWord word)
    (rest : List Char) : lineOf ws ≠ ' ' :: rest := by
  intro hline
  cases ws with
  | nil => cases hline
  | cons word more =>
    have hword := h word List.mem_cons_self
    obtain ⟨c, back, rfl⟩ := List.exists_cons_of_ne_nil hword.ne_nil
    have hc : c = ' ' := by
      by_cases hnil : more = []
      · rw [hnil, lineOf_singleton] at hline
        exact (List.cons.inj hline).1
      · rw [lineOf_cons _ hnil] at hline
        exact (List.cons.inj hline).1
    exact hword.ne_space_cons back (hc ▸ rfl)

/-- The only white space on a line are spaces. -/
theorem eq_space_of_mem_lineOf {ws : List (List Char)} (h : ∀ word ∈ ws, IsWord word) {c : Char}
    (hc : c ∈ lineOf ws) (hspace : isSpace c = true) : c = ' ' := by
  induction ws with
  | nil => cases hc
  | cons word more ih =>
    obtain ⟨hword, hmore⟩ := List.forall_mem_cons.mp h
    have hinside (hmem : c ∈ word) : c = ' ' :=
      Bool.noConfusion ((hword.solid c hmem).symm.trans hspace)
    by_cases hnil : more = []
    · rw [hnil, lineOf_singleton] at hc
      exact hinside hc
    · rw [lineOf_cons _ hnil] at hc
      rcases List.mem_append.mp hc with hmem | hmem
      · exact hinside hmem
      · rcases List.mem_cons.mp hmem with hmem | hmem
        · exact hmem
        · exact ih hmore hmem

/-- No two spaces of a line stand side by side: the second one would begin the line behind. -/
theorem lineOf_ne_two_spaces {ws : List (List Char)} (h : ∀ word ∈ ws, IsWord word)
    (front rest : List Char) : lineOf ws ≠ front ++ ' ' :: ' ' :: rest := by
  intro hline
  induction ws generalizing front with
  | nil => exact List.append_ne_nil_of_right_ne_nil front (List.cons_ne_nil ' ' _) hline.symm
  | cons word more ih =>
    obtain ⟨hword, hmore⟩ := List.forall_mem_cons.mp h
    by_cases hnil : more = []
    · rw [hnil, lineOf_singleton] at hline
      exact hword.space_not_mem (hline ▸ by simp)
    · rw [lineOf_cons _ hnil] at hline
      rcases eq_of_append_space hline with ⟨back, hfront, hback⟩ | ⟨back, -, hrest⟩
      · cases back with
        | nil => exact lineOf_ne_space_cons hmore rest (List.cons.inj hback).2.symm
        | cons c back =>
          obtain ⟨rfl, -⟩ := List.cons.inj hback
          exact hword.space_not_mem (hfront ▸ by simp)
      · exact ih hmore back hrest

/-- **There is no white space on a line but single spaces between other characters.** -/
theorem singleSpaced_lineOf {ws : List (List Char)} (h : ∀ word ∈ ws, IsWord word) :
    SingleSpaced (lineOf ws) := by
  refine ⟨fun c => eq_space_of_mem_lineOf h, lineOf_ne_space_cons h, fun front hline => ?_,
    lineOf_ne_two_spaces h⟩
  by_cases hnil : ws = []
  · rw [hnil] at hline
    exact List.append_ne_nil_of_right_ne_nil front (List.cons_ne_nil ' ' []) hline.symm
  · exact (endsSolid_lineOf h hnil).ne_concat hline

end Relay.Text
