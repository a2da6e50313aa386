import Relay.Proofs.Text.Breaks

/-!
# Shortening a text

The rule for shortening a text, read off its line alone: a line that fits is kept whole, and of a
longer one the longest part that leaves room for the mark is kept (`shortenChars_of_cut`). Two
things follow:

* what is kept ends at a break, so with the mark behind it it is a line again
  (`exists_lineOf_shortenChars`), on which a second shortening finds the words of the first;
* the second shortening cuts where the first would have cut, had it been given the lesser width
  (`shorten_shorten`).
-/

namespace Relay.Text

/-! ## 1. The parts of the rule -/

section Rule

variable {text kept : List Char} {width : Nat}

theorem shortenChars_of_fits (h : (collapse text).length ≤ width) :
    shortenChars text width = collapse text := by
  rw [shortenChars, if_pos h]

theorem exists_shortenChars (h : width < (collapse text).length) :
    ∃ kept, LongestCut (collapse text) (width - 6) kept ∧
      shortenChars text width = withEllipsis kept :=
  ⟨_, longestCut_fit (fun _ => isWord_of_mem_words) (width - 6),
    if_neg (Nat.not_le_of_lt h)⟩

/-- **Of a line that does not fit, the longest part is kept that leaves room for the mark.** -/
theorem shortenChars_of_cut (h : width < (collapse text).length)
    (hcut : LongestCut (collapse text) (width - 6) kept) :
    shortenChars text width = withEllipsis kept := by
  obtain ⟨other, hother, hshort⟩ := exists_shortenChars h
  rw [hshort, hother.unique hcut]

/-- White space of a text does not count. -/
theorem shortenChars_collapse (text : List Char) (width : Nat) :
    shortenChars (collapse text) width = shortenChars text width := by
  have hwords : words (collapse text) = words text :=
    words_lineOf fun _ => isWord_of_mem_words
  rw [shortenChars, shortenChars, collapse_collapse, hwords]

end Rule

/-! ## 2. The mark behind what is kept -/

theorem isWord_ellipsis : IsWord ellipsis := by
  have hsolid : (ellipsis.all fun c => !isSpace c) = true := by decide
  exact ⟨by decide, by simpa only [List.all_eq_true, Bool.not_eq_true'] using hsolid⟩

theorem withEllipsis_of_ne_nil {kept : List Char} (h : kept ≠ []) :
    withEllipsis kept = kept ++ ' ' :: ellipsis := by
  rw [withEllipsis, List.isEmpty_eq_false_iff.mpr h, if_neg Bool.false_ne_true]

/-- The character in front of a break is no white space. -/
theorem IsBreak.endsSolid {before after : List Char} (h : IsBreak before after) :
    EndsSolid before := by
  rcases h with ⟨hsolid, -⟩ | ⟨front, rfl, -⟩
  · exact hsolid
  · exact ⟨'-', List.getLast?_concat, by decide⟩

/-- What is kept of a line, with the mark behind it, is a line. -/
theorem LongestCut.exists_lineOf {ws : List (List Char)} (h : ∀ word ∈ ws, IsWord word)
    {room : Nat} {kept : List Char} (hcut : LongestCut (lineOf ws) room kept) :
    ∃ us, (∀ word ∈ us, IsWord word) ∧ withEllipsis kept = lineOf us := by
  rcases hcut.cut with rfl | ⟨rest, hline, hbreak⟩
  · exact ⟨[ellipsis], by simpa using isWord_ellipsis, (lineOf_singleton ellipsis).symm⟩
  · obtain ⟨us, hne, hwords, rfl⟩ := eq_lineOf_of_front h hline hbreak.endsSolid
    refine ⟨us ++ [ellipsis], ?_, ?_⟩
    · intro word hmem
      rcases List.mem_append.mp hmem with hmem | hmem
      · exact hwords word hmem
      · exact List.mem_singleton.mp hmem ▸ isWord_ellipsis
    · rw [withEllipsis_of_ne_nil hbreak.endsSolid.ne_nil, lineOf_concat hne]

/-- **A shortened text is a line.** -/
theorem exists_lineOf_shortenChars (text : List Char) (width : Nat) :
    ∃ us, (∀ word ∈ us, IsWord word) ∧ shortenChars text width = lineOf us := by
  by_cases hfits : (collapse text).length ≤ width
  · exact ⟨words text, fun _ => isWord_of_mem_words, shortenChars_of_fits hfits⟩
  · obtain ⟨kept, hcut, hshort⟩ := exists_shortenChars (Nat.lt_of_not_le hfits)
    rw [hshort]
    exact hcut.exists_lineOf fun _ => isWord_of_mem_words

theorem collapse_shortenChars (text : List Char) (width : Nat) :
    collapse (shortenChars text width) = shortenChars text width := by
  obtain ⟨us, hwords, hline⟩ := exists_lineOf_shortenChars text width
  rw [hline, collapse_lineOf hwords]

theorem singleSpaced_shortenChars (text : List Char) (width : Nat) :
    SingleSpaced (shortenChars text width) := by
  obtain ⟨us, hwords, hline⟩ := exists_lineOf_shortenChars text width
  exact hline ▸ singleSpaced_lineOf hwords

/-- **A shortened text has the width it was given, or is the mark alone.** -/
theorem length_shortenChars_le (text : List Char) (width : Nat) :
    (shortenChars text width).length ≤ max width ellipsis.length := by
  by_cases hfits : (collapse text).length ≤ width
  · rw [shortenChars_of_fits hfits]
    exact Nat.le_trans hfits (Nat.le_max_left _ _)
  · obtain ⟨kept, hcut, hshort⟩ := exists_shortenChars (Nat.lt_of_not_le hfits)
    rw [hshort]
    by_cases hnil : kept = []
    · rw [hnil]
      exact Nat.le_max_right _ _
    · have hfits := hcut.fits
      have hkept := List.length_pos_iff.mpr hnil
      have hmark : (' ' :: ellipsis).length = 6 := rfl
      rw [withEllipsis_of_ne_nil hnil, List.length_append, hmark]
      omega

/-! ## 3. Shortening again -/

section Again

variable {text kept : List Char} {v w : Nat}

/-- A mark that stands alone stays as it is, and no lesser width would have kept more. -/
theorem shortenChars_ellipsis (h : v < (collapse text).length)
    (hcut : LongestCut (collapse text) (v - 6) []) :
    shortenChars ellipsis w = shortenChars text (min v w) := by
  have hline : collapse ellipsis = ellipsis := by
    rw [collapse_eq, words_of_isWord isWord_ellipsis, lineOf_singleton]
  have hless : shortenChars text (min v w) = ellipsis := by
    obtain ⟨other, hother, hshort⟩ :=
      exists_shortenChars (Nat.lt_of_le_of_lt (Nat.min_le_left v w) h)
    have hnil : other = [] := by
      have hroom : min v w - 6 ≤ v - 6 := by omega
      exact List.length_eq_zero_iff.mp (Nat.le_zero.mp (hcut.mono hroom hother))
    rw [hshort, hnil]
    rfl
  rw [hless]
  by_cases hfits : (collapse ellipsis).length ≤ w
  · rw [shortenChars_of_fits hfits, hline]
  · obtain ⟨other, hother, hshort⟩ := exists_shortenChars (Nat.lt_of_not_le hfits)
    have hmark : (collapse ellipsis).length = 5 := by rw [hline]; rfl
    have hnil : other = [] := List.length_eq_zero_iff.mp (by have := hother.fits; omega)
    rw [hshort, hnil]
    rfl

/-- A text that was cut is cut again where the lesser width would have cut it. -/
theorem shortenChars_withEllipsis (h : v < (collapse text).length)
    (hcut : LongestCut (collapse text) (v - 6) kept) :
    shortenChars (withEllipsis kept) w = shortenChars text (min v w) := by
  by_cases hnil : kept = []
  · subst hnil
    exact shortenChars_ellipsis h hcut
  · have hpos := List.length_pos_iff.mpr hnil
    have hroom := hcut.fits
    have hmin : min v w < (collapse text).length := by omega
    -- the line of what was cut is what was kept and the mark behind
    have hline : collapse (withEllipsis kept) = kept ++ ' ' :: ellipsis := by
      rw [← shortenChars_of_cut h hcut, collapse_shortenChars, shortenChars_of_cut h hcut,
        withEllipsis_of_ne_nil hnil]
    have hlength : (collapse (withEllipsis kept)).length = kept.length + 6 := by
      rw [hline, List.length_append]
      rfl
    by_cases hfits : kept.length + 6 ≤ w
    · rw [shortenChars_of_fits (hlength ▸ hfits), hline, ← withEllipsis_of_ne_nil hnil]
      exact (shortenChars_of_cut hmin (hcut.of_fits (by omega) (by omega))).symm
    · obtain ⟨less, hless, hshort⟩ := exists_shortenChars (hlength.symm ▸ Nat.lt_of_not_le hfits)
      obtain ⟨rest, hrest⟩ := hcut.isPrefix
      have hw : min v w = w := by omega
      rw [hline] at hless
      rw [hshort, hw]
      rw [hw] at hmin
      refine (shortenChars_of_cut hmin ?_).symm
      rw [← hrest]
      exact hless.congr (by omega)

theorem shortenChars_shortenChars (text : List Char) (v w : Nat) :
    shortenChars (shortenChars text v) w = shortenChars text (min v w) := by
  by_cases hfits : (collapse text).length ≤ v
  · rw [shortenChars_of_fits hfits, shortenChars_collapse]
    by_cases hless : (collapse text).length ≤ w
    · rw [shortenChars_of_fits hless, shortenChars_of_fits (Nat.le_min.mpr ⟨hfits, hless⟩)]
    · rw [Nat.min_eq_right (by omega)]
  · have hlong := Nat.lt_of_not_le hfits
    obtain ⟨kept, hcut, hshort⟩ := exists_shortenChars hlong
    rw [hshort]
    exact shortenChars_withEllipsis hlong hcut

end Again

/-- **Shortening twice is shortening once to the lesser width**, so shortening again to the same
width changes nothing. -/
theorem shorten_shorten (text : String) (v w : Nat) :
    shorten (shorten text v) w = shorten text (min v w) ∧
      shorten (shorten text w) w = shorten text w := by
  have htwice (v w : Nat) : shorten (shorten text v) w = shorten text (min v w) := by
    rw [shorten, shorten, shorten, String.toList_ofList, shortenChars_shortenChars]
  exact ⟨htwice v w, (htwice w w).trans (by rw [Nat.min_self])⟩

/-- What stands behind a hyphen goes first, then the rest of the word. -/
example :
    shorten "some well-known words" 18 = "some well- [...]" ∧
      shorten "some well- [...]" 15 = "some [...]" := by
  decide +kernel

end Relay.Text
