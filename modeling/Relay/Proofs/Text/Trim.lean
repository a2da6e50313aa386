import Mathlib.Data.List.TakeWhile
import Relay.Text.Space

/-!
# Trimming

Trimming takes away the white space at both ends of a text (`trim_blank_append`,
`trim_append_blank`) and nothing else: a text that neither begins nor ends in white space stays as
it is (`trim_eq_self`).
-/

namespace Relay.Text

variable {blank text : List Char}

theorem isBlank_iff : isBlank text = true ↔ ∀ c ∈ text, isSpace c = true :=
  List.all_eq_true

theorem isBlank_append {s t : List Char} (hs : isBlank s = true) (ht : isBlank t = true) :
    isBlank (s ++ t) = true := by
  rw [isBlank, List.all_append, Bool.and_eq_true]
  exact ⟨hs, ht⟩

/-- White space in front of a text is trimmed. -/
theorem trim_blank_append (h : isBlank blank = true) (text : List Char) :
    trim (blank ++ text) = trim text := by
  rw [trim, trimStart, List.dropWhile_append_of_pos (isBlank_iff.mp h)]
  rfl

theorem trimEnd_append_blank (h : isBlank blank = true) (text : List Char) :
    trimEnd (text ++ blank) = trimEnd text := by
  rw [trimEnd, List.reverse_append, List.dropWhile_append_of_pos]
  · rfl
  · exact fun c hc => isBlank_iff.mp h c (List.mem_reverse.mp hc)

/-- White space behind a text is trimmed. -/
theorem trim_append_blank (h : isBlank blank = true) (text : List Char) :
    trim (text ++ blank) = trim text := by
  have hnone : trimStart blank = [] := List.dropWhile_eq_nil_iff.mpr (isBlank_iff.mp h)
  rw [trim, trim, trimStart, List.dropWhile_append]
  split
  · -- the text is blank, too, and nothing of it is left
    rename_i hempty
    rw [show trimStart text = [] from List.isEmpty_iff.mp hempty]
    exact congrArg trimEnd hnone
  · exact trimEnd_append_blank h _

theorem dropWhile_eq_self (h : ∀ c ∈ text.head?, isSpace c = false) :
    text.dropWhile isSpace = text := by
  cases text with
  | nil => rfl
  | cons c more => rw [List.dropWhile_cons_of_neg (by simp [h c rfl])]

/-- **A text that neither begins nor ends in white space stays as it is.** -/
theorem trim_eq_self (hfirst : ∀ c ∈ text.head?, isSpace c = false)
    (hlast : ∀ c ∈ text.getLast?, isSpace c = false) : trim text = text := by
  rw [trim, trimStart, dropWhile_eq_self hfirst, trimEnd,
    dropWhile_eq_self (by rwa [List.head?_reverse]), List.reverse_reverse]

end Relay.Text
