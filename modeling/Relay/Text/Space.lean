/-!
# White space

This file fixes which characters separate words, and the three operations on text that rest on it:

* `isSpace` is the `White_Space` property of the Unicode character database (25 characters);
* `trim` drops white space from both ends;
* `words` cuts a text into its maximal runs of other characters.

Text is handled as a list of characters; `String` appears only where a module meets the outside.
-/

namespace Relay.Text

/-! ## 1. The class -/

/-- The characters with the property `White_Space`. -/
def isSpace (c : Char) : Bool :=
  let n := c.toNat
  (0x09 ≤ n && n ≤ 0x0D) || n == 0x20 || n == 0x85 || n == 0xA0 || n == 0x1680 ||
    (0x2000 ≤ n && n ≤ 0x200A) || n == 0x2028 || n == 0x2029 || n == 0x202F || n == 0x205F ||
    n == 0x3000

/-- Every character that core calls white space is in the class. -/
theorem isSpace_of_isWhitespace {c : Char} (h : c.isWhitespace = true) : isSpace c = true := by
  simp only [Char.isWhitespace, Bool.or_eq_true, decide_eq_true_eq] at h
  rcases h with ((h | h) | h) | h <;> subst h <;> decide

/-! ## 2. Trimming -/

/-- The text without white space at its start. -/
def trimStart (text : List Char) : List Char :=
  text.dropWhile isSpace

/-- The text without white space at its end. -/
def trimEnd (text : List Char) : List Char :=
  (text.reverse.dropWhile isSpace).reverse

/-- The text without white space at either end. -/
def trim (text : List Char) : List Char :=
  trimEnd (trimStart text)

/-- A text is blank when it holds nothing but white space. -/
def isBlank (text : List Char) : Bool :=
  text.all isSpace

/-! ## 3. Words -/

/-- The maximal runs of characters that are not white space, in order. -/
def words (text : List Char) : List (List Char) :=
  (text.splitOnP isSpace).filter (fun word => !word.isEmpty)

/-- The words joined by single spaces. -/
def collapse (text : List Char) : List Char :=
  [' '].intercalate (words text)

end Relay.Text
