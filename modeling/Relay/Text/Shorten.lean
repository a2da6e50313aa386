import Relay.Text.Alphanumeric
import Relay.Text.Slice
import Relay.Text.Space

/-!
# Shortening a text for display

A body that goes into a message is brought to one line of bounded width. This file fixes the rule:

* white space is collapsed first, and a text that then fits is kept whole;
* a longer one is cut at a *break*: the end of a word, or the place right after a hyphen between two
  letters or digits (`pieces`);
* the longest run of such units that leaves room for the mark is kept (`fit`), and the mark
  ` [...]` is added. When not even the first unit fits, the mark stands alone.

Widths count characters. Positions in a word count bytes: a piece is sliced from the word where its
span says, which can be done for every word (`slices_eq`).
-/

namespace Relay.Text

/-! ## 1. Where a word may be cut -/

/-- Whether a word may be cut right after `c`. -/
def breaksAfter (before : Option Char) (c : Char) (after : Option Char) : Bool :=
  c == '-' && before.any isAlphanumeric && after.any isAlphanumeric

/-- The spans of the pieces of a word from the piece that begins at `start`. What is left of the
word begins at `index`, behind the character `before`. -/
def spansAfter (start index : Nat) (before : Option Char) : List Char → List Span
  | [] => [⟨start, index⟩]
  | c :: rest =>
    let stop := index + c.utf8Size
    if breaksAfter before c rest.head? then ⟨start, stop⟩ :: spansAfter stop stop (some c) rest
    else spansAfter start stop (some c) rest

/-- The spans of a word that is cut after every hyphen between two letters or digits. The hyphen
stays with the piece on its left. -/
def spans (word : List Char) : List Span :=
  spansAfter 0 0 none word

/-- What stands in the spans of a word, or `none` if a character lies across the end of one. -/
def slices (word : List Char) : Option (List (List Char)) :=
  (spans word).mapM (slice word)

/-! ## 2. The pieces of a word -/

/-- Puts a character in front of the first piece. -/
def consFirst (c : Char) : List (List Char) → List (List Char)
  | [] => [[c]]
  | piece :: more => (c :: piece) :: more

/-- The pieces of the rest of a word, given the character before it: the cuts that the spans make,
told from the characters alone. -/
def piecesAfter (before : Option Char) : List Char → List (List Char)
  | [] => [[]]
  | c :: rest =>
    if breaksAfter before c rest.head? then [c] :: piecesAfter (some c) rest
    else consFirst c (piecesAfter (some c) rest)

theorem piecesAfter_ne_nil (before : Option Char) (word : List Char) :
    piecesAfter before word ≠ [] := by
  cases word with
  | nil => simp [piecesAfter]
  | cons c rest =>
    unfold piecesAfter
    split
    · simp
    · cases piecesAfter (some c) rest <;> simp [consFirst]

@[simp] theorem flatten_consFirst (c : Char) (ps : List (List Char)) :
    (consFirst c ps).flatten = c :: ps.flatten := by
  cases ps <;> simp [consFirst]

theorem flatten_piecesAfter (before : Option Char) (word : List Char) :
    (piecesAfter before word).flatten = word := by
  induction word generalizing before with
  | nil => rfl
  | cons c rest ih => unfold piecesAfter; split <;> simp [ih]

theorem modifyHead_nil_append (ps : List (List Char)) : ps.modifyHead ([] ++ ·) = ps := by
  cases ps <;> rfl

/-- What stands in front of the first piece takes a character from it. -/
theorem modifyHead_consFirst (front : List Char) (c : Char) {ps : List (List Char)} (h : ps ≠ []) :
    (consFirst c ps).modifyHead (front ++ ·) = ps.modifyHead (front ++ [c] ++ ·) := by
  obtain ⟨piece, more, rfl⟩ := List.exists_cons_of_ne_nil h
  simp [consFirst]

/-- **The spans are those of the pieces, end to end.** Of the piece that begins at `start`, `front`
has been read. -/
theorem spansAfter_eq_layout (start : Nat) (front : List Char) (before : Option Char)
    (rest : List Char) :
    spansAfter start (start + byteLength front) before rest =
      layout start ((piecesAfter before rest).modifyHead (front ++ ·)) := by
  induction rest generalizing start front before with
  | nil => simp [spansAfter, piecesAfter, layout]
  | cons c rest ih =>
    have hstop : start + byteLength front + c.utf8Size = start + byteLength (front ++ [c]) := by
      simp [Nat.add_assoc]
    rw [spansAfter, piecesAfter, hstop]
    split
    · -- the next piece begins behind `c`, with nothing read of it
      have hnext := ih (start + byteLength (front ++ [c])) [] (some c)
      rw [byteLength_nil, Nat.add_zero, modifyHead_nil_append] at hnext
      rw [List.modifyHead_cons, layout, hnext]
    · rw [ih start (front ++ [c]) (some c),
        modifyHead_consFirst front c (piecesAfter_ne_nil (some c) rest)]

theorem spans_eq_layout (word : List Char) : spans word = layout 0 (piecesAfter none word) := by
  have hspans := spansAfter_eq_layout 0 [] none word
  rwa [byteLength_nil, Nat.add_zero, modifyHead_nil_append] at hspans

/-- **No span of a word begins or ends inside a character**: the pieces stand in them. -/
theorem slices_eq (word : List Char) : slices word = some (piecesAfter none word) := by
  have hslices := mapM_slice_layout [] (piecesAfter none word)
  rwa [byteLength_nil, ← spans_eq_layout, List.nil_append, flatten_piecesAfter] at hslices

theorem isSome_slices (word : List Char) : (slices word).isSome = true := by
  rw [slices_eq, Option.isSome_some]

/-- The pieces of a word, sliced from it. -/
def pieces (word : List Char) : List (List Char) :=
  (slices word).get (isSome_slices word)

/-- The characters alone tell the pieces of a word. -/
theorem pieces_eq (word : List Char) : pieces word = piecesAfter none word := by
  simp only [pieces, slices_eq, Option.get_some]

/-- **The pieces of a word spell the word.** -/
theorem flatten_pieces (word : List Char) : (pieces word).flatten = word := by
  rw [pieces_eq, flatten_piecesAfter]

/-! ## 3. The units of a text -/

/-- The pieces of a word that follows another one: the first brings the space between them. -/
def laterPieces (word : List Char) : List (List Char) :=
  consFirst ' ' (pieces word)

/-- The units of a text, which may be kept or left out as a whole. -/
def units : List (List Char) → List (List Char)
  | [] => []
  | first :: later => pieces first ++ later.flatMap laterPieces

/-- The longest run of units from the start with at most `room` characters, joined. -/
def fit (room : Nat) : List (List Char) → List Char
  | [] => []
  | unit :: more =>
    if unit.length ≤ room then unit ++ fit (room - unit.length) more else []

theorem length_fit_le (room : Nat) (us : List (List Char)) : (fit room us).length ≤ room := by
  induction us generalizing room with
  | nil => simp [fit]
  | cons u us ih =>
    unfold fit
    split
    · have := ih (room - u.length)
      simp only [List.length_append]
      omega
    · simp

/-! ## 4. The rule -/

/-- The mark for what was left out. -/
def ellipsis : List Char := "[...]".toList

/-- A kept part with the mark after it. -/
def withEllipsis (kept : List Char) : List Char :=
  if kept.isEmpty then ellipsis else kept ++ ' ' :: ellipsis

/-- The text on one line of at most `width` characters, where the mark alone may be wider. -/
def shortenChars (text : List Char) (width : Nat) : List Char :=
  if (collapse text).length ≤ width then collapse text
  else withEllipsis (fit (width - 6) (units (words text)))

/-- A text shortened for display. -/
def shorten (text : String) (width : Nat) : String :=
  String.ofList (shortenChars text.toList width)

/-- Bodies are shown in messages with this width. -/
def snippetWidth : Nat := 50

end Relay.Text
