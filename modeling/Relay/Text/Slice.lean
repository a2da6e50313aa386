import Relay.Text.Utf8

/-!
# Slices

A position in a text counts the bytes in front of it. This file fixes

* `divideAt`: a text is divided at a position, unless a character lies across it or the text ends
  before it;
* `slice`: the part of a text in a span, which has to begin and to end at such a position;
* `layout`: the spans of parts that lie end to end. Slicing there gives the parts back
  (`mapM_slice_layout`).
-/

namespace Relay.Text

/-! ## 1. Positions -/

/-- The number of bytes of a text. -/
def byteLength (text : List Char) : Nat :=
  (Utf8.encode text).length

@[simp] theorem byteLength_nil : byteLength [] = 0 := rfl

@[simp] theorem byteLength_cons (c : Char) (text : List Char) :
    byteLength (c :: text) = c.utf8Size + byteLength text := by
  rw [byteLength, Utf8.encode_cons, List.length_append, String.length_utf8EncodeChar, byteLength]

@[simp] theorem byteLength_append (s t : List Char) :
    byteLength (s ++ t) = byteLength s + byteLength t := by
  rw [byteLength, Utf8.encode_append, List.length_append, byteLength, byteLength]

/-- The parts of a text in front of a position and behind it, or `none` when a character lies across
the position or the text ends before it. -/
def divideAt : Nat → List Char → Option (List Char × List Char)
  | 0, text => some ([], text)
  | _ + 1, [] => none
  | n + 1, c :: rest =>
    if c.utf8Size ≤ n + 1 then
      (divideAt (n + 1 - c.utf8Size) rest).map fun (front, back) => (c :: front, back)
    else none

/-- A text can be divided where one part of it ends. -/
theorem divideAt_byteLength (front back : List Char) :
    divideAt (byteLength front) (front ++ back) = some (front, back) := by
  induction front with
  | nil => rw [byteLength_nil, List.nil_append, divideAt]
  | cons c more ih =>
    obtain ⟨n, hn⟩ := Nat.exists_eq_add_one.mpr c.utf8Size_pos
    have hsize : byteLength (c :: more) = n + byteLength more + 1 := by
      rw [byteLength_cons]
      omega
    have hrest : n + byteLength more + 1 - c.utf8Size = byteLength more := by omega
    rw [hsize, List.cons_append, divideAt, if_pos (by omega), hrest, ih]
    rfl

/-! ## 2. Slices -/

/-- A part of a text, from one position to another. -/
structure Span where
  start : Nat
  stop : Nat
  deriving Repr, DecidableEq

/-- The part of a text that stands in a span, or `none` when the text cannot be divided at both ends
of the span or these are out of order. -/
def slice (text : List Char) (span : Span) : Option (List Char) := do
  let (front, _) ← divideAt span.stop text
  let (_, part) ← divideAt span.start front
  return part

/-- A part of a text is sliced by what stands in front of it and by its own length. -/
theorem slice_append (before part after : List Char) :
    slice (before ++ part ++ after) ⟨byteLength before, byteLength (before ++ part)⟩ =
      some part := by
  simp only [slice, divideAt_byteLength, Option.bind_eq_bind, Option.bind_some, Option.pure_def]

/-! ## 3. Parts end to end -/

/-- The spans of parts that lie end to end, the first of them at `start`. -/
def layout (start : Nat) : List (List Char) → List Span
  | [] => []
  | part :: more => ⟨start, start + byteLength part⟩ :: layout (start + byteLength part) more

/-- **A text is sliced into the parts that it was made of.** -/
theorem mapM_slice_layout (before : List Char) (parts : List (List Char)) :
    (layout (byteLength before) parts).mapM (slice (before ++ parts.flatten)) = some parts := by
  induction parts generalizing before with
  | nil => rfl
  | cons part more ih =>
    rw [layout, ← byteLength_append, List.flatten_cons, ← List.append_assoc, List.mapM_cons,
      slice_append, ih (before ++ part)]
    rfl

end Relay.Text
