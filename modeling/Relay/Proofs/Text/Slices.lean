import Relay.Proofs.Text.Boundaries
import Relay.Proofs.Text.Breaks

/-!
# Slicing a word

The pieces of a word are taken from its bytes, so each has to begin and to end where a character
does. This file says

* where a text can be sliced: from one boundary to another, and nowhere else
  (`isSome_slice_iff`);
* where the spans of parts that lie end to end join (`joinAt_layout_iff`);
* what becomes of a word that is cut into pieces (`lossless_pieces`): nothing is lost, no piece is
  empty, and the cuts are the places behind a hyphen between two letters or digits.
-/

namespace Relay.Text

/-! ## 1. Boundaries -/

/-- Whether a text may be divided at a position: a character begins at this byte, or the text ends
in front of it. -/
def IsBoundary (text : List Char) (position : Nat) : Prop :=
  position ≤ byteLength text ∧ Utf8.StartsCharacter ((Utf8.encode text).drop position)

section Boundaries

variable {text front back : List Char} {position : Nat}

/-- **The boundaries of a text are where one part of it ends.** -/
theorem isBoundary_iff :
    IsBoundary text position ↔
      ∃ front back, text = front ++ back ∧ byteLength front = position := by
  constructor
  · rintro ⟨hle, hstarts⟩
    obtain ⟨front, back, htext, hfront, -⟩ :=
      Utf8.exists_of_encode_eq_append (List.take_append_drop position _).symm hstarts
    refine ⟨front, back, htext, ?_⟩
    rw [byteLength, ← hfront, List.length_take_of_le hle]
  · rintro ⟨front, back, rfl, rfl⟩
    refine ⟨by rw [byteLength_append]; exact Nat.le_add_right _ _, ?_⟩
    rw [Utf8.encode_append, byteLength, List.drop_left]
    exact Utf8.startsCharacter_encode back

/-- A text is divided at a position into the part of this many bytes and the rest. -/
theorem divideAt_eq_some_iff :
    divideAt position text = some (front, back) ↔
      text = front ++ back ∧ byteLength front = position := by
  constructor
  · intro h
    fun_induction divideAt position text generalizing front back with
    | case1 text =>
      cases h
      exact ⟨rfl, rfl⟩
    | case2 => cases h
    | case3 n c rest hsize ih =>
      obtain ⟨⟨more, behind⟩, hrest, hparts⟩ := Option.map_eq_some_iff.mp h
      cases hparts
      obtain ⟨rfl, hmore⟩ := ih hrest
      exact ⟨rfl, by rw [byteLength_cons]; omega⟩
    | case4 => cases h
  · rintro ⟨rfl, rfl⟩
    exact divideAt_byteLength front back

end Boundaries

/-! ## 2. Slices -/

/-- Whether a span begins and ends at boundaries of a text, in this order. -/
structure Span.Within (text : List Char) (span : Span) : Prop where
  ordered : span.start ≤ span.stop
  start : IsBoundary text span.start
  stop : IsBoundary text span.stop

section Slices

variable {text part : List Char} {span : Span}

/-- What is sliced from a text is the part of it that begins and ends where the span does. -/
theorem slice_eq_some_iff :
    slice text span = some part ↔ ∃ before after, text = before ++ part ++ after ∧
      span = ⟨byteLength before, byteLength (before ++ part)⟩ := by
  constructor
  · intro h
    obtain ⟨⟨front, after⟩, hfront, h⟩ := Option.bind_eq_some_iff.mp h
    obtain ⟨⟨before, other⟩, hbefore, h⟩ := Option.bind_eq_some_iff.mp h
    cases h
    obtain ⟨rfl, hstop⟩ := divideAt_eq_some_iff.mp hfront
    obtain ⟨rfl, hstart⟩ := divideAt_eq_some_iff.mp hbefore
    exact ⟨before, after, rfl, by rw [hstart, hstop]⟩
  · rintro ⟨before, after, rfl, rfl⟩
    exact slice_append before part after

/-- **A text can be sliced exactly from one of its boundaries to another.** -/
theorem isSome_slice_iff : (slice text span).isSome = true ↔ span.Within text := by
  rw [Option.isSome_iff_exists]
  constructor
  · rintro ⟨part, h⟩
    obtain ⟨before, after, rfl, rfl⟩ := slice_eq_some_iff.mp h
    refine ⟨by simp, isBoundary_iff.mpr ⟨before, part ++ after, by simp, rfl⟩,
      isBoundary_iff.mpr ⟨before ++ part, after, rfl, rfl⟩⟩
  · rintro ⟨hordered, hstart, hstop⟩
    obtain ⟨before, rest, htext, hbefore⟩ := isBoundary_iff.mp hstart
    obtain ⟨front, after, rfl, hfront⟩ := isBoundary_iff.mp hstop
    rcases List.append_eq_append_iff.mp htext with ⟨back, rfl, -⟩ | ⟨part, rfl, -⟩
    · -- there is no room between an end and a start behind it
      rw [byteLength_append] at hbefore
      have hempty : span.start = byteLength front := by omega
      refine ⟨[], slice_eq_some_iff.mpr ⟨front, after, by rw [List.append_nil], ?_⟩⟩
      rw [List.append_nil, hfront]
      exact congrArg (Span.mk · span.stop) (hempty.trans hfront)
    · exact ⟨part, slice_eq_some_iff.mpr ⟨before, after, rfl, by rw [hbefore, hfront]⟩⟩

end Slices

/-! ## 3. Parts end to end -/

/-- Whether one of these spans ends at a position and the next one begins there. -/
def JoinAt (spans : List Span) (position : Nat) : Prop :=
  ∃ front left right back, spans = front ++ left :: right :: back ∧
    left.stop = position ∧ right.start = position

section Layout

variable {start position : Nat} {parts : List (List Char)}

theorem layout_append (start : Nat) (us vs : List (List Char)) :
    layout start (us ++ vs) = layout start us ++ layout (start + byteLength us.flatten) vs := by
  induction us generalizing start with
  | nil => rfl
  | cons part more ih =>
    rw [List.cons_append, layout, layout, ih, List.flatten_cons, byteLength_append, Nat.add_assoc,
      List.cons_append]

/-- Where spans end to end are divided, so are the parts. -/
theorem exists_of_layout_eq_append {front back : List Span}
    (h : layout start parts = front ++ back) :
    ∃ us vs, parts = us ++ vs ∧ front = layout start us ∧
      back = layout (start + byteLength us.flatten) vs := by
  induction parts generalizing start front with
  | nil =>
    obtain ⟨rfl, rfl⟩ := List.append_eq_nil_iff.mp h.symm
    exact ⟨[], [], rfl, rfl, rfl⟩
  | cons part more ih =>
    rcases front with _ | ⟨span, front⟩
    · exact ⟨[], part :: more, rfl, rfl, h.symm⟩
    · obtain ⟨rfl, hmore⟩ := List.cons.inj h
      obtain ⟨us, vs, rfl, rfl, rfl⟩ := ih hmore
      exact ⟨part :: us, vs, rfl, rfl, by rw [List.flatten_cons, byteLength_append, Nat.add_assoc]⟩

/-- The spans of the parts of a text, end to end, are within the text. -/
theorem within_of_mem_layout {span : Span} (h : span ∈ layout 0 parts) :
    span.Within parts.flatten := by
  obtain ⟨front, back, hspans⟩ := List.append_of_mem h
  obtain ⟨us, vs, rfl, -, hback⟩ := exists_of_layout_eq_append hspans
  rcases vs with _ | ⟨part, more⟩
  · cases hback
  · obtain ⟨rfl, -⟩ := List.cons.inj hback
    refine isSome_slice_iff.mp (Option.isSome_iff_exists.mpr
      ⟨part, slice_eq_some_iff.mpr ⟨us.flatten, more.flatten, by simp, ?_⟩⟩)
    rw [Nat.zero_add, byteLength_append]

/-- **Spans end to end join where one part ends and another begins.** -/
theorem joinAt_layout_iff :
    JoinAt (layout start parts) position ↔ ∃ us vs, parts = us ++ vs ∧ us ≠ [] ∧ vs ≠ [] ∧
      start + byteLength us.flatten = position := by
  constructor
  · rintro ⟨front, left, right, back, hspans, rfl, -⟩
    obtain ⟨us, vs, rfl, -, hback⟩ := exists_of_layout_eq_append hspans
    rcases vs with _ | ⟨part, _ | ⟨next, more⟩⟩
    · cases hback
    · cases hback
    · obtain ⟨rfl, -⟩ := List.cons.inj hback
      exact ⟨us ++ [part], next :: more, by simp, by simp, by simp, by simp [Nat.add_assoc]⟩
  · rintro ⟨us, vs, rfl, hus, hvs, rfl⟩
    obtain ⟨next, more, rfl⟩ := List.exists_cons_of_ne_nil hvs
    rcases List.eq_nil_or_concat us with rfl | ⟨init, part, rfl⟩
    · exact absurd rfl hus
    · have hends : start + byteLength (init.concat part).flatten =
          start + byteLength init.flatten + byteLength part := by
        simp [Nat.add_assoc]
      rw [hends, List.concat_eq_append, List.append_assoc, layout_append]
      exact ⟨layout start init, _, _, _, rfl, rfl, rfl⟩

end Layout

/-! ## 4. The pieces of a word -/

/-- No piece of a word is empty, unless the word is. -/
theorem nil_notMem_piecesAfter (before : Option Char) {word : List Char} (h : word ≠ []) :
    [] ∉ piecesAfter before word := by
  induction word generalizing before with
  | nil => exact absurd rfl h
  | cons c rest ih =>
    rw [piecesAfter]
    split
    · rename_i hbreaks
      -- a letter or digit is still to come
      have hrest : rest ≠ [] := by
        rintro rfl
        simp [breaksAfter] at hbreaks
      simpa using ih (some c) hrest
    · by_cases hrest : rest = []
      · simp [hrest, piecesAfter, consFirst]
      · have hmore := ih (some c) hrest
        obtain ⟨piece, more, hpieces⟩ :=
          List.exists_cons_of_ne_nil (piecesAfter_ne_nil (some c) rest)
        rw [hpieces] at hmore ⊢
        simp only [consFirst, List.mem_cons, not_or] at hmore ⊢
        exact ⟨(List.cons_ne_nil c piece).symm, hmore.2⟩

theorem nil_notMem_pieces {word : List Char} (h : word ≠ []) : [] ∉ pieces word := by
  rw [pieces_eq]
  exact nil_notMem_piecesAfter none h

theorem pieces_nil : pieces [] = [[]] := rfl

/-- Behind a piece that is not the last, the word goes on. -/
theorem flatten_ne_nil_of_pieces {word : List Char} {us vs : List (List Char)}
    (h : pieces word = us ++ vs) (hus : us ≠ []) (hvs : vs ≠ []) : vs.flatten ≠ [] := by
  intro hnil
  obtain ⟨next, more, rfl⟩ := List.exists_cons_of_ne_nil hvs
  obtain rfl : next = [] := (List.append_eq_nil_iff.mp hnil).1
  -- only the empty word has an empty piece, and it has no other
  have hempty : word = [] := by
    by_contra hne
    exact nil_notMem_pieces hne (h ▸ by simp)
  have hlength := congrArg List.length h
  rw [hempty, pieces_nil, List.length_append] at hlength
  have hpos := List.length_pos_iff.mpr hus
  simp only [List.length_cons, List.length_nil] at hlength
  omega

/-- A part that ends in such a hyphen ends in it and the character in front of it. -/
theorem endsInHyphen_iff {before after : List Char} :
    EndsInHyphen before after ↔ ∃ front c d back, before = front ++ [c, '-'] ∧ after = d :: back ∧
      isAlphanumeric c = true ∧ isAlphanumeric d = true := by
  constructor
  · rintro ⟨init, rfl, hinit, hafter⟩
    rcases List.eq_nil_or_concat init with rfl | ⟨front, c, rfl⟩
    · cases hinit
    · rcases after with _ | ⟨d, back⟩
      · cases hafter
      · exact ⟨front, c, d, back, by simp, rfl, by simpa using hinit, hafter⟩
  · rintro ⟨front, c, d, back, rfl, rfl, hc, hd⟩
    exact ⟨front ++ [c], by simp, by simpa using hc, hd⟩

/-- The spans of a word join where it is cut. -/
theorem joinAt_spans_iff {word : List Char} {position : Nat} :
    JoinAt (spans word) position ↔ ∃ before after, word = before ++ after ∧
      EndsInHyphen before after ∧ byteLength before = position := by
  rw [spans_eq_layout, ← pieces_eq, joinAt_layout_iff]
  constructor
  · rintro ⟨us, vs, hpieces, hus, hvs, rfl⟩
    obtain ⟨hword, hends⟩ := meet_pieces_iff.mp ⟨us, vs, hpieces, hus, rfl, rfl⟩
    have hrest := flatten_ne_nil_of_pieces hpieces hus hvs
    exact ⟨us.flatten, vs.flatten, hword, hends.resolve_left hrest, (Nat.zero_add _).symm⟩
  · rintro ⟨before, after, hword, hends, rfl⟩
    obtain ⟨us, vs, hpieces, hus, rfl, rfl⟩ := meet_pieces_iff.mpr ⟨hword, .inr hends⟩
    refine ⟨us, vs, hpieces, hus, ?_, Nat.zero_add _⟩
    rintro rfl
    obtain ⟨-, -, -, hnone⟩ := hends
    cases hnone

/-- **A word is cut into pieces without loss.** Each of its slices begins and ends at a boundary, so
that slicing it succeeds; the pieces spell the word, and are not empty unless it is; and one piece
ends and the next begins exactly behind the hyphens between two letters or digits. -/
theorem lossless_pieces (word : List Char) :
    (∀ span ∈ spans word, span.Within word) ∧ slices word = some (pieces word) ∧
      (pieces word).flatten = word ∧ (word ≠ [] → [] ∉ pieces word) ∧
      ∀ position, JoinAt (spans word) position ↔ ∃ front c d back,
        word = front ++ [c, '-'] ++ d :: back ∧ isAlphanumeric c = true ∧
          isAlphanumeric d = true ∧ byteLength (front ++ [c, '-']) = position := by
  refine ⟨fun span hspan => ?_, (Option.some_get _).symm, flatten_pieces word, nil_notMem_pieces,
    fun position => ?_⟩
  · rw [spans_eq_layout, ← pieces_eq] at hspan
    exact flatten_pieces word ▸ within_of_mem_layout hspan
  · rw [joinAt_spans_iff]
    constructor
    · rintro ⟨before, after, rfl, hends, hposition⟩
      obtain ⟨front, c, d, back, rfl, rfl, hc, hd⟩ := endsInHyphen_iff.mp hends
      exact ⟨front, c, d, back, rfl, hc, hd, hposition⟩
    · rintro ⟨front, c, d, back, hword, hc, hd, hposition⟩
      exact ⟨_, _, hword, endsInHyphen_iff.mpr ⟨front, c, d, back, rfl, rfl, hc, hd⟩, hposition⟩

/-- Letters of two bytes on both sides of a hyphen; behind the last hyphen there is none. -/
theorem lossless_pieces_accented :
    let word := "é-ß-1-".toList
    spans word = [⟨0, 3⟩, ⟨3, 6⟩, ⟨6, 8⟩] ∧ Span.Within word ⟨3, 6⟩ ∧ [] ∉ pieces word ∧
      JoinAt (spans word) 6 := by
  intro word
  obtain ⟨hwithin, -, -, hsolid, hjoin⟩ := lossless_pieces word
  have hspans : spans word = [⟨0, 3⟩, ⟨3, 6⟩, ⟨6, 8⟩] := by decide +kernel
  have hlast : JoinAt (spans word) 6 :=
    (hjoin 6).mpr ⟨['é', '-'], 'ß', '1', ['-'], by decide +kernel, by decide +kernel,
      by decide +kernel, by decide +kernel⟩
  exact ⟨hspans, hwithin ⟨3, 6⟩ (by simp [hspans]), hsolid (by decide +kernel), hlast⟩

end Relay.Text
