import Mathlib.Data.List.Forall2
import Mathlib.Logic.Relation
import Relay.Proofs.Frame.Texts

/-!
# White space around lines

White space around a line says nothing. Of what a line carries, `decodeFrame_between` says that it
is left as it is by white space on both sides, and that a line that is no text does not become one.

For a body, `Respacing` lists the changes that put white space around one line of it; a carriage
return in front of a newline is one of them. They leave the lines in their order and only pad them
(`forall₂_isPadded`), and lines that are padded carry the same chunks and fail at the same place
(`carryAlike_of_padded`).
-/

namespace Relay

open Text (isBlank isBlank_append)
open Text.Utf8 (encode IsText)

/-! ## 1. One line -/

/-- White space around the text of a line says nothing. -/
theorem decodeLine_between {before after : List Char} (hbefore : isBlank before = true)
    (hafter : isBlank after = true) (text : List Char) :
    decodeLine (before ++ text ++ after) = decodeLine text := by
  simp only [decodeLine, Text.trim_append_blank hafter, Text.trim_blank_append hbefore]

/-- **White space around a line says nothing**, if the line is a text. -/
theorem decodeFrame_between {before after : List Char} (hbefore : isBlank before = true)
    (hafter : isBlank after = true) {line : List UInt8} (h : IsText line) :
    decodeFrame (encode before ++ line ++ encode after) = decodeFrame line := by
  obtain ⟨text, rfl⟩ := h
  rw [← Text.Utf8.encode_append, ← Text.Utf8.encode_append, decodeFrame_encode, decodeFrame_encode,
    decodeLine_between hbefore hafter]

/-- No text around a line makes it one. -/
theorem decodeFrame_between_of_not_isText (before after : List Char) {line : List UInt8}
    (h : ¬IsText line) :
    ∃ cause, decodeFrame (encode before ++ line ++ encode after) = .error (.decode cause) :=
  decodeFrame_of_not_isText fun hwhole => h ((Text.Utf8.isText_between_iff before after).mp hwhole)

namespace Frame

/-! ## 2. Lines that are padded -/

/-- Whether bytes are those of a line with white space around it. -/
def IsPadded (line padded : List UInt8) : Prop :=
  ∃ before after, isBlank before = true ∧ isBlank after = true ∧
    padded = encode before ++ line ++ encode after

instance : Std.Refl IsPadded where
  refl _ := ⟨[], [], rfl, rfl, by simp⟩

instance : IsTrans (List UInt8) IsPadded where
  trans line _ _ := by
    rintro ⟨before, after, hbefore, hafter, rfl⟩ ⟨front, behind, hfront, hbehind, rfl⟩
    refine ⟨front ++ before, after ++ behind, isBlank_append hfront hbefore,
      isBlank_append hafter hbehind, ?_⟩
    simp only [Text.Utf8.encode_append, List.append_assoc]

/-- That this line is the first that cannot be decoded, at this place, and what is wrong with it. -/
inductive FailsAt : List (List UInt8) → Nat → List UInt8 → Error → Prop where
  | here {line more e} (h : decodeFrame line = .error e) : FailsAt (line :: more) 0 line e
  | later {earlier more index line e carried} (h : decodeFrame earlier = .ok carried)
    (hmore : FailsAt more index line e) : FailsAt (earlier :: more) (index + 1) line e

/-- Whether lines and others fail alike: none of them fails, or the first to fail has the same place
here and there. Its error is the same if it is a text. -/
inductive FailAlike (lines others : List (List UInt8)) : Option Error → Option Error → Prop where
  | never : FailAlike lines others none none
  | sameLine {index line other cause otherCause} (hline : FailsAt lines index line (.decode cause))
    (hother : FailsAt others index other (.decode otherCause))
    (hsame : IsText line → cause = otherCause) :
    FailAlike lines others (some (.decode cause)) (some (.decode otherCause))

/-- Whether lines and others carry the same chunks, and fail alike. -/
structure CarryAlike (lines others : List (List UInt8)) : Prop where
  chunks : chunksOf others = chunksOf lines
  failure : FailAlike lines others (failureOf lines) (failureOf others)

section CarryAlike

variable {lines others : List (List UInt8)} {line other : List UInt8}

/-- Lines that both cannot be decoded. -/
theorem CarryAlike.of_failed {cause otherCause : DecodeCause}
    (hline : decodeFrame line = .error (.decode cause))
    (hother : decodeFrame other = .error (.decode otherCause))
    (hsame : IsText line → cause = otherCause) :
    CarryAlike (line :: lines) (other :: others) := by
  obtain ⟨hchunks, hfailure⟩ := Prod.mk.inj (carried_of_failure lines hline)
  obtain ⟨hothers, hotherFailure⟩ := Prod.mk.inj (carried_of_failure others hother)
  refine ⟨hothers.trans hchunks.symm, ?_⟩
  rw [hfailure, hotherFailure]
  exact .sameLine (.here hline) (.here hother) hsame

/-- Lines that can be decoded put the failure off. -/
theorem FailAlike.later {failure otherFailure : Option Error}
    (h : FailAlike lines others failure otherFailure) {decoded otherDecoded : Option Chunk}
    (hline : decodeFrame line = .ok decoded) (hother : decodeFrame other = .ok otherDecoded) :
    FailAlike (line :: lines) (other :: others) failure otherFailure := by
  cases h with
  | never => exact .never
  | sameLine hfails hfailsOther hsame =>
    exact .sameLine (.later hline hfails) (.later hother hfailsOther) hsame

/-- Lines that carry the same leave what the lines behind them carry alike. -/
theorem CarryAlike.of_decoded {decoded : Option Chunk} (hline : decodeFrame line = .ok decoded)
    (hother : decodeFrame other = .ok decoded) (h : CarryAlike lines others) :
    CarryAlike (line :: lines) (other :: others) := by
  have hlater := h.failure.later hline hother
  cases decoded with
  | none =>
    obtain ⟨hchunks, hfailure⟩ := Prod.mk.inj (carried_of_noise lines hline)
    obtain ⟨hothers, hotherFailure⟩ := Prod.mk.inj (carried_of_noise others hother)
    refine ⟨?_, ?_⟩
    · rw [hothers, h.chunks, hchunks]
    · rwa [hfailure, hotherFailure]
  | some chunk =>
    obtain ⟨hchunks, hfailure⟩ := Prod.mk.inj (carried_of_chunk lines hline)
    obtain ⟨hothers, hotherFailure⟩ := Prod.mk.inj (carried_of_chunk others hother)
    refine ⟨?_, ?_⟩
    · rw [hothers, hchunks]
      exact congrArg _ h.chunks
    · rwa [hfailure, hotherFailure]

/-- **Lines that are padded carry the same chunks, and fail at the same place.** -/
theorem carryAlike_of_padded (h : List.Forall₂ IsPadded lines others) :
    CarryAlike lines others := by
  induction h with
  | nil => exact ⟨rfl, .never⟩
  | @cons line other lines others hpadded hmore ih =>
    obtain ⟨before, after, hbefore, hafter, rfl⟩ := hpadded
    by_cases htext : IsText line
    · have hsame := decodeFrame_between hbefore hafter htext
      cases hline : decodeFrame line with
      | ok decoded => exact .of_decoded hline (hsame.trans hline) ih
      | error e =>
        obtain ⟨cause, rfl⟩ := decode_of_decodeFrame hline
        exact .of_failed hline (hsame.trans hline) fun _ => rfl
    · obtain ⟨cause, hline⟩ := decodeFrame_of_not_isText htext
      obtain ⟨otherCause, hother⟩ := decodeFrame_between_of_not_isText before after htext
      exact .of_failed hline hother fun h => absurd h htext

end CarryAlike

/-! ## 3. The lines of a complete body -/

/-- An empty line at the end carries nothing. -/
theorem carried_append_empty (lines : List (List UInt8)) :
    carried (lines ++ [[]]) = carried lines := by
  induction lines with
  | nil => exact carried_of_noise [] decodeFrame_nil
  | cons line more ih =>
    rw [List.cons_append]
    cases hline : decodeFrame line with
    | error e => rw [carried_of_failure _ hline, carried_of_failure _ hline]
    | ok decoded =>
      cases decoded with
      | none => rw [carried_of_noise _ hline, carried_of_noise _ hline, ih]
      | some chunk => rw [carried_of_chunk _ hline, carried_of_chunk _ hline, ih]

/-- It is not the line that fails. -/
theorem FailsAt.of_append_empty {lines : List (List UInt8)} {index : Nat} {line : List UInt8}
    {e : Error} (h : FailsAt (lines ++ [[]]) index line e) : FailsAt lines index line e := by
  induction lines generalizing index with
  | nil =>
    cases h with
    | here h => cases decodeFrame_nil.symm.trans h
    | later _ hmore => cases hmore
  | cons first more ih =>
    cases h with
    | here h => exact .here h
    | later h hmore => exact .later h (ih hmore)

section Segments

variable {segments others : List (List UInt8)}

/-- The lines of a complete body carry what all its parts carry. -/
theorem carried_linesOf (h : segments ≠ []) :
    carried (linesOf .complete segments) = carried segments := by
  rcases linesOf_complete h with heq | heq
  · rw [← heq]
  · conv => rhs; rw [heq]
    exact (carried_append_empty _).symm

theorem FailsAt.linesOf {index : Nat} {line : List UInt8} {e : Error}
    (h : FailsAt segments index line e) : FailsAt (linesOf .complete segments) index line e := by
  have hne : segments ≠ [] := by
    rintro rfl
    cases h
  rcases linesOf_complete hne with heq | heq
  · exact heq ▸ h
  · rw [heq] at h
    exact h.of_append_empty

theorem CarryAlike.linesOf (h : CarryAlike segments others) (hsegments : segments ≠ [])
    (hothers : others ≠ []) : CarryAlike (linesOf .complete segments) (linesOf .complete others) := by
  obtain ⟨hchunks, hfailure⟩ := Prod.mk.inj (carried_linesOf hsegments)
  obtain ⟨hchunks', hfailure'⟩ := Prod.mk.inj (carried_linesOf hothers)
  refine ⟨by rw [hchunks, hchunks', h.chunks], ?_⟩
  rw [hfailure, hfailure']
  obtain ⟨-, hfail⟩ := h
  generalize failureOf segments = failure at hfail
  generalize failureOf others = otherFailure at hfail
  cases hfail with
  | never => exact .never
  | sameLine hline hother hsame => exact .sameLine hline.linesOf hother.linesOf hsame

end Segments

/-! ## 4. Changes of white space -/

/-- White space that ends no line. -/
structure IsInlineSpace (space : List Char) : Prop where
  blank : isBlank space = true
  inline : '\n' ∉ space

/-- One change of the white space around the lines of a body. -/
inductive Respacing : List UInt8 → List UInt8 → Prop where
  /-- A carriage return is put in front of a newline. -/
  | lineEnd (front rest : List UInt8) :
    Respacing (front ++ newline :: rest) (front ++ 0x0D :: newline :: rest)
  /-- White space is put in front of a line: at the start of the body, or behind a newline. -/
  | before {space : List Char} (hspace : IsInlineSpace space) (front rest : List UInt8)
    (hfront : ∀ b ∈ front.getLast?, b = newline) :
    Respacing (front ++ rest) (front ++ encode space ++ rest)
  /-- White space is put behind a line: in front of a newline, or at the end of the body. -/
  | after {space : List Char} (hspace : IsInlineSpace space) (front rest : List UInt8)
    (hrest : ∀ b ∈ rest.head?, b = newline) :
    Respacing (front ++ rest) (front ++ encode space ++ rest)

/-- What is done to the first parts alike leaves them alike. -/
theorem forall₂_modifyHead {α : Type} {R : α → α → Prop} {f : α → α} {s t : List α}
    (hf : ∀ x y, R x y → R (f x) (f y)) (h : List.Forall₂ R s t) :
    List.Forall₂ R (s.modifyHead f) (t.modifyHead f) := by
  cases h with
  | nil => exact .nil
  | cons hfirst hmore => exact .cons (hf _ _ hfirst) hmore

section Space

variable {space : List Char} (hspace : IsInlineSpace space)

include hspace

theorem newline_not_mem_space : newline ∉ encode space := fun hmem =>
  hspace.inline (Text.Utf8.newline_mem_encode hmem)

/-- White space at the start of bytes pads the first line. -/
theorem forall₂_space_append (rest : List UInt8) :
    List.Forall₂ IsPadded (rest.splitOn newline) ((encode space ++ rest).splitOn newline) := by
  obtain ⟨first, more, hsplit⟩ := List.exists_cons_of_ne_nil (List.splitOn_ne_nil newline rest)
  rw [Text.Utf8.splitOn_append (newline_not_mem_space hspace), hsplit]
  exact .cons ⟨space, [], hspace.blank, rfl, by simp⟩ (List.forall₂_refl more)

/-- White space at the end of bytes pads the last line. -/
theorem forall₂_append_space (front : List UInt8) :
    List.Forall₂ IsPadded (front.splitOn newline) ((front ++ encode space).splitOn newline) := by
  -- the lines in front stay as they are, and so does the last up to its end
  have htrailed : List.Forall₂ (fun line other => ∃ after, isBlank after = true ∧
      other = line ++ encode after) (front.splitOn newline)
      ((front ++ encode space).splitOn newline) := by
    induction front with
    | nil =>
      rw [List.nil_append, List.splitOn_eq_singleton (newline_not_mem_space hspace)]
      exact .cons ⟨space, hspace.blank, rfl⟩ .nil
    | cons b more ih =>
      rw [List.cons_append, List.splitOn_cons_eq_if_modifyHead,
        List.splitOn_cons_eq_if_modifyHead]
      split
      · exact .cons ⟨[], rfl, by simp⟩ ih
      · refine forall₂_modifyHead (fun line other hother => ?_) ih
        obtain ⟨after, hafter, rfl⟩ := hother
        exact ⟨after, hafter, rfl⟩
  refine htrailed.imp fun line other hother => ?_
  obtain ⟨after, hafter, rfl⟩ := hother
  exact ⟨[], after, rfl, hafter, by simp⟩

end Space

/-- **A change of white space pads lines, and leaves them in their order.** -/
theorem Respacing.forall₂_isPadded {bytes other : List UInt8} (h : Respacing bytes other) :
    List.Forall₂ IsPadded (bytes.splitOn newline) (other.splitOn newline) := by
  have hafter {space : List Char} (hspace : IsInlineSpace space) (front rest : List UInt8) :
      List.Forall₂ IsPadded ((front ++ newline :: rest).splitOn newline)
        ((front ++ encode space ++ newline :: rest).splitOn newline) := by
    rw [splitOn_append_newline, splitOn_append_newline]
    exact List.rel_append (forall₂_append_space hspace front) (List.forall₂_refl _)
  cases h with
  | lineEnd front rest =>
    have hreturn : IsInlineSpace ['\r'] := ⟨by decide, by decide⟩
    have hpadded := hafter hreturn front rest
    rwa [List.append_assoc] at hpadded
  | @before space hspace front rest hfront =>
    rcases List.eq_nil_or_concat' front with rfl | ⟨front, last, rfl⟩
    · exact forall₂_space_append hspace rest
    · obtain rfl : last = newline := hfront last (by simp)
      simp only [List.append_assoc, List.cons_append, List.nil_append]
      rw [splitOn_append_newline, splitOn_append_newline front (encode space ++ rest)]
      exact List.rel_append (List.forall₂_refl _) (forall₂_space_append hspace rest)
  | @after space hspace front rest hrest =>
    cases rest with
    | nil => simpa using forall₂_append_space hspace front
    | cons b rest =>
      obtain rfl : b = newline := hrest b rfl
      exact hafter hspace front rest

theorem forall₂_trans {α : Type} {R : α → α → Prop} [IsTrans α R] {s t u : List α}
    (h : List.Forall₂ R s t) (hmore : List.Forall₂ R t u) : List.Forall₂ R s u := by
  induction h generalizing u with
  | nil => exact hmore
  | cons hfirst _ ih =>
    cases hmore with
    | cons hsecond hrest => exact .cons (Trans.trans hfirst hsecond) (ih hrest)

/-- So do any number of changes. -/
theorem forall₂_isPadded {bytes other : List UInt8}
    (h : Relation.ReflTransGen Respacing bytes other) :
    List.Forall₂ IsPadded (bytes.splitOn newline) (other.splitOn newline) := by
  induction h with
  | refl => exact List.forall₂_refl _
  | tail _ hlast ih => exact forall₂_trans ih hlast.forall₂_isPadded

/-- **White space around its lines leaves what a body carries as it is.** -/
theorem carryAlike_of_respaced {body other : Http.Body} (hcomplete : body.ending = .complete)
    (hother : other.ending = .complete)
    (h : Relation.ReflTransGen Respacing body.bytes other.bytes) :
    CarryAlike (lines body) (lines other) := by
  rw [lines, lines, hcomplete, hother]
  exact (carryAlike_of_padded (forall₂_isPadded h)).linesOf (List.splitOn_ne_nil _ _)
    (List.splitOn_ne_nil _ _)

end Frame

end Relay
