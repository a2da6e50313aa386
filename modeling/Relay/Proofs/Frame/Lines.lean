import Relay.Frame.Reader

/-!
# The lines of a body

A reader goes through a body as it arrives, piece by piece. This file says what it comes to without
pieces and without a reader:

* `lines` are what stands between the newlines of ALL bytes of a body;
* `chunksOf` and `failureOf` are what lines carry in front of the first that cannot be decoded, and
  what is wrong with that one;
* `Reader.lines` are the lines that a reader has yet to go through, the begun one among them, and
  `leadsTo_next` says for each answer of `Reader.next` what it tells of them.
-/

namespace Relay.Frame

open Http (Body Ending)

/-! ## 1. Lines -/

/-- The segments of bytes between newlines. The first of them goes on with a line that has been
begun, whose last byte stands first. -/
def segments (line bytes : List UInt8) : List (List UInt8) :=
  (bytes.splitOn newline).modifyHead (line.reverse ++ ·)

/-- The lines among segments. No newline ends the last segment: it counts only when the body is
complete and there is something in it. -/
def linesOf (ending : Ending) (segments : List (List UInt8)) : List (List UInt8) :=
  segments.dropLast ++
    segments.getLast?.toList.filter (fun last => ending = .complete && !last.isEmpty)

/-- The lines of a body. -/
def lines (body : Body) : List (List UInt8) :=
  linesOf body.ending (body.bytes.splitOn newline)

/-- The lines that a reader has yet to go through. -/
def Reader.lines (reader : Reader) : List (List UInt8) :=
  linesOf reader.ending (segments reader.line (reader.piece ++ reader.pieces.flatten))

theorem segments_eq (line bytes : List UInt8) :
    segments line bytes = bytes.splitOnPPrepend (· == newline) line :=
  List.splitOnPPrepend_eq_modifyHead.symm

theorem segments_nil (bytes : List UInt8) : segments [] bytes = bytes.splitOn newline :=
  segments_eq [] bytes

theorem lines_ofBody (body : Body) : (Reader.ofBody body).lines = lines body := by
  simp only [Reader.lines, Reader.ofBody, lines, Body.bytes, List.nil_append, segments_nil]

theorem linesOf_cons (ending : Ending) (first : List UInt8) {more : List (List UInt8)}
    (h : more ≠ []) : linesOf ending (first :: more) = first :: linesOf ending more := by
  obtain ⟨second, rest, rfl⟩ := List.exists_cons_of_ne_nil h
  simp [linesOf]

/-- A newline ends the line that has been begun. -/
theorem linesOf_newline (ending : Ending) (line rest : List UInt8) :
    linesOf ending (segments line (newline :: rest)) =
      line.reverse :: linesOf ending (segments [] rest) := by
  have h : segments line (newline :: rest) = line.reverse :: segments [] rest := by
    rw [segments_eq, segments_nil]
    exact List.splitOnPPrepend_cons_pos (by simp)
  have hne : segments [] rest ≠ [] := by
    rw [segments_nil]
    exact List.splitOn_ne_nil _ _
  rw [h, linesOf_cons ending _ hne]

/-- Any other byte goes on with it. -/
theorem segments_of_ne {b : UInt8} (h : b ≠ newline) (line rest : List UInt8) :
    segments line (b :: rest) = segments (b :: line) rest := by
  rw [segments_eq, segments_eq]
  exact List.splitOnPPrepend_cons_neg (beq_eq_false_iff_ne.mpr h)

/-! ## 2. What lines carry -/

/-- The chunks that lines carry, in front of the first line that cannot be decoded. -/
def chunksOf (lines : List (List UInt8)) : List Chunk :=
  ((lines.map decodeFrame).takeWhile Except.isOk).filterMap (fun carried => carried.toOption.join)

/-- What is wrong with the first line that cannot be decoded. -/
def failureOf (lines : List (List UInt8)) : Option Error :=
  (lines.map decodeFrame).findSome? (fun
    | .error e => some e
    | .ok _ => none)

/-- What lines come to: their chunks, and their failure. -/
def carried (lines : List (List UInt8)) : List Chunk × Option Error :=
  (chunksOf lines, failureOf lines)

section Carried

variable {line : List UInt8} {chunk : Chunk} {e : Error} (more : List (List UInt8))

theorem carried_of_noise (h : decodeFrame line = .ok none) :
    carried (line :: more) = carried more := by
  simp [carried, chunksOf, failureOf, h, List.takeWhile_cons, Except.isOk, Except.toBool,
    Except.toOption]

theorem carried_of_chunk (h : decodeFrame line = .ok (some chunk)) :
    carried (line :: more) = (chunk :: (carried more).1, (carried more).2) := by
  simp [carried, chunksOf, failureOf, h, List.takeWhile_cons, Except.isOk, Except.toBool,
    Except.toOption]

theorem carried_of_failure (h : decodeFrame line = .error e) :
    carried (line :: more) = ([], some e) := by
  simp [carried, chunksOf, failureOf, h, Except.isOk, Except.toBool]

end Carried

theorem notJson_of_decodeChunk {text : List Char} {e : Error} (h : decodeChunk text = .error e) :
    ∃ fault, e = .decode (.notJson fault) := by
  unfold decodeChunk at h
  split at h
  · cases h
  · rename_i fault _
    exact ⟨fault, (Except.error.inj h).symm⟩

/-- What is wrong with the text of a line is that its payload is no JSON. -/
theorem notJson_of_decodeLine {line : List Char} {e : Error} (h : decodeLine line = .error e) :
    ∃ fault, e = .decode (.notJson fault) := by
  simp only [decodeLine] at h
  split at h
  · cases hchunk : decodeChunk ((Text.trim line).drop dataMark.length) with
    | ok chunk => simp [hchunk, Except.map] at h
    | error cause =>
      rw [hchunk] at h
      obtain rfl := Except.error.inj h
      exact notJson_of_decodeChunk hchunk
  · cases h

/-- What is wrong with a line is that it cannot be decoded. -/
theorem decode_of_decodeFrame {line : List UInt8} {e : Error} (h : decodeFrame line = .error e) :
    ∃ cause, e = .decode cause := by
  unfold decodeFrame at h
  split at h
  · rename_i fault _
    exact ⟨.notText fault, (Except.error.inj h).symm⟩
  · obtain ⟨fault, rfl⟩ := notJson_of_decodeLine h
    exact ⟨.notJson fault, rfl⟩

theorem decode_of_failureOf {lines : List (List UInt8)} {e : Error}
    (h : failureOf lines = some e) : ∃ cause, e = .decode cause := by
  obtain ⟨decoded, hmem, hdecoded⟩ := List.exists_of_findSome?_eq_some h
  obtain ⟨line, -, rfl⟩ := List.mem_map.mp hmem
  split at hdecoded
  · rename_i e' hline
    exact Option.some.inj hdecoded ▸ decode_of_decodeFrame hline
  · simp at hdecoded

/-! ## 3. Where a reader gets -/

/-- What the way through a piece tells of the lines that the piece and the bytes behind it hold. -/
theorem carried_scan (ending : Ending) (line piece rest : List UInt8) :
    carried (linesOf ending (segments line (piece ++ rest))) =
      match scan line piece with
      | .chunk chunk behind =>
        (chunk :: (carried (linesOf ending (segments [] (behind ++ rest)))).1,
          (carried (linesOf ending (segments [] (behind ++ rest)))).2)
      | .failed e => ([], some e)
      | .more begun => carried (linesOf ending (segments begun rest)) := by
  fun_induction scan line piece with
  | case1 line => rfl
  | case2 line behind e h =>
    rw [List.cons_append, linesOf_newline]
    exact carried_of_failure _ h
  | case3 line behind chunk h =>
    rw [List.cons_append, linesOf_newline]
    exact carried_of_chunk _ h
  | case4 line behind h ih =>
    rw [List.cons_append, linesOf_newline, carried_of_noise _ h]
    exact ih
  | case5 line b behind hb ih =>
    rw [List.cons_append, segments_of_ne hb]
    exact ih

namespace Reader

/-- What an answer of a reader tells of the lines that were in front of it: the first chunk and the
lines that are left, or that there is no chunk and how the lines come to an end. -/
def LeadsTo (ending : Ending) (lines : List (List UInt8)) : Delivery → Prop
  | .chunk chunk after =>
    after.ending = ending ∧
      carried lines = (chunk :: (carried after.lines).1, (carried after.lines).2)
  | .failed e =>
    carried lines = ([], some e) ∨
      carried lines = ([], none) ∧ ending = .cut ∧ e = .transport .cutShort
  | .ended => carried lines = ([], none) ∧ ending = .complete
  | .waiting after =>
    carried lines = ([], none) ∧ ending = .stalled ∧ after.ending = .stalled ∧
      carried after.lines = ([], none)

theorem LeadsTo.congr {ending : Ending} {lines other : List (List UInt8)} {delivery : Delivery}
    (h : carried lines = carried other) (hother : LeadsTo ending other delivery) :
    LeadsTo ending lines delivery := by
  cases delivery <;> simpa only [LeadsTo, h] using hother

/-- Behind the last piece. -/
theorem leadsTo_finish (ending : Ending) (line : List UInt8) :
    LeadsTo ending (linesOf ending (segments line [])) (finish line ending) := by
  cases ending with
  | cut => exact .inr ⟨rfl, rfl, rfl⟩
  | stalled => exact ⟨rfl, rfl, rfl, rfl⟩
  | complete =>
    simp only [finish]
    split
    · rename_i hempty
      obtain rfl : line = [] := List.isEmpty_iff.mp hempty
      exact ⟨rfl, rfl⟩
    · rename_i hline
      have hlines : linesOf .complete (segments line []) = [line.reverse] := by
        simpa [linesOf, segments] using hline
      rw [hlines]
      split
      · rename_i e h
        exact .inl (carried_of_failure [] h)
      · rename_i chunk h
        exact ⟨rfl, carried_of_chunk [] h⟩
      · rename_i h
        exact ⟨carried_of_noise [] h, rfl⟩

theorem leadsTo_advance (ending : Ending) (line piece : List UInt8)
    (pieces : List (List UInt8)) :
    LeadsTo ending (linesOf ending (segments line (piece ++ pieces.flatten)))
      (advance ending line piece pieces) := by
  induction pieces generalizing line piece with
  | nil =>
    have h := carried_scan ending line piece []
    simp only [advance, List.flatten_nil]
    cases hs : scan line piece with
    | chunk chunk behind =>
      rw [hs] at h
      exact ⟨rfl, h⟩
    | failed e =>
      rw [hs] at h
      exact .inl h
    | more begun =>
      rw [hs] at h
      exact (leadsTo_finish ending begun).congr h
  | cons next more ih =>
    have h := carried_scan ending line piece (next :: more).flatten
    simp only [advance]
    cases hs : scan line piece with
    | chunk chunk behind =>
      rw [hs] at h
      exact ⟨rfl, h⟩
    | failed e =>
      rw [hs] at h
      exact .inl h
    | more begun =>
      rw [hs] at h
      exact (ih begun next).congr h

/-- **Every answer of a reader tells of the lines in front of it what they are**, wherever the
pieces are cut. -/
theorem leadsTo_next (reader : Reader) : LeadsTo reader.ending reader.lines reader.next :=
  leadsTo_advance reader.ending reader.line reader.piece reader.pieces

end Reader

end Relay.Frame
