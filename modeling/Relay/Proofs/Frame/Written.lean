import Relay.Proofs.Frame.Texts
import Relay.Proofs.Json.RoundTrip

/-!
# Frames read back

A chunk is written as a frame: the mark, and its compact text (`frameOf`). What is written for a
chunk carries this chunk (`decodeFrame_frameOf`), and a body of such frames, each with an empty line
behind it, carries these chunks (`carried_bodyOf`).
-/

namespace Relay

/-- The line that carries a chunk. -/
def frameOf (chunk : Chunk) : List UInt8 :=
  Text.Utf8.encode (dataMark ++ chunk.text)

/-- The bytes of a body that carries chunks, each on its line with an empty one behind it. -/
def bodyOf (chunks : List Chunk) : List UInt8 :=
  chunks.flatMap (fun chunk => frameOf chunk ++ [Frame.newline, Frame.newline])

section Frame

variable {chunk : Chunk}

/-- No white space ends the text of a chunk. -/
theorem isSpace_of_getLast (h : chunk.isIntegral = true) :
    ∀ c ∈ chunk.text.getLast?, Text.isSpace c = false := by
  obtain ⟨front, last, htext, hlast⟩ := Json.text_eq_concat h
  simpa [htext] using hlast

/-- **What is written for a chunk carries this chunk.** -/
theorem decodeFrame_frameOf (hfits : chunk.FitsIn Json.maxDepth)
    (hintegral : chunk.isIntegral = true) : decodeFrame (frameOf chunk) = .ok (some chunk) := by
  rw [frameOf, decodeFrame_marked (isSpace_of_getLast hintegral), decodeChunk,
    Json.parse_text hfits hintegral]
  rfl

theorem newline_not_mem_frameOf (chunk : Chunk) : Frame.newline ∉ frameOf chunk := by
  intro hmem
  rcases List.mem_append.mp (Text.Utf8.newline_mem_encode hmem) with hmark | htext
  · exact absurd hmark (by decide)
  · exact Json.newline_not_mem_text chunk htext

end Frame

namespace Frame

open Http (Ending)

/-- A line is what stands in front of a newline. -/
theorem linesOf_line (ending : Ending) {line : List UInt8} (begun rest : List UInt8)
    (h : newline ∉ line) :
    linesOf ending (segments begun (line ++ newline :: rest)) =
      (begun.reverse ++ line) :: linesOf ending (segments [] rest) := by
  induction line generalizing begun with
  | nil => rw [List.nil_append, linesOf_newline, List.append_nil]
  | cons b more ih =>
    obtain ⟨hb, hmore⟩ := not_or.mp (mt List.mem_cons.mpr h)
    rw [List.cons_append, segments_of_ne (Ne.symm hb), ih (b :: begun) hmore, List.reverse_cons,
      List.append_assoc]
    rfl

/-- **A body of frames carries the chunks that they were written for.** -/
theorem carried_bodyOf {chunks : List Chunk}
    (h : ∀ chunk ∈ chunks, chunk.FitsIn Json.maxDepth ∧ chunk.isIntegral = true) :
    carried (linesOf .complete (segments [] (bodyOf chunks))) = (chunks, none) := by
  induction chunks with
  | nil => rfl
  | cons chunk more ih =>
    obtain ⟨⟨hfits, hintegral⟩, hmore⟩ := List.forall_mem_cons.mp h
    have hbody : bodyOf (chunk :: more) = frameOf chunk ++ newline :: newline :: bodyOf more := by
      simp [bodyOf]
    rw [hbody, linesOf_line .complete [] _ (newline_not_mem_frameOf chunk),
      linesOf_newline, List.reverse_nil, List.nil_append,
      carried_of_chunk _ (decodeFrame_frameOf hfits hintegral), carried_of_noise _ decodeFrame_nil,
      ih hmore]

end Frame

end Relay
