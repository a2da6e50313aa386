import Relay.Proofs.Frame.Lines
import Relay.Proofs.Text.Boundaries
import Relay.Proofs.Text.Trim

/-!
# Lines of text

What is said of the lines of a body can be said of a text, when the body is one: its lines are those
of the text (`lines_of_text`), and they carry what the lines of the text carry
(`carried_map_encode`). Dividing the bytes never divides a character.

A text on a line behind the mark of a chunk is read as it stands, when no white space ends it
(`decodeFrame_marked`, `lines_of_marked`).
-/

namespace Relay

open Text.Utf8 (encode IsText)

/-! ## 1. One line -/

theorem decodeFrame_encode (text : List Char) : decodeFrame (encode text) = decodeLine text := by
  rw [decodeFrame, Text.Utf8.decode_encode]

/-- A line that is no text cannot be decoded. -/
theorem decodeFrame_of_not_isText {line : List UInt8} (h : ¬IsText line) :
    ∃ cause, decodeFrame line = .error (.decode cause) := by
  unfold decodeFrame
  cases hdecode : Text.Utf8.decode line with
  | error fault => exact ⟨.notText fault, rfl⟩
  | ok text => exact absurd ⟨text, Text.Utf8.decode_eq_ok_iff.mp hdecode⟩ h

/-- A text behind the mark of a chunk is not trimmed, when no white space ends it. -/
theorem trim_marked {text : List Char} (h : ∀ c ∈ text.getLast?, Text.isSpace c = false) :
    Text.trim (dataMark ++ text) = dataMark ++ text := by
  refine Text.trim_eq_self (fun c hc => ?_) (fun c hc => ?_)
  · obtain rfl : 'd' = c := Option.some.inj hc
    rfl
  · rw [List.getLast?_append] at hc
    cases hlast : text.getLast? with
    | some last => exact h c (by rwa [hlast] at hc ⊢)
    | none =>
      rw [hlast] at hc
      obtain rfl : ':' = c := Option.some.inj hc
      rfl

/-- **A text behind the mark of a chunk is read as it stands.** -/
theorem decodeFrame_marked {text : List Char} (h : ∀ c ∈ text.getLast?, Text.isSpace c = false) :
    decodeFrame (encode (dataMark ++ text)) = (decodeChunk text).map some := by
  have hmark : dataMark.isPrefixOf (dataMark ++ text) = true := by
    simp [List.isPrefixOf_iff_prefix]
  simp only [decodeFrame_encode, decodeLine, trim_marked h, hmark, if_true, List.drop_left]

namespace Frame

/-- An empty line carries nothing. -/
theorem decodeFrame_nil : decodeFrame [] = .ok none :=
  decodeFrame_encode []

/-! ## 2. The lines of a complete body -/

/-- Nothing but an empty part is left out of the lines of a complete body. -/
theorem linesOf_complete {segments : List (List UInt8)} (h : segments ≠ []) :
    segments = linesOf .complete segments ∨ segments = linesOf .complete segments ++ [[]] := by
  obtain ⟨front, last, rfl⟩ := (List.eq_nil_or_concat' segments).resolve_left h
  cases last <;> simp [linesOf]

/-- A newline divides the lines of bytes. -/
theorem splitOn_append_newline (front rest : List UInt8) :
    (front ++ newline :: rest).splitOn newline =
      front.splitOn newline ++ rest.splitOn newline :=
  List.splitOnP_append_cons front rest (beq_self_eq_true newline)

theorem newline_not_mem_encode {text : List Char} (h : '\n' ∉ text) : newline ∉ encode text :=
  fun hmem => h (Text.Utf8.newline_mem_encode hmem)

/-- A body that is one line behind the mark of a chunk, with a newline behind it or without. -/
theorem lines_of_marked {body : Http.Body} {text : List Char} (hline : '\n' ∉ text)
    (hcomplete : body.ending = .complete)
    (hbytes : body.bytes = encode (dataMark ++ text) ∨
      body.bytes = encode (dataMark ++ text) ++ [newline]) :
    lines body = [encode (dataMark ++ text)] := by
  have hinline : newline ∉ encode (dataMark ++ text) := by
    refine newline_not_mem_encode fun hmem => ?_
    rcases List.mem_append.mp hmem with hmark | htext
    · exact absurd hmark (by decide)
    · exact hline htext
  have hone := List.splitOn_eq_singleton hinline
  have hfirst : encode (dataMark ++ text) = 0x64 :: encode ("ata:".toList ++ text) := rfl
  rw [lines, hcomplete]
  rcases hbytes with hbytes | hbytes
  · rw [hbytes, hone, hfirst]
    rfl
  · rw [hbytes, splitOn_append_newline, hone, hfirst]
    rfl

/-! ## 3. The lines of a text -/

/-- The lines of a text: what stands between its newlines. Nothing behind the last newline is no
line. -/
def textLines (text : List Char) : List (List Char) :=
  let parts := text.splitOn '\n'
  parts.dropLast ++ parts.getLast?.toList.filter (fun last => !last.isEmpty)

/-- **The lines of a body that is a text are the lines of the text.** -/
theorem lines_of_text {body : Http.Body} {text : List Char} (hcomplete : body.ending = .complete)
    (hbytes : body.bytes = encode text) : lines body = (textLines text).map encode := by
  obtain ⟨front, last, hparts⟩ :=
    (List.eq_nil_or_concat' (text.splitOn '\n')).resolve_left (List.splitOn_ne_nil _ _)
  rw [lines, hcomplete, hbytes, newline, Text.Utf8.splitOn_encode, textLines, hparts]
  cases last with
  | nil => simp [linesOf]
  | cons c more =>
    obtain ⟨b, bytes, hfirst, -⟩ := Text.Utf8.exists_cons_of_encode c more
    simp [linesOf, hfirst]

/-- The chunks that lines of text carry, in front of the first line that cannot be decoded. -/
def chunksOfTexts (texts : List (List Char)) : List Chunk :=
  ((texts.map decodeLine).takeWhile Except.isOk).filterMap (fun carried => carried.toOption.join)

/-- What is wrong with the first line of text that cannot be decoded. -/
def failureOfTexts (texts : List (List Char)) : Option Error :=
  (texts.map decodeLine).findSome? (fun
    | .error e => some e
    | .ok _ => none)

/-- **Lines carry what their texts carry.** -/
theorem carried_map_encode (texts : List (List Char)) :
    carried (texts.map encode) = (chunksOfTexts texts, failureOfTexts texts) := by
  have hdecoded : (texts.map encode).map decodeFrame = texts.map decodeLine := by
    rw [List.map_map]
    exact List.map_congr_left fun text _ => decodeFrame_encode text
  rw [carried, chunksOf, failureOf, hdecoded]
  rfl

/-- What is wrong with a line of text is that its payload is no JSON. -/
theorem notJson_of_failureOfTexts {texts : List (List Char)} {e : Error}
    (h : failureOfTexts texts = some e) : ∃ fault, e = .decode (.notJson fault) := by
  obtain ⟨decoded, hmem, hdecoded⟩ := List.exists_of_findSome?_eq_some h
  obtain ⟨text, -, rfl⟩ := List.mem_map.mp hmem
  split at hdecoded
  · rename_i e' htext
    exact Option.some.inj hdecoded ▸ notJson_of_decodeLine htext
  · cases hdecoded

/-- **A complete body of which every line can be decoded is a text**, the lines without a chunk
among them. -/
theorem isText_of_failureOf {body : Http.Body} (hcomplete : body.ending = .complete)
    (h : failureOf (lines body) = none) : IsText body.bytes := by
  have hlines : ∀ line ∈ lines body, IsText line := by
    intro line hmem
    by_contra hno
    obtain ⟨cause, hcause⟩ := decodeFrame_of_not_isText hno
    have hnone := List.findSome?_eq_none_iff.mp h _ (List.mem_map_of_mem hmem)
    rw [hcause] at hnone
    cases hnone
  rw [lines, hcomplete] at hlines
  refine Text.Utf8.isText_of_splitOn fun line hmem => ?_
  rcases linesOf_complete (List.splitOn_ne_nil newline body.bytes) with heq | heq
  · exact hlines line (heq ▸ hmem)
  · have hmem' : line ∈ body.bytes.splitOn newline := hmem
    rw [heq] at hmem'
    rcases List.mem_append.mp hmem' with hline | hempty
    · exact hlines line hline
    · obtain rfl := List.mem_singleton.mp hempty
      exact Text.Utf8.isText_encode []

end Frame

end Relay
