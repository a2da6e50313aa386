import Relay.Frame
import Relay.Http.Response

/-!
# Reading frames off a body

The lines of a streamed body are read as they arrive. A `Reader` stands inside a line, inside a
piece; `Reader.next` goes on to the next chunk, over all noise, and says how it went (`Delivery`):

* a line ends at the byte 0x0A, wherever the pieces are cut;
* behind the last piece of a complete body, a line that has been begun counts as a line;
* when the body is cut short, that line is lost, and the connection's failure is reported;
* when the body stalls, the reader waits where it is.
-/

namespace Relay.Frame

open Http (Body Ending)

/-- The byte that ends a line. -/
def newline : UInt8 := 0x0A

/-! ## 1. Inside a piece -/

/-- What a piece holds up to its first chunk. -/
inductive Scan where
  /-- A chunk, and the bytes behind its line. -/
  | chunk (chunk : Chunk) (rest : List UInt8)
  | failed (error : Error)
  /-- No chunk; the line that has been begun, its last byte first. -/
  | more (line : List UInt8)

/-- Reads the lines of a piece up to the first chunk. The line that has been begun is given with its
last byte first. -/
def scan (line : List UInt8) : List UInt8 → Scan
  | [] => .more line
  | b :: rest =>
    if b = newline then
      match decodeFrame line.reverse with
      | .error e => .failed e
      | .ok (some chunk) => .chunk chunk rest
      | .ok none => scan [] rest
    else scan (b :: line) rest

/-! ## 2. Readers -/

/-- Where the reading of a body stands. -/
structure Reader where
  /-- The line that has been begun, its last byte first. -/
  line : List UInt8 := []
  /-- What is left of the piece at hand. -/
  piece : List UInt8 := []
  /-- The pieces to come. -/
  pieces : List (List UInt8)
  ending : Ending
  deriving DecidableEq, Repr

namespace Reader

/-- The reader in front of a body. -/
def ofBody (body : Body) : Reader :=
  { pieces := body.pieces, ending := body.ending }

/-- All bytes that have not been given out. -/
def bytes (reader : Reader) : List UInt8 :=
  reader.line.reverse ++ reader.piece ++ reader.pieces.flatten

/-- Whether the connection stays open however far the reader goes. -/
def holdsConnection (reader : Reader) : Bool :=
  reader.ending = .stalled

/-- How the way to the next chunk goes. -/
inductive Delivery where
  | chunk (chunk : Chunk) (reader : Reader)
  | failed (error : Error)
  | ended
  /-- There is nothing more for now. -/
  | waiting (reader : Reader)

/-- What comes behind the last piece, where a line has been begun. -/
def finish (line : List UInt8) : Ending → Delivery
  | .cut => .failed (.transport .cutShort)
  | .stalled => .waiting { line, pieces := [], ending := .stalled }
  | .complete =>
    if line.isEmpty then .ended
    else match decodeFrame line.reverse with
      | .error e => .failed e
      | .ok (some chunk) => .chunk chunk { pieces := [], ending := .complete }
      | .ok none => .ended

/-- Goes on from inside a line, through a piece and those behind it. -/
def advance (ending : Ending) (line piece : List UInt8) : List (List UInt8) → Delivery
  | [] =>
    match scan line piece with
    | .chunk chunk rest => .chunk chunk { piece := rest, pieces := [], ending }
    | .failed e => .failed e
    | .more line => finish line ending
  | next :: more =>
    match scan line piece with
    | .chunk chunk rest => .chunk chunk { piece := rest, pieces := next :: more, ending }
    | .failed e => .failed e
    | .more line => advance ending line next more

/-- Goes on to the next chunk. -/
def next (reader : Reader) : Delivery :=
  advance reader.ending reader.line reader.piece reader.pieces

/-! ## 3. Every chunk uses up bytes -/

theorem length_of_scan {line piece rest : List UInt8} {chunk : Chunk}
    (h : scan line piece = .chunk chunk rest) : rest.length < piece.length := by
  fun_induction scan line piece with
  | case1 => simp at h
  | case2 => simp at h
  | case3 line rest' chunk' hc =>
    simp only [Scan.chunk.injEq] at h
    rw [← h.2]
    simp
  | case4 line rest' hc ih =>
    have := ih h
    simp only [List.length_cons]
    omega
  | case5 line b rest' hb ih =>
    have := ih h
    simp only [List.length_cons]
    omega

/-- A chunk behind the last piece uses up the line that has been begun. -/
theorem length_of_finish {line : List UInt8} {ending : Ending} {chunk : Chunk} {after : Reader}
    (h : finish line ending = .chunk chunk after) : after.bytes.length < line.length := by
  unfold finish at h
  split at h
  · simp at h
  · simp at h
  · split at h
    · simp at h
    · split at h
      · simp at h
      · simp only [Delivery.chunk.injEq] at h
        rw [← h.2]
        cases line with
        | nil => simp_all
        | cons b more => simp [bytes]
      · simp at h

theorem length_of_more {line piece after : List UInt8} (h : scan line piece = .more after) :
    after.length ≤ line.length + piece.length := by
  fun_induction scan line piece with
  | case1 => simp_all
  | case2 => simp at h
  | case3 => simp at h
  | case4 line rest' hc ih =>
    have := ih h
    simp only [List.length_cons, List.length_nil] at this ⊢
    omega
  | case5 line b rest' hb ih =>
    have := ih h
    simp only [List.length_cons] at this ⊢
    omega

theorem length_of_advance {ending : Ending} {line piece : List UInt8} {pieces : List (List UInt8)}
    {chunk : Chunk} {after : Reader} (h : advance ending line piece pieces = .chunk chunk after) :
    after.bytes.length < line.length + piece.length + pieces.flatten.length := by
  induction pieces generalizing line piece with
  | nil =>
    simp only [advance] at h
    split at h
    · rename_i hs
      have := length_of_scan hs
      simp only [Delivery.chunk.injEq] at h
      rw [← h.2]
      simp only [bytes, List.reverse_nil, List.nil_append, List.flatten_nil, List.append_nil,
        List.length_nil]
      omega
    · simp at h
    · rename_i hs
      have h₁ := length_of_finish h
      have h₂ := length_of_more hs
      simp only [List.flatten_nil, List.length_nil]
      omega
  | cons next more ih =>
    simp only [advance] at h
    split at h
    · rename_i hs
      have := length_of_scan hs
      simp only [Delivery.chunk.injEq] at h
      rw [← h.2]
      simp only [bytes, List.reverse_nil, List.nil_append, List.flatten_cons, List.length_append]
      omega
    · simp at h
    · rename_i hs
      have h₁ := ih h
      have h₂ := length_of_more hs
      simp only [List.flatten_cons, List.length_append]
      omega

/-- **Every chunk uses up at least one byte.** -/
theorem length_of_next {reader after : Reader} {chunk : Chunk}
    (h : reader.next = .chunk chunk after) : after.bytes.length < reader.bytes.length := by
  have := length_of_advance h
  simp only [bytes, List.length_append, List.length_reverse] at this ⊢
  omega

end Reader

end Relay.Frame
