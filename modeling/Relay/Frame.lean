import Relay.Error
import Relay.Json.Parser
import Relay.Text.Space

/-!
# Frames of a streamed answer

A streamed answer is a sequence of lines. A line that, without the white space around it, starts
with `data:` carries a chunk: the JSON value behind that mark. Every other line is noise and carries
nothing. A line that is not UTF-8, or whose chunk is not JSON, is an error.
-/

namespace Relay

/-- One unit of an answer. Nothing is assumed about its form. -/
abbrev Chunk := Json.Value

/-- The mark of a line that carries a chunk. -/
def dataMark : List Char := "data:".toList

/-- The chunk that a text spells. -/
def decodeChunk (text : List Char) : Except Error Chunk :=
  match Json.parse text with
  | .ok chunk => .ok chunk
  | .error fault => .error (.decode (.notJson fault))

/-- What the text of a line carries. -/
def decodeLine (line : List Char) : Except Error (Option Chunk) :=
  let text := Text.trim line
  if dataMark.isPrefixOf text then
    (decodeChunk (text.drop dataMark.length)).map some
  else .ok none

/-- What a line carries. -/
def decodeFrame (line : List UInt8) : Except Error (Option Chunk) :=
  match Text.Utf8.decode line with
  | .error fault => .error (.decode (.notText fault))
  | .ok text => decodeLine text

end Relay
