import Relay.Json.Fault
import Relay.Text.Shorten
import Relay.Yaml.Decode

/-!
# What can go wrong

Every failure of the library is an `Error`: one of eight kinds, each with its causes. The kind tells
a caller what to do about it, `Error.message` is what a person reads.
-/

namespace Relay

/-! ## 1. Causes -/

/-- Why nothing could be sent, or not everything received. -/
inductive TransportCause where
  /-- The request cannot be built: its address does not parse, or a header holds a control. -/
  | unbuildable
  /-- The address is not one that requests can be sent to. -/
  | unsupported (url : String)
  /-- The far end could not be reached, or did not answer. -/
  | unsent (url : String)
  /-- The connection was lost in the middle of a body that was read piece by piece. -/
  | cutShort
  /-- In the words of another part of the program. -/
  | other (text : String)
  deriving DecidableEq, Repr

/-- The wording of a cause. -/
def TransportCause.message : TransportCause → String
  | .unbuildable => "builder error"
  | .unsupported url => "builder error for url (" ++ url ++ ")"
  | .unsent url => "error sending request for url (" ++ url ++ ")"
  | .cutShort => "error decoding response body"
  | .other text => text

/-- Why what was received means nothing. -/
inductive DecodeCause where
  /-- A line of a stream is not text. -/
  | notText (fault : Text.Utf8.Fault)
  /-- A text is not the JSON that was expected. -/
  | notJson (fault : Json.Located)
  /-- The connection was lost in the middle of a body that was read as a whole. -/
  | cutShort
  /-- In the words of another part of the program. -/
  | other (text : String)
  deriving DecidableEq, Repr

/-- The wording of a cause. -/
def DecodeCause.message : DecodeCause → String
  | .notText fault => "frame is not valid UTF-8: " ++ fault.message
  | .notJson fault => fault.message
  | .cutShort => "error decoding response body"
  | .other text => text

/-- What is wrong with a request or a setting. -/
inductive ConfigCause where
  | emptyModel
  /-- In the words of another part of the program. -/
  | other (text : String)
  deriving DecidableEq, Repr

/-- The wording of a cause. -/
def ConfigCause.message : ConfigCause → String
  | .emptyModel => "model name must not be empty"
  | .other text => text

/-- Why a file cannot be read. -/
inductive FileCause where
  | notFound
  | isDirectory
  | notDirectory
  /-- The name holds a character that no name may hold. -/
  | badName
  | tooLong
  | notText
  /-- In the words of another part of the program. -/
  | other (text : String)
  deriving DecidableEq, Repr

/-- The wording of a cause. -/
def FileCause.message : FileCause → String
  | .notFound => "No such file or directory (os error 2)"
  | .isDirectory => "Is a directory (os error 21)"
  | .notDirectory => "Not a directory (os error 20)"
  | .badName => "file name contained an unexpected NUL byte"
  | .tooLong => "File name too long (os error 36)"
  | .notText => "stream did not contain valid UTF-8"
  | .other text => text

/-! ## 2. Errors -/

/-- A failure. -/
inductive Error where
  /-- No token was given, and the environment variable holds none. -/
  | missingCredential (name : String)
  | transport (cause : TransportCause)
  /-- The far end answered with another status than 200. -/
  | endpoint (status : Nat) (snippet : String)
  | decode (cause : DecodeCause)
  | cancelled
  | config (cause : ConfigCause)
  | yaml (error : Yaml.Error)
  | io (cause : FileCause)
  deriving DecidableEq, Repr

namespace Error

/-- The error of an answer with another status than 200, from its body. -/
def ofResponse (status : Nat) (body : String) : Error :=
  .endpoint status (Text.shorten body Text.snippetWidth)

/-- What a person reads. -/
def message : Error → String
  | .missingCredential name =>
    "Missing credential: no auth override and $" ++ name ++ " is not set"
  | .transport cause => "Transport error: " ++ cause.message
  | .endpoint status snippet =>
    "hf_endpoint says: " ++ snippet ++ " (http status " ++ toString status ++ ")"
  | .decode cause => "Decode error: " ++ cause.message
  | .cancelled => "Request cancelled"
  | .config cause => "Configuration error: " ++ cause.message
  | .yaml error => "YAML error: " ++ error.message
  | .io cause => "IO error: " ++ cause.message

end Error

end Relay
