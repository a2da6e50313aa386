import Relay.Yaml.Fault

/-!
# Tokens of YAML

A YAML text is first cut into tokens. Block structure, which the text shows by indentation only, is
made explicit: a block sequence or mapping is opened and closed by tokens of its own.
-/

namespace Relay.Yaml

/-- How a scalar is written. -/
inductive ScalarStyle where
  | plain
  | singleQuoted
  | doubleQuoted
  | literal
  | folded
  deriving DecidableEq, Repr

/-- What a token is. -/
inductive TokenKind where
  | streamEnd
  /-- The directive that names a version. -/
  | version (major minor : Nat)
  /-- The directive that lets a handle stand for the start of a tag. -/
  | tagDirective (handle stem : List Char)
  | documentStart
  | documentEnd
  | blockSequenceStart
  | blockMappingStart
  | blockEnd
  | flowSequenceStart
  | flowSequenceEnd
  | flowMappingStart
  | flowMappingEnd
  | blockEntry
  | flowEntry
  | key
  | value
  | alias (name : List Char)
  | anchor (name : List Char)
  | tag (handle suffix : List Char)
  | scalar (text : List Char) (style : ScalarStyle)
  deriving DecidableEq, Repr

/-- A token and the places where it starts and stops. -/
structure Token where
  kind : TokenKind
  start : Mark
  stop : Mark
  deriving DecidableEq, Repr

/-- Refuses a text at a place, telling what was being read since when. -/
def refuse {α : Type} (activity : Activity) (since : Mark) (problem : Problem) (mark : Mark) :
    Except SyntaxFault α :=
  .error { problem, mark, context := some (activity, since) }

end Relay.Yaml
