import Relay.Yaml.Mark

/-!
# Faults in YAML text

A text that does not follow the grammar is refused with a *problem* and its place and, where it
helps, with the *context*: what was being read, and where that had started. `SyntaxFault.message`
fixes the wording: a place is left out when it is the start of the text, that of the context also
when it is the place of the problem.
-/

namespace Relay.Yaml

/-! ## 1. Problems -/

/-- Why a text is refused. -/
inductive Problem where
  /-- A character that no text may hold, behind so many bytes. -/
  | controlCharacter (offset : Nat)
  | noColon
  | blockEntryNotAllowed
  | keyNotAllowed
  | valueNotAllowed
  | cannotStartToken
  | unknownDirective
  | noCommentOrBreak
  | noDirectiveName
  | nonAlphabetical
  | noDigitOrDot
  | longVersion
  | noVersion
  | noWhitespace
  | noWhitespaceOrBreak
  | noAlphanumeric
  | noClosingAngle
  | noExclamation
  | noTagUri
  | noUriOctet
  | badLeadingOctet
  | badTrailingOctet
  | zeroIndentation
  | tabForIndentation
  | documentMarkerInScalar
  | endInScalar
  | unknownEscape
  | noHexDigit
  | invalidCodePoint
  | unexpectedColon
  | tabViolatesIndentation
  | noDocumentStart
  | duplicateVersion
  | incompatibleVersion
  | duplicateTagDirective
  | undefinedTagHandle
  | noNodeContent
  | noDash
  | noKey
  | noCommaOrBracket
  | noCommaOrBrace
  deriving DecidableEq, Repr

/-- The wording of a problem. -/
def Problem.message : Problem → String
  | .controlCharacter _ => "control characters are not allowed"
  | .noColon => "could not find expected ':'"
  | .blockEntryNotAllowed => "block sequence entries are not allowed in this context"
  | .keyNotAllowed => "mapping keys are not allowed in this context"
  | .valueNotAllowed => "mapping values are not allowed in this context"
  | .cannotStartToken => "found character that cannot start any token"
  | .unknownDirective => "found unknown directive name"
  | .noCommentOrBreak => "did not find expected comment or line break"
  | .noDirectiveName => "could not find expected directive name"
  | .nonAlphabetical => "found unexpected non-alphabetical character"
  | .noDigitOrDot => "did not find expected digit or '.' character"
  | .longVersion => "found extremely long version number"
  | .noVersion => "did not find expected version number"
  | .noWhitespace => "did not find expected whitespace"
  | .noWhitespaceOrBreak => "did not find expected whitespace or line break"
  | .noAlphanumeric => "did not find expected alphabetic or numeric character"
  | .noClosingAngle => "did not find the expected '>'"
  | .noExclamation => "did not find expected '!'"
  | .noTagUri => "did not find expected tag URI"
  | .noUriOctet => "did not find URI escaped octet"
  | .badLeadingOctet => "found an incorrect leading UTF-8 octet"
  | .badTrailingOctet => "found an incorrect trailing UTF-8 octet"
  | .zeroIndentation => "found an indentation indicator equal to 0"
  | .tabForIndentation => "found a tab character where an indentation space is expected"
  | .documentMarkerInScalar => "found unexpected document indicator"
  | .endInScalar => "found unexpected end of stream"
  | .unknownEscape => "found unknown escape character"
  | .noHexDigit => "did not find expected hexadecimal number"
  | .invalidCodePoint => "found invalid Unicode character escape code"
  | .unexpectedColon => "found unexpected ':'"
  | .tabViolatesIndentation => "found a tab character that violates indentation"
  | .noDocumentStart => "did not find expected <document start>"
  | .duplicateVersion => "found duplicate %YAML directive"
  | .incompatibleVersion => "found incompatible YAML document"
  | .duplicateTagDirective => "found duplicate %TAG directive"
  | .undefinedTagHandle => "found undefined tag handle"
  | .noNodeContent => "did not find expected node content"
  | .noDash => "did not find expected '-' indicator"
  | .noKey => "did not find expected key"
  | .noCommaOrBracket => "did not find expected ',' or ']'"
  | .noCommaOrBrace => "did not find expected ',' or '\x7d'"

/-! ## 2. Contexts -/

/-- What was being read. -/
inductive Activity where
  | scanningSimpleKey
  | scanningNextToken
  | scanningDirective
  | scanningYamlDirective
  | scanningTagDirective
  | scanningTagHandleOfDirective
  | parsingTagHandleOfDirective
  | parsingTagDirective
  | scanningAnchor
  | scanningAlias
  | scanningTag
  | parsingTag
  | scanningBlockScalar
  | scanningQuotedScalar
  | parsingQuotedScalar
  | scanningPlainScalar
  | parsingNode
  | parsingBlockNode
  | parsingFlowNode
  | parsingBlockCollection
  | parsingBlockMapping
  | parsingFlowSequence
  | parsingFlowMapping
  deriving DecidableEq, Repr

/-- The wording of a context. -/
def Activity.message : Activity → String
  | .scanningSimpleKey => "while scanning a simple key"
  | .scanningNextToken => "while scanning for the next token"
  | .scanningDirective => "while scanning a directive"
  | .scanningYamlDirective => "while scanning a %YAML directive"
  | .scanningTagDirective => "while scanning a %TAG directive"
  | .scanningTagHandleOfDirective => "while scanning a tag directive"
  | .parsingTagHandleOfDirective => "while parsing a tag directive"
  | .parsingTagDirective => "while parsing a %TAG directive"
  | .scanningAnchor => "while scanning an anchor"
  | .scanningAlias => "while scanning an alias"
  | .scanningTag => "while scanning a tag"
  | .parsingTag => "while parsing a tag"
  | .scanningBlockScalar => "while scanning a block scalar"
  | .scanningQuotedScalar => "while scanning a quoted scalar"
  | .parsingQuotedScalar => "while parsing a quoted scalar"
  | .scanningPlainScalar => "while scanning a plain scalar"
  | .parsingNode => "while parsing a node"
  | .parsingBlockNode => "while parsing a block node"
  | .parsingFlowNode => "while parsing a flow node"
  | .parsingBlockCollection => "while parsing a block collection"
  | .parsingBlockMapping => "while parsing a block mapping"
  | .parsingFlowSequence => "while parsing a flow sequence"
  | .parsingFlowMapping => "while parsing a flow mapping"

/-! ## 3. Faults -/

/-- A problem, its place, and what was being read since when. -/
structure SyntaxFault where
  problem : Problem
  mark : Mark
  context : Option (Activity × Mark) := none
  deriving DecidableEq, Repr

/-- A place in a message, left out at the start of the text. -/
def atMark (mark : Mark) : String :=
  if mark.isOrigin then "" else " at " ++ mark.describe

/-- The place of a problem in a message. -/
def SyntaxFault.place (fault : SyntaxFault) : String :=
  match fault.problem with
  | .controlCharacter offset => if offset = 0 then "" else " at position " ++ toString offset
  | _ => atMark fault.mark

/-- The wording of a fault. -/
def SyntaxFault.message (fault : SyntaxFault) : String :=
  let context := match fault.context with
    | none => ""
    | some (activity, mark) =>
      let same := mark.line == fault.mark.line && mark.column == fault.mark.column
      ", " ++ activity.message ++ (if same then "" else atMark mark)
  fault.problem.message ++ fault.place ++ context

end Relay.Yaml
