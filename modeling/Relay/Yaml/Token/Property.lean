import Relay.Yaml.Token.Scalar

/-!
# Reading anchors, tags and directives

The tokens that are made of names. An anchor or alias is a name behind its sign; a tag is a handle
and a suffix, or a whole identifier in angle brackets; a directive names a version or gives a
meaning to a handle.
-/

namespace Relay.Yaml

/-! ## 1. Anchors and aliases -/

/-- Whether a name may end here. -/
def endsAnchor : List Char → Bool
  | [] => true
  | c :: _ => isBlankOrBreak c || "?:,]\x7d%@".toList.contains c || c == '\x60'

/-- Reads an anchor or an alias. -/
def scanAnchor (isAlias : Bool) (cursor : Cursor) : Except SyntaxFault (Token × Cursor) :=
  let start := cursor.mark
  let (name, cursor) := (cursor.skip 1).span isNameChar
  if name.isEmpty || !endsAnchor cursor.rest then
    refuse (if isAlias then .scanningAlias else .scanningAnchor) start .noAlphanumeric cursor.mark
  else
    let kind := if isAlias then TokenKind.alias name else TokenKind.anchor name
    .ok ({ kind, start, stop := cursor.mark }, cursor)

/-! ## 2. Parts of tags -/

/-- Where a part of a tag stands, which decides how a message names it. -/
inductive TagPlace where
  | node
  | directive
  deriving DecidableEq, Repr

/-- What is being read when a part of a tag turns out wrong. -/
def TagPlace.parsing : TagPlace → Activity
  | .node => .parsingTag
  | .directive => .parsingTagDirective

/-- Reads a handle: an exclamation mark, or a name between two of them. In a node, a name without
the second mark is read as well and belongs to the suffix. -/
def readTagHandle (place : TagPlace) (start : Mark) (cursor : Cursor) :
    Except SyntaxFault (List Char × Cursor) :=
  let scanning := match place with
    | .node => Activity.scanningTag
    | .directive => .scanningTagHandleOfDirective
  if !cursor.at? '!' then refuse scanning start .noExclamation cursor.mark
  else
    let (name, cursor) := (cursor.skip 1).span isNameChar
    if cursor.at? '!' then .ok ('!' :: name ++ ['!'], cursor.skip 1)
    else if place = .directive ∧ !name.isEmpty then
      refuse .parsingTagHandleOfDirective start .noExclamation cursor.mark
    else .ok ('!' :: name, cursor)

/-- How many octets a character has, by its first one. -/
def octetCount? (octet : Nat) : Option Nat :=
  if octet < 0x80 then some 1
  else if octet < 0xC0 then none
  else if octet < 0xE0 then some 2
  else if octet < 0xF0 then some 3
  else if octet < 0xF8 then some 4
  else none

/-- Reads the octet of an escape in an identifier. -/
def readUriOctet (place : TagPlace) (start : Mark) (cursor : Cursor) :
    Except SyntaxFault (Nat × Cursor) :=
  match cursor.rest with
  | '%' :: a :: b :: _ =>
    match Text.hexValue? a, Text.hexValue? b with
    | some a, some b => .ok (a * 16 + b, cursor.skip 3)
    | _, _ => refuse place.parsing start .noUriOctet cursor.mark
  | _ => refuse place.parsing start .noUriOctet cursor.mark

/-- Reads the octets of a character behind its first one. -/
def readUriTail (place : TagPlace) (start : Mark) :
    (count : Nat) → Cursor → Except SyntaxFault (List UInt8 × Cursor)
  | 0, cursor => .ok ([], cursor)
  | count + 1, cursor => do
    let (octet, next) ← readUriOctet place start cursor
    if octet / 64 ≠ 2 then refuse place.parsing start .badTrailingOctet cursor.mark
    else
      let (more, next) ← readUriTail place start count next
      .ok (UInt8.ofNat octet :: more, next)

/-- Reads the escaped octets of one character. -/
def readUriEscape (place : TagPlace) (start : Mark) (cursor : Cursor) :
    Except SyntaxFault (List Char × Cursor) := do
  let (octet, next) ← readUriOctet place start cursor
  match octetCount? octet with
  | none => refuse place.parsing start .badLeadingOctet cursor.mark
  | some count =>
    let (more, next) ← readUriTail place start (count - 1) next
    .ok (Text.Utf8.decodeLossy (UInt8.ofNat octet :: more), next)

/-- The characters of an identifier. Flow indicators belong to it only where `wide` is set. -/
def isUriChar (wide : Bool) (c : Char) : Bool :=
  isNameChar c || ";/?:@&=+$.%!~*'()".toList.contains c || (wide && ",[]".toList.contains c)

/-- Reads the characters of an identifier. -/
def readUriChars (place : TagPlace) (wide : Bool) (start : Mark) :
    (bound : Nat) → Cursor → Except SyntaxFault (List Char × Cursor)
  | 0, cursor => .ok ([], cursor)
  | bound + 1, cursor =>
    match cursor.rest with
    | [] => .ok ([], cursor)
    | c :: _ =>
      if !isUriChar wide c then .ok ([], cursor)
      else if c == '%' then do
        let (text, cursor) ← readUriEscape place start cursor
        let (more, cursor) ← readUriChars place wide start bound cursor
        .ok (text ++ more, cursor)
      else do
        let (more, cursor) ← readUriChars place wide start bound (cursor.skip 1)
        .ok (c :: more, cursor)

/-- Reads an identifier that goes on from `head`. -/
def readTagUri (place : TagPlace) (wide : Bool) (head : List Char) (start : Mark)
    (cursor : Cursor) : Except SyntaxFault (List Char × Cursor) := do
  let (text, next) ← readUriChars place wide start (cursor.rest.length + 1) cursor
  if head.isEmpty && next.rest.length == cursor.rest.length then
    refuse place.parsing start .noTagUri next.mark
  else .ok (head.drop 1 ++ text, next)

/-! ## 3. Tags -/

/-- Reads the handle and the suffix of a tag. -/
def readTag (start : Mark) (cursor : Cursor) :
    Except SyntaxFault (List Char × List Char × Cursor) := do
  if cursor.peek? 1 == some '<' then
    let (suffix, cursor) ← readTagUri .node true [] start (cursor.skip 2)
    if cursor.at? '>' then .ok ([], suffix, cursor.skip 1)
    else refuse .scanningTag start .noClosingAngle cursor.mark
  else
    let (handle, cursor) ← readTagHandle .node start cursor
    if 2 ≤ handle.length ∧ handle.getLast? = some '!' then
      let (suffix, cursor) ← readTagUri .node false [] start cursor
      .ok (handle, suffix, cursor)
    else
      let (suffix, cursor) ← readTagUri .node false handle start cursor
      if suffix.isEmpty then .ok ([], ['!'], cursor) else .ok (['!'], suffix, cursor)

/-- Reads a tag. -/
def scanTag (flow : Bool) (cursor : Cursor) : Except SyntaxFault (Token × Cursor) := do
  let start := cursor.mark
  let (handle, suffix, cursor) ← readTag start cursor
  if endsWord cursor.rest || (flow && cursor.at? ',') then
    .ok ({ kind := .tag handle suffix, start, stop := cursor.mark }, cursor)
  else refuse .scanningTag start .noWhitespaceOrBreak cursor.mark

/-! ## 4. Directives -/

/-- Reads a number of a version, of at most nine digits. -/
def readVersionNumber (start : Mark) (cursor : Cursor) : Except SyntaxFault (Nat × Cursor) :=
  let (digits, next) := cursor.span Char.isDigit
  if 9 < digits.length then
    refuse .scanningYamlDirective start .longVersion (cursor.skip 9).mark
  else if digits.isEmpty then refuse .scanningYamlDirective start .noVersion cursor.mark
  else .ok (digits.foldl (fun n c => n * 10 + (c.toNat - '0'.toNat)) 0, next)

/-- Reads the version that a directive names. -/
def readVersion (start : Mark) (cursor : Cursor) : Except SyntaxFault (TokenKind × Cursor) := do
  let (major, cursor) ← readVersionNumber start (cursor.skipWhile isBlank)
  if !cursor.at? '.' then refuse .scanningYamlDirective start .noDigitOrDot cursor.mark
  else
    let (minor, cursor) ← readVersionNumber start (cursor.skip 1)
    .ok (.version major minor, cursor)

/-- Reads the handle that a directive defines, and what it stands for. -/
def readTagDefinition (start : Mark) (cursor : Cursor) :
    Except SyntaxFault (TokenKind × Cursor) := do
  let (handle, cursor) ← readTagHandle .directive start (cursor.skipWhile isBlank)
  if !cursor.rest.head?.any isBlank then
    refuse .scanningTagDirective start .noWhitespace cursor.mark
  else
    let (stem, cursor) ← readTagUri .directive true [] start (cursor.skipWhile isBlank)
    if endsWord cursor.rest then .ok (.tagDirective handle stem, cursor)
    else refuse .scanningTagDirective start .noWhitespaceOrBreak cursor.mark

/-- Reads a directive, to the end of its line. -/
def scanDirective (cursor : Cursor) : Except SyntaxFault (Token × Cursor) := do
  let start := cursor.mark
  let (name, cursor) := (cursor.skip 1).span isNameChar
  if name.isEmpty then refuse .scanningDirective start .noDirectiveName cursor.mark
  else if !endsWord cursor.rest then refuse .scanningDirective start .nonAlphabetical cursor.mark
  else
    let (kind, cursor) ←
      if name = "YAML".toList then readVersion start cursor
      else if name = "TAG".toList then readTagDefinition start cursor
      else refuse .scanningDirective start .unknownDirective cursor.mark
    let token : Token := { kind, start, stop := cursor.mark }
    let cursor := cursor.skipWhile isBlank
    let cursor := if cursor.at? '#' then cursor.skipLine else cursor
    if endsLine cursor.rest then .ok (token, cursor.skipBreak)
    else refuse .scanningDirective start .noCommentOrBreak cursor.mark

end Relay.Yaml
