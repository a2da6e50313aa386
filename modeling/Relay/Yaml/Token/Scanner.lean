import Relay.Yaml.Token.Property

/-!
# Cutting a YAML text into tokens

A `Scanner` reads one token at a time and keeps what the text alone does not show:

* the columns of the open block collections (`indents`, innermost first, below them `-1`);
* for every open flow collection, and for the block level below them, whether a token read before
  may turn out to be the *simple key* of a mapping. When a colon follows, a key token, and perhaps
  the start of a block mapping, is put in front of that token. So tokens wait in a queue until no
  simple key can point at them.

`Token.scan` answers the tokens that leave the queue, in order, and the fault that ends them if
there is one. Tokens that still wait when a fault occurs are lost.
-/

namespace Relay.Yaml

/-! ## 1. State -/

/-- A token that may be a simple key. -/
structure SimpleKey where
  /-- Whether the token can be nothing else. -/
  required : Bool
  /-- The number of the token. -/
  number : Nat
  mark : Mark
  deriving Repr

/-- A scanner. -/
structure Scanner where
  cursor : Cursor
  /-- The tokens that wait. -/
  queue : List Token := []
  /-- How many tokens have left the queue. -/
  released : Nat := 0
  /-- The possible simple key of every open flow collection, innermost first. -/
  flowKeys : List (Option SimpleKey) := []
  /-- The possible simple key of the block level. -/
  blockKey : Option SimpleKey := none
  /-- Whether a simple key may start here. -/
  keyAllowed : Bool := true
  indent : Int := -1
  indents : List Int := []
  finished : Bool := false

namespace Scanner

/-- Whether the scanner is inside a flow collection. -/
def inFlow (s : Scanner) : Bool :=
  !s.flowKeys.isEmpty

/-- The column of the next character. -/
def column (s : Scanner) : Nat :=
  s.cursor.mark.column

/-- The possible simple key at the innermost level. -/
def simpleKey (s : Scanner) : Option SimpleKey :=
  match s.flowKeys with
  | key :: _ => key
  | [] => s.blockKey

/-- Sets the possible simple key at the innermost level. -/
def setSimpleKey (s : Scanner) (key : Option SimpleKey) : Scanner :=
  match s.flowKeys with
  | _ :: keys => { s with flowKeys := key :: keys }
  | [] => { s with blockKey := key }

/-- Appends a token. -/
def push (s : Scanner) (token : Token) : Scanner :=
  { s with queue := s.queue ++ [token] }

/-- Appends a token without extent. -/
def pushHere (s : Scanner) (kind : TokenKind) : Scanner :=
  s.push { kind, start := s.cursor.mark, stop := s.cursor.mark }

/-- Puts a token in front of the one with the given number. -/
def insert (s : Scanner) (number : Nat) (token : Token) : Scanner :=
  let place := number - s.released
  { s with queue := s.queue.take place ++ token :: s.queue.drop place }

/-- Reads a token of so many characters. -/
def pushSign (s : Scanner) (kind : TokenKind) (count : Nat) : Scanner :=
  let cursor := s.cursor.skip count
  { s.push { kind, start := s.cursor.mark, stop := cursor.mark } with cursor }

/-! ## 2. Simple keys -/

/-- The fault of a token that had to be a key. -/
def noColon {α : Type} (s : Scanner) (key : SimpleKey) : Except SyntaxFault α :=
  refuse .scanningSimpleKey key.mark .noColon s.cursor.mark

/-- Gives up the simple key of the innermost level. -/
def dropSimpleKey (s : Scanner) : Except SyntaxFault Scanner :=
  match s.simpleKey with
  | some key => if key.required then s.noColon key else .ok (s.setSimpleKey none)
  | none => .ok s

/-- Notes that the next token may be a simple key. -/
def saveSimpleKey (s : Scanner) : Except SyntaxFault Scanner :=
  if s.keyAllowed then do
    let s ← s.dropSimpleKey
    .ok (s.setSimpleKey (some
      { required := !s.inFlow && s.indent == (s.column : Int)
        number := s.released + s.queue.length
        mark := s.cursor.mark }))
  else .ok s

/-- A simple key stays on one line and has at most 1024 bytes. -/
def isStale (s : Scanner) (key : SimpleKey) : Bool :=
  key.mark.line < s.cursor.mark.line || key.mark.index + 1024 < s.cursor.mark.index

/-- Checks one level for a key that has become too long. -/
def staleKey (s : Scanner) (key : Option SimpleKey) : Except SyntaxFault (Option SimpleKey) :=
  match key with
  | some k => if s.isStale k then (if k.required then s.noColon k else .ok none) else .ok (some k)
  | none => .ok none

/-- Gives up the keys that have become too long, from the outermost level on. -/
def dropStaleKeys (s : Scanner) : Except SyntaxFault Scanner := do
  let blockKey ← s.staleKey s.blockKey
  let flowKeys ← s.flowKeys.reverse.mapM s.staleKey
  .ok { s with blockKey, flowKeys := flowKeys.reverse }

/-- Whether the first waiting token may still be a simple key. -/
def headIsOpen (s : Scanner) : Bool :=
  (s.blockKey :: s.flowKeys).any (fun key => key.any (·.number == s.released))

/-! ## 3. Indentation -/

/-- Opens a block collection when the column lies deeper than the open ones. Its token goes in front
of the one with the given number, or to the end. -/
def rollIndent (s : Scanner) (column : Nat) (number : Option Nat) (kind : TokenKind) (mark : Mark) :
    Scanner :=
  if !s.inFlow && s.indent < (column : Int) then
    let s := { s with indents := s.indent :: s.indents, indent := column }
    let token : Token := { kind, start := mark, stop := mark }
    match number with
    | some n => s.insert n token
    | none => s.push token
  else s

/-- Closes block collections, innermost first, as long as they lie deeper than the column. -/
def closeBlocks (column : Int) (s : Scanner) : List Int → Scanner
  | [] => s
  | outer :: indents =>
    if column < s.indent then
      closeBlocks column ({ s with indent := outer, indents }.pushHere .blockEnd) indents
    else s

/-- Closes the block collections that lie deeper than the column. -/
def unrollIndent (s : Scanner) (column : Int) : Scanner :=
  if s.inFlow then s else closeBlocks column s s.indents

/-! ## 4. Tokens -/

/-- Steps over blanks, comments and breaks to the next token. A tab does not count where a simple
key may start. A byte order mark may stand at the start of every line. -/
def skipToToken : (bound : Nat) → Scanner → Scanner
  | 0, s => s
  | bound + 1, s =>
    let cursor := if s.cursor.mark.column == 0 && s.cursor.at? '\uFEFF' then s.cursor.skip 1
      else s.cursor
    let cursor := cursor.skipWhile (fun c => c == ' ' || ((s.inFlow || !s.keyAllowed) && c == '\t'))
    let cursor := if cursor.at? '#' then cursor.skipLine else cursor
    if cursor.rest.head?.any isBreak then
      skipToToken bound
        { s with cursor := cursor.skipBreak, keyAllowed := s.keyAllowed || !s.inFlow }
    else { s with cursor }

/-- Reads the end of the text. -/
def fetchEnd (s : Scanner) : Except SyntaxFault Scanner := do
  let mark := s.cursor.mark
  let mark := if mark.column = 0 then mark else { mark with column := 0, line := mark.line + 1 }
  let s := { s with cursor := { s.cursor with mark } }
  let s ← (s.unrollIndent (-1)).dropSimpleKey
  .ok { s.pushHere .streamEnd with keyAllowed := false, finished := true }

/-- Reads a directive. -/
def fetchDirective (s : Scanner) : Except SyntaxFault Scanner := do
  let s ← (s.unrollIndent (-1)).dropSimpleKey
  let (token, cursor) ← scanDirective s.cursor
  .ok { s.push token with cursor, keyAllowed := false }

/-- Reads the mark between documents. -/
def fetchDocumentMarker (s : Scanner) : Except SyntaxFault Scanner := do
  let s ← (s.unrollIndent (-1)).dropSimpleKey
  let kind := if s.cursor.at? '-' then TokenKind.documentStart else .documentEnd
  .ok { s.pushSign kind 3 with keyAllowed := false }

/-- Reads the start of a flow collection. -/
def fetchFlowStart (s : Scanner) (kind : TokenKind) : Except SyntaxFault Scanner := do
  let s ← s.saveSimpleKey
  .ok { s.pushSign kind 1 with flowKeys := none :: s.flowKeys, keyAllowed := true }

/-- Reads the end of a flow collection. -/
def fetchFlowEnd (s : Scanner) (kind : TokenKind) : Except SyntaxFault Scanner := do
  let s ← s.dropSimpleKey
  .ok { s.pushSign kind 1 with flowKeys := s.flowKeys.drop 1, keyAllowed := false }

/-- Reads the comma of a flow collection. -/
def fetchFlowEntry (s : Scanner) : Except SyntaxFault Scanner := do
  let s ← s.dropSimpleKey
  .ok { s.pushSign .flowEntry 1 with keyAllowed := true }

/-- Opens a block collection for the sign that comes next, where that is allowed. -/
def openBlock (s : Scanner) (kind : TokenKind) (problem : Problem) : Except SyntaxFault Scanner :=
  if s.inFlow then .ok s
  else if s.keyAllowed then .ok (s.rollIndent s.column none kind s.cursor.mark)
  else .error { problem, mark := s.cursor.mark }

/-- Reads the dash of a block sequence. -/
def fetchBlockEntry (s : Scanner) : Except SyntaxFault Scanner := do
  let s ← s.openBlock .blockSequenceStart .blockEntryNotAllowed
  let s ← s.dropSimpleKey
  .ok { s.pushSign .blockEntry 1 with keyAllowed := true }

/-- Reads the question mark of a key. -/
def fetchKey (s : Scanner) : Except SyntaxFault Scanner := do
  let s ← s.openBlock .blockMappingStart .keyNotAllowed
  let s ← s.dropSimpleKey
  .ok { s.pushSign .key 1 with keyAllowed := !s.inFlow }

/-- Reads the colon of a value. A possible simple key becomes one. -/
def fetchValue (s : Scanner) : Except SyntaxFault Scanner :=
  match s.simpleKey with
  | some key =>
    let s := s.insert key.number { kind := .key, start := key.mark, stop := key.mark }
    let s := s.rollIndent key.mark.column (some key.number) .blockMappingStart key.mark
    .ok { (s.setSimpleKey none).pushSign .value 1 with keyAllowed := false }
  | none => do
    let s ← s.openBlock .blockMappingStart .valueNotAllowed
    .ok { s.pushSign .value 1 with keyAllowed := !s.inFlow }

/-- Reads a token that may be a simple key, and behind which none may start. -/
def fetchKeyLike (s : Scanner) (scan : Cursor → Except SyntaxFault (Token × Cursor)) :
    Except SyntaxFault Scanner := do
  let s ← s.saveSimpleKey
  let (token, cursor) ← scan s.cursor
  .ok { s.push token with cursor, keyAllowed := false }

/-- Reads a plain scalar. A simple key may follow when a break does. -/
def fetchPlain (s : Scanner) : Except SyntaxFault Scanner := do
  let s ← s.saveSimpleKey
  let (token, plain) ← scanPlain s.inFlow (s.indent + 1).toNat s.cursor
  .ok { s.push token with cursor := plain.cursor, keyAllowed := plain.broken }

/-- Reads a block scalar. -/
def fetchBlock (s : Scanner) (literal : Bool) : Except SyntaxFault Scanner := do
  let s ← s.dropSimpleKey
  let (token, cursor) ← scanBlock literal s.indent s.cursor
  .ok { s.push token with cursor, keyAllowed := true }

/-- Whether a plain scalar may start with a character, given what follows it. -/
def startsPlain (s : Scanner) (c : Char) (more : List Char) : Bool :=
  let indicators := "-?:,[]\x7b\x7d#&*!|>'\"%@".toList ++ ['\x60']
  (!isBlankOrBreak c && !indicators.contains c) ||
    (c == '-' && !more.head?.any isBlank) ||
    (!s.inFlow && (c == '?' || c == ':') && !endsWord more)

/-- Reads the token that starts with `c`. -/
def fetchAt (s : Scanner) (c : Char) (more : List Char) : Except SyntaxFault Scanner :=
  if s.column = 0 ∧ c = '%' then s.fetchDirective
  else if s.cursor.atDocumentMarker then s.fetchDocumentMarker
  else if c = '[' then s.fetchFlowStart .flowSequenceStart
  else if c = '\x7b' then s.fetchFlowStart .flowMappingStart
  else if c = ']' then s.fetchFlowEnd .flowSequenceEnd
  else if c = '\x7d' then s.fetchFlowEnd .flowMappingEnd
  else if c = ',' then s.fetchFlowEntry
  else if c = '-' ∧ endsWord more then s.fetchBlockEntry
  else if c = '?' ∧ (s.inFlow ∨ endsWord more) then s.fetchKey
  else if c = ':' ∧ (s.inFlow ∨ endsWord more) then s.fetchValue
  else if c = '*' then s.fetchKeyLike (scanAnchor true)
  else if c = '&' then s.fetchKeyLike (scanAnchor false)
  else if c = '!' then s.fetchKeyLike (scanTag s.inFlow)
  else if c = '|' ∧ !s.inFlow then s.fetchBlock true
  else if c = '>' ∧ !s.inFlow then s.fetchBlock false
  else if c = '\'' then s.fetchKeyLike (scanQuoted true)
  else if c = '"' then s.fetchKeyLike (scanQuoted false)
  else if s.startsPlain c more then s.fetchPlain
  else refuse .scanningNextToken s.cursor.mark .cannotStartToken s.cursor.mark

/-- Reads the next token. -/
def fetch (s : Scanner) : Except SyntaxFault Scanner := do
  let s ← (skipToToken (s.cursor.rest.length + 1) s).dropStaleKeys
  let s := s.unrollIndent s.column
  match s.cursor.rest with
  | [] => s.fetchEnd
  | c :: more => s.fetchAt c more

/-! ## 5. The run -/

/-- Takes the tokens out of the queue that no simple key can point at. -/
def release (s : Scanner) : List Token → List Token × Scanner
  | [] => ([], { s with queue := [] })
  | token :: queue =>
    if s.headIsOpen then ([], { s with queue := token :: queue })
    else
      let (tokens, s) := release { s with released := s.released + 1 } queue
      (token :: tokens, s)

/-- Reads tokens to the end of the text or to a fault. -/
def run : (bound : Nat) → Scanner → List Token × Option SyntaxFault
  | 0, _ => ([], none)
  | bound + 1, s =>
    match s.fetch >>= dropStaleKeys with
    | .error fault => ([], some fault)
    | .ok s =>
      let (tokens, s) := s.release s.queue
      if s.finished then (tokens, none)
      else
        let (more, fault) := run bound s
        (tokens ++ more, fault)

end Scanner

/-! ## 6. Texts -/

/-- Whether a YAML text may hold a character. -/
def isAllowed (c : Char) : Bool :=
  let n := c.toNat
  c == '\t' || c == '\n' || c == '\r' || (0x20 ≤ n && n ≤ 0x7E) || n == 0x85 ||
    (0xA0 ≤ n && n ≤ 0xD7FF) || (0xE000 ≤ n && n ≤ 0xFFFD) || 0x10000 ≤ n

/-- Whether the characters of a text are allowed. -/
def checkCharacters (text : List Char) : Except SyntaxFault Unit :=
  match text.dropWhile isAllowed with
  | [] => .ok ()
  | _ =>
    let offset := (Text.Utf8.encode (text.takeWhile isAllowed)).length
    .error { problem := .controlCharacter offset, mark := {} }

/-- The tokens of a text, and the fault that ends them if there is one. -/
def Token.scan (text : List Char) : List Token × Option SyntaxFault :=
  match checkCharacters text with
  | .error fault => ([], some fault)
  | .ok () =>
    Scanner.run (text.length + 2) { cursor := { rest := text, mark := {} } }

end Relay.Yaml
