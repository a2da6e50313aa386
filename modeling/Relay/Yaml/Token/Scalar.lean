import Relay.Text.Digit
import Relay.Text.Utf8
import Relay.Yaml.Token

/-!
# Reading scalars

The four written forms of a scalar that span more than a name: quoted (with one or two quotes),
plain, and block (literal or folded).

* A *gap* is a run of blanks and breaks inside a quoted or plain scalar. Without a break its blanks
  count; with one break it counts as a space, and with several as all breaks but the first.
* A plain scalar ends before a gap that leads out of the indentation, before a comment, and before
  the characters that mean something there.
* The lines of a block scalar are those indented as far as its first one, or as its header says.

Every loop takes a bound on the characters that are left.
-/

namespace Relay.Yaml

/-! ## 1. Gaps -/

/-- A run of blanks and breaks. -/
structure Gap where
  /-- The blanks before the first break. -/
  blanks : List Char := []
  /-- The first break. -/
  first : List Char := []
  /-- The other breaks. -/
  more : List Char := []
  broken : Bool := false

/-- What a gap stands for. -/
def Gap.text (gap : Gap) : List Char :=
  if gap.broken then
    if gap.first = ['\n'] then (if gap.more.isEmpty then [' '] else gap.more)
    else gap.first ++ gap.more
  else gap.blanks

/-- The gap that goes on with a blank. -/
def Gap.withBlank (gap : Gap) (c : Char) : Gap :=
  if gap.broken then gap else { gap with blanks := gap.blanks ++ [c] }

/-- The gap that goes on with a break. -/
def Gap.withBreak (gap : Gap) (text : List Char) : Gap :=
  if gap.broken then { gap with more := gap.more ++ text }
  else { gap with first := text, broken := true }

/-- Reads a gap to its end. In a plain scalar a tab may not stand in place of the indentation:
`since` tells where the scalar started, and the indentation. -/
def readGap (since : Option (Mark × Nat)) :
    (bound : Nat) → Gap → Cursor → Except SyntaxFault (Gap × Cursor)
  | 0, gap, cursor => .ok (gap, cursor)
  | bound + 1, gap, cursor =>
    match cursor.rest with
    | [] => .ok (gap, cursor)
    | c :: _ =>
      if isBlank c then
        match since with
        | some (start, indent) =>
          if gap.broken && cursor.mark.column < indent && c == '\t' then
            refuse .scanningPlainScalar start .tabViolatesIndentation cursor.mark
          else readGap since bound (gap.withBlank c) (cursor.skip 1)
        | none => readGap since bound (gap.withBlank c) (cursor.skip 1)
      else if isBreak c then
        readGap since bound (gap.withBreak cursor.readBreak.1) cursor.skipBreak
      else .ok (gap, cursor)

/-! ## 2. Quoted scalars -/

/-- The character that a short escape stands for. -/
def shortEscape? (c : Char) : Option Char :=
  match c with
  | '0' => some '\x00'
  | 'a' => some '\x07'
  | 'b' => some '\x08'
  | 't' => some '\t'
  | '\t' => some '\t'
  | 'n' => some '\n'
  | 'v' => some '\x0B'
  | 'f' => some '\x0C'
  | 'r' => some '\r'
  | 'e' => some '\x1B'
  | ' ' => some ' '
  | '"' => some '"'
  | '/' => some '/'
  | '\\' => some '\\'
  | 'N' => some '\u0085'
  | '_' => some '\u00A0'
  | 'L' => some '\u2028'
  | 'P' => some '\u2029'
  | _ => none

/-- How many digits an escape by number has. -/
def escapeDigits? (c : Char) : Option Nat :=
  match c with
  | 'x' => some 2
  | 'u' => some 4
  | 'U' => some 8
  | _ => none

/-- The number that hexadecimal digits spell. -/
def hexNumber? (digits : List Char) : Option Nat :=
  digits.foldlM (fun n c => (Text.hexValue? c).map (n * 16 + ·)) 0

/-- Reads an escape whose backslash comes next. -/
def readScalarEscape (start : Mark) (cursor : Cursor) : Except SyntaxFault (Char × Cursor) :=
  match cursor.peek? 1 with
  | none => refuse .parsingQuotedScalar start .unknownEscape cursor.mark
  | some c =>
    match shortEscape? c, escapeDigits? c with
    | some e, _ => .ok (e, cursor.skip 2)
    | none, none => refuse .parsingQuotedScalar start .unknownEscape cursor.mark
    | none, some count =>
      let cursor := cursor.skip 2
      let digits := cursor.rest.take count
      match hexNumber? digits with
      | none => refuse .parsingQuotedScalar start .noHexDigit cursor.mark
      | some n =>
        if digits.length < count then refuse .parsingQuotedScalar start .noHexDigit cursor.mark
        else if n.isValidChar then .ok (Char.ofNat n, cursor.skip count)
        else refuse .parsingQuotedScalar start .invalidCodePoint cursor.mark

/-- Reads a quoted scalar that started at `start`, behind its opening quote. -/
def readQuoted (single : Bool) (start : Mark) :
    (bound : Nat) → Cursor → Except SyntaxFault (List Char × Cursor)
  | 0, cursor => refuse .scanningQuotedScalar start .endInScalar cursor.mark
  | bound + 1, cursor =>
    if cursor.atDocumentMarker then
      refuse .scanningQuotedScalar start .documentMarkerInScalar cursor.mark
    else match cursor.rest with
      | [] => refuse .scanningQuotedScalar start .endInScalar cursor.mark
      | c :: more =>
        if single && c == '\'' && more.head? == some '\'' then do
          let (text, cursor) ← readQuoted single start bound (cursor.skip 2)
          .ok ('\'' :: text, cursor)
        else if c == (if single then '\'' else '"') then .ok ([], cursor.skip 1)
        else if !single && c == '\\' then
          if more.head?.any isBreak then do
            let (gap, cursor) ← readGap none bound { broken := true } (cursor.skip 1).skipBreak
            let (text, cursor) ← readQuoted single start bound cursor
            .ok (gap.text ++ text, cursor)
          else do
            let (e, cursor) ← readScalarEscape start cursor
            let (text, cursor) ← readQuoted single start bound cursor
            .ok (e :: text, cursor)
        else if isBlankOrBreak c then do
          let (gap, cursor) ← readGap none bound {} cursor
          let (text, cursor) ← readQuoted single start bound cursor
          .ok (gap.text ++ text, cursor)
        else do
          let (text, cursor) ← readQuoted single start bound (cursor.skip 1)
          .ok (c :: text, cursor)

/-- Reads a quoted scalar. -/
def scanQuoted (single : Bool) (cursor : Cursor) : Except SyntaxFault (Token × Cursor) := do
  let start := cursor.mark
  let (text, cursor) ← readQuoted single start (cursor.rest.length + 1) (cursor.skip 1)
  let style := if single then ScalarStyle.singleQuoted else ScalarStyle.doubleQuoted
  .ok ({ kind := .scalar text style, start, stop := cursor.mark }, cursor)

/-! ## 3. Plain scalars -/

/-- The characters that mean something inside flow collections. -/
def isFlowIndicator (c : Char) : Bool :=
  c == ',' || c == '[' || c == ']' || c == '\x7b' || c == '\x7d'

/-- What reading a plain scalar answers. -/
structure PlainEnd where
  text : List Char := []
  /-- The place behind the last character. -/
  stop : Mark
  cursor : Cursor
  /-- Whether the gap behind the scalar holds a break. -/
  broken : Bool

/-- A part of a plain scalar with more text in front of it. -/
def PlainEnd.after (text : List Char) (plain : PlainEnd) : PlainEnd :=
  { plain with text := text ++ plain.text }

/-- Reads a plain scalar that started at `start`. The gap before the cursor counts only when another
character of the scalar follows. -/
def readPlain (flow : Bool) (indent : Nat) (start : Mark) :
    (bound : Nat) → (inWord : Bool) → Gap → (stop : Mark) → Cursor → Except SyntaxFault PlainEnd
  | 0, _, gap, stop, cursor => .ok { stop, cursor, broken := gap.broken }
  | bound + 1, inWord, gap, stop, cursor =>
    let ended : PlainEnd := { stop, cursor, broken := gap.broken }
    match cursor.rest with
    | [] => .ok ended
    | c :: more =>
      if !inWord && (cursor.atDocumentMarker || c == '#') then .ok ended
      else if isBlankOrBreak c then do
        let (gap, cursor) ← readGap (some (start, indent)) bound gap cursor
        if !flow && cursor.mark.column < indent then .ok { stop, cursor, broken := gap.broken }
        else readPlain flow indent start bound false gap stop cursor
      else if flow && c == ':' && more.head?.any (fun d => isFlowIndicator d || d == '?') then
        refuse .scanningPlainScalar start .unexpectedColon cursor.mark
      else if (c == ':' && endsWord more) || (flow && isFlowIndicator c) then .ok ended
      else do
        let next := cursor.skip 1
        let plain ← readPlain flow indent start bound true {} next.mark next
        .ok (plain.after (gap.text ++ [c]))

/-- Reads a plain scalar. `indent` is the column that its later lines must reach. -/
def scanPlain (flow : Bool) (indent : Nat) (cursor : Cursor) :
    Except SyntaxFault (Token × PlainEnd) := do
  let start := cursor.mark
  let plain ← readPlain flow indent start (2 * cursor.rest.length + 1) false {} start cursor
  .ok ({ kind := .scalar plain.text .plain, start, stop := plain.stop }, plain)

/-! ## 4. Block scalars -/

/-- What happens to the breaks at the end of a block scalar. -/
inductive Chomping where
  /-- One break is kept. -/
  | clip
  /-- None is kept. -/
  | strip
  /-- All are kept. -/
  | keep
  deriving DecidableEq, Repr

/-- Reads a sign that tells the chomping. -/
def readChomping (cursor : Cursor) : Option Chomping × Cursor :=
  if cursor.at? '+' then (some .keep, cursor.skip 1)
  else if cursor.at? '-' then (some .strip, cursor.skip 1)
  else (none, cursor)

/-- Reads a digit that tells the indentation. -/
def readIncrement (start : Mark) (cursor : Cursor) :
    Except SyntaxFault (Option Nat × Cursor) :=
  match cursor.rest with
  | c :: _ =>
    if c == '0' then refuse .scanningBlockScalar start .zeroIndentation cursor.mark
    else if c.isDigit then .ok (some (c.toNat - '0'.toNat), cursor.skip 1)
    else .ok (none, cursor)
  | [] => .ok (none, cursor)

/-- Reads the two signs of a header, in either order. -/
def readBlockHeader (start : Mark) (cursor : Cursor) :
    Except SyntaxFault (Chomping × Option Nat × Cursor) := do
  match readChomping cursor with
  | (some chomping, cursor) =>
    let (increment, cursor) ← readIncrement start cursor
    .ok (chomping, increment, cursor)
  | (none, cursor) =>
    let (increment, cursor) ← readIncrement start cursor
    match increment with
    | none => .ok (.clip, none, cursor)
    | some n =>
      let (chomping, cursor) := readChomping cursor
      .ok (chomping.getD .clip, some n, cursor)

/-- What reading the empty lines before a line of text answers. -/
structure BlankLines where
  breaks : List Char
  /-- The furthest column that spaces reached. -/
  furthest : Nat
  cursor : Cursor

/-- Reads empty lines and the indentation of the line behind them. Without a known indentation all
spaces count. -/
def readBlankLines (indent : Option Nat) (start : Mark) :
    (bound : Nat) → (furthest : Nat) → Cursor → Except SyntaxFault BlankLines
  | 0, furthest, cursor => .ok { breaks := [], furthest, cursor }
  | bound + 1, furthest, cursor =>
    let spaces := (cursor.rest.takeWhile (· == ' ')).length
    let cursor := cursor.skip (match indent with
      | none => spaces
      | some n => min spaces (n - cursor.mark.column))
    let furthest := max furthest cursor.mark.column
    if (indent.all (cursor.mark.column < ·)) && cursor.at? '\t' then
      refuse .scanningBlockScalar start .tabForIndentation cursor.mark
    else if cursor.rest.head?.any isBreak then do
      let lines ← readBlankLines indent start bound furthest cursor.skipBreak
      .ok { lines with breaks := cursor.readBreak.1 ++ lines.breaks }
    else .ok { breaks := [], furthest, cursor }

/-- What reading the lines of a block scalar answers. -/
structure BlockEnd where
  text : List Char
  /-- The break behind the last line. -/
  last : List Char
  /-- The breaks behind that one. -/
  blank : List Char
  cursor : Cursor

/-- Reads the lines of a block scalar. `before` is the break that ends the line before, `spaced`
tells whether that line started with a blank, and `blank` holds the breaks of the empty lines
between. -/
def readBlockLines (literal : Bool) (indent : Nat) (start : Mark) :
    (bound : Nat) → (before : List Char) → (spaced : Bool) → (blank : List Char) → Cursor →
    Except SyntaxFault BlockEnd
  | 0, before, _, blank, cursor => .ok { text := [], last := before, blank, cursor }
  | bound + 1, before, spaced, blank, cursor =>
    match cursor.rest with
    | [] => .ok { text := [], last := before, blank, cursor }
    | c :: _ =>
      if cursor.mark.column ≠ indent then .ok { text := [], last := before, blank, cursor }
      else do
        let joint :=
          if !literal && before == ['\n'] && !spaced && !isBlank c then
            (if blank.isEmpty then [' '] else [])
          else before
        let (line, cursor) := cursor.span (fun d => !isBreak d)
        let (next, cursor) := cursor.readBreak
        let lines ← readBlankLines (some indent) start (cursor.rest.length + 1) 0 cursor
        let tail ←
          readBlockLines literal indent start bound next (isBlank c) lines.breaks lines.cursor
        .ok { tail with text := joint ++ blank ++ line ++ tail.text }

/-- Reads a block scalar inside a block indented to `outer` (-1 at the top). -/
def scanBlock (literal : Bool) (outer : Int) (cursor : Cursor) :
    Except SyntaxFault (Token × Cursor) := do
  let start := cursor.mark
  let (chomping, increment, cursor) ← readBlockHeader start (cursor.skip 1)
  let cursor := cursor.skipWhile isBlank
  let cursor := if cursor.at? '#' then cursor.skipLine else cursor
  if !endsLine cursor.rest then refuse .scanningBlockScalar start .noCommentOrBreak cursor.mark
  else
    let cursor := cursor.skipBreak
    let known := increment.map (fun n => (max outer 0).toNat + n)
    let lines ← readBlankLines known start (cursor.rest.length + 1) 0 cursor
    let indent := known.getD (max lines.furthest (max (outer + 1).toNat 1))
    let block ← readBlockLines literal indent start (lines.cursor.rest.length + 1) [] false
      lines.breaks lines.cursor
    let tail := match chomping with
      | .strip => []
      | .clip => block.last
      | .keep => block.last ++ block.blank
    let style := if literal then ScalarStyle.literal else ScalarStyle.folded
    .ok ({ kind := .scalar (block.text ++ tail) style, start, stop := block.cursor.mark },
      block.cursor)

end Relay.Yaml
