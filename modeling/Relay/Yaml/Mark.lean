/-!
# Places in a YAML text

A *mark* is a place: the number of bytes before it, its line and its column, all from zero; a column
counts characters. A *cursor* is what is left of the text together with the mark of its first
character.

* `isBreak`, `isBlank`, `isEnd` fix the character classes that reading rests on.
* `Cursor.skip` steps over one character, `Cursor.readBreak` over a line break, which may be two
  characters long and is read as one.
-/

namespace Relay.Yaml

/-! ## 1. Marks -/

/-- A place in a text. -/
structure Mark where
  /-- How many bytes of UTF-8 come before. -/
  index : Nat := 0
  line : Nat := 0
  column : Nat := 0
  deriving DecidableEq, Repr, Inhabited

/-- Whether a mark is the start of the first line. Messages do not mention such a place. -/
def Mark.isOrigin (mark : Mark) : Bool :=
  mark.line == 0 && mark.column == 0

/-- The wording of a place, counted from one. -/
def Mark.describe (mark : Mark) : String :=
  "line " ++ toString (mark.line + 1) ++ " column " ++ toString (mark.column + 1)

/-- How many bytes of UTF-8 a text has. -/
def byteCount : List Char → Nat
  | [] => 0
  | c :: rest => c.utf8Size + byteCount rest

/-- The place behind a text without breaks. -/
def Mark.forward (mark : Mark) (text : List Char) : Mark :=
  { mark with index := mark.index + byteCount text, column := mark.column + text.length }

/-- The start of the next line, behind a break. -/
def Mark.nextLine (mark : Mark) (lineBreak : List Char) : Mark :=
  { index := mark.index + byteCount lineBreak, line := mark.line + 1, column := 0 }

/-! ## 2. Character classes -/

/-- The characters that end a line. -/
def isBreak (c : Char) : Bool :=
  c == '\n' || c == '\r' || c == '\u0085' || c == '\u2028' || c == '\u2029'

/-- The space and the tab. -/
def isBlank (c : Char) : Bool :=
  c == ' ' || c == '\t'

/-- Blanks and breaks. -/
def isBlankOrBreak (c : Char) : Bool :=
  isBlank c || isBreak c

/-- The characters of names: letters and digits of ASCII, the hyphen and the underscore. -/
def isNameChar (c : Char) : Bool :=
  c.isAlphanum || c == '-' || c == '_'

/-- Whether a text is at its end, or a blank or a break comes next. -/
def endsWord : List Char → Bool
  | [] => true
  | c :: _ => isBlankOrBreak c

/-- Whether a text is at its end, or a break comes next. -/
def endsLine : List Char → Bool
  | [] => true
  | c :: _ => isBreak c

/-! ## 3. Cursors -/

/-- What is left of a text, and where it starts. -/
structure Cursor where
  rest : List Char
  mark : Mark
  deriving Repr, Inhabited

namespace Cursor

/-- The character `n` places ahead. -/
def peek? (cursor : Cursor) (n : Nat) : Option Char :=
  cursor.rest[n]?

/-- Whether the given character comes next. -/
def at? (cursor : Cursor) (c : Char) : Bool :=
  cursor.rest.head? == some c

/-- Steps over characters of the line. -/
def skip (cursor : Cursor) (count : Nat) : Cursor :=
  { rest := cursor.rest.drop count, mark := cursor.mark.forward (cursor.rest.take count) }

/-- Reads the longest run of characters of a class that holds no breaks. -/
def span (cursor : Cursor) (p : Char → Bool) : List Char × Cursor :=
  let taken := cursor.rest.takeWhile p
  (taken, cursor.skip taken.length)

/-- Steps over the longest run of characters of a class that holds no breaks. -/
def skipWhile (cursor : Cursor) (p : Char → Bool) : Cursor :=
  (cursor.span p).2

/-- Reads the line break that comes next, if there is one: a line separator or a paragraph separator
stands for itself, every other break for a newline. -/
def readBreak (cursor : Cursor) : List Char × Cursor :=
  match cursor.rest with
  | '\r' :: '\n' :: rest => (['\n'], { rest, mark := cursor.mark.nextLine ['\r', '\n'] })
  | c :: rest =>
    if isBreak c then
      (if c == '\u2028' || c == '\u2029' then [c] else ['\n'],
        { rest, mark := cursor.mark.nextLine [c] })
    else ([], cursor)
  | [] => ([], cursor)

/-- Steps over the line break that comes next. -/
def skipBreak (cursor : Cursor) : Cursor :=
  cursor.readBreak.2

/-- Steps over the rest of the line, up to its break. -/
def skipLine (cursor : Cursor) : Cursor :=
  cursor.skipWhile (fun c => !isBreak c)

/-- Whether the three dashes or dots that divide documents come next, at the start of a line. -/
def atDocumentMarker (cursor : Cursor) : Bool :=
  cursor.mark.column == 0 &&
    ((cursor.rest.take 3 == ['-', '-', '-']) || (cursor.rest.take 3 == ['.', '.', '.'])) &&
    endsWord (cursor.rest.drop 3)

end Cursor

end Relay.Yaml
