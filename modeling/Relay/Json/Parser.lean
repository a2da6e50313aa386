import Relay.Json.Number
import Relay.Json.Text

/-!
# Reading JSON text

`parse` reads one value from a whole text; `skipValue` passes over a value that nobody wants.

* White space is the space, the tab and the two line ends.
* `nextItem` and `nextMember` say how a list or an object goes on, for every reader of them.
* Arrays and objects nest at most 127 deep in `parse`; a value that is skipped may nest deeper.

The mutual functions take a bound that falls with every call. Every second call has used up a
character, so twice the length of the text and one more is never exhausted.
-/

namespace Relay.Json

/-! ## 1. Between the values -/

/-- The white space of JSON. -/
def isJsonSpace (c : Char) : Bool :=
  c == ' ' || c == '\n' || c == '\t' || c == '\r'

/-- The text from its first character that is not white space. -/
def skipSpace (s : List Char) : List Char :=
  s.dropWhile isJsonSpace

/-- How a list or an object goes on. -/
inductive Next where
  /-- Another item starts here, or another key behind its opening quote. -/
  | item (s : List Char)
  /-- The end, and what follows it. -/
  | done (rest : List Char)

/-- The next item of a list. -/
def nextItem (first : Bool) (s : List Char) : Except Fault Next :=
  match skipSpace s with
  | [] => failAt .eofInList []
  | c :: rest =>
    if c = ']' then .ok (.done rest)
    else if first then .ok (.item (c :: rest))
    else if c = ',' then
      match skipSpace rest with
      | [] => failAt .eofInValue []
      | d :: more =>
        if d = ']' then failNext .trailingComma (d :: more) else .ok (.item (d :: more))
    else failNext .expectedCommaOrBracket (c :: rest)

/-- The next key of an object. -/
def nextMember (first : Bool) (s : List Char) : Except Fault Next :=
  match skipSpace s with
  | [] => failAt .eofInObject []
  | c :: rest =>
    if c = '\x7d' then .ok (.done rest)
    else if first then
      if c = '"' then .ok (.item rest) else failNext .keyMustBeString (c :: rest)
    else if c = ',' then
      match skipSpace rest with
      | [] => failAt .eofInValue []
      | d :: more =>
        if d = '"' then .ok (.item more)
        else if d = '\x7d' then failNext .trailingComma (d :: more)
        else failNext .keyMustBeString (d :: more)
    else failNext .expectedCommaOrBrace (c :: rest)

/-- The colon between a key and its value. -/
def readColon (s : List Char) : Except Fault (List Char) :=
  match skipSpace s with
  | [] => failAt .eofInObject []
  | c :: rest => if c = ':' then .ok rest else failNext .expectedColon (c :: rest)

/-- The rest of a word whose first letter has been read. -/
def readWord : (word : List Char) → List Char → Except Fault (List Char)
  | [], s => .ok s
  | _ :: _, [] => failAt .eofInValue []
  | w :: word, c :: s => if c = w then readWord word s else failNext .expectedIdent (c :: s)

/-! ## 2. Values -/

/-- Arrays and objects nest at most this deep. -/
def maxDepth : Nat := 127

/-- Answers a value that is known already, once the text went well. -/
def withValue (v : Value) (r : Except Fault (List Char)) : Reading Value :=
  r.map (fun rest => (v, rest))

mutual

/-- Reads a value inside which arrays and objects may still nest `depth` deep. -/
def readValue : (bound depth : Nat) → List Char → Except Fault (Value × List Char)
  | 0, _, s => failAt .eofInValue s
  | bound + 1, depth, s =>
    match skipSpace s with
    | [] => failAt .eofInValue []
    | c :: rest =>
      if c = 'n' then withValue .null (readWord "ull".toList rest)
      else if c = 't' then withValue (.bool true) (readWord "rue".toList rest)
      else if c = 'f' then withValue (.bool false) (readWord "alse".toList rest)
      else if c = '-' then (readNumber true rest).map (fun r => (.number r.1, r.2))
      else if c.isDigit then (readNumber false (c :: rest)).map (fun r => (.number r.1, r.2))
      else if c = '"' then (readString rest).map (fun r => (.string (String.ofList r.1), r.2))
      else if c = '[' then
        match depth with
        | 0 => failNext .recursionLimit (c :: rest)
        | depth + 1 => (readItems bound depth true rest).map (fun r => (.array r.1, r.2))
      else if c = '\x7b' then
        match depth with
        | 0 => failNext .recursionLimit (c :: rest)
        | depth + 1 =>
          (readMembers bound depth true rest).map (fun r => (.object (Object.ofList r.1), r.2))
      else failNext .expectedValue (c :: rest)

/-- Reads the items of a list to its end. -/
def readItems : (bound depth : Nat) → (first : Bool) → List Char →
    Except Fault (List Value × List Char)
  | 0, _, _, s => failAt .eofInValue s
  | bound + 1, depth, first, s =>
    match nextItem first s with
    | .error fault => .error fault
    | .ok (.done rest) => .ok ([], rest)
    | .ok (.item s) => do
      let (item, s) ← readValue bound depth s
      let (more, s) ← readItems bound depth false s
      .ok (item :: more, s)

/-- Reads the members of an object to its end, in the order of the text. -/
def readMembers : (bound depth : Nat) → (first : Bool) → List Char →
    Except Fault (List (String × Value) × List Char)
  | 0, _, _, s => failAt .eofInValue s
  | bound + 1, depth, first, s =>
    match nextMember first s with
    | .error fault => .error fault
    | .ok (.done rest) => .ok ([], rest)
    | .ok (.item s) => do
      let (key, s) ← readString s
      let s ← readColon s
      let (value, s) ← readValue bound depth s
      let (more, s) ← readMembers bound depth false s
      .ok ((String.ofList key, value) :: more, s)

end

/-- What may follow the value of a whole text: white space only. -/
def expectEnd (s : List Char) : Except Fault Unit :=
  match skipSpace s with
  | [] => .ok ()
  | c :: rest => failNext .trailingCharacters (c :: rest)

/-- Reads a whole text with a reader, and locates its fault. -/
def readAll {α : Type} (read : List Char → Except Fault (α × List Char)) (text : List Char) :
    Except Located α :=
  match read text with
  | .error fault => .error (fault.locate text)
  | .ok (a, rest) =>
    match expectEnd rest with
    | .error fault => .error (fault.locate text)
    | .ok () => .ok a

/-- The value that a whole text spells. -/
def parse (text : List Char) : Except Located Value :=
  readAll (readValue (2 * text.length + 1) maxDepth) text

/-! ## 3. Skipping -/

/-- Passes over a number whose sign, if any, has been read. -/
def skipNumber (s : List Char) : Except Fault (List Char) := do
  let s ← match s with
    | [] => failAt .invalidNumber []
    | '0' :: rest =>
      match rest with
      | c :: _ => if c.isDigit then failNext .invalidNumber rest else .ok rest
      | [] => .ok []
    | c :: rest =>
      if c.isDigit then .ok (rest.dropWhile Char.isDigit) else failNext .invalidNumber (c :: rest)
  let s ← match s with
    | '.' :: rest =>
      if (rest.takeWhile Char.isDigit).isEmpty then failNext .invalidNumber rest
      else .ok (rest.dropWhile Char.isDigit)
    | rest => .ok rest
  match s with
  | 'e' :: rest => skipExponentDigits (scanSign rest).2
  | 'E' :: rest => skipExponentDigits (scanSign rest).2
  | rest => .ok rest
where
  /-- Passes over the digits of an exponent. -/
  skipExponentDigits (rest : List Char) : Except Fault (List Char) :=
    if (rest.takeWhile Char.isDigit).isEmpty then failNext .invalidNumber rest
    else .ok (rest.dropWhile Char.isDigit)

/-- What kind of container is being skipped. -/
inductive Container where
  | list
  | object
  deriving DecidableEq, Repr

/-- The closing bracket. -/
def Container.close : Container → Char
  | .list => ']'
  | .object => '\x7d'

/-- The cause when the text ends inside. -/
def Container.eof : Container → Cause
  | .list => .eofInList
  | .object => .eofInObject

/-- The cause when neither a comma nor the closing bracket follows an item. -/
def Container.noComma : Container → Cause
  | .list => .expectedCommaOrBracket
  | .object => .expectedCommaOrBrace

mutual

/-- Passes over a value and then over the rest of the containers around it, innermost first. -/
def skipValueIn : (bound : Nat) → List Container → List Char → Except Fault (List Char)
  | 0, _, s => failAt .eofInValue s
  | bound + 1, around, s =>
    match skipSpace s with
    | [] => failAt .eofInValue []
    | c :: rest =>
      if c = 'n' then readWord "ull".toList rest >>= skipRest bound around
      else if c = 't' then readWord "rue".toList rest >>= skipRest bound around
      else if c = 'f' then readWord "alse".toList rest >>= skipRest bound around
      else if c = '-' then skipNumber rest >>= skipRest bound around
      else if c.isDigit then skipNumber (c :: rest) >>= skipRest bound around
      else if c = '"' then skipString rest >>= skipRest bound around
      else if c = '[' then
        match skipSpace rest with
        | [] => failAt .eofInList []
        | d :: more =>
          if d = ']' then skipRest bound around more
          else skipValueIn bound (.list :: around) (d :: more)
      else if c = '\x7b' then
        match skipSpace rest with
        | [] => failAt .eofInObject []
        | d :: more =>
          if d = '\x7d' then skipRest bound around more
          else skipMember bound (.object :: around) (d :: more)
      else failNext .expectedValue (c :: rest)

/-- Passes over what follows a value in the containers around it. -/
def skipRest : (bound : Nat) → List Container → List Char → Except Fault (List Char)
  | 0, _, s => failAt .eofInValue s
  | _ + 1, [], s => .ok s
  | bound + 1, container :: around, s =>
    match skipSpace s with
    | [] => failAt container.eof []
    | c :: rest =>
      if c = ',' then
        match container with
        | .list => skipValueIn bound (container :: around) rest
        | .object => skipMember bound (container :: around) rest
      else if c = container.close then skipRest bound around rest
      else failNext container.noComma (c :: rest)

/-- Passes over a member of an object, and goes on. -/
def skipMember : (bound : Nat) → List Container → List Char → Except Fault (List Char)
  | 0, _, s => failAt .eofInValue s
  | bound + 1, around, s =>
    match skipSpace s with
    | [] => failAt .eofInObject []
    | c :: rest =>
      if c = '"' then do
        let s ← skipString rest
        let s ← readColon s
        skipValueIn bound around s
      else failNext .keyMustBeString (c :: rest)

end

/-- Passes over a value. -/
def skipValue (s : List Char) : Except Fault (List Char) :=
  skipValueIn (2 * s.length + 1) [] s

end Relay.Json
