import Relay.Text.Charset

/-!
# Content types

A content type is a type and a subtype, and parameters behind them. It may name the character set of
a body (`charsetOf`). One that cannot be read to its end names none, whatever stands in front of the
fault.
-/

namespace Relay.Http

/-! ## 1. Characters -/

/-- Whether a character may stand in a name. -/
def isTokenChar (c : Char) : Bool :=
  c.isAlphanum || "!#$%&'*+-.^_\x60|~".toList.contains c

/-- Whether a character may stand between quotes. -/
def isQuotable (c : Char) : Bool :=
  0x20 ≤ c.toNat && c.toNat < 0x7F

/-- A text without the spaces and tabs around it. -/
def trimBlanks (text : List Char) : List Char :=
  let isBlank := fun c : Char => c == ' ' || c == '\t'
  ((text.dropWhile isBlank).reverse.dropWhile isBlank).reverse

/-! ## 2. Parameters -/

/-- A parameter: its name and its value. -/
abbrev Parameter := List Char × List Char

/-- What the reading of parameters is in the middle of. What has been read of it is in reverse. -/
inductive ParameterPart where
  | name (read : List Char)
  | plain (name read : List Char)
  /-- Between quotes. The first character there may be a quote, too. -/
  | quoted (name read : List Char)
  /-- Behind quotes. -/
  | behind

/-- Reads parameters to the end. A name has at least one character, and so has a value, unless it is
the last one and not between quotes. -/
def readParameters : ParameterPart → List Char → Option (List Parameter)
  | .name read, [] => if read.isEmpty then some [] else none
  | .name read, c :: rest =>
    if read.isEmpty && c == ' ' then readParameters (.name []) rest
    else if isTokenChar c then readParameters (.name (c :: read)) rest
    else if !read.isEmpty && c == '=' then readParameters (.plain read.reverse []) rest
    else none
  | .plain name read, [] => some [(name, read.reverse)]
  | .plain name read, c :: rest =>
    if read.isEmpty && c == '"' then readParameters (.quoted name []) rest
    else if isTokenChar c then readParameters (.plain name (c :: read)) rest
    else if !read.isEmpty && c == ';' then
      (readParameters (.name []) rest).map ((name, read.reverse) :: ·)
    else none
  | .quoted _ _, [] => none
  | .quoted name read, c :: rest =>
    if !read.isEmpty && c == '"' then
      (readParameters .behind rest).map ((name, read.reverse) :: ·)
    else if isQuotable c then readParameters (.quoted name (c :: read)) rest
    else none
  | .behind, [] => some []
  | .behind, c :: rest =>
    if c == ';' then readParameters (.name []) rest
    else if c == ' ' then readParameters .behind rest
    else none

/-- The parameters of a content type. -/
def parameters? (text : List Char) : Option (List Parameter) :=
  match text.span isTokenChar with
  | (_ :: _, '/' :: rest) =>
    match rest.span isTokenChar with
    | (_, []) => some []
    | (_ :: _, ';' :: rest) => readParameters (.name []) rest
    | _ => none
  | _ => none

/-! ## 3. Character sets -/

/-- Whether a parameter names a character set. Its name may be in any case. -/
def Parameter.isCharset (parameter : Parameter) : Bool :=
  String.ofList (parameter.1.map Char.toLower) == "charset"

/-- The character set that a content type names in the first parameter that does, and UTF-8 when
there is none. -/
def charsetOf (contentType : Option String) : Text.Charset :=
  match contentType.bind (fun text => parameters? (trimBlanks text.toList)) with
  | none => .utf8
  | some parameters =>
    match parameters.find? Parameter.isCharset with
    | none => .utf8
    | some parameter => .ofName parameter.2

end Relay.Http
