import Relay.Text.NormalForm
import Relay.Url.Domain.Direction
import Relay.Url.Domain.Joining
import Relay.Url.Domain.Mapping
import Relay.Url.Punycode

/-!
# Domain names

A domain name is a row of labels with dots between them. It is used in ASCII; a label with other
characters has an ASCII form, `xn--` and its Punycode. `Domain.ascii?` finds the ASCII form of a
name, or refuses the name:

1. all characters are mapped, and the name is put in its composed normal form (`canonical?`);
2. a label in ASCII form is read (`readLabel?`): it must be the form of a label that step 1 does not
   change and that is not in ASCII anyway;
3. no label begins with a mark, joiners stand where they may, and directions are not mixed;
4. labels beyond ASCII are written in their ASCII form.

A name in ASCII without labels in ASCII form is only put in lower case.
-/

namespace Relay.Url.Domain

/-! ## 1. Labels -/

/-- What the ASCII form of a label begins with. -/
def asciiFormMark : List Char := "xn--".toList

/-- So many characters of a label have an ASCII form. -/
def maxLabelLength : Nat := 1000

/-- So many characters of Punycode are read. -/
def maxCodeLength : Nat := 2000

/-- Whether a text is in ASCII. -/
def isAscii (text : List Char) : Bool :=
  text.all (fun c => c.toNat < 0x80)

/-- Whether a label is in ASCII form. -/
def hasAsciiForm (label : List Char) : Bool :=
  asciiFormMark.isPrefixOf label

/-- The labels of a name. -/
def labels (name : List Char) : List (List Char) :=
  name.splitOn '.'

/-- A text in its mapped and composed form. -/
def canonical? (text : List Char) : Option (List Char) :=
  (text.mapM mapped?).map (fun parts => Text.normalForm parts.flatten)

/-! ## 2. Reading labels -/

/-- The label that a text in Punycode stands for. -/
def readCode? (code : List Char) : Option (List Char) :=
  if maxCodeLength < code.length then none
  else
    (Punycode.decode code).filter
      (fun label => !isAscii label && canonical? label == some label)

/-- A label without its ASCII form. -/
def readLabel? (label : List Char) : Option (List Char) :=
  if hasAsciiForm label then readCode? (label.drop asciiFormMark.length) else some label

/-- Whether a label may be used. -/
def isValidLabel (label : List Char) : Bool :=
  match label with
  | [] => true
  | first :: _ => !Text.isMark first && joinersFit [] label

/-! ## 3. Writing labels -/

/-- A label in ASCII. -/
def writeLabel? (label : List Char) : Option (List Char) :=
  if isAscii label then some label
  else if maxLabelLength < label.length then none
  else some (asciiFormMark ++ Punycode.encode label)

/-! ## 4. Names -/

/-- Whether a name in lower case is in ASCII and has no label in ASCII form. -/
def isPlain (name : List Char) : Bool :=
  isAscii name && (labels name).all (fun label => !hasAsciiForm label)

/-- The ASCII form of a name in canonical form. -/
def write? (name : List Char) : Option (List Char) :=
  match (labels name).mapM readLabel? with
  | none => none
  | some read =>
    if read.all isValidLabel && runTogether read then
      ((labels name).mapM writeLabel?).map ['.'].intercalate
    else none

/-- The ASCII form of a name. -/
def ascii? (name : List Char) : Option (List Char) :=
  let lower := name.map Char.toLower
  if isPlain lower then some lower else (canonical? name).bind write?

/-- A plain name is used in lower case. -/
theorem ascii?_eq_map_toLower {name : List Char} (h : isPlain (name.map Char.toLower) = true) :
    ascii? name = some (name.map Char.toLower) := by
  simp [ascii?, h]

end Relay.Url.Domain
