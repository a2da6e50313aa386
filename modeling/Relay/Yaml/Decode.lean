import Relay.Json.Value
import Relay.Yaml.Scalar

/-!
# Reading YAML documents into types

Readers that take nodes of a document apart. A fault of the content names the *path* of settings to
the node and its place; a fault of the text that the tree was made from is met where the tree breaks
off, or after everything else was fine.

* An alias stands for the node with its number. Aliases are followed at most a hundred times for
  every event of the document.
* Collections nest at most 128 deep where their content is read. What belongs to an unknown setting
  is skipped without such a limit, its aliases unseen.
* A record is read from a mapping; an empty plain scalar stands for a mapping without entries.
-/

namespace Relay.Yaml

/-! ## 1. Faults -/

/-- Why content is refused. -/
inductive Cause where
  /-- A node of one kind where another was expected. -/
  | invalidType (found expected : String)
  /-- A text that its tag or its place does not allow. -/
  | invalidValue (found expected : String)
  | duplicateField (name : String)
  /-- An integer that no value of the settings can hold. -/
  | numberOutOfRange
  deriving DecidableEq, Repr

/-- The wording of a cause. -/
def Cause.message : Cause → String
  | .invalidType found expected => "invalid type: " ++ found ++ ", expected " ++ expected
  | .invalidValue found expected => "invalid value: " ++ found ++ ", expected " ++ expected
  | .duplicateField name => "duplicate field `" ++ name ++ "`"
  | .numberOutOfRange => "JSON number out of range"

/-- One step of a path. -/
inductive PathStep where
  | key (name : String)
  | index (n : Nat)
  /-- The value of a key that has no text. -/
  | unknown
  deriving DecidableEq, Repr

/-- The way from the root to a node, the last step first. -/
abbrev Path := List PathStep

/-- The wording of a path. -/
def Path.describe : Path → String
  | [] => "."
  | [.key name] => name
  | [.unknown] => "?"
  | .key name :: path => Path.describe path ++ "." ++ name
  | .unknown :: path => Path.describe path ++ ".?"
  | .index n :: path => Path.describe path ++ "[" ++ toString n ++ "]"

/-- Why a document is refused. -/
inductive Error where
  | grammar (fault : SyntaxFault)
  | unknownAnchor (mark : Mark)
  | recursionLimit (mark : Mark)
  | repetitionLimit
  | severalDocuments
  | content (cause : Cause) (path : Path) (mark : Mark)
  deriving DecidableEq, Repr

/-- The error that ends a document too early. -/
def Break.toError : Break → Error
  | .grammar fault => .grammar fault
  | .unknownAnchor mark => .unknownAnchor mark

/-- The wording of an error. -/
def Error.message : Error → String
  | .grammar fault => fault.message
  | .unknownAnchor mark => "unknown anchor" ++ atMark mark
  | .recursionLimit mark => "recursion limit exceeded" ++ atMark mark
  | .repetitionLimit => "repetition limit exceeded"
  | .severalDocuments =>
    "deserializing from YAML containing more than one document is not supported"
  | .content cause path mark =>
    (if path.isEmpty then "" else path.describe ++ ": ") ++ cause.message ++ atMark mark

/-! ## 2. Readers -/

/-- A reader: it may fail, and counts how often an alias has been followed. -/
abbrev Decode := StateT Nat (Except Error)

/-- Where a node stands. -/
structure Site where
  document : Document
  path : Path := []
  /-- How deep collections may still nest. -/
  depth : Nat := 128

/-- The site one step further. -/
def Site.enter (site : Site) (step : PathStep) : Site :=
  { site with path := step :: site.path }

/-- Refuses a node. -/
def fail {α : Type} (site : Site) (mark : Mark) (cause : Cause) : Decode α :=
  throw (.content cause site.path mark)

/-- Meets the end of a document that breaks off. -/
def failBroken {α : Type} (site : Site) : Decode α :=
  throw ((site.document.fault.map Break.toError).getD
    (.grammar { problem := .noNodeContent, mark := {} }))

/-- Follows an alias. -/
def follow (site : Site) (node : Node) : Decode Node :=
  match node with
  | .alias _ target => do
    let jumps ← get
    if site.document.events * 100 < jumps + 1 then throw .repetitionLimit
    else
      set (jumps + 1)
      match site.document.find? target with
      | some node => pure node
      | none => failBroken site
  | node => pure node

/-- Refuses a node of another kind than the expected one. -/
def mismatch {α : Type} (site : Site) (expected : String) (node : Node) : Decode α :=
  let refuse (found : String) : Decode α := fail site node.mark (.invalidType found expected)
  match node with
  | .scalar mark _ tag text style =>
    match Meaning.ofScalar tag text style with
    | .ok meaning => refuse meaning.describe
    | .error kind =>
      fail site mark (.invalidValue ("string " ++ Text.quote (String.ofList text)) kind.describe)
  | .sequence .. => refuse "sequence"
  | .mapping .. => refuse "map"
  | .void _ => refuse "EOF"
  | .alias .. => refuse "EOF"
  | .broken => failBroken site

/-- Enters a collection, if it does not nest too deep. -/
def descend {α : Type} (site : Site) (mark : Mark) (read : Site → Decode α) : Decode α :=
  match site.depth with
  | 0 => throw (.recursionLimit mark)
  | depth + 1 => read { site with depth }

/-! ## 3. Scalars -/

/-- Reads the text of any scalar. -/
def readString (expected : String) (site : Site) (node : Node) : Decode String := do
  match ← follow site node with
  | .scalar _ _ _ text _ => pure (String.ofList text)
  | node => mismatch site expected node

/-- Whether a truth value may be written in a style and with a tag. -/
def allowsBool (tag : Option (List Char)) (style : ScalarStyle) : Bool :=
  match style with
  | .plain => true
  | .literal => tag.bind KindTag.ofTag? == some .bool
  | _ => false

/-- Reads a truth value. -/
def readBool (site : Site) (node : Node) : Decode Bool := do
  match ← follow site node with
  | .scalar mark anchor tag text style =>
    match (if allowsBool tag style then boolWord? text else none) with
    | some b => pure b
    | none => mismatch site "a boolean" (.scalar mark anchor tag text style)
  | node => mismatch site "a boolean" node

/-- Whether a scalar stands for nothing. With the tag for nothing, a plain text must spell it. -/
def isNothing (tag : Option (List Char)) (text : List Char) (style : ScalarStyle) :
    Except Cause Bool :=
  if style ≠ .plain then .ok false
  else match tag with
    | none => .ok (text.isEmpty || isNullWord text)
    | some tag =>
      if KindTag.ofTag? tag = some .null then
        if isNullWord text then .ok true
        else .error (.invalidValue ("string " ++ Text.quote (String.ofList text)) "null")
      else .ok false

/-- Reads a string that may be left out. A text that is wrong for its tag is a fault of the record
at `outer`, which starts at `since`. -/
def readOptionalString (outer : Site) (since : Mark) (site : Site) (node : Node) :
    Decode (Option String) := do
  match ← follow site node with
  | .scalar mark anchor tag text style =>
    match isNothing tag text style with
    | .ok true => pure none
    | .ok false => some <$> readString "a string" site (.scalar mark anchor tag text style)
    | .error cause => fail outer since cause
  | .void _ => pure none
  | node => some <$> readString "a string" site node

/-! ## 4. Skipping -/

mutual

/-- Whether a node is there to its end. -/
def Node.isWhole : Node → Bool
  | .broken => false
  | .sequence _ _ _ items => areWhole items
  | .mapping _ _ _ entries => entriesAreWhole entries
  | _ => true

/-- Whether all items of a sequence are there to their ends. -/
def areWhole : List Node → Bool
  | [] => true
  | item :: more => item.isWhole && areWhole more

/-- Whether all entries of a mapping are there to their ends. -/
def entriesAreWhole : List (Node × Node) → Bool
  | [] => true
  | (key, value) :: more => key.isWhole && value.isWhole && entriesAreWhole more

end

/-- Passes over a node. -/
def skipNode (site : Site) (node : Node) : Decode Unit :=
  if node.isWhole then pure () else failBroken site

/-! ## 5. Untyped values -/

/-- Whether a tag makes a node a variant of a type that settings do not have. -/
def isVariant (tag : Option (List Char)) : Bool :=
  tag.any isLocalTag

/-- The value that a scalar spells. Infinities and what is not a number become null. -/
def Meaning.value (meaning : Meaning) : Option Json.Value :=
  match meaning with
  | .null => some .null
  | .bool b => some (.bool b)
  | .integer n => some (.number (.integer n))
  | .wide _ => none
  | .real x => some (.number (.real x))
  | .infinity _ => some .null
  | .nan => some .null
  | .string text => some (.string (String.ofList text))

/-- The step of a path to the value of a key. -/
def stepTo (key : Node) : PathStep :=
  match key with
  | .scalar _ _ _ text _ => .key (String.ofList text)
  | _ => .unknown

/-- Reads the items of a sequence, numbered from `n`. -/
def readItems {α : Type} (site : Site) (read : Site → Node → Decode α) :
    (n : Nat) → List Node → Decode (List α)
  | _, [] => pure []
  | n, .broken :: _ => failBroken (site.enter (.index n))
  | n, item :: more => do
    let item ← read (site.enter (.index n)) item
    let more ← readItems site read (n + 1) more
    pure (item :: more)

/-- Reads the entries of a mapping. A message calls the first key by one name and the others by
another. -/
def readEntries {α : Type} (site : Site) (read : Site → Node → Decode α)
    (firstKey otherKey : String) :
    List (Node × Node) → Decode (List (String × α))
  | [] => pure []
  | (key, value) :: more => do
    let name ← readString firstKey site key
    let value ← read (site.enter (stepTo key)) value
    let more ← readEntries site read otherKey otherKey more
    pure ((name, value) :: more)

/-- Reads a value of any kind, in which collections may still nest `depth` deep. -/
def readValueIn : (depth : Nat) → Site → Node → Decode Json.Value
  | depth, site, node => do
    let node ← follow site node
    let expected := "any valid JSON value"
    let variant (mark : Mark) : Decode Json.Value :=
      fail site mark (.invalidType "enum" expected)
    match node, depth with
    | .scalar mark _ tag text style, _ =>
      if isVariant tag then variant mark
      else match Meaning.ofScalar tag text style with
        | .error kind =>
          fail site mark
            (.invalidValue ("string " ++ Text.quote (String.ofList text)) kind.describe)
        | .ok meaning =>
          match meaning.value with
          | some value => pure value
          | none => fail site mark .numberOutOfRange
    | .sequence mark _ tag _, 0 =>
      if isVariant tag then variant mark else throw (.recursionLimit mark)
    | .mapping mark _ tag _, 0 =>
      if isVariant tag then variant mark else throw (.recursionLimit mark)
    | .sequence mark _ tag items, depth + 1 =>
      if isVariant tag then variant mark
      else do
        let items ← readItems site (readValueIn depth) 0 items
        pure (.array items)
    | .mapping mark _ tag entries, depth + 1 =>
      if isVariant tag then variant mark
      else do
        let members ← readEntries site (readValueIn depth) "a string key" "a string" entries
        pure (.object (Json.Object.ofList members))
    | .void _, _ => pure .null
    | _, _ => failBroken site

/-- Reads a mapping from keys to values of any kind. -/
def readObject (site : Site) (node : Node) : Decode Json.Object := do
  match ← follow site node with
  | .mapping mark _ _ entries =>
    descend site mark fun inner => do
      let members ← readEntries site (readValueIn inner.depth) "a string" "a string" entries
      pure (Json.Object.ofList members)
  | .scalar mark anchor tag text style =>
    if text.isEmpty && style == .plain then pure []
    else mismatch site "a map" (.scalar mark anchor tag text style)
  | .void _ => pure []
  | node => mismatch site "a map" node

/-! ## 6. Records -/

/-- What a record does with an entry. -/
inductive EntryUse (σ : Type) where
  /-- The name means nothing to the record. -/
  | unknown
  /-- The setting has been read before. -/
  | repeated
  /-- The value is read so. -/
  | known (read : Site → Node → Decode σ)

/-- Reads the entries of the record that starts at `since`. -/
def readFields {σ : Type} (site : Site) (since : Mark) (field : σ → String → EntryUse σ) :
    σ → List (Node × Node) → Decode σ
  | state, [] => pure state
  | state, (key, value) :: more => do
    let name ← readString "field identifier" site key
    match field state name with
    | .repeated => fail site since (.duplicateField name)
    | .unknown => do
      skipNode site value
      readFields site since field state more
    | .known read => do
      let state ← read (site.enter (stepTo key)) value
      readFields site since field state more

/-- Reads a record, starting from what holds without any entry. -/
def readRecord {σ : Type} (expected : String) (field : Mark → σ → String → EntryUse σ) (start : σ)
    (site : Site) (node : Node) : Decode σ := do
  match ← follow site node with
  | .mapping mark _ _ entries =>
    descend site mark fun inner => readFields inner mark (field mark) start entries
  | .scalar mark anchor tag text style =>
    if text.isEmpty && style == .plain then pure start
    else mismatch site expected (.scalar mark anchor tag text style)
  | .void _ => pure start
  | node => mismatch site expected node

/-! ## 7. Documents -/

/-- Reads the only document of a text. -/
def decode {α : Type} (read : Site → Node → Decode α) (text : List Char) : Except Error α :=
  let document := Document.ofText text
  match (read { document } document.root).run 0 with
  | .error e => .error e
  | .ok (a, _) =>
    match document.fault with
    | some fault => .error fault.toError
    | none => if document.followed then .error .severalDocuments else .ok a

end Relay.Yaml
