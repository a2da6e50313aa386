import Relay.Yaml.Event
import Relay.Yaml.Token.Scanner

/-!
# From events to nodes

The first document of a text as a tree. A tree is made even from a text with a fault: where the
events stop, every collection that is still open gets `Node.broken` as its last part, so a reader of
the tree meets the fault exactly where it needs what is not there.

* Every node with an anchor has a number: how many different names had been anchored in the document
  before it. An alias holds the number of its name. When a name is anchored again, two nodes may
  have one number; then the later one stands for it (`Document.find?`).
* A document also knows how many events it has, and whether anything follows it in the text.
-/

namespace Relay.Yaml

/-! ## 1. Nodes -/

/-- A node of a document. -/
inductive Node where
  | scalar (mark : Mark) (anchor : Option Nat) (tag : Option (List Char)) (text : List Char)
      (style : ScalarStyle)
  | sequence (mark : Mark) (anchor : Option Nat) (tag : Option (List Char)) (items : List Node)
  | mapping (mark : Mark) (anchor : Option Nat) (tag : Option (List Char))
      (entries : List (Node × Node))
  | alias (mark : Mark) (target : Nat)
  /-- A document without any content. -/
  | void (mark : Mark)
  /-- The text breaks off here. -/
  | broken
  deriving Repr, Inhabited

/-- The place of a node. -/
def Node.mark : Node → Mark
  | .scalar mark .. => mark
  | .sequence mark .. => mark
  | .mapping mark .. => mark
  | .alias mark _ => mark
  | .void mark => mark
  | .broken => {}

mutual

/-- The anchored nodes of a tree with their numbers, in the order of the text. -/
def Node.anchored : Node → List (Nat × Node)
  | .scalar mark anchor tag text style =>
    (anchor.map (fun n => (n, Node.scalar mark anchor tag text style))).toList
  | .sequence mark anchor tag items =>
    (anchor.map (fun n => (n, Node.sequence mark anchor tag items))).toList ++ anchoredItems items
  | .mapping mark anchor tag entries =>
    (anchor.map (fun n => (n, Node.mapping mark anchor tag entries))).toList ++
      anchoredEntries entries
  | _ => []

/-- The anchored nodes of the items of a sequence. -/
def anchoredItems : List Node → List (Nat × Node)
  | [] => []
  | item :: more => item.anchored ++ anchoredItems more

/-- The anchored nodes of the entries of a mapping. -/
def anchoredEntries : List (Node × Node) → List (Nat × Node)
  | [] => []
  | (key, value) :: more => key.anchored ++ value.anchored ++ anchoredEntries more

end

/-! ## 2. Documents -/

/-- Why a document ends too early. -/
inductive Break where
  | grammar (fault : SyntaxFault)
  /-- An alias for a name that has no anchor before it. -/
  | unknownAnchor (mark : Mark)
  deriving DecidableEq, Repr

/-- The first document of a text. -/
structure Document where
  root : Node
  events : Nat
  /-- Why the document ends too early, if it does. -/
  fault : Option Break
  /-- Whether anything follows the document. -/
  followed : Bool

/-- The node that a number stands for. -/
def Document.find? (document : Document) (target : Nat) : Option Node :=
  (document.root.anchored.reverse.find? (fun entry => entry.1 == target)).map Prod.snd

/-! ## 3. Building -/

/-- A collection that is being read, its parts in reverse order. -/
inductive Open where
  | sequence (mark : Mark) (anchor : Option Nat) (tag : Option (List Char)) (items : List Node)
  /-- A mapping, with the key that has no value yet. -/
  | mapping (mark : Mark) (anchor : Option Nat) (tag : Option (List Char))
      (entries : List (Node × Node)) (key : Option Node)

/-- The collection with one more part. -/
def Open.add (node : Node) : Open → Open
  | .sequence mark anchor tag items => .sequence mark anchor tag (node :: items)
  | .mapping mark anchor tag entries none => .mapping mark anchor tag entries (some node)
  | .mapping mark anchor tag entries (some key) =>
    .mapping mark anchor tag ((key, node) :: entries) none

/-- The node that a collection makes. -/
def Open.close : Open → Node
  | .sequence mark anchor tag items => .sequence mark anchor tag items.reverse
  | .mapping mark anchor tag entries none => .mapping mark anchor tag entries.reverse
  | .mapping mark anchor tag entries (some key) =>
    .mapping mark anchor tag ((key, .broken) :: entries).reverse

/-- The collection that ends too early. -/
def Open.breakOff : Open → Open
  | .mapping mark anchor tag entries none =>
    .mapping mark anchor tag ((.broken, .broken) :: entries) none
  | other => other.add .broken

/-- A tree that is being built. -/
structure Builder where
  /-- The open collections, innermost first. -/
  stack : List Open := []
  /-- The root, once it is complete. -/
  root : Option Node := none
  /-- The numbers of anchored names. -/
  names : List (List Char × Nat) := []
  events : Nat := 0

namespace Builder

/-- Adds a complete node. -/
def add (b : Builder) (node : Node) : Builder :=
  match b.stack with
  | [] => { b with root := some node }
  | inner :: stack => { b with stack := inner.add node :: stack }

/-- The number of a new anchor. -/
def anchor (b : Builder) (name : Option (List Char)) : Option Nat × Builder :=
  match name with
  | none => (none, b)
  | some name =>
    let number := b.names.length
    let others := b.names.filter (fun entry => entry.1 != name)
    (some number, { b with names := (name, number) :: others })

/-- Opens a collection. -/
def openWith (b : Builder) (collection : Open) : Builder :=
  { b with stack := collection :: b.stack }

/-- Closes the innermost collection. -/
def close (b : Builder) : Builder :=
  match b.stack with
  | [] => b
  | inner :: stack => { b with stack }.add inner.close

/-- The root when the events stop here. -/
def finish (b : Builder) : Node :=
  match b.root with
  | some root => root
  | none =>
    match b.stack with
    | [] => .broken
    | inner :: stack => stack.foldl (fun node outer => (outer.add node).close) inner.breakOff.close

/-- Builds the first document. -/
def run (fault : Option SyntaxFault) : Builder → List Event → Document
  | b, [] =>
    { root := b.finish, events := b.events, fault := fault.map .grammar, followed := false }
  | b, ⟨kind, mark⟩ :: more =>
    let counted : Builder := { b with events := b.events + 1 }
    match kind with
    | .documentStart => run fault b more
    | .documentEnd =>
      let next := more.head?.map Event.kind
      { root := b.finish, events := b.events, fault := none
        followed := next != some .streamEnd }
    | .streamEnd =>
      { root := .void mark, events := 1, fault := none, followed := false }
    | .alias name =>
      match b.names.lookup name with
      | some number => run fault (counted.add (.alias mark number)) more
      | none =>
        { root := b.finish, events := b.events, fault := some (.unknownAnchor mark)
          followed := true }
    | .scalar p text style =>
      let (anchor, c) := counted.anchor p.anchor
      run fault (c.add (.scalar mark anchor p.tag text style)) more
    | .sequenceStart p =>
      let (anchor, c) := counted.anchor p.anchor
      run fault (c.openWith (.sequence mark anchor p.tag [])) more
    | .mappingStart p =>
      let (anchor, c) := counted.anchor p.anchor
      run fault (c.openWith (.mapping mark anchor p.tag [] none)) more
    | .sequenceEnd => run fault counted.close more
    | .mappingEnd => run fault counted.close more

end Builder

/-- The first document of a text. -/
def Document.ofText (text : List Char) : Document :=
  let (tokens, fault) := Token.scan text
  let (events, fault) := Event.parse tokens fault
  Builder.run fault {} events

end Relay.Yaml
