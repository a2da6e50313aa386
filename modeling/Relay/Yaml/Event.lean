import Relay.Yaml.Token

/-!
# From tokens to events

The grammar of YAML, as a machine with a stack. Every step looks at the next token, answers one
event and leaves what is expected afterwards on the stack; so the events are a flat form of the
document, in which every collection is opened and closed and every left-out node is an empty scalar.

`Event.parse` answers the events of all documents of a text, and the fault that ends them.
-/

namespace Relay.Yaml

/-! ## 1. Events -/

/-- What a node brings along: a name for aliases, and a tag. -/
structure Properties where
  anchor : Option (List Char) := none
  tag : Option (List Char) := none
  deriving DecidableEq, Repr

/-- What an event is. -/
inductive EventKind where
  | documentStart
  | documentEnd
  | streamEnd
  | alias (name : List Char)
  | scalar (properties : Properties) (text : List Char) (style : ScalarStyle)
  | sequenceStart (properties : Properties)
  | sequenceEnd
  | mappingStart (properties : Properties)
  | mappingEnd
  deriving DecidableEq, Repr

/-- An event and its place. -/
structure Event where
  kind : EventKind
  mark : Mark
  deriving DecidableEq, Repr

/-! ## 2. What is expected -/

/-- What the grammar expects next. A place tells where the collection started. -/
inductive Expectation where
  | documentStart (implicit : Bool)
  | documentContent
  | documentEnd
  | blockNode
  | blockSequenceEntry (since : Mark)
  | indentlessEntry
  | blockMappingKey (since : Mark)
  | blockMappingValue (since : Mark)
  | flowSequenceEntry (first : Bool) (since : Mark)
  | flowPairKey
  | flowPairValue
  | flowPairEnd
  | flowMappingKey (first : Bool) (since : Mark)
  /-- The value of a key. Without a key sign there may be none. -/
  | flowMappingValue (empty : Bool) (since : Mark)
  deriving DecidableEq, Repr

/-- The grammar in the middle of a text. -/
structure Grammar where
  tokens : List Token
  /-- Why the tokens end, if a fault ends them. -/
  fault : Option SyntaxFault
  /-- What is expected, the next on top. -/
  stack : List Expectation := [.documentStart true]
  /-- What handles stand for. -/
  handles : List (List Char × List Char) := []

namespace Grammar

/-- What one step answers. -/
abbrev Step := Except SyntaxFault (Event × Grammar)

/-- The fault that ends the tokens. -/
def ranOut {α : Type} (g : Grammar) : Except SyntaxFault α :=
  .error (g.fault.getD { problem := .noNodeContent, mark := {} })

/-- The next token. -/
def peek (g : Grammar) : Except SyntaxFault Token :=
  match g.tokens with
  | token :: _ => .ok token
  | [] => g.ranOut

/-- Steps over the next token. -/
def advance (g : Grammar) : Grammar :=
  { g with tokens := g.tokens.drop 1 }

/-- Lets something be expected before all else. -/
def expect (g : Grammar) (e : Expectation) : Grammar :=
  { g with stack := e :: g.stack }

/-- Answers a scalar that is not there. -/
def emptyScalar (g : Grammar) (mark : Mark) : Step :=
  .ok ({ kind := .scalar {} [] .plain, mark }, g)

/-- Answers an event at a token, stepping over it. -/
def answer (g : Grammar) (kind : EventKind) (token : Token) : Step :=
  .ok ({ kind, mark := token.start }, g.advance)

/-! ## 3. Nodes -/

/-- The properties of a node, the place where it starts, and the grammar behind them. -/
structure Prelude where
  properties : Properties
  start : Mark
  grammar : Grammar

/-- The tag that a handle and a suffix make. -/
def resolveTag (g : Grammar) (start : Mark) (handle suffix : List Char) (mark : Mark) :
    Except SyntaxFault (List Char) :=
  if handle.isEmpty then .ok suffix
  else match g.handles.lookup handle with
    | some stem => .ok (stem ++ suffix)
    | none => refuse .parsingNode start .undefinedTagHandle mark

/-- Reads the anchor and the tag of a node, in either order. -/
def readProperties (g : Grammar) : Except SyntaxFault Prelude := do
  let token ← g.peek
  let start := token.start
  match token.kind with
  | .anchor name =>
    let g := g.advance
    let next ← g.peek
    match next.kind with
    | .tag handle suffix =>
      let after := g.advance
      let _ ← after.peek
      let tag ← g.resolveTag start handle suffix next.start
      .ok { properties := { anchor := some name, tag := some tag }, start, grammar := after }
    | _ => .ok { properties := { anchor := some name }, start, grammar := g }
  | .tag handle suffix =>
    let g := g.advance
    let next ← g.peek
    match next.kind with
    | .anchor name =>
      let after := g.advance
      let _ ← after.peek
      let tag ← g.resolveTag start handle suffix start
      .ok { properties := { anchor := some name, tag := some tag }, start, grammar := after }
    | _ =>
      let tag ← g.resolveTag start handle suffix start
      .ok { properties := { tag := some tag }, start, grammar := g }
  | _ => .ok { properties := {}, start, grammar := g }

/-- Reads a node, if one comes next. Block collections are nodes only where that is allowed, and a
sequence may be as little indented as the mapping around it only as a value. -/
def readNode (g : Grammar) (block indentless : Bool) : Step := do
  let token ← g.peek
  match token.kind with
  | .alias name => g.answer (.alias name) token
  | _ =>
    let ⟨p, mark, g⟩ ← g.readProperties
    let token ← g.peek
    let opened (kind : EventKind) (e : Expectation) (g : Grammar) : Step :=
      .ok ({ kind, mark }, g.expect e)
    match token.kind, block with
    | .blockEntry, _ =>
      if indentless then opened (.sequenceStart p) .indentlessEntry g else absent token p mark g
    | .scalar text style, _ =>
      .ok ({ kind := .scalar p text style, mark }, g.advance)
    | .flowSequenceStart, _ =>
      opened (.sequenceStart p) (.flowSequenceEntry true token.start) g.advance
    | .flowMappingStart, _ => opened (.mappingStart p) (.flowMappingKey true token.start) g.advance
    | .blockSequenceStart, true =>
      opened (.sequenceStart p) (.blockSequenceEntry token.start) g.advance
    | .blockMappingStart, true => opened (.mappingStart p) (.blockMappingKey token.start) g.advance
    | _, _ => absent token p mark g
where
  /-- A node of properties only is an empty scalar; without properties something is missing. -/
  absent (token : Token) (p : Properties) (mark : Mark) (g : Grammar) : Step :=
    if p.anchor.isSome || p.tag.isSome then .ok ({ kind := .scalar p [] .plain, mark }, g)
    else refuse (if block then .parsingBlockNode else .parsingFlowNode) mark .noNodeContent
      token.start

/-! ## 4. Documents -/

/-- The handles that need no directive. -/
def defaultHandles : List (List Char × List Char) :=
  [(['!'], ['!']), (['!', '!'], "tag:yaml.org,2002:".toList)]

/-- Reads the directives of a document, from the handles defined so far. -/
def readDirectives (versioned : Bool) (handles : List (List Char × List Char)) (g : Grammar) :
    (tokens : List Token) → Except SyntaxFault Grammar
  | [] => g.ranOut
  | token :: more =>
    match token.kind with
    | .version major minor =>
      if versioned then .error { problem := .duplicateVersion, mark := token.start }
      else if major ≠ 1 ∨ (minor ≠ 1 ∧ minor ≠ 2) then
        .error { problem := .incompatibleVersion, mark := token.start }
      else readDirectives true handles g more
    | .tagDirective handle stem =>
      if (handles.lookup handle).isSome then
        .error { problem := .duplicateTagDirective, mark := token.start }
      else readDirectives versioned ((handle, stem) :: handles) g more
    | _ => .ok { g with tokens := token :: more, handles := handles ++ defaultHandles }

/-- Whether a document has directives or a marker of its start. -/
def isExplicit : TokenKind → Bool
  | .version _ _ => true
  | .tagDirective _ _ => true
  | .documentStart => true
  | _ => false

/-- Expects the start of a document or the end of the text. -/
def atDocumentStart (g : Grammar) (implicit : Bool) : Step := do
  let g := if implicit then g else
    { g with tokens := g.tokens.dropWhile (fun token => token.kind == .documentEnd) }
  let token ← g.peek
  if token.kind = .streamEnd then .ok ({ kind := .streamEnd, mark := token.start }, g)
  else if implicit && !isExplicit token.kind then
    .ok ({ kind := .documentStart, mark := token.start },
      { g with handles := defaultHandles, stack := .blockNode :: .documentEnd :: g.stack })
  else
    let g ← readDirectives false [] g g.tokens
    let start ← g.peek
    if start.kind = .documentStart then
      .ok ({ kind := .documentStart, mark := token.start },
        { g.advance with stack := .documentContent :: .documentEnd :: g.stack })
    else .error { problem := .noDocumentStart, mark := start.start }

/-- Expects the content of a document whose start is marked. -/
def atDocumentContent (g : Grammar) : Step := do
  let token ← g.peek
  if isExplicit token.kind ∨ token.kind = .documentEnd ∨ token.kind = .streamEnd then
    g.emptyScalar token.start
  else g.readNode true false

/-- Ends a document. -/
def atDocumentEnd (g : Grammar) : Step := do
  let token ← g.peek
  let g := g.expect (.documentStart false)
  if token.kind = .documentEnd then g.answer .documentEnd token
  else .ok ({ kind := .documentEnd, mark := token.start }, g)

/-! ## 5. Block collections -/

/-- Goes on with a node, or with an empty scalar when one of the given tokens comes next. -/
def nodeUnless (g : Grammar) (stops : TokenKind → Bool) (block indentless : Bool) (mark : Mark) :
    Step := do
  let token ← g.peek
  if stops token.kind then g.emptyScalar mark else g.readNode block indentless

/-- Expects an entry of a block sequence, or its end. -/
def atBlockSequenceEntry (g : Grammar) (since : Mark) : Step := do
  let token ← g.peek
  match token.kind with
  | .blockEntry =>
    (g.advance.expect (.blockSequenceEntry since)).nodeUnless
      (fun kind => kind == .blockEntry || kind == .blockEnd) true false token.stop
  | .blockEnd => g.answer .sequenceEnd token
  | _ => refuse .parsingBlockCollection since .noDash token.start

/-- The tokens between the nodes of a block mapping. -/
def dividesBlockMapping (kind : TokenKind) : Bool :=
  kind == .key || kind == .value || kind == .blockEnd

/-- Expects an entry of a block sequence that is not indented deeper than the mapping around it. -/
def atIndentlessEntry (g : Grammar) : Step := do
  let token ← g.peek
  match token.kind with
  | .blockEntry =>
    (g.advance.expect .indentlessEntry).nodeUnless
      (fun kind => kind == .blockEntry || dividesBlockMapping kind) true false token.stop
  | _ => .ok ({ kind := .sequenceEnd, mark := token.start }, g)

/-- Expects a key of a block mapping, or its end. -/
def atBlockMappingKey (g : Grammar) (since : Mark) : Step := do
  let token ← g.peek
  match token.kind with
  | .key =>
    (g.advance.expect (.blockMappingValue since)).nodeUnless dividesBlockMapping true true
      token.stop
  | .blockEnd => g.answer .mappingEnd token
  | _ => refuse .parsingBlockMapping since .noKey token.start

/-- Expects a value of a block mapping. -/
def atBlockMappingValue (g : Grammar) (since : Mark) : Step := do
  let token ← g.peek
  let next := Expectation.blockMappingKey since
  match token.kind with
  | .value => (g.advance.expect next).nodeUnless dividesBlockMapping true true token.stop
  | _ => (g.expect next).emptyScalar token.start

/-! ## 6. Flow collections -/

/-- Expects the comma before an entry that is not the first one. -/
def afterComma (g : Grammar) (first : Bool) (activity : Activity) (since : Mark)
    (problem : Problem) : Except SyntaxFault Grammar := do
  let token ← g.peek
  if first then .ok g
  else if token.kind = .flowEntry then .ok g.advance
  else refuse activity since problem token.start

/-- Expects an entry of a flow sequence, or its end. -/
def atFlowSequenceEntry (g : Grammar) (first : Bool) (since : Mark) : Step := do
  let token ← g.peek
  if token.kind = .flowSequenceEnd then g.answer .sequenceEnd token
  else
    let g ← g.afterComma first .parsingFlowSequence since .noCommaOrBracket
    let token ← g.peek
    let next := Expectation.flowSequenceEntry false since
    match token.kind with
    | .key => ((g.expect next).expect .flowPairKey).answer (.mappingStart {}) token
    | .flowSequenceEnd => g.answer .sequenceEnd token
    | _ => (g.expect next).readNode false false

/-- Expects the key of a single pair in a flow sequence. -/
def atFlowPairKey (g : Grammar) : Step := do
  let token ← g.peek
  let g := g.expect .flowPairValue
  match token.kind with
  | .value => g.advance.emptyScalar token.stop
  | .flowEntry => g.advance.emptyScalar token.stop
  | .flowSequenceEnd => g.advance.emptyScalar token.stop
  | _ => g.readNode false false

/-- Expects the value of a single pair in a flow sequence. -/
def atFlowPairValue (g : Grammar) : Step := do
  let token ← g.peek
  let g := g.expect .flowPairEnd
  match token.kind with
  | .value =>
    let g := g.advance
    let next ← g.peek
    g.nodeUnless (fun kind => kind == .flowEntry || kind == .flowSequenceEnd) false false next.start
  | _ => g.emptyScalar token.start

/-- Ends a single pair in a flow sequence. -/
def atFlowPairEnd (g : Grammar) : Step := do
  let token ← g.peek
  .ok ({ kind := .mappingEnd, mark := token.start }, g)

/-- Expects a key of a flow mapping, or its end. -/
def atFlowMappingKey (g : Grammar) (first : Bool) (since : Mark) : Step := do
  let token ← g.peek
  if token.kind = .flowMappingEnd then g.answer .mappingEnd token
  else
    let g ← g.afterComma first .parsingFlowMapping since .noCommaOrBrace
    let token ← g.peek
    match token.kind with
    | .key =>
      let g := g.advance
      let next ← g.peek
      (g.expect (.flowMappingValue false since)).nodeUnless
        (fun kind => kind == .value || kind == .flowEntry || kind == .flowMappingEnd) false false
        next.start
    | .flowMappingEnd => g.answer .mappingEnd token
    | _ => (g.expect (.flowMappingValue true since)).readNode false false

/-- Expects a value of a flow mapping. -/
def atFlowMappingValue (g : Grammar) (empty : Bool) (since : Mark) : Step := do
  let token ← g.peek
  let g := g.expect (.flowMappingKey false since)
  match token.kind, empty with
  | .value, false =>
    let g := g.advance
    let next ← g.peek
    g.nodeUnless (fun kind => kind == .flowEntry || kind == .flowMappingEnd) false false next.start
  | _, _ => g.emptyScalar token.start

/-! ## 7. The run -/

/-- Answers the next event. -/
def step (g : Grammar) : Step :=
  match g.stack with
  | [] => g.ranOut
  | e :: stack =>
    let g := { g with stack }
    match e with
    | .documentStart implicit => g.atDocumentStart implicit
    | .documentContent => g.atDocumentContent
    | .documentEnd => g.atDocumentEnd
    | .blockNode => g.readNode true false
    | .blockSequenceEntry since => g.atBlockSequenceEntry since
    | .indentlessEntry => g.atIndentlessEntry
    | .blockMappingKey since => g.atBlockMappingKey since
    | .blockMappingValue since => g.atBlockMappingValue since
    | .flowSequenceEntry first since => g.atFlowSequenceEntry first since
    | .flowPairKey => g.atFlowPairKey
    | .flowPairValue => g.atFlowPairValue
    | .flowPairEnd => g.atFlowPairEnd
    | .flowMappingKey first since => g.atFlowMappingKey first since
    | .flowMappingValue empty since => g.atFlowMappingValue empty since

/-- Answers all events. -/
def run : (bound : Nat) → Grammar → List Event × Option SyntaxFault
  | 0, _ => ([], none)
  | bound + 1, g =>
    match g.step with
    | .error fault => ([], some fault)
    | .ok (event, g) =>
      if event.kind = .streamEnd then ([event], none)
      else
        let (more, fault) := run bound g
        (event :: more, fault)

end Grammar

/-- The events of the documents that tokens make up, and the fault that ends them. -/
def Event.parse (tokens : List Token) (fault : Option SyntaxFault) :
    List Event × Option SyntaxFault :=
  Grammar.run (4 * tokens.length + 8) { tokens, fault }

end Relay.Yaml
