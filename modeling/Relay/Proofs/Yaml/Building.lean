import Mathlib.Data.List.Forall2
import Relay.Yaml.Node

/-!
# Trees of scalars and mappings

What the grammar and the builder make of tokens without anchors, tags and aliases. `Makes` says that
tokens of certain kinds make up a node with some property, wherever they stand and whatever their
marks are:

* a scalar makes a node of its text (`makes_scalar`);
* a mapping, in a block or between braces, makes a node of its entries when every value makes its
  own node (`makes_mapping`);
* what makes a node makes a document when it is all there is (`ofText_of_makes`).
-/

namespace Relay.Yaml

/-! ## 1. Runs of the grammar -/

namespace Grammar

/-- **From `g` the grammar answers these events**, none of which ends the text, and is then at `h`.
-/
inductive Steps : Grammar → List Event → Grammar → Prop where
  | refl (g : Grammar) : Steps g [] g
  | next {g g' h : Grammar} {event : Event} {events : List Event}
      (hstep : g.step = .ok (event, g')) (hkind : event.kind ≠ .streamEnd)
      (hmore : Steps g' events h) : Steps g (event :: events) h

theorem Steps.trans {g g' h : Grammar} {events more : List Event} (hsteps : Steps g events g')
    (hmore : Steps g' more h) : Steps g (events ++ more) h := by
  induction hsteps with
  | refl g => exact hmore
  | next hstep hkind _ ih => exact .next hstep hkind (ih hmore)

theorem Steps.single {g g' : Grammar} {event : Event} (hstep : g.step = .ok (event, g'))
    (hkind : event.kind ≠ .streamEnd) : Steps g [event] g' :=
  .next hstep hkind (.refl g')

theorem run_of_steps {g h : Grammar} {events : List Event} (hsteps : Steps g events h) (bound : Nat) :
    run (events.length + bound) g = (events ++ (run bound h).1, (run bound h).2) := by
  induction hsteps with
  | refl g => simp
  | next hstep hkind _ ih =>
    rw [List.length_cons, Nat.add_right_comm, run, hstep]
    simp only [hkind, ↓reduceIte, ih]
    rfl

end Grammar

/-! ## 2. Runs of the builder -/

namespace Builder

/-- The builder after so many more events. -/
def counted (b : Builder) (count : Nat) : Builder :=
  { b with events := b.events + count }

/-- **These events add a node** to whatever is being built. -/
def Builds (events : List Event) (node : Node) : Prop :=
  ∀ fault b more, run fault b (events ++ more) =
    run fault ((b.counted events.length).add node) more

/-- These events add entries to the mapping that is being read. -/
def BuildsEntries (events : List Event) (entries : List (Node × Node)) : Prop :=
  ∀ fault b more mark before stack, b.stack = .mapping mark none none before none :: stack →
    run fault b (events ++ more) = run fault { b.counted events.length with
      stack := .mapping mark none none (entries.reverse ++ before) none :: stack } more

theorem builds_scalar (mark : Mark) (text : List Char) (style : ScalarStyle) :
    Builds [{ kind := .scalar {} text style, mark }] (.scalar mark none none text style) :=
  fun _ _ _ => rfl

theorem buildsEntries_nil : BuildsEntries [] [] := by
  intro fault b more mark before stack hstack
  rw [List.nil_append]
  congr 1
  simp [counted, ← hstack]

theorem BuildsEntries.cons {keyEvents valueEvents events : List Event} {key value : Node}
    {entries : List (Node × Node)} (hkey : Builds keyEvents key) (hvalue : Builds valueEvents value)
    (hmore : BuildsEntries events entries) :
    BuildsEntries (keyEvents ++ valueEvents ++ events) ((key, value) :: entries) := by
  intro fault b more mark before stack hstack
  rw [List.append_assoc, List.append_assoc, hkey, hvalue]
  rw [hmore fault _ more mark ((key, value) :: before) stack (by simp [add, counted, hstack, Open.add])]
  congr 1
  simp [add, counted, hstack, Nat.add_assoc]

/-- A mapping is built from its entries. -/
theorem builds_mapping {events : List Event} {entries : List (Node × Node)}
    (hentries : BuildsEntries events entries) (start stop : Mark) :
    Builds
      ({ kind := .mappingStart {}, mark := start } :: events ++ [{ kind := .mappingEnd, mark := stop }])
      (.mapping start none none entries) := by
  intro fault b more
  rw [List.append_assoc, List.cons_append, run]
  simp only [anchor]
  rw [hentries fault _ _ start [] b.stack rfl, List.singleton_append, run]
  congr 1
  cases hstack : b.stack <;>
    simp [close, openWith, counted, add, Open.close, hstack, Nat.add_assoc, Nat.add_comm 1]

end Builder

/-! ## 3. Nodes -/

/-- A scalar without an anchor and a tag. -/
def Node.IsText (text : List Char) (style : ScalarStyle) (node : Node) : Prop :=
  ∃ mark, node = .scalar mark none none text style

/-- A token that starts a node. -/
def startsNode : TokenKind → Bool
  | .scalar .. => true
  | .flowMappingStart => true
  | .blockMappingStart => true
  | _ => false

/-- **Tokens of these kinds make up a node** with a property, whatever follows them. `block` tells
whether block mappings may stand there. -/
structure Makes (block : Bool) (kinds : List TokenKind) (P : Node → Prop) : Prop where
  starts : kinds.head?.any startsNode = true
  node : ∀ (tokens rest : List Token) (fault : Option SyntaxFault) (stack : List Expectation)
    (handles : List (List Char × List Char)) (indentless : Bool), tokens.map Token.kind = kinds →
    ∃ event g events node, P node ∧
      Grammar.readNode { tokens := tokens ++ rest, fault, stack, handles } block indentless =
        .ok (event, g) ∧
      event.kind ≠ .streamEnd ∧
      g.Steps events { tokens := rest, fault, stack, handles } ∧
      events.length < tokens.length ∧
      Builder.Builds (event :: events) node

theorem Makes.exists_start {block : Bool} {kinds : List TokenKind} {P : Node → Prop}
    (h : Makes block kinds P) {tokens : List Token} (htokens : tokens.map Token.kind = kinds) :
    ∃ token more, tokens = token :: more ∧ startsNode token.kind = true := by
  have hstarts := h.starts
  rw [← htokens] at hstarts
  cases tokens with
  | nil => cases hstarts
  | cons token more => exact ⟨token, more, rfl, hstarts⟩

/-- **A scalar is a node of its text.** -/
theorem makes_scalar (block : Bool) (text : List Char) (style : ScalarStyle) :
    Makes block [.scalar text style] (Node.IsText text style) := by
  refine ⟨rfl, fun tokens rest fault stack handles indentless htokens => ?_⟩
  obtain ⟨⟨kind, start, stop⟩, rfl, rfl⟩ := List.map_eq_singleton_iff.mp htokens
  exact ⟨{ kind := .scalar {} text style, mark := start }, { tokens := rest, fault, stack, handles },
    [], _, ⟨start, rfl⟩, rfl, nofun, .refl _, Nat.zero_lt_one,
    Builder.builds_scalar start text style⟩

/-! ## 4. Mappings -/

/-- How a mapping is laid out. -/
inductive Layout where
  | block
  | flow
  deriving DecidableEq

namespace Layout

/-- Whether block mappings may be values of the mapping. -/
def allowsBlock : Layout → Bool
  | .block => true
  | .flow => false

/-- The token that starts the mapping. -/
def startKind : Layout → TokenKind
  | .block => .blockMappingStart
  | .flow => .flowMappingStart

/-- The token that ends the mapping. -/
def endKind : Layout → TokenKind
  | .block => .blockEnd
  | .flow => .flowMappingEnd

/-- The tokens in front of a key. -/
def comma (first : Bool) : Layout → List TokenKind
  | .block => []
  | .flow => if first then [] else [.flowEntry]

/-- What is expected in front of a key. -/
def expectKey (first : Bool) (since : Mark) : Layout → Expectation
  | .block => .blockMappingKey since
  | .flow => .flowMappingKey first since

/-- What is expected in front of a value. -/
def expectValue (since : Mark) : Layout → Expectation
  | .block => .blockMappingValue since
  | .flow => .flowMappingValue false since

end Layout

/-- An entry of a mapping: its key, the tokens of its value, and what the value's node is like. -/
structure Entry where
  name : List Char
  style : ScalarStyle
  kinds : List TokenKind
  Holds : Node → Prop

/-- The tokens of a key and its value. -/
def Entry.pair (entry : Entry) : List TokenKind :=
  .key :: .scalar entry.name entry.style :: .value :: entry.kinds

/-- The tokens of entries, and of the end of their mapping. -/
def Layout.kindsFrom (layout : Layout) (first : Bool) : List Entry → List TokenKind
  | [] => [layout.endKind]
  | entry :: more => layout.comma first ++ (entry.pair ++ layout.kindsFrom false more)

/-- The entries of a block mapping follow one another. -/
theorem Layout.kindsFrom_block (first : Bool) (entries : List Entry) :
    Layout.block.kindsFrom first entries = entries.flatMap Entry.pair ++ [.blockEnd] := by
  induction entries generalizing first with
  | nil => rfl
  | cons entry entries ih =>
    rw [kindsFrom, ih, List.flatMap_cons, List.append_assoc]
    rfl

/-- The tokens of a mapping. -/
def Layout.kinds (layout : Layout) (entries : List Entry) : List TokenKind :=
  layout.startKind :: layout.kindsFrom true entries

/-- The nodes of a key and a value that belong to an entry. -/
def Entry.Fits (entry : Entry) (nodes : Node × Node) : Prop :=
  nodes.1.IsText entry.name entry.style ∧ entry.Holds nodes.2

/-- A mapping with these entries, without an anchor and a tag. -/
def Node.IsMapping (entries : List Entry) (node : Node) : Prop :=
  ∃ mark nodes, node = .mapping mark none none nodes ∧ List.Forall₂ Entry.Fits entries nodes

section Mapping

variable (layout : Layout) {tokens : List Token} {fault : Option SyntaxFault}
  {stack : List Expectation} {handles : List (List Char × List Char)} {first : Bool} {since : Mark}

omit layout in
/-- A scalar is read as it stands. -/
theorem readNode_scalar {block indentless : Bool} {text : List Char} {style : ScalarStyle}
    {token : Token} (htoken : token.kind = .scalar text style) :
    Grammar.readNode { tokens := token :: tokens, fault, stack, handles } block indentless =
      .ok ({ kind := .scalar {} text style, mark := token.start },
        { tokens, fault, stack, handles }) := by
  obtain ⟨kind, start, stop⟩ := token
  obtain rfl := htoken
  rfl

/-- The grammar reads a key. -/
theorem step_key {before : List Token} {name : List Char} {style : ScalarStyle}
    {keyToken scalar : Token} (hbefore : before.map Token.kind = layout.comma first)
    (hkey : keyToken.kind = .key) (hscalar : scalar.kind = .scalar name style) :
    Grammar.step { tokens := before ++ keyToken :: scalar :: tokens, fault
                   stack := layout.expectKey first since :: stack, handles } =
      .ok ({ kind := .scalar {} name style, mark := scalar.start },
        { tokens, fault, stack := layout.expectValue since :: stack, handles }) := by
  cases layout with
  | block =>
    obtain rfl := List.map_eq_nil_iff.mp hbefore
    simp [Grammar.step, Layout.expectKey, Layout.expectValue, Grammar.atBlockMappingKey, Grammar.peek,
      hkey, Grammar.nodeUnless, Grammar.advance, Grammar.expect, hscalar, Grammar.dividesBlockMapping,
      readNode_scalar hscalar, bind, Except.bind]
  | flow =>
    have hafter : Grammar.step { tokens := before ++ keyToken :: scalar :: tokens, fault
                                 stack := .flowMappingKey first since :: stack, handles } =
        Grammar.step { tokens := keyToken :: scalar :: tokens, fault
                       stack := .flowMappingKey true since :: stack, handles } := by
      cases first with
      | true => obtain rfl := List.map_eq_nil_iff.mp hbefore; rfl
      | false =>
        obtain ⟨comma, rfl, hcomma⟩ := List.map_eq_singleton_iff.mp hbefore
        simp [Grammar.step, Grammar.atFlowMappingKey, Grammar.afterComma, Grammar.peek, hkey, hcomma,
          Grammar.advance, bind, Except.bind]
    rw [Layout.expectKey, hafter]
    simp [Grammar.step, Layout.expectValue, Grammar.atFlowMappingKey, Grammar.afterComma, Grammar.peek,
      hkey, Grammar.nodeUnless, Grammar.advance, Grammar.expect, hscalar, readNode_scalar hscalar, bind,
      Except.bind]

/-- The grammar goes on to a value. -/
theorem step_value {valueToken first : Token} (hvalue : valueToken.kind = .value)
    (hfirst : startsNode first.kind = true) :
    Grammar.step { tokens := valueToken :: first :: tokens, fault
                   stack := layout.expectValue since :: stack, handles } =
      Grammar.readNode { tokens := first :: tokens, fault
                         stack := layout.expectKey false since :: stack, handles }
        layout.allowsBlock layout.allowsBlock := by
  have hne (kind : TokenKind) (hkind : startsNode kind = false) : first.kind ≠ kind := by
    rintro rfl
    rw [hkind] at hfirst
    cases hfirst
  cases layout <;>
    simp [Grammar.step, Layout.expectKey, Layout.expectValue, Layout.allowsBlock,
      Grammar.atBlockMappingValue, Grammar.atFlowMappingValue, Grammar.peek, hvalue,
      Grammar.nodeUnless, Grammar.advance, Grammar.expect, Grammar.dividesBlockMapping,
      hne .key rfl, hne .value rfl, hne .blockEnd rfl, hne .flowEntry rfl, hne .flowMappingEnd rfl,
      bind, Except.bind]

/-- The grammar ends a mapping. -/
theorem step_end {token : Token} (htoken : token.kind = layout.endKind) :
    Grammar.step { tokens := token :: tokens, fault
                   stack := layout.expectKey first since :: stack, handles } =
      .ok ({ kind := .mappingEnd, mark := token.start }, { tokens, fault, stack, handles }) := by
  cases layout <;>
    simp only [Layout.endKind] at htoken <;>
    simp [Grammar.step, Layout.expectKey, Grammar.atBlockMappingKey, Grammar.atFlowMappingKey,
      Grammar.peek, htoken, Grammar.answer, Grammar.advance, bind, Except.bind]

variable {layout} (fault stack handles since)

/-- The entries of a mapping, to its end. -/
theorem steps_entries {entries : List Entry}
    (hentries : ∀ entry ∈ entries, Makes layout.allowsBlock entry.kinds entry.Holds)
    (htokens : tokens.map Token.kind = layout.kindsFrom first entries) (rest : List Token) :
    ∃ events stop nodes, List.Forall₂ Entry.Fits entries nodes ∧
      Grammar.Steps { tokens := tokens ++ rest, fault, stack := layout.expectKey first since :: stack,
                      handles }
        (events ++ [{ kind := .mappingEnd, mark := stop }]) { tokens := rest, fault, stack, handles } ∧
      events.length < tokens.length ∧
      Builder.BuildsEntries events nodes := by
  induction entries generalizing tokens first with
  | nil =>
    obtain ⟨token, rfl, htoken⟩ := List.map_eq_singleton_iff.mp htokens
    exact ⟨[], token.start, [], .nil, .single (step_end layout htoken) nofun, Nat.zero_lt_one,
      Builder.buildsEntries_nil⟩
  | cons entry entries ih =>
    obtain ⟨hentry, hmore⟩ := List.forall_mem_cons.mp hentries
    rw [Layout.kindsFrom] at htokens
    obtain ⟨before, tokens, rfl, hbefore, htokens⟩ := List.map_eq_append_iff.mp htokens
    obtain ⟨keyToken, tokens, rfl, hkey, htokens⟩ := List.map_eq_cons_iff.mp htokens
    obtain ⟨scalar, tokens, rfl, hscalar, htokens⟩ := List.map_eq_cons_iff.mp htokens
    obtain ⟨valueToken, tokens, rfl, hvalue, htokens⟩ := List.map_eq_cons_iff.mp htokens
    obtain ⟨valueTokens, tokens, rfl, hvalues, htokens⟩ := List.map_eq_append_iff.mp htokens
    obtain ⟨events, stop, nodes, hnodes, hsteps, hlength, hbuilds⟩ := ih hmore htokens
    obtain ⟨event, g, valueEvents, node, hnode, hread, hkind, hvalueSteps, hvalueLength,
        hvalueBuilds⟩ := hentry.node valueTokens (tokens ++ rest) fault (layout.expectKey false since :: stack) handles
        layout.allowsBlock hvalues
    obtain ⟨token, valueTokens, rfl, htoken⟩ := hentry.exists_start hvalues
    have hkeySteps : Grammar.Steps
        { tokens :=
            before ++ keyToken :: scalar :: valueToken :: (token :: valueTokens ++ tokens) ++ rest
          fault, stack := layout.expectKey first since :: stack, handles }
        [{ kind := .scalar {} entry.name entry.style, mark := scalar.start }]
        { tokens := valueToken :: token :: (valueTokens ++ (tokens ++ rest)), fault
          stack := layout.expectValue since :: stack, handles } := by
      have hbehind : before ++ keyToken :: scalar :: valueToken :: (token :: valueTokens ++ tokens) ++
          rest = before ++ keyToken :: scalar :: valueToken :: token ::
            (valueTokens ++ (tokens ++ rest)) := by
        simp
      rw [hbehind]
      exact .single (step_key layout hbefore hkey hscalar) nofun
    have hentrySteps : Grammar.Steps
        { tokens := valueToken :: token :: (valueTokens ++ (tokens ++ rest)), fault
          stack := layout.expectValue since :: stack, handles }
        (event :: valueEvents)
        { tokens := tokens ++ rest, fault, stack := layout.expectKey false since :: stack, handles } :=
      .next ((step_value layout hvalue htoken).trans hread) hkind hvalueSteps
    have hkeyBuilds := Builder.builds_scalar scalar.start entry.name entry.style
    refine ⟨_, stop, _, .cons ⟨⟨scalar.start, rfl⟩, hnode⟩ hnodes, ?_, ?_,
      .cons hkeyBuilds hvalueBuilds hbuilds⟩
    · have hall := (hkeySteps.trans hentrySteps).trans hsteps
      rwa [← List.append_assoc _ events] at hall
    · simp at hlength hvalueLength ⊢
      omega

end Mapping

/-- **A mapping is a node of its entries.** A block mapping needs a place where it may stand. -/
theorem makes_mapping {layout : Layout} {block : Bool}
    (hblock : layout.allowsBlock = true → block = true) {entries : List Entry}
    (hentries : ∀ entry ∈ entries, Makes layout.allowsBlock entry.kinds entry.Holds) :
    Makes block (layout.kinds entries) (Node.IsMapping entries) := by
  refine ⟨by cases layout <;> rfl, fun tokens rest fault stack handles indentless htokens => ?_⟩
  obtain ⟨token, tokens, rfl, htoken, htokens⟩ := List.map_eq_cons_iff.mp htokens
  obtain ⟨events, stop, nodes, hnodes, hsteps, hlength, hbuilds⟩ :=
    steps_entries fault stack handles token.start hentries htokens rest
  refine ⟨{ kind := .mappingStart {}, mark := token.start }, _, _, _, ⟨token.start, nodes, rfl, hnodes⟩,
    ?_, nofun, hsteps, ?_, Builder.builds_mapping hbuilds token.start stop⟩
  · cases layout with
    | block =>
      obtain rfl := hblock rfl
      simp only [Layout.startKind] at htoken
      simp [Grammar.readNode, Grammar.peek, htoken, Grammar.readProperties, Grammar.advance,
        Grammar.expect, Layout.expectKey, bind, Except.bind]
    | flow =>
      simp only [Layout.startKind] at htoken
      simp [Grammar.readNode, Grammar.peek, htoken, Grammar.readProperties, Grammar.advance,
        Grammar.expect, Layout.expectKey, bind, Except.bind]
  · simpa using hlength

/-! ## 5. Documents -/

/-- **Tokens that make up a node and nothing else are a document.** -/
theorem ofText_of_makes {text : List Char} {kinds : List TokenKind} {P : Node → Prop}
    (hmakes : Makes true kinds P) {tokens : List Token}
    (htokens : tokens.map Token.kind = kinds ++ [.streamEnd])
    (hscan : Token.scan text = (tokens, none)) :
    ∃ root events, P root ∧
      Document.ofText text = { root, events, fault := none, followed := false } := by
  obtain ⟨nodeTokens, ends, rfl, hnodeTokens, hends⟩ := List.map_eq_append_iff.mp htokens
  obtain ⟨last, rfl, hlast⟩ := List.map_eq_singleton_iff.mp hends
  obtain ⟨event, g, events, root, hroot, hread, hkind, hsteps, hlength, hbuilds⟩ :=
    hmakes.node nodeTokens [last] none [.documentEnd] Grammar.defaultHandles false hnodeTokens
  obtain ⟨token, nodeTokens, rfl, htoken⟩ := hmakes.exists_start hnodeTokens
  let start : Event := { kind := .documentStart, mark := token.start }
  let stop : List Event :=
    [{ kind := .documentEnd, mark := last.start }, { kind := .streamEnd, mark := last.start }]
  have hstart : Grammar.step { tokens := token :: nodeTokens ++ [last], fault := none } =
      .ok (start, { tokens := token :: nodeTokens ++ [last], fault := none
                    stack := [.blockNode, .documentEnd], handles := Grammar.defaultHandles }) := by
    have hkinds : token.kind ≠ .streamEnd ∧ Grammar.isExplicit token.kind = false := by
      cases hkind : token.kind <;> simp [hkind, startsNode] at htoken <;> simp [Grammar.isExplicit]
    simp [Grammar.step, Grammar.atDocumentStart, Grammar.peek, hkinds, start, bind, Except.bind]
  have hall : Grammar.Steps { tokens := token :: nodeTokens ++ [last], fault := none }
      (start :: event :: events)
      { tokens := [last], fault := none, stack := [.documentEnd], handles := Grammar.defaultHandles } :=
    .next hstart nofun (.next hread hkind hsteps)
  have hend (bound : Nat) : Grammar.run (bound + 2)
      { tokens := [last], fault := none, stack := [.documentEnd], handles := Grammar.defaultHandles } =
        (stop, none) := by
    have hclose : Grammar.step { tokens := [last], fault := none, stack := [.documentEnd]
                                 handles := Grammar.defaultHandles } =
        .ok ({ kind := .documentEnd, mark := last.start },
          { tokens := [last], fault := none, stack := [.documentStart false]
            handles := Grammar.defaultHandles }) := by
      simp [Grammar.step, Grammar.atDocumentEnd, Grammar.peek, hlast, Grammar.expect, bind, Except.bind]
    have hover : Grammar.step { tokens := [last], fault := none, stack := [.documentStart false]
                                handles := Grammar.defaultHandles } =
        .ok ({ kind := .streamEnd, mark := last.start },
          { tokens := [last], fault := none, handles := Grammar.defaultHandles, stack := [] }) := by
      simp [Grammar.step, Grammar.atDocumentStart, Grammar.peek, hlast, bind, Except.bind]
    rw [Grammar.run, hclose]
    simp only [reduceCtorEq, ↓reduceIte]
    rw [Grammar.run, hover]
    rfl
  have hevents : Event.parse (token :: nodeTokens ++ [last]) none =
      (start :: event :: events ++ stop, none) := by
    have hbound : 4 * (token :: nodeTokens ++ [last]).length + 8 = (start :: event :: events).length +
        (4 * (token :: nodeTokens ++ [last]).length + 4 - events.length + 2) := by
      simp only [List.length_append, List.length_cons, List.length_nil] at hlength ⊢
      omega
    rw [Event.parse, hbound, Grammar.run_of_steps hall, hend]
  refine ⟨root, events.length + 1, hroot, ?_⟩
  rw [Document.ofText, hscan]
  simp only [hevents]
  rw [List.cons_append, List.cons_append, Builder.run]
  have hbuilt := hbuilds none {} stop
  rw [List.cons_append] at hbuilt
  rw [hbuilt]
  simp [Builder.run, stop, Builder.counted, Builder.add, Builder.finish]

end Relay.Yaml
