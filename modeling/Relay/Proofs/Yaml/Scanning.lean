import Mathlib.Data.List.TakeWhile
import Relay.Proofs.Yaml.Scalars
import Relay.Yaml.Token.Scanner

/-!
# A scanner on its way through a text

Between two tokens of a block mapping, and between two parts of a flow mapping, a scanner is at a
`Place`: what is left of the text, the column, and the open block collections. `Goes p kinds q` says
that a scanner at `p` answers tokens of these kinds and is then at `q`, whatever its marks and
counts are. Two ways make one (`Goes.trans`), and each piece of a text has one:

* a gap answers nothing (`goes_gap`);
* a name and its colon are a key, and open and close block mappings (`goes_name`);
* a quoted text or a word is a scalar (`goes_quoted`, `goes_word_leaves`, `goes_word_part`);
* a flow mapping on one line goes mark by mark (`goes_flow_start`, `goes_quoted_key`, `goes_comma`,
  `goes_flow_end`).

A whole way to the end of the text is all that `Token.scan` answers (`scan_of_goes`).
-/

namespace Relay.Yaml.Scanner

/-! ## 1. Places -/

/-- Where a scanner is between two tokens. -/
structure Place where
  rest : List Char
  column : Nat
  /-- Whether the place is inside a flow collection. -/
  flow : Bool := false
  /-- Whether a simple key may start here. -/
  allowed : Bool := false
  indent : Int := -1
  indents : List Int := []

/-- The scanner at a place. No token waits, and none that was read may become a key. -/
def Place.scanner (p : Place) (mark : Mark) (released : Nat) : Scanner :=
  { cursor := ⟨p.rest, mark⟩
    released
    flowKeys := if p.flow then [none] else []
    keyAllowed := p.allowed
    indent := p.indent
    indents := p.indents }

theorem Place.cursor_scanner (p : Place) (mark : Mark) (released : Nat) :
    (p.scanner mark released).cursor = ⟨p.rest, mark⟩ := rfl

theorem Place.indent_scanner (p : Place) (mark : Mark) (released : Nat) :
    (p.scanner mark released).indent = p.indent := rfl

/-- What a run answers behind tokens that are released already. -/
def behind (tokens : List Token) (answer : List Token × Option SyntaxFault) :
    List Token × Option SyntaxFault :=
  (tokens ++ answer.1, answer.2)

theorem behind_nil (answer : List Token × Option SyntaxFault) : behind [] answer = answer := rfl

theorem behind_behind (tokens more : List Token) (answer : List Token × Option SyntaxFault) :
    behind tokens (behind more answer) = behind (tokens ++ more) answer := by
  rw [behind, behind, behind, List.append_assoc]

/-- **From `p` a scanner goes on to `q`**, and answers tokens of the given kinds on its way. Every
step takes a character at least. -/
def Goes (p : Place) (kinds : List TokenKind) (q : Place) : Prop :=
  ∀ mark released, mark.column = p.column → ∃ tokens mark' released' count,
    tokens.map Token.kind = kinds ∧ mark'.column = q.column ∧
      count + q.rest.length ≤ p.rest.length ∧
      ∀ bound, run (count + (bound + 1)) (p.scanner mark released) =
        behind tokens (run (bound + 1) (q.scanner mark' released'))

theorem Goes.refl (p : Place) : Goes p [] p :=
  fun mark released hmark => ⟨[], mark, released, 0, rfl, hmark, by omega, fun bound => by
    rw [Nat.zero_add, behind_nil]⟩

theorem Goes.trans {p q r : Place} {kinds more : List TokenKind} (h : Goes p kinds q)
    (hmore : Goes q more r) : Goes p (kinds ++ more) r := by
  intro mark released hmark
  obtain ⟨tokens, mark', released', count, hkinds, hmark', hcount, hrun⟩ := h mark released hmark
  obtain ⟨tokens', mark'', released'', count', hkinds', hmark'', hcount', hrun'⟩ :=
    hmore mark' released' hmark'
  refine ⟨tokens ++ tokens', mark'', released'', count + count', ?_, hmark'', by omega, fun bound => ?_⟩
  · rw [List.map_append, hkinds, hkinds']
  · have hfirst := hrun (count' + bound)
    rw [Nat.add_assoc count' bound 1, ← Nat.add_assoc count, hrun' bound] at hfirst
    rw [hfirst, behind_behind]

/-! ## 2. Skipping -/

/-- A text that a token starts, or that is at its end. -/
def IsStart (text : List Char) : Prop :=
  ∀ c ∈ text.head?, isBlankOrBreak c = false ∧ c ≠ '#' ∧ c ≠ '\uFEFF'

theorem isStart_nil : IsStart [] := nofun

theorem isStart_word {word : List Char} (hword : IsWord word) (rest : List Char) :
    IsStart (word ++ rest) := by
  obtain ⟨c, more, rfl⟩ := List.exists_cons_of_ne_nil hword.ne_nil
  have hc := hword.names c List.mem_cons_self
  rintro _ ⟨⟩
  exact ⟨(classes_of_isNameChar hc).1, (classes_of_isNameChar hc).2.2.1,
    ne_of_isNameChar hc (by decide)⟩

theorem isStart_quoted (text rest : List Char) : IsStart (quoted text ++ rest) := by
  rintro _ ⟨⟩
  decide

theorem IsStart.isSolid {text : List Char} (h : IsStart text) : IsSolid text :=
  fun c hc => (h c hc).1

/-- Where a token starts there is nothing to skip. -/
theorem skipToToken_of_isStart {s : Scanner} (h : IsStart s.cursor.rest) (bound : Nat) :
    skipToToken (bound + 1) s = s := by
  have hmark : s.cursor.at? '\uFEFF' = false := by
    cases hrest : s.cursor.rest with
    | nil => simp [Cursor.at?, hrest]
    | cons c rest => simpa [Cursor.at?, hrest] using (h c (by rw [hrest]; rfl)).2.2
  have hhash : s.cursor.at? '#' = false := by
    cases hrest : s.cursor.rest with
    | nil => simp [Cursor.at?, hrest]
    | cons c rest => simpa [Cursor.at?, hrest] using (h c (by rw [hrest]; rfl)).2.1
  have hskip : s.cursor.skipWhile
      (fun c => c == ' ' || ((s.inFlow || !s.keyAllowed) && c == '\t')) = s.cursor := by
    refine Cursor.skipWhile_of_head fun c hc => ?_
    have hsolid := (h c hc).1
    simp only [isBlankOrBreak, isBlank, Bool.or_eq_false_iff] at hsolid
    simp [hsolid]
  have hbreak : s.cursor.rest.head?.any isBreak = false := by
    cases hrest : s.cursor.rest with
    | nil => rfl
    | cons c rest => exact (Bool.or_eq_false_iff.mp (h c (by rw [hrest]; rfl)).1).2
  rw [skipToToken]
  simp [hmark, hskip, hhash, hbreak]

theorem skipToToken_space {s : Scanner} {rest : List Char} {mark : Mark} (bound : Nat) :
    skipToToken (bound + 1) { s with cursor := ⟨' ' :: rest, mark⟩ } =
      skipToToken (bound + 1) { s with cursor := ⟨rest, mark.forward [' ']⟩ } := by
  have hmark : Cursor.at? ⟨' ' :: rest, mark⟩ '\uFEFF' = false := by simp [Cursor.at?]
  have hcolumn : ((mark.forward [' ']).column == 0) = false :=
    beq_eq_false_iff_ne.mpr (Nat.succ_ne_zero _)
  rw [skipToToken, skipToToken]
  simp only [hmark, hcolumn, Bool.and_false, Bool.false_and, Bool.false_eq_true, ↓reduceIte]
  rw [Cursor.skipWhile_cons (by simp)]
  rfl

theorem skipToToken_newline {s : Scanner} {rest : List Char} {mark : Mark} (bound : Nat) :
    skipToToken (bound + 1) { s with cursor := ⟨'\n' :: rest, mark⟩ } =
      skipToToken bound { s with
        cursor := ⟨rest, mark.nextLine ['\n']⟩, keyAllowed := s.keyAllowed || !s.inFlow } := by
  have hbreak : isBreak '\n' = true := by decide
  have hskip {p : Char → Bool} (hp : p '\n' = false) :
      Cursor.skipWhile ⟨'\n' :: rest, mark⟩ p = ⟨'\n' :: rest, mark⟩ :=
    Cursor.skipWhile_of_head (by rintro _ ⟨⟩; exact hp)
  rw [skipToToken]
  simp [Cursor.at?, hskip, hbreak, Cursor.skipBreak, Cursor.readBreak, inFlow]

/-- **A gap is skipped.** A newline lets a simple key start again, outside of flow collections. -/
theorem skipToToken_gap {gap rest : List Char} (hgap : IsGap gap) (hrest : IsStart rest)
    (s : Scanner) (mark : Mark) {bound : Nat} (hbound : gap.length ≤ bound) :
    skipToToken (bound + 1) { s with cursor := ⟨gap ++ rest, mark⟩ } = { s with
      cursor := ⟨rest, mark.over gap⟩
      keyAllowed := s.keyAllowed || (decide ('\n' ∈ gap) && !s.inFlow) } := by
  induction gap generalizing s mark bound with
  | nil =>
    rw [skipToToken_of_isStart (by exact hrest)]
    simp [Mark.over]
  | cons c gap ih =>
    obtain ⟨bound, rfl⟩ := Nat.exists_eq_succ_of_ne_zero (Nat.ne_of_gt (Nat.lt_of_lt_of_le
      (Nat.succ_pos _) hbound))
    have hgap' : IsGap gap := fun d hd => hgap d (List.mem_cons_of_mem _ hd)
    have hbound' : gap.length ≤ bound := Nat.le_of_succ_le_succ hbound
    obtain rfl | rfl := hgap c List.mem_cons_self
    · rw [List.cons_append, skipToToken_space, ih hgap' _ _ (Nat.le_succ_of_le hbound')]
      simp [Mark.over]
    · have hnext := ih hgap' { s with keyAllowed := s.keyAllowed || !s.inFlow }
        (mark.nextLine ['\n']) hbound'
      rw [List.cons_append, skipToToken_newline, hnext]
      cases hflow : s.keyAllowed <;> simp [Mark.over, inFlow]

/-- The place behind a gap, in front of a text. -/
def Place.past (p : Place) (gap rest : List Char) : Place :=
  { p with
    rest
    column := columnAfter p.column gap
    allowed := p.allowed || (decide ('\n' ∈ gap) && !p.flow) }

/-- A run is the same on both sides of a gap. -/
theorem run_gap {p : Place} {gap rest : List Char} (hp : p.rest = gap ++ rest) (hgap : IsGap gap)
    (hrest : IsStart rest) (mark : Mark) (released bound : Nat) :
    run (bound + 1) (p.scanner mark released) =
      run (bound + 1) ((p.past gap rest).scanner (mark.over gap) released) := by
  have hflow : (p.scanner mark released).inFlow = p.flow := by
    cases hflow : p.flow <;> simp [Place.scanner, inFlow, hflow]
  have hskip : skipToToken (p.rest.length + 1) (p.scanner mark released) =
      (p.past gap rest).scanner (mark.over gap) released := by
    have hover := skipToToken_gap hgap hrest (p.scanner mark released) mark
      (show gap.length ≤ p.rest.length by simp [hp])
    rw [← hp, hflow] at hover
    exact hover
  have hfetch : (p.scanner mark released).fetch =
      ((p.past gap rest).scanner (mark.over gap) released).fetch := by
    have hagain : skipToToken ((p.past gap rest).rest.length + 1)
        ((p.past gap rest).scanner (mark.over gap) released) =
          (p.past gap rest).scanner (mark.over gap) released := skipToToken_of_isStart hrest _
    simp only [fetch]
    rw [Place.cursor_scanner, hskip, Place.cursor_scanner, hagain]
  rw [run, run, hfetch]

theorem goes_gap {p : Place} {gap rest : List Char} (hp : p.rest = gap ++ rest) (hgap : IsGap gap)
    (hrest : IsStart rest) : Goes p [] (p.past gap rest) := by
  intro mark released hmark
  refine ⟨[], mark.over gap, released, 0, rfl, ?_, ?_, fun bound => ?_⟩
  · rw [Mark.over_column, hmark]
    rfl
  · rw [Nat.zero_add, hp, List.length_append]
    exact Nat.le_add_left _ _
  · rw [Nat.zero_add, behind_nil, run_gap hp hgap hrest]

/-! ## 3. Steps -/

theorem dropStaleKeys_scanner (p : Place) (mark : Mark) (released : Nat) (queue : List Token) :
    dropStaleKeys { p.scanner mark released with queue } =
      .ok { p.scanner mark released with queue } := by
  cases hflow : p.flow <;> simp [dropStaleKeys, Place.scanner, hflow, staleKey] <;> rfl

theorem simpleKey_scanner (p : Place) (mark : Mark) (released : Nat) :
    (p.scanner mark released).simpleKey = none := by
  cases hflow : p.flow <;> simp [simpleKey, Place.scanner, hflow]

/-- Tokens are released up to the first one that may be a key. -/
theorem release_append {s : Scanner} {ready waiting : List Token}
    (hready : ∀ n < ready.length, { s with released := s.released + n }.headIsOpen = false)
    (hwaiting : waiting = [] ∨ { s with released := s.released + ready.length }.headIsOpen = true) :
    s.release (ready ++ waiting) =
      (ready, { s with released := s.released + ready.length, queue := waiting }) := by
  induction ready generalizing s with
  | nil =>
    cases waiting with
    | nil => rfl
    | cons token waiting =>
      have hopen : s.headIsOpen = true := hwaiting.resolve_left (List.cons_ne_nil _ _)
      rw [List.nil_append, release, if_pos hopen]
      rfl
  | cons token ready ih =>
    have hopen : s.headIsOpen = false := hready 0 (Nat.succ_pos _)
    have hplace (n : Nat) : s.released + 1 + n = s.released + (n + 1) := by omega
    have hmore := ih (s := { s with released := s.released + 1 })
      (fun n hn => by simpa only [hplace] using hready (n + 1) (Nat.succ_lt_succ hn))
      (by simpa only [hplace, List.length_cons] using hwaiting)
    rw [List.cons_append, release, hopen, if_neg Bool.false_ne_true, hmore]
    simp only [hplace, List.length_cons]

theorem release_all {s : Scanner} {ready : List Token}
    (hready : ∀ n < ready.length, { s with released := s.released + n }.headIsOpen = false) :
    s.release ready = (ready, { s with released := s.released + ready.length, queue := [] }) := by
  have hall := release_append hready (.inl rfl)
  rwa [List.append_nil] at hall

/-- Tokens that wait at a place are released at once. -/
theorem release_scanner (p : Place) (mark : Mark) (released : Nat) (tokens : List Token) :
    release { p.scanner mark released with queue := tokens } tokens =
      (tokens, p.scanner mark (released + tokens.length)) := by
  have hready : ∀ n < tokens.length,
      headIsOpen { p.scanner mark released with queue := tokens, released := released + n } =
        false := by
    intro n _
    cases hflow : p.flow <;> simp [headIsOpen, Place.scanner, hflow]
  exact release_all hready

/-- A run that fetches tokens, none of which may be a key. -/
theorem run_of_fetch {s : Scanner} {q : Place} {mark : Mark} {released : Nat} {tokens : List Token}
    (hfetch : s.fetch = .ok { q.scanner mark released with queue := tokens }) (bound : Nat) :
    run (bound + 1) s = behind tokens (run bound (q.scanner mark (released + tokens.length))) := by
  rw [run, hfetch]
  have hstale : (Except.ok { q.scanner mark released with queue := tokens } >>= dropStaleKeys) =
      .ok { q.scanner mark released with queue := tokens } := dropStaleKeys_scanner q mark released _
  rw [hstale]
  simp only [release_scanner]
  rfl

/-- **One step.** A scanner at `p` that fetches tokens, none of which may be a key, goes on. -/
theorem goes_of_fetch {p q : Place} {kinds : List TokenKind} (hrest : q.rest.length < p.rest.length)
    (hfetch : ∀ mark released, mark.column = p.column → ∃ tokens mark',
      tokens.map Token.kind = kinds ∧ mark'.column = q.column ∧
        (p.scanner mark released).fetch = .ok { q.scanner mark' released with queue := tokens }) :
    Goes p kinds q := by
  intro mark released hmark
  obtain ⟨tokens, mark', hkinds, hmark', hstep⟩ := hfetch mark released hmark
  refine ⟨tokens, mark', released + tokens.length, 1, hkinds, hmark', by omega, fun bound => ?_⟩
  rw [Nat.add_comm 1 (bound + 1), run_of_fetch hstep]

/-! ## 4. Indentation -/

/-- How many blocks close at a column, and the indentation that is left. -/
def closings (column : Int) : (indent : Int) → (indents : List Int) → Nat × Int × List Int
  | indent, [] => (0, indent, [])
  | indent, outer :: more =>
    if column < indent then
      let (count, indent, indents) := closings column outer more
      (count + 1, indent, indents)
    else (0, indent, outer :: more)

theorem closings_of_le {column indent : Int} (h : indent ≤ column) (indents : List Int) :
    closings column indent indents = (0, indent, indents) := by
  cases indents with
  | nil => rfl
  | cons outer more => rw [closings, if_neg (Int.not_lt.mpr h)]

/-- Blocks that close at one column and then at a lesser one close at the lesser one. -/
theorem closings_closings {column lesser : Int} (h : lesser ≤ column) (indent : Int)
    (indents : List Int) :
    closings lesser indent indents =
      let (count, indent', indents') := closings column indent indents
      let (more, indent'', indents'') := closings lesser indent' indents'
      (count + more, indent'', indents'') := by
  induction indents generalizing indent with
  | nil => simp [closings]
  | cons outer rest ih =>
    rw [closings, closings]
    by_cases hcolumn : column < indent
    · rw [if_pos (by omega), if_pos hcolumn, ih]
      simp only [Prod.mk.injEq, and_true]
      omega
    · rw [if_neg hcolumn]
      simp [closings]

/-- Every block that closes answers a token. -/
theorem closeBlocks_eq {column : Int} {s : Scanner} {count : Nat} {indent : Int}
    {indents : List Int} (h : closings column s.indent s.indents = (count, indent, indents)) :
    closeBlocks column s s.indents =
      { s with
        indent
        indents
        queue := s.queue ++ List.replicate count ⟨.blockEnd, s.cursor.mark, s.cursor.mark⟩ } := by
  generalize hopen : s.indents = openIndents at h
  induction openIndents generalizing s count with
  | nil =>
    cases h
    simp [closeBlocks, ← hopen]
  | cons outer more ih =>
    rw [closings] at h
    rw [closeBlocks]
    split at h
    case isTrue hlt =>
      obtain ⟨rfl, rfl, rfl⟩ := h
      rw [if_pos hlt, ih rfl rfl]
      simp [pushHere, push, List.replicate_succ]
    case isFalse hlt =>
      cases h
      simp [if_neg hlt, ← hopen]

theorem cursor_unrollIndent (s : Scanner) (column : Int) :
    (s.unrollIndent column).cursor = s.cursor := by
  rw [unrollIndent]
  split
  · rfl
  · rw [closeBlocks_eq rfl]

/-- Inside a flow collection, and not left of the open blocks, nothing closes. -/
theorem unrollIndent_scanner {p : Place} (hdeep : p.flow = true ∨ p.indent ≤ p.column) (mark : Mark)
    (released : Nat) :
    (p.scanner mark released).unrollIndent p.column = p.scanner mark released := by
  rw [unrollIndent]
  split
  · rfl
  · rename_i hflow
    have hdeep : p.indent ≤ p.column := hdeep.resolve_left fun h => hflow (by
      simp [inFlow, Place.scanner, h])
    rw [closeBlocks_eq (closings_of_le hdeep _)]
    simp [Place.scanner]

/-! ## 5. Fetching -/

/-- Where a token starts, a fetch closes the blocks that end and reads the token. -/
theorem fetch_of_isStart {s : Scanner} {c : Char} {more : List Char}
    (hs : s.cursor.rest = c :: more) (hstart : IsStart s.cursor.rest)
    (hstale : s.dropStaleKeys = .ok s) :
    s.fetch = (s.unrollIndent s.column).fetchAt c more := by
  rw [fetch, skipToToken_of_isStart hstart, hstale]
  simp only [bind, Except.bind, cursor_unrollIndent, hs]

section FetchAt

variable {s : Scanner} (hmarker : s.cursor.atDocumentMarker = false) (more : List Char)

include hmarker

theorem fetchAt_quote : s.fetchAt '"' more = s.fetchKeyLike (scanQuoted false) := by
  simp [fetchAt, hmarker]

theorem fetchAt_brace : s.fetchAt '\x7b' more = s.fetchFlowStart .flowMappingStart := by
  simp [fetchAt, hmarker]

theorem fetchAt_close : s.fetchAt '\x7d' more = s.fetchFlowEnd .flowMappingEnd := by
  simp [fetchAt, hmarker]

theorem fetchAt_comma : s.fetchAt ',' more = s.fetchFlowEntry := by
  simp [fetchAt, hmarker]

theorem fetchAt_colon {more : List Char} (hmore : s.inFlow = true ∨ endsWord more = true) :
    s.fetchAt ':' more = s.fetchValue := by
  simp [fetchAt, hmarker, hmore]

/-- The characters of names start plain scalars. A dash does when a word goes on behind it. -/
theorem fetchAt_name {c : Char} (hc : isNameChar c = true) {more : List Char}
    (hdash : c = '-' → endsWord more = false) : s.fetchAt c more = s.fetchPlain := by
  have hne {d : Char} (hd : isNameChar d = false) : c ≠ d := ne_of_isNameChar hc hd
  have hmarks : c ≠ '%' ∧ c ≠ '[' ∧ c ≠ '\x7b' ∧ c ≠ ']' ∧ c ≠ '\x7d' ∧ c ≠ ',' ∧ c ≠ '?' ∧
      c ≠ ':' ∧ c ≠ '*' ∧ c ≠ '&' ∧ c ≠ '!' ∧ c ≠ '|' ∧ c ≠ '>' ∧ c ≠ '\'' ∧ c ≠ '"' ∧ c ≠ '#' ∧
      c ≠ '@' ∧ c ≠ '\x60' := by
    refine ⟨?_, ?_, ?_, ?_, ?_, ?_, ?_, ?_, ?_, ?_, ?_, ?_, ?_, ?_, ?_, ?_, ?_, ?_⟩ <;>
      exact hne (by decide)
  have hstarts : s.startsPlain c more = true := by
    by_cases hc' : c = '-'
    · have hblank : more.head?.any isBlank = false := by
        cases more with
        | nil => rfl
        | cons d more => exact (Bool.or_eq_false_iff.mp (hdash hc')).1
      simp [startsPlain, hc', hblank]
    · simp [startsPlain, (classes_of_isNameChar hc).1, hc', hmarks]
  have hentry : ¬(c = '-' ∧ endsWord more = true) := fun h => by simp [hdash h.1] at h
  simp [fetchAt, hmarker, hmarks, hentry, hstarts]

end FetchAt

/-- A fetch at a place where nothing closes. -/
theorem fetch_scanner {p : Place} {c : Char} {more : List Char} (hp : p.rest = c :: more)
    (hstart : IsStart p.rest) (hdeep : p.flow = true ∨ p.indent ≤ p.column) {mark : Mark}
    (hmark : mark.column = p.column) (released : Nat) :
    (p.scanner mark released).fetch = (p.scanner mark released).fetchAt c more := by
  have hcolumn : (p.scanner mark released).column = p.column := hmark
  have hstale : (p.scanner mark released).dropStaleKeys = .ok (p.scanner mark released) :=
    dropStaleKeys_scanner p mark released []
  rw [fetch_of_isStart hp hstart hstale, hcolumn, unrollIndent_scanner hdeep]

/-! ## 6. Scalars -/

/-- The place behind a text of one line, in front of another text. -/
def Place.after (p : Place) (text rest : List Char) : Place :=
  { p with rest, column := p.column + text.length, allowed := false }

section Scalar

variable {p : Place} {rest : List Char} (hallowed : p.allowed = false)
  (hdeep : p.flow = true ∨ p.indent ≤ p.column)

include hallowed hdeep

/-- **A quoted text is a scalar.** -/
theorem goes_quoted {text : List Char} (hp : p.rest = quoted text ++ rest)
    (htext : ∀ c ∈ text, isPrintable c = true) :
    Goes p [.scalar text .doubleQuoted] (p.after (quoted text) rest) := by
  have hhead : p.rest = '"' :: (text.flatMap quotedChar ++ '"' :: rest) := by simp [hp, quoted]
  have hstart : IsStart p.rest := hp ▸ isStart_quoted text rest
  have hlength : 0 < (quoted text).length := Nat.succ_pos _
  refine goes_of_fetch (by simp [hp, Place.after, hlength]) fun mark released hmark => ?_
  refine ⟨[⟨.scalar text .doubleQuoted, mark, mark.forward (quoted text)⟩],
    mark.forward (quoted text), rfl, by simp [hmark, Place.after], ?_⟩
  have hmarker : (p.scanner mark released).cursor.atDocumentMarker = false := by
    show Cursor.atDocumentMarker ⟨p.rest, mark⟩ = false
    rw [hhead]
    exact Cursor.not_atDocumentMarker_of_head (by decide) _ _
  have hscan : scanQuoted false (p.scanner mark released).cursor =
      .ok (⟨.scalar text .doubleQuoted, mark, mark.forward (quoted text)⟩,
        ⟨rest, mark.forward (quoted text)⟩) := by
    show scanQuoted false ⟨p.rest, mark⟩ = _
    rw [hp]
    exact scanQuoted_quoted htext mark
  rw [fetch_scanner hhead hstart hdeep hmark, fetchAt_quote hmarker, fetchKeyLike]
  have hsave : saveSimpleKey (p.scanner mark released) = .ok (p.scanner mark released) := by
    rw [saveSimpleKey, show (p.scanner mark released).keyAllowed = false from hallowed]
    rfl
  rw [hsave]
  simp only [bind, Except.bind, hscan]
  rfl

section Word

variable {word gap behind : List Char} (hp : p.rest = word ++ (gap ++ behind))
  (hcolumn : 0 < p.column) (hword : IsWord word) (hdash : word ≠ ['-']) (hgap : IsGap gap)
  (hbehind : IsStart behind)

include hp hcolumn hword hdash hgap hbehind

/-- A word that is scanned together with the gap behind it. -/
theorem goes_of_scanPlain
    (hscan : ∀ mark : Mark, mark.column = p.column →
      scanPlain p.flow (p.indent + 1).toNat ⟨word ++ (gap ++ behind), mark⟩ =
        .ok (⟨.scalar word .plain, mark, mark.forward word⟩,
          { text := word, stop := mark.forward word, cursor := ⟨behind, (mark.forward word).over gap⟩
            broken := decide ('\n' ∈ gap) && !p.flow })) :
    Goes p [.scalar word .plain] (p.after word (gap ++ behind)) := by
  intro mark released hmark
  obtain ⟨c, more, rfl⟩ := List.exists_cons_of_ne_nil hword.ne_nil
  obtain ⟨hc, hmore⟩ := List.forall_mem_cons.mp hword.names
  have hstart : IsStart p.rest := hp ▸ isStart_word hword _
  have hends : c = '-' → endsWord (more ++ (gap ++ behind)) = false := by
    rintro rfl
    obtain ⟨d, more, rfl⟩ := List.exists_cons_of_ne_nil (fun h => hdash (h ▸ rfl) : more ≠ [])
    exact (classes_of_isNameChar (hmore d List.mem_cons_self)).1
  have hmarker : (p.scanner mark released).cursor.atDocumentMarker = false :=
    Cursor.not_atDocumentMarker (Nat.lt_of_lt_of_eq hcolumn hmark.symm)
  have hsave : saveSimpleKey (p.scanner mark released) = .ok (p.scanner mark released) := by
    rw [saveSimpleKey, show (p.scanner mark released).keyAllowed = false from hallowed]
    rfl
  have hflow : (p.scanner mark released).inFlow = p.flow := by
    cases hflow : p.flow <;> simp [Place.scanner, inFlow, hflow]
  have hword := hscan mark hmark
  rw [← hflow, ← hp] at hword
  have hfetch : (p.scanner mark released).fetch = .ok
      { ((p.after (c :: more) (gap ++ behind)).past gap behind).scanner
          ((mark.forward (c :: more)).over gap) released with
        queue := [⟨.scalar (c :: more) .plain, mark, mark.forward (c :: more)⟩] } := by
    have hhead : p.rest = c :: (more ++ (gap ++ behind)) := hp
    rw [fetch_scanner hhead hstart hdeep hmark, fetchAt_name hmarker hc hends, fetchPlain, hsave]
    simp only [bind, Except.bind]
    rw [Place.cursor_scanner, Place.indent_scanner, hword, hflow]
    simp [Place.past, Place.after, Place.scanner, push]
  have hpast := run_gap (p := p.after (c :: more) (gap ++ behind)) rfl hgap hbehind
    (mark.forward (c :: more)) (released + 1)
  -- the scanner has passed the gap already, where a run answers what it does in front of the gap
  refine ⟨[⟨.scalar (c :: more) .plain, mark, mark.forward (c :: more)⟩],
    mark.forward (c :: more), released + 1, 1, rfl, by simp [hmark, Place.after],
    by simp [hp, Place.after]; omega, fun bound => ?_⟩
  rw [Nat.add_comm 1 (bound + 1), hpast bound]
  exact run_of_fetch hfetch (bound + 1)

/-- **A word in a block is a scalar**, if what is left of the text leads out of the indentation. -/
theorem goes_word_leaves (hflow : p.flow = false)
    (hleaves : behind = [] ∨ ∀ column, (columnAfter column gap : Int) ≤ p.indent) :
    Goes p [.scalar word .plain] (p.after word (gap ++ behind)) := by
  refine goes_of_scanPlain hallowed hdeep hp hcolumn hword hdash hgap hbehind fun mark hmark => ?_
  have hmarker : Cursor.atDocumentMarker ⟨word ++ (gap ++ behind), mark⟩ = false :=
    Cursor.not_atDocumentMarker (Nat.lt_of_lt_of_eq hcolumn hmark.symm)
  have hbelow : behind = [] ∨ ∀ column, columnAfter column gap < (p.indent + 1).toNat :=
    hleaves.imp_right fun h column => by have := h column; omega
  rw [hflow, scanPlain_leaves _ hword hmarker rfl hgap hbehind.isSolid hbelow, Bool.not_false,
    Bool.and_true]

end Word

/-- **A word in a flow collection is a scalar**, up to the mark behind it. -/
theorem goes_word_part {word : List Char} {count : Nat} {c : Char} {more : List Char}
    (hp : p.rest = word ++ (List.replicate count ' ' ++ c :: more)) (hflow : p.flow = true)
    (hcolumn : 0 < p.column) (hword : IsWord word) (hdash : word ≠ ['-']) (hc : c = ',' ∨ c = '\x7d') :
    Goes p [.scalar word .plain] (p.after word (List.replicate count ' ' ++ c :: more)) := by
  have hbehind : IsStart (c :: more) := by
    rintro _ ⟨⟩
    rcases hc with rfl | rfl <;> decide
  refine goes_of_scanPlain hallowed hdeep hp hcolumn hword hdash (isGap_spaces count) hbehind
    fun mark hmark => ?_
  have hmarker : Cursor.atDocumentMarker ⟨word ++ (List.replicate count ' ' ++ c :: more), mark⟩ =
      false := Cursor.not_atDocumentMarker (Nat.lt_of_lt_of_eq hcolumn hmark.symm)
  rw [hflow, scanPlain_part _ hword hmarker rfl hc, Bool.not_true, Bool.and_false]

end Scalar

/-! ## 7. Marks of a flow mapping -/

/-- The place behind the brace that opens a flow mapping. -/
def Place.inside (p : Place) (rest : List Char) : Place :=
  { p with rest, column := p.column + 1, flow := true, allowed := true }

/-- The place behind a comma. -/
def Place.next (p : Place) (rest : List Char) : Place :=
  { p with rest, column := p.column + 1, allowed := true }

/-- The place behind the brace that closes a flow mapping. -/
def Place.outside (p : Place) (rest : List Char) : Place :=
  { p with rest, column := p.column + 1, flow := false, allowed := false }

section Mark

variable {p : Place} {rest : List Char}

theorem isStart_mark {c : Char} (hc : c = '\x7b' ∨ c = ',' ∨ c = '\x7d' ∨ c = ':' ∨ c = '"')
    (rest : List Char) : IsStart (c :: rest) := by
  rintro _ ⟨⟩
  rcases hc with rfl | rfl | rfl | rfl | rfl <;> decide

/-- The token of a mark. -/
def markToken (kind : TokenKind) (c : Char) (mark : Mark) : Token :=
  { kind, start := mark, stop := mark.forward [c] }

/-- A mark that is fetched as one token. -/
theorem goes_of_mark {c : Char} {kind : TokenKind} {q : Place} (hp : p.rest = c :: rest)
    (hc : c = '\x7b' ∨ c = ',' ∨ c = '\x7d') (hdeep : p.flow = true ∨ p.indent ≤ p.column)
    (hrest : q.rest = rest) (hcolumn : q.column = p.column + 1)
    (hfetch : ∀ mark released, (p.scanner mark released).cursor.atDocumentMarker = false →
      (p.scanner mark released).fetchAt c rest =
        .ok { q.scanner (mark.forward [c]) released with queue := [markToken kind c mark] }) :
    Goes p [kind] q := by
  have hstart : IsStart p.rest := by
    rw [hp]
    exact isStart_mark (hc.imp_right (Or.imp_right .inl)) rest
  refine goes_of_fetch (by simp [hp, hrest]) fun mark released hmark => ?_
  have hmarker : (p.scanner mark released).cursor.atDocumentMarker = false := by
    show Cursor.atDocumentMarker ⟨p.rest, mark⟩ = false
    rw [hp]
    exact Cursor.not_atDocumentMarker_of_head (by rcases hc with rfl | rfl | rfl <;> decide) _ _
  refine ⟨[markToken kind c mark], mark.forward [c], rfl, by simp [hmark, hcolumn], ?_⟩
  rw [fetch_scanner hp hstart hdeep hmark, hfetch mark released hmarker]

/-- **A brace starts a mapping.** -/
theorem goes_flow_start (hp : p.rest = '\x7b' :: rest) (hflow : p.flow = false)
    (hallowed : p.allowed = false) (hdeep : p.indent ≤ p.column) :
    Goes p [.flowMappingStart] (p.inside rest) := by
  refine goes_of_mark hp (.inl rfl) (.inr hdeep) rfl rfl fun mark released hmarker => ?_
  rw [fetchAt_brace hmarker, fetchFlowStart, saveSimpleKey,
    show (p.scanner mark released).keyAllowed = false from hallowed]
  simp [pushSign, push, Place.scanner, Place.inside, markToken, hp, hflow, Cursor.skip_one, bind,
    Except.bind]

/-- **A comma stands between entries.** -/
theorem goes_comma (hp : p.rest = ',' :: rest) (hflow : p.flow = true) :
    Goes p [.flowEntry] (p.next rest) := by
  refine goes_of_mark hp (.inr (.inl rfl)) (.inl hflow) rfl rfl fun mark released hmarker => ?_
  rw [fetchAt_comma hmarker, fetchFlowEntry, dropSimpleKey, simpleKey_scanner]
  simp [pushSign, push, Place.scanner, Place.next, markToken, hp, hflow, Cursor.skip_one, bind,
    Except.bind]

/-- **A brace ends a mapping.** -/
theorem goes_flow_end (hp : p.rest = '\x7d' :: rest) (hflow : p.flow = true) :
    Goes p [.flowMappingEnd] (p.outside rest) := by
  refine goes_of_mark hp (.inr (.inr rfl)) (.inl hflow) rfl rfl fun mark released hmarker => ?_
  rw [fetchAt_close hmarker, fetchFlowEnd, dropSimpleKey, simpleKey_scanner]
  simp [pushSign, push, Place.scanner, Place.outside, markToken, hp, hflow, Cursor.skip_one, bind,
    Except.bind]

end Mark

/-! ## 8. Keys -/

/-- The scanner at a place where the last token of the queue may be a key. -/
def Place.holding (p : Place) (mark : Mark) (released : Nat) (key : SimpleKey) (queue : List Token) :
    Scanner :=
  { (p.scanner mark released).setSimpleKey (some key) with queue }

/-- Whether a key in the given column opens a block mapping. -/
def Place.opens (p : Place) (column : Nat) : Bool :=
  !p.flow && decide (p.indent < column)

/-- The place behind the colon of a key in the given column. -/
def Place.keyed (p : Place) (column : Nat) (rest : List Char) : Place :=
  { p with
    rest
    column := p.column + 1
    allowed := false
    indent := if p.opens column then column else p.indent
    indents := if p.opens column then p.indent :: p.indents else p.indents }

/-- The tokens that a key in the given column makes, from its own one on. -/
def Place.keyKinds (p : Place) (column : Nat) (kind : TokenKind) : List TokenKind :=
  (if p.opens column then [.blockMappingStart] else []) ++ [.key, kind, .value]

section Holding

variable {p : Place} {mark : Mark} {released : Nat} {key : SimpleKey} {queue : List Token}

theorem dropStaleKeys_holding
    (hfresh : key.mark.line = mark.line ∧ mark.index ≤ key.mark.index + 1024) :
    (p.holding mark released key queue).dropStaleKeys = .ok (p.holding mark released key queue) := by
  have hstale {s : Scanner} (hs : s.cursor.mark = mark) : s.isStale key = false := by
    simp [isStale, hs, hfresh]
  cases hflow : p.flow <;>
    simp [Place.holding, setSimpleKey, Place.scanner, hflow, dropStaleKeys, staleKey, hstale] <;> rfl

theorem inFlow_holding : (p.holding mark released key queue).inFlow = p.flow := by
  cases hflow : p.flow <;> simp [Place.holding, setSimpleKey, Place.scanner, hflow, inFlow]

theorem simpleKey_holding : (p.holding mark released key queue).simpleKey = some key := by
  cases hflow : p.flow <;> simp [Place.holding, setSimpleKey, Place.scanner, hflow, simpleKey]

theorem cursor_holding : (p.holding mark released key queue).cursor = ⟨p.rest, mark⟩ := by
  cases hflow : p.flow <;> simp [Place.holding, setSimpleKey, Place.scanner, hflow]

theorem indent_holding : (p.holding mark released key queue).indent = p.indent := by
  cases hflow : p.flow <;> simp [Place.holding, setSimpleKey, Place.scanner, hflow]

/-- The tokens in front of the one that may be a key are released. -/
theorem release_holding {ready : List Token} {token : Token}
    (hnumber : key.number = released + ready.length) :
    release (p.holding mark released key queue) (ready ++ [token]) =
      (ready, p.holding mark key.number key [token]) := by
  have hopen (n : Nat) :
      headIsOpen { p.holding mark released key queue with released := released + n } =
        (key.number == released + n) := by
    cases hflow : p.flow <;> simp [headIsOpen, Place.holding, setSimpleKey, Place.scanner, hflow]
  have hreleased : (p.holding mark released key queue).released = released := by
    cases hflow : p.flow <;> simp [Place.holding, setSimpleKey, Place.scanner, hflow]
  have hready : ∀ n < ready.length, headIsOpen { p.holding mark released key queue with
      released := (p.holding mark released key queue).released + n } = false := by
    intro n hn
    rw [hreleased, hopen, hnumber, beq_eq_false_iff_ne]
    omega
  have hwaiting : headIsOpen { p.holding mark released key queue with
      released := (p.holding mark released key queue).released + ready.length } = true := by
    rw [hreleased, hopen, hnumber, beq_self_eq_true]
  rw [release_append hready (.inr hwaiting), hreleased, ← hnumber]
  cases hflow : p.flow <;> simp [Place.holding, setSimpleKey, Place.scanner, hflow]

/-- A key that is held inside the open blocks closes none. -/
theorem unrollIndent_holding (hdeep : p.flow = true ∨ p.indent ≤ p.column) :
    (p.holding mark released key queue).unrollIndent p.column =
      p.holding mark released key queue := by
  rw [unrollIndent]
  split
  · rfl
  · rename_i hflow
    rw [inFlow_holding] at hflow
    have hle : (p.holding mark released key queue).indent ≤ p.column := by
      rw [indent_holding]
      exact hdeep.resolve_left hflow
    rw [closeBlocks_eq (closings_of_le hle _)]
    simp

end Holding

/-- What a colon makes of the token that may be a key. -/
theorem fetch_colon {p : Place} {rest : List Char} (hp : p.rest = ':' :: rest)
    (hdeep : p.flow = true ∨ p.indent ≤ p.column) (hrest : p.flow = true ∨ endsWord rest = true)
    {mark : Mark} (hmark : mark.column = p.column) {key : SimpleKey} (token : Token)
    (hfresh : key.mark.line = mark.line ∧ mark.index ≤ key.mark.index + 1024) :
    ∃ tokens, tokens.map Token.kind = p.keyKinds key.mark.column token.kind ∧
      (p.holding mark key.number key [token]).fetch =
        .ok { (p.keyed key.mark.column rest).scanner (mark.forward [':']) key.number with
          queue := tokens } := by
  have hcursor : (p.holding mark key.number key [token]).cursor = ⟨p.rest, mark⟩ := cursor_holding
  have hstart : IsStart (p.holding mark key.number key [token]).cursor.rest := by
    rw [hcursor, hp]
    exact isStart_mark (by decide) rest
  have hhead : (p.holding mark key.number key [token]).cursor.rest = ':' :: rest := by
    rw [hcursor, hp]
  have hmarker : (p.holding mark key.number key [token]).cursor.atDocumentMarker = false := by
    rw [hcursor, hp]
    exact Cursor.not_atDocumentMarker_of_head (by decide) _ _
  have hcolumn : (p.holding mark key.number key [token]).column = p.column := by
    rw [column, hcursor, hmark]
  rw [fetch_of_isStart hhead hstart (dropStaleKeys_holding hfresh), hcolumn,
    unrollIndent_holding hdeep, fetchAt_colon hmarker (by rwa [inFlow_holding]), fetchValue,
    simpleKey_holding]
  cases hflow : p.flow with
  | true =>
    refine ⟨[⟨.key, key.mark, key.mark⟩, token, markToken .value ':' mark], ?_, ?_⟩
    · simp [Place.keyKinds, Place.opens, hflow, markToken]
    · simp [Place.holding, setSimpleKey, Place.scanner, hflow, insert, rollIndent, inFlow, pushSign,
        push, hp, Cursor.skip_one, Place.keyed, Place.opens, markToken]
  | false =>
    by_cases hopens : p.indent < key.mark.column
    · refine ⟨[⟨.blockMappingStart, key.mark, key.mark⟩, ⟨.key, key.mark, key.mark⟩, token,
        markToken .value ':' mark], ?_, ?_⟩
      · simp [Place.keyKinds, Place.opens, hflow, hopens, markToken]
      · simp [Place.holding, setSimpleKey, Place.scanner, hflow, hopens, insert, rollIndent, inFlow,
          pushSign, push, hp, Cursor.skip_one, Place.keyed, Place.opens, markToken]
    · refine ⟨[⟨.key, key.mark, key.mark⟩, token, markToken .value ':' mark], ?_, ?_⟩
      · simp [Place.keyKinds, Place.opens, hflow, hopens, markToken]
      · simp [Place.holding, setSimpleKey, Place.scanner, hflow, hopens, insert, rollIndent, inFlow,
          pushSign, push, hp, Cursor.skip_one, Place.keyed, Place.opens, markToken]

/-- **A token with a colon behind it is a key.** -/
theorem goes_of_key {p m : Place} {rest : List Char} {ready : List TokenKind} {kind : TokenKind}
    (hm : m.rest = ':' :: rest) (hless : m.rest.length < p.rest.length)
    (hdeep : m.flow = true ∨ m.indent ≤ m.column) (hrest : m.flow = true ∨ endsWord rest = true)
    (hfetch : ∀ mark released, mark.column = p.column → ∃ key tokens token mark',
      tokens.map Token.kind = ready ∧ token.kind = kind ∧ mark'.column = m.column ∧
        key.number = released + tokens.length ∧ key.mark.column = p.column ∧
        (key.mark.line = mark'.line ∧ mark'.index ≤ key.mark.index + 1024) ∧
        (p.scanner mark released).fetch = .ok (m.holding mark' released key (tokens ++ [token]))) :
    Goes p (ready ++ m.keyKinds p.column kind) (m.keyed p.column rest) := by
  intro mark released hmark
  obtain ⟨key, ready, token, mark', rfl, rfl, hmark', hnumber, hcolumn, hfresh, hfetched⟩ :=
    hfetch mark released hmark
  obtain ⟨tokens, hkinds, hcolon⟩ := fetch_colon hm hdeep hrest hmark' token hfresh
  rw [hcolumn] at hkinds hcolon
  refine ⟨ready ++ tokens, mark'.forward [':'], key.number + tokens.length, 2,
    by rw [List.map_append, hkinds], by simp [hmark', Place.keyed],
    by simp [Place.keyed, hm] at hless ⊢; omega, fun bound => ?_⟩
  have hrun := run_of_fetch hcolon (bound + 1)
  have hheld : (Except.ok (m.holding mark' released key (ready ++ [token])) >>= dropStaleKeys) =
      .ok (m.holding mark' released key (ready ++ [token])) := dropStaleKeys_holding hfresh
  have hqueue : (m.holding mark' released key (ready ++ [token])).queue = ready ++ [token] := rfl
  have hfinished : (m.holding mark' key.number key [token]).finished = false := by
    cases hflow : m.flow <;> simp [Place.holding, setSimpleKey, Place.scanner, hflow]
  rw [show 2 + (bound + 1) = bound + 1 + 1 + 1 by omega, run, hfetched, hheld]
  simp only [hqueue, release_holding hnumber, hfinished, Bool.false_eq_true, ↓reduceIte, hrun]
  exact behind_behind ready tokens _

/-- The place between a name and its colon, where the blocks right of the name are closed. -/
def Place.named (p : Place) (name rest : List Char) (indent : Int) (indents : List Int) : Place :=
  { p with rest, column := p.column + name.length, allowed := false, indent, indents }

/-- **A name is a key of a block mapping.** It closes the blocks that lie right of it, and opens a
block when it lies right of the others. -/
theorem goes_name {p : Place} {name rest : List Char} (hp : p.rest = name ++ ':' :: rest)
    (hflow : p.flow = false) (hallowed : p.allowed = true) (hname : IsWord name)
    (hdash : '-' ∉ name) (hshort : name.length ≤ 256) (hrest : endsWord rest = true)
    {count : Nat} {indent : Int} {indents : List Int} (hindent : indent ≤ p.column)
    (hcloses : closings p.column p.indent p.indents = (count, indent, indents)) :
    let m := p.named name (':' :: rest) indent indents
    Goes p (List.replicate count .blockEnd ++ m.keyKinds p.column (.scalar name .plain))
      (m.keyed p.column rest) := by
  intro m
  obtain ⟨c, more, rfl⟩ := List.exists_cons_of_ne_nil hname.ne_nil
  have hc := hname.names c List.mem_cons_self
  have hcdash : c ≠ '-' := fun h => hdash (h ▸ List.mem_cons_self)
  have hhead : p.rest = c :: (more ++ ':' :: rest) := hp
  have hstart : IsStart p.rest := hp ▸ isStart_word hname _
  have hless : m.rest.length < p.rest.length := by
    simp only [m, Place.named, hp, List.length_append, List.length_cons]
    omega
  refine goes_of_key rfl hless (.inr ?_) (.inr hrest) fun mark released hmark => ?_
  · simp only [m, Place.named]
    omega
  have hmarker : Cursor.atDocumentMarker ⟨c :: more ++ ':' :: rest, mark⟩ = false :=
    Cursor.not_atDocumentMarker_of_head ⟨hcdash, ne_of_isNameChar hc (by decide)⟩ _ _
  let key : SimpleKey := { required := indent == (p.column : Int), number := released + count, mark }
  let closed := List.replicate count (Token.mk .blockEnd mark mark)
  refine ⟨key, closed, ⟨.scalar (c :: more) .plain, mark, mark.forward (c :: more)⟩,
    mark.forward (c :: more), by simp [closed], rfl, by simp [hmark, m, Place.named],
    by simp [key, closed], hmark, ⟨rfl, ?_⟩, ?_⟩
  · have hbytes := byteCount_le (c :: more)
    simp only [Mark.forward_index, key]
    omega
  · have hstale : (p.scanner mark released).dropStaleKeys = .ok (p.scanner mark released) :=
      dropStaleKeys_scanner p mark released []
    have hclosed : (p.scanner mark released).unrollIndent (p.scanner mark released).column =
        { p.scanner mark released with indent, indents, queue := closed } := by
      have hopen : (p.scanner mark released).inFlow = false := by
        simp [inFlow, Place.scanner, hflow]
      have hcolumn : (p.scanner mark released).column = p.column := hmark
      rw [unrollIndent, hopen, if_neg Bool.false_ne_true, hcolumn, closeBlocks_eq hcloses]
      rfl
    have hscan := scanPlain_key (indent + 1).toNat hname hmarker rfl hrest
    have hsave : saveSimpleKey { p.scanner mark released with indent, indents, queue := closed } =
        .ok { p.scanner mark released with
          indent, indents, queue := closed, blockKey := some key } := by
      simp [saveSimpleKey, dropSimpleKey, simpleKey, setSimpleKey, Place.scanner, hallowed, hflow,
        inFlow, column, hmark, key, closed, bind, Except.bind]
    have hopen : inFlow { p.scanner mark released with
        indent, indents, queue := closed, blockKey := some key } = false := by
      simp [inFlow, Place.scanner, hflow]
    have hcursor : (p.scanner mark released).cursor = ⟨c :: more ++ ':' :: rest, mark⟩ := by
      rw [Place.cursor_scanner, hp]
    rw [fetch_of_isStart hhead hstart hstale, hclosed, fetchAt_name (by rw [hcursor]; exact hmarker)
      hc (fun h => absurd h hcdash), fetchPlain, hsave]
    simp only [bind, Except.bind]
    rw [hopen, hcursor, hscan]
    simp [push, Place.holding, setSimpleKey, Place.scanner, hflow, m, Place.named]

section Name

variable {p : Place} {name rest : List Char} (hp : p.rest = name ++ ':' :: rest)
  (hflow : p.flow = false) (hallowed : p.allowed = true) (hname : IsWord name)
  (hdash : '-' ∉ name) (hshort : name.length ≤ 256) (hrest : endsWord rest = true)

include hp hflow hallowed hname hdash hshort hrest

/-- A name right of all blocks opens one. -/
theorem goes_name_opens (hindent : p.indent < p.column) :
    Goes p [.blockMappingStart, .key, .scalar name .plain, .value]
      { p.after (name ++ [':']) rest with indent := p.column, indents := p.indent :: p.indents } := by
  have hopens := goes_name hp hflow hallowed hname hdash hshort hrest (Int.le_of_lt hindent)
    (closings_of_le (Int.le_of_lt hindent) p.indents)
  simpa [Place.named, Place.keyed, Place.keyKinds, Place.opens, Place.after, hflow, hindent,
    Nat.add_assoc] using hopens

/-- A name in the column of the innermost block goes on with it. -/
theorem goes_name_stays (hindent : p.indent = p.column) :
    Goes p [.key, .scalar name .plain, .value] (p.after (name ++ [':']) rest) := by
  have hstays := goes_name hp hflow hallowed hname hdash hshort hrest (Int.le_of_eq hindent)
    (closings_of_le (Int.le_of_eq hindent) p.indents)
  simpa [Place.named, Place.keyed, Place.keyKinds, Place.opens, Place.after, hflow, hindent,
    Nat.add_assoc] using hstays

/-- A name in the column of the block around the innermost one closes the innermost one. -/
theorem goes_name_closes (hindent : p.column < p.indent) {more : List Int}
    (hmore : p.indents = (p.column : Int) :: more) :
    Goes p [.blockEnd, .key, .scalar name .plain, .value]
      { p.after (name ++ [':']) rest with indent := p.column, indents := more } := by
  have hclosings : closings p.column p.indent p.indents = (1, (p.column : Int), more) := by
    rw [hmore, closings, if_pos hindent, closings_of_le (Int.le_refl _)]
  have hcloses := goes_name hp hflow hallowed hname hdash hshort hrest (Int.le_refl _) hclosings
  simpa [Place.named, Place.keyed, Place.keyKinds, Place.opens, Place.after, hflow,
    Nat.add_assoc] using hcloses

end Name

/-- **A quoted text is a key of a flow mapping.** -/
theorem goes_quoted_key {p : Place} {text rest : List Char} (hp : p.rest = quoted text ++ ':' :: rest)
    (hflow : p.flow = true) (hallowed : p.allowed = true) (htext : ∀ c ∈ text, isPrintable c = true)
    (hshort : text.length ≤ 100) :
    Goes p [.key, .scalar text .doubleQuoted, .value] (p.after (quoted text ++ [':']) rest) := by
  let m := p.after (quoted text) (':' :: rest)
  have hhead : p.rest = '"' :: (text.flatMap quotedChar ++ '"' :: ':' :: rest) := by
    simp [hp, quoted]
  have hstart : IsStart p.rest := hp ▸ isStart_quoted text _
  have hlength : 0 < (quoted text).length := Nat.succ_pos _
  have hkinds : [.key, .scalar text .doubleQuoted, .value] =
      [] ++ m.keyKinds p.column (.scalar text .doubleQuoted) := by
    simp [Place.keyKinds, Place.opens, m, Place.after, hflow]
  have hplace : p.after (quoted text ++ [':']) rest = m.keyed p.column rest := by
    simp [Place.keyed, Place.opens, m, Place.after, hflow, Nat.add_assoc]
  rw [hkinds, hplace]
  refine goes_of_key rfl (by simp [m, Place.after, hp, hlength]) (.inl hflow) (.inl hflow)
    fun mark released hmark => ?_
  let key : SimpleKey := { required := false, number := released, mark }
  refine ⟨key, [], ⟨.scalar text .doubleQuoted, mark, mark.forward (quoted text)⟩,
    mark.forward (quoted text), rfl, rfl, by simp [hmark, m, Place.after], rfl, hmark, ⟨rfl, ?_⟩, ?_⟩
  · have hbytes := byteCount_le (quoted text)
    have hquoted := length_quoted_le text
    simp only [Mark.forward_index, key]
    omega
  · have hcursor : (p.scanner mark released).cursor = ⟨quoted text ++ ':' :: rest, mark⟩ := by
      rw [Place.cursor_scanner, hp]
    have hmarker : (p.scanner mark released).cursor.atDocumentMarker = false := by
      rw [hcursor]
      exact Cursor.not_atDocumentMarker_of_head (by decide) _ _
    have hsave : saveSimpleKey (p.scanner mark released) =
        .ok { p.scanner mark released with flowKeys := [some key] } := by
      simp [saveSimpleKey, dropSimpleKey, simpleKey, setSimpleKey, Place.scanner, hallowed, hflow,
        inFlow, key, bind, Except.bind]
    rw [fetch_scanner hhead hstart (.inl hflow) hmark, fetchAt_quote hmarker, fetchKeyLike, hsave]
    simp only [bind, Except.bind]
    rw [hcursor, scanQuoted_quoted htext]
    simp [push, Place.holding, setSimpleKey, Place.scanner, hflow, m, Place.after]

/-! ## 9. The end of a text -/

/-- The places of a text that nothing has been read of. -/
def Place.start (text : List Char) : Place :=
  { rest := text, column := 0, allowed := true }

/-- At the end of a text all blocks close. -/
theorem run_of_end {q : Place} (hq : q.rest = []) (hflow : q.flow = false) {count : Nat}
    {indent : Int} {indents : List Int}
    (hcloses : closings (-1) q.indent q.indents = (count, indent, indents)) (mark : Mark)
    (released bound : Nat) :
    ∃ tokens, tokens.map Token.kind = List.replicate count .blockEnd ++ [.streamEnd] ∧
      run (bound + 1) (q.scanner mark released) = (tokens, none) := by
  -- blocks close at the column of the end, and the others at the end itself
  obtain ⟨first, indent', indents', hfirst⟩ :
      ∃ first indent' indents', closings mark.column q.indent q.indents = (first, indent', indents') :=
    ⟨_, _, _, rfl⟩
  obtain ⟨second, indent'', indents'', hsecond⟩ :
      ∃ second indent'' indents'', closings (-1) indent' indents' = (second, indent'', indents'') :=
    ⟨_, _, _, rfl⟩
  have hsplit := closings_closings (show (-1 : Int) ≤ mark.column by omega) q.indent q.indents
  rw [hcloses, hfirst] at hsplit
  simp only [hsecond, Prod.mk.injEq] at hsplit
  obtain ⟨rfl, rfl, rfl⟩ := hsplit
  let last : Mark := if mark.column = 0 then mark else { mark with column := 0, line := mark.line + 1 }
  let tokens := List.replicate first (Token.mk .blockEnd mark mark) ++
    List.replicate second (Token.mk .blockEnd last last) ++ [Token.mk .streamEnd last last]
  have hkinds : tokens.map Token.kind = List.replicate (first + second) .blockEnd ++ [.streamEnd] := by
    simp only [tokens, List.map_append, List.map_replicate, List.map_cons, List.map_nil,
      List.replicate_append_replicate]
  let s : Scanner :=
    { cursor := ⟨[], mark⟩, released, keyAllowed := q.allowed, indent := q.indent
      indents := q.indents }
  let ended : Scanner :=
    { cursor := ⟨[], last⟩, queue := tokens, released, keyAllowed := false, indent, indents
      finished := true }
  have hscanner : q.scanner mark released = s := by
    simp [Place.scanner, s, hq, hflow]
  have hfetch : s.fetch = .ok ended := by
    have hcolumn : s.unrollIndent s.column = { s with
        indent := indent', indents := indents'
        queue := List.replicate first ⟨.blockEnd, mark, mark⟩ } :=
      closeBlocks_eq hfirst
    have hend : unrollIndent { s with
        cursor := ⟨[], last⟩, indent := indent', indents := indents'
        queue := List.replicate first ⟨.blockEnd, mark, mark⟩ } (-1) = { s with
          cursor := ⟨[], last⟩, indent, indents
          queue := List.replicate first ⟨.blockEnd, mark, mark⟩ ++
            List.replicate second ⟨.blockEnd, last, last⟩ } :=
      closeBlocks_eq hsecond
    have hskip : skipToToken (s.cursor.rest.length + 1) s = s :=
      skipToToken_of_isStart isStart_nil _
    have hstale : s.dropStaleKeys = .ok s := rfl
    have hlast : (if s.cursor.mark.column = 0 then s.cursor.mark
        else { s.cursor.mark with column := 0, line := s.cursor.mark.line + 1 }) = last := rfl
    have hrest : s.cursor.rest = [] := rfl
    rw [fetch, hskip, hstale]
    simp only [bind, Except.bind, hcolumn, hrest, fetchEnd, hlast]
    rw [hend]
    rfl
  have hstale : ended.dropStaleKeys = .ok ended := rfl
  have hready : ∀ n < tokens.length, { ended with released := ended.released + n }.headIsOpen = false :=
    fun _ _ => rfl
  have hrelease := release_all hready
  refine ⟨tokens, hkinds, ?_⟩
  rw [hscanner, run, hfetch, show (Except.ok ended >>= dropStaleKeys) = .ok ended from hstale]
  simp only [show ended.queue = tokens from rfl, hrelease]
  rfl

/-- **A way to the end of a text** is all that scanning answers, but for the blocks that are still
open and the end itself. -/
theorem scan_of_goes {text : List Char} (htext : ∀ c ∈ text, isAllowed c = true)
    {kinds : List TokenKind} {q : Place} (hgoes : Goes (.start text) kinds q) (hq : q.rest = [])
    (hflow : q.flow = false) {count : Nat} {indent : Int} {indents : List Int}
    (hcloses : closings (-1) q.indent q.indents = (count, indent, indents)) :
    ∃ tokens, tokens.map Token.kind = kinds ++ List.replicate count .blockEnd ++ [.streamEnd] ∧
      Token.scan text = (tokens, none) := by
  obtain ⟨tokens, mark, released, steps, hkinds, -, hsteps, hrun⟩ := hgoes {} 0 rfl
  have hbound : steps ≤ text.length := Nat.le_of_add_right_le hsteps
  obtain ⟨ends, hends, hend⟩ := run_of_end hq hflow hcloses mark released (text.length + 1 - steps)
  have hall := hrun (text.length + 1 - steps)
  rw [hend, show steps + (text.length + 1 - steps + 1) = text.length + 2 by omega] at hall
  have hallowed : checkCharacters text = .ok () := by
    rw [checkCharacters, List.dropWhile_eq_nil_iff.mpr htext]
  refine ⟨tokens ++ ends, by rw [List.map_append, hkinds, hends, List.append_assoc], ?_⟩
  rw [Token.scan, hallowed]
  exact hall

end Relay.Yaml.Scanner
