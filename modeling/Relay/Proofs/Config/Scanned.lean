import Relay.Proofs.Config.Written
import Relay.Proofs.Json.Scalars
import Relay.Proofs.Yaml.Scanning

/-!
# Settings are scanned

The way of a scanner through a file of settings: over the parameters of a line (`goes_members`),
the value of a setting (`goes_value`), the lines of a section (`goes_section`) and the sections
(`goes_file`). What is left open at the end are the blocks of the last section and of the file, so
that the file is a document of the settings it spells (`ofText_of_spells`).
-/

namespace Relay.Config

open Yaml (IsGap IsWord Layout Node TokenKind columnAfter columnAfter_spaces isGap_spaces)
open Yaml.Scanner (Goes IsStart Place)

/-! ## 1. Values are scanned -/

theorem isNameChar_of_isDigit {c : Char} (h : c.isDigit = true) : Yaml.isNameChar c = true := by
  have halphanum : c.isAlphanum = true := Bool.or_eq_true_iff.mpr (.inr h)
  rw [Yaml.isNameChar, halphanum]
  rfl

theorem isWord_boolText (b : Bool) : IsWord (boolText b) ∧ boolText b ≠ ['-'] := by
  cases b <;> exact ⟨⟨List.cons_ne_nil _ _, List.all_eq_true.mp rfl⟩, by decide⟩

theorem isWord_integerText (n : Int) : IsWord (Json.integerText n) ∧ Json.integerText n ≠ ['-'] := by
  have hne : Decimal.digitsOf n.natAbs ≠ [] := Nat.toDigits_ne_nil
  have hnames : ∀ c ∈ Decimal.digitsOf n.natAbs, Yaml.isNameChar c = true := fun c hc =>
    isNameChar_of_isDigit (Json.isDigit_of_mem_digitsOf hc)
  unfold Json.integerText
  split
  · exact ⟨⟨List.cons_ne_nil _ _, List.forall_mem_cons.mpr ⟨by decide, hnames⟩⟩,
      fun h => hne (List.cons.inj h).2⟩
  · refine ⟨⟨hne, hnames⟩, fun h => ?_⟩
    have hdash := Json.isDigit_of_mem_digitsOf (h ▸ List.mem_singleton_self '-')
    cases hdash

theorem isStart_param (param : Param) (rest : List Char) : IsStart (param.text ++ rest) := by
  cases param with
  | null => exact Yaml.Scanner.isStart_word ⟨List.cons_ne_nil _ _, List.all_eq_true.mp rfl⟩ rest
  | bool b => exact Yaml.Scanner.isStart_word (isWord_boolText b).1 rest
  | integer n => exact Yaml.Scanner.isStart_word (isWord_integerText n).1 rest
  | string text => exact Yaml.Scanner.isStart_quoted text.toList rest

/-- A parameter is a scalar in its line. -/
theorem goes_param {param : Param} (hparam : param.IsAllowed) {p : Place} {spaces : Nat} {c : Char}
    {more : List Char} (hp : p.rest = param.text ++ (List.replicate spaces ' ' ++ c :: more))
    (hc : c = ',' ∨ c = '\x7d') (hflow : p.flow = true) (hallowed : p.allowed = false)
    (hcolumn : 0 < p.column) :
    Goes p [.scalar param.content param.style]
      (p.after param.text (List.replicate spaces ' ' ++ c :: more)) := by
  have hword {word : List Char} (hword : IsWord word ∧ word ≠ ['-'])
      (hp : p.rest = word ++ (List.replicate spaces ' ' ++ c :: more)) :
      Goes p [.scalar word .plain] (p.after word (List.replicate spaces ' ' ++ c :: more)) :=
    Yaml.Scanner.goes_word_part hallowed (.inl hflow) hp hflow hcolumn hword.1 hword.2 hc
  cases param with
  | null => exact hword ⟨⟨List.cons_ne_nil _ _, List.all_eq_true.mp rfl⟩, by decide⟩ hp
  | bool b => exact hword (isWord_boolText b) hp
  | integer n => exact hword (isWord_integerText n) hp
  | string text => exact Yaml.Scanner.goes_quoted hallowed (.inl hflow) hp hparam

/-- Behind a parameter stands a comma or the brace at the end. -/
theorem SpellsMembers.exists_mark {members : List (String × Param)} {text : List Char}
    (h : SpellsMembers false members text) :
    ∃ spaces c more, text = List.replicate spaces ' ' ++ c :: more ∧ (c = ',' ∨ c = '\x7d') := by
  cases h with
  | nil spaces => exact ⟨spaces, '\x7d', [], rfl, .inr rfl⟩
  | cons before => exact ⟨before, ',', _, rfl, .inl rfl⟩

/-- The way to the next key leads over a comma, unless the key is the first one. -/
theorem goes_to_key {first : Bool} {before after : Nat} {rest : List Char} {p : Place}
    (hp : p.rest = List.replicate before ' ' ++
      ((if first then [] else [',']) ++ (List.replicate after ' ' ++ rest)))
    (hrest : IsStart rest) (hflow : p.flow = true) (hallowed : p.allowed = first) :
    ∃ column, Goes p (Layout.flow.comma first) { p with rest, column, allowed := true } := by
  cases first with
  | true =>
    have hjoin : p.rest = List.replicate (before + after) ' ' ++ rest := by
      rw [hp, ← List.replicate_append_replicate, List.append_assoc]
      rfl
    have hgap := Yaml.Scanner.goes_gap hjoin (isGap_spaces _) hrest
    exact ⟨_, by simpa [Layout.comma, Place.past, hallowed] using hgap⟩
  | false =>
    let comma := p.past (List.replicate before ' ') (',' :: (List.replicate after ' ' ++ rest))
    have hgap : Goes p [] comma := Yaml.Scanner.goes_gap hp (isGap_spaces before)
      (Yaml.Scanner.isStart_mark (.inr (.inl rfl)) _)
    have hcomma : Goes comma [.flowEntry] (comma.next (List.replicate after ' ' ++ rest)) :=
      Yaml.Scanner.goes_comma rfl hflow
    have hafter : Goes (comma.next (List.replicate after ' ' ++ rest)) []
        ((comma.next (List.replicate after ' ' ++ rest)).past (List.replicate after ' ') rest) :=
      Yaml.Scanner.goes_gap rfl (isGap_spaces after) hrest
    exact ⟨_, by simpa [Layout.comma, Place.past, Place.next, comma] using
      (hgap.trans hcomma).trans hafter⟩

/-- A key and its parameter, up to the mark behind them. -/
theorem goes_member {name : String} {param : Param} (hname : IsPrintable name)
    (hshort : name.length ≤ 100) (hparam : param.IsAllowed) {between spaces : Nat} {c : Char}
    {more : List Char} (hc : c = ',' ∨ c = '\x7d') {p : Place}
    (hp : p.rest = Yaml.quoted name.toList ++ ':' :: (List.replicate between ' ' ++
      (param.text ++ (List.replicate spaces ' ' ++ c :: more))))
    (hflow : p.flow = true) (hallowed : p.allowed = true) :
    ∃ column, Goes p (memberEntry (name, param)).pair
      { p with rest := List.replicate spaces ' ' ++ c :: more, column, allowed := false } := by
  let text := param.text ++ (List.replicate spaces ' ' ++ c :: more)
  let colon := p.after (Yaml.quoted name.toList ++ [':']) (List.replicate between ' ' ++ text)
  have hkey : Goes p [.key, .scalar name.toList .doubleQuoted, .value] colon :=
    Yaml.Scanner.goes_quoted_key hp hflow hallowed hname (by rwa [String.length_toList])
  have hgap : Goes colon [] (colon.past (List.replicate between ' ') text) :=
    Yaml.Scanner.goes_gap rfl (isGap_spaces between) (isStart_param param _)
  have hvalue : Goes (colon.past (List.replicate between ' ') text)
      [.scalar param.content param.style]
      ((colon.past (List.replicate between ' ') text).after param.text
        (List.replicate spaces ' ' ++ c :: more)) := by
    exact goes_param hparam rfl hc hflow (by simp [Place.past, colon, Place.after])
      (by simp only [Place.past, colon, Place.after, List.length_append, columnAfter_spaces,
            List.length_singleton]; omega)
  exact ⟨_, by simpa [Place.after, Place.past, colon, memberEntry, Yaml.Entry.pair] using
    (hkey.trans hgap).trans hvalue⟩

/-- **The parameters are a mapping in their line.** -/
theorem goes_members {first : Bool} {members : List (String × Param)} {text : List Char}
    (htext : SpellsMembers first members text)
    (hmembers : ∀ member ∈ members, IsPrintable member.1 ∧ member.1.length ≤ 100 ∧ member.2.IsAllowed)
    {p : Place} {rest : List Char} (hp : p.rest = text ++ rest) (hflow : p.flow = true)
    (hallowed : p.allowed = first) :
    ∃ column, Goes p (Layout.flow.kindsFrom first (members.map memberEntry))
      { p with rest, column, flow := false, allowed := false } := by
  induction htext generalizing p with
  | @nil first spaces =>
    rw [List.append_assoc] at hp
    have hgap := Yaml.Scanner.goes_gap hp (isGap_spaces spaces)
      (Yaml.Scanner.isStart_mark (.inr (.inr (.inl rfl))) rest)
    have hend : Goes (p.past (List.replicate spaces ' ') ('\x7d' :: rest)) [.flowMappingEnd]
        ((p.past (List.replicate spaces ' ') ('\x7d' :: rest)).outside rest) :=
      Yaml.Scanner.goes_flow_end rfl hflow
    exact ⟨_, hgap.trans hend⟩
  | @cons first name param members text before after between hmore ih =>
    obtain ⟨⟨hname, hshort, hparam⟩, hmembers⟩ := List.forall_mem_cons.mp hmembers
    obtain ⟨spaces, c, more, rfl, hc⟩ := hmore.exists_mark
    have hp : p.rest = List.replicate before ' ' ++ ((if first then [] else [',']) ++
        (List.replicate after ' ' ++ (Yaml.quoted name.toList ++ ':' :: (List.replicate between ' ' ++
          (param.text ++ (List.replicate spaces ' ' ++ c :: (more ++ rest))))))) := by
      simpa using hp
    obtain ⟨column, hkey⟩ := goes_to_key hp (Yaml.Scanner.isStart_quoted _ _) hflow hallowed
    obtain ⟨column', hmember⟩ := goes_member hname hshort hparam hc
      (p := { p with rest := _, column, allowed := true }) rfl hflow rfl
    obtain ⟨column'', hrest⟩ := ih hmembers (p := { p with
      rest := List.replicate spaces ' ' ++ c :: (more ++ rest), column := column', allowed := false })
      (by simp) hflow rfl
    refine ⟨column'', ?_⟩
    simpa [Layout.kindsFrom] using (hkey.trans hmember).trans hrest

/-! ## 2. Files are scanned -/

/-- What is left of a text leads out of the indentation: it is at its end behind a gap, or goes on
in another line, and there not deeper than `indent`. -/
def Leaves (indent : Nat) (text : List Char) : Prop :=
  ∃ gap rest, text = gap ++ rest ∧ IsGap gap ∧ IsStart rest ∧
    (rest = [] ∨ ∀ column, columnAfter column gap ≤ indent)

theorem isWord_name (key : Key) : IsWord key.name.toList ∧ '-' ∉ key.name.toList ∧
    key.name.toList.length ≤ 256 := by
  cases key <;> exact ⟨⟨List.cons_ne_nil _ _, List.all_eq_true.mp rfl⟩, by decide, by decide⟩

theorem isWord_home (home : Section) : IsWord home.name.toList ∧ '-' ∉ home.name.toList ∧
    home.name.toList.length ≤ 256 := by
  cases home <;> exact ⟨⟨List.cons_ne_nil _ _, List.all_eq_true.mp rfl⟩, by decide, by decide⟩

theorem StartsLine.isGap {indent : Nat} {gap : List Char} (h : StartsLine indent gap) : IsGap gap := by
  obtain ⟨front, hfront, rfl⟩ := h
  intro c hc
  rcases List.mem_append.mp hc with hc | hc
  · exact hfront c hc
  · exact (List.mem_cons.mp hc).elim .inr (isGap_spaces indent c)

theorem StartsLine.columnAfter_eq {indent : Nat} {gap : List Char} (h : StartsLine indent gap)
    (column : Nat) : columnAfter column gap = indent := by
  obtain ⟨front, -, rfl⟩ := h
  exact Yaml.columnAfter_newline column front indent

theorem StartsLine.newline_mem {indent : Nat} {gap : List Char} (h : StartsLine indent gap) :
    '\n' ∈ gap := by
  obtain ⟨front, -, rfl⟩ := h
  exact List.mem_append_right _ List.mem_cons_self

/-- A line lets a key start in its column. -/
theorem goes_line {indent : Nat} {gap rest : List Char} {p : Place} (hgap : StartsLine indent gap)
    (hp : p.rest = gap ++ rest) (hrest : IsStart rest) (hflow : p.flow = false) :
    Goes p [] { p with rest, column := indent, allowed := true } := by
  have hskip := Yaml.Scanner.goes_gap hp hgap.isGap hrest
  simpa [Place.past, hgap.columnAfter_eq, hgap.newline_mem, hflow] using hskip

/-- Lines that are not deeper lead out of the indentation. -/
theorem SpellsSettings.leaves {indent : Nat} {settings : List Setting} {text rest : List Char}
    (h : SpellsSettings indent settings text) (hrest : Leaves indent rest) :
    Leaves indent (text ++ rest) := by
  cases h with
  | nil => exact hrest
  | @cons setting settings gap text more spaces hgap htext hmore =>
    refine ⟨gap, _, List.append_assoc _ _ _, hgap.isGap, ?_, .inr fun column => ?_⟩
    · rw [List.append_assoc]
      exact Yaml.Scanner.isStart_word (isWord_name setting.key).1 _
    · exact Nat.le_of_eq (hgap.columnAfter_eq column)

theorem SpellsBlocks.leaves {top indent : Nat} {blocks : List Block} {text : List Char}
    (h : SpellsBlocks top blocks text) (hindent : top ≤ indent) : Leaves indent text := by
  cases h with
  | nil htail =>
    exact ⟨text, [], (List.append_nil text).symm, htail, Yaml.Scanner.isStart_nil, .inl rfl⟩
  | @cons block blocks gap inside more inner hgap hinner hinside hmore =>
    refine ⟨gap, _, rfl, hgap.isGap, Yaml.Scanner.isStart_word (isWord_home block.home).1 _,
      .inr fun column => ?_⟩
    rw [hgap.columnAfter_eq]
    exact hindent

/-- **A value is scanned**, with what is behind it. -/
theorem goes_value {key : Key} {value : key.Value} {text rest : List Char}
    (hallows : key.Allows value) (htext : key.Spells value text) {indent : Nat} {p : Place}
    (hp : p.rest = text ++ rest) (hrest : Leaves indent rest) (hflow : p.flow = false)
    (hallowed : p.allowed = false) (hindent : p.indent = indent) (hcolumn : indent < p.column) :
    ∃ column, Goes p (key.kinds value) { p with rest, column, allowed := false } := by
  have hdeep : p.flow = true ∨ p.indent ≤ p.column := .inr (by omega)
  have hpositive : 0 < p.column := by omega
  have hquoted {value : String} (hvalue : IsPrintable value)
      (htext : text = Yaml.quoted value.toList) : ∃ column,
        Goes p [.scalar value.toList .doubleQuoted] { p with rest, column, allowed := false } :=
    ⟨_, Yaml.Scanner.goes_quoted hallowed hdeep (htext ▸ hp) hvalue⟩
  cases key with
  | baseUrl => exact hquoted hallows htext
  | tokenEnv => exact hquoted hallows htext
  | level => exact hquoted hallows htext
  | model => exact hquoted hallows htext
  | stream =>
    obtain ⟨gap, behind, rfl, hgap, hbehind, hleaves⟩ := hrest
    obtain ⟨hword, hdash⟩ := isWord_boolText value
    have hbelow : behind = [] ∨ ∀ column, (columnAfter column gap : Int) ≤ p.indent :=
      hleaves.imp_right fun h column => by have := h column; omega
    exact ⟨_, Yaml.Scanner.goes_word_leaves hallowed hdeep (htext ▸ hp) hpositive hword hdash hgap
      hbehind hflow hbelow⟩
  | parameters =>
    obtain ⟨inside, hinside, rfl⟩ := htext
    have hopen := Yaml.Scanner.goes_flow_start hp hflow hallowed (by omega)
    obtain ⟨column, hmembers⟩ :=
      goes_members hinside hallows.2 (p := p.inside (inside ++ rest)) rfl rfl rfl
    refine ⟨column, ?_⟩
    simpa [Key.kinds, Layout.kinds, Layout.startKind, Place.inside, hflow] using hopen.trans hmembers

theorem isStart_value {key : Key} {value : key.Value} {text : List Char}
    (htext : key.Spells value text) (rest : List Char) : IsStart (text ++ rest) := by
  cases key with
  | baseUrl => exact htext ▸ Yaml.Scanner.isStart_quoted _ _
  | tokenEnv => exact htext ▸ Yaml.Scanner.isStart_quoted _ _
  | level => exact htext ▸ Yaml.Scanner.isStart_quoted _ _
  | model => exact htext ▸ Yaml.Scanner.isStart_quoted _ _
  | stream => exact htext ▸ Yaml.Scanner.isStart_word (isWord_boolText value).1 _
  | parameters =>
    obtain ⟨inside, -, rfl⟩ := htext
    exact Yaml.Scanner.isStart_mark (.inl rfl) _

/-- A value behind the spaces that follow its key. -/
theorem goes_behind_key {setting : Setting} {text rest : List Char} {spaces : Nat}
    (hallows : setting.key.Allows setting.value) (htext : setting.key.Spells setting.value text)
    {indent : Nat} (hrest : Leaves indent rest) {p : Place}
    (hp : p.rest = List.replicate (spaces + 1) ' ' ++ (text ++ rest)) (hflow : p.flow = false)
    (hallowed : p.allowed = false) (hindent : p.indent = indent) (hcolumn : indent < p.column) :
    ∃ column, Goes p setting.entry.kinds { p with rest, column, allowed := false } := by
  have hgap := Yaml.Scanner.goes_gap hp (isGap_spaces (spaces + 1)) (isStart_value htext rest)
  obtain ⟨column, hvalue⟩ := goes_value hallows htext (p := p.past (List.replicate (spaces + 1) ' ')
    (text ++ rest)) rfl hrest hflow (by simp [Place.past, hallowed]) hindent
    (by simp only [Place.past, columnAfter_spaces]; omega)
  exact ⟨column, hgap.trans hvalue⟩

section Line

variable {setting : Setting} {gap text rest : List Char} {spaces indent : Nat} {p : Place}
  (hallows : setting.key.Allows setting.value) (hgap : StartsLine indent gap)
  (htext : setting.key.Spells setting.value text) (hrest : Leaves indent rest)
  (hp : p.rest = gap ++ (setting.key.name.toList ++ ':' :: (List.replicate (spaces + 1) ' ' ++
    (text ++ rest))))
  (hflow : p.flow = false)

include hallows hgap htext hrest hp hflow

/-- The first line of a section opens a block. -/
theorem goes_first_line (hindent : p.indent < indent) :
    ∃ column, Goes p (.blockMappingStart :: setting.entry.pair)
      { p with
        rest, column, allowed := false, indent := indent, indents := p.indent :: p.indents } := by
  obtain ⟨hname, hdash, hshort⟩ := isWord_name setting.key
  let behind := List.replicate (spaces + 1) ' ' ++ (text ++ rest)
  let line : Place :=
    { p with rest := setting.key.name.toList ++ ':' :: behind, column := indent, allowed := true }
  let inside : Place := { line.after (setting.key.name.toList ++ [':']) behind with
    indent := indent, indents := p.indent :: p.indents }
  have hline : Goes p [] line := goes_line hgap hp (Yaml.Scanner.isStart_word hname _) hflow
  have hkey : Goes line
      [.blockMappingStart, .key, .scalar setting.key.name.toList .plain, .value] inside :=
    Yaml.Scanner.goes_name_opens rfl hflow rfl hname hdash hshort rfl hindent
  obtain ⟨column, hvalue⟩ := goes_behind_key hallows htext hrest (p := inside) rfl hflow rfl rfl
    (by simp [Place.after, inside, line])
  exact ⟨column, (hline.trans hkey).trans hvalue⟩

/-- Another line of a section goes on with its block. -/
theorem goes_later_line (hindent : p.indent = indent) :
    ∃ column, Goes p setting.entry.pair { p with rest, column, allowed := false } := by
  obtain ⟨hname, hdash, hshort⟩ := isWord_name setting.key
  let behind := List.replicate (spaces + 1) ' ' ++ (text ++ rest)
  let line : Place :=
    { p with rest := setting.key.name.toList ++ ':' :: behind, column := indent, allowed := true }
  let inside := line.after (setting.key.name.toList ++ [':']) behind
  have hline : Goes p [] line := goes_line hgap hp (Yaml.Scanner.isStart_word hname _) hflow
  have hkey : Goes line [.key, .scalar setting.key.name.toList .plain, .value] inside :=
    Yaml.Scanner.goes_name_stays rfl hflow rfl hname hdash hshort rfl hindent
  obtain ⟨column, hvalue⟩ := goes_behind_key hallows htext hrest (p := inside) rfl hflow rfl hindent
    (by simp [Place.after, inside, line])
  exact ⟨column, (hline.trans hkey).trans hvalue⟩

end Line

/-- The lines of a section behind its first one. -/
theorem goes_settings {indent : Nat} {settings : List Setting} {text rest : List Char}
    (htext : SpellsSettings indent settings text)
    (hallows : ∀ setting ∈ settings, setting.key.Allows setting.value) (hrest : Leaves indent rest)
    {p : Place} (hp : p.rest = text ++ rest) (hflow : p.flow = false) (hindent : p.indent = indent) :
    ∃ column allowed, Goes p (settings.flatMap fun setting => setting.entry.pair)
      { p with rest, column, allowed } := by
  induction htext generalizing p with
  | nil =>
    obtain rfl : p.rest = rest := hp
    exact ⟨p.column, p.allowed, .refl p⟩
  | @cons setting settings gap text more spaces hgap htext hmore ih =>
    obtain ⟨hsetting, hsettings⟩ := List.forall_mem_cons.mp hallows
    have hp : p.rest = gap ++ (setting.key.name.toList ++ ':' :: (List.replicate (spaces + 1) ' ' ++
        (text ++ (more ++ rest)))) := by simpa using hp
    obtain ⟨column, hline⟩ :=
      goes_later_line hsetting hgap htext (hmore.leaves hrest) hp hflow hindent
    obtain ⟨column', allowed, hlines⟩ := ih hsettings
      (p := { p with rest := more ++ rest, column, allowed := false }) rfl hflow hindent
    exact ⟨column', allowed, hline.trans hlines⟩

/-- **The lines of a section are a block mapping**, but for the end of the block. -/
theorem goes_section {indent : Nat} {settings : List Setting} {text rest : List Char}
    (htext : SpellsSettings indent settings text) (hsome : settings ≠ [])
    (hallows : ∀ setting ∈ settings, setting.key.Allows setting.value) (hrest : Leaves indent rest)
    {p : Place} (hp : p.rest = text ++ rest) (hflow : p.flow = false) (hindent : p.indent < indent) :
    ∃ column allowed, Goes p
      (.blockMappingStart :: settings.flatMap fun setting => setting.entry.pair)
      { p with rest, column, allowed, indent := indent, indents := p.indent :: p.indents } := by
  cases htext with
  | nil => exact absurd rfl hsome
  | @cons setting settings gap text more spaces hgap htext hmore =>
    obtain ⟨hsetting, hsettings⟩ := List.forall_mem_cons.mp hallows
    have hp : p.rest = gap ++ (setting.key.name.toList ++ ':' :: (List.replicate (spaces + 1) ' ' ++
        (text ++ (more ++ rest)))) := by simpa using hp
    obtain ⟨column, hline⟩ :=
      goes_first_line hsetting hgap htext (hmore.leaves hrest) hp hflow hindent
    obtain ⟨column', allowed, hlines⟩ := goes_settings hmore hsettings hrest (p := { p with
      rest := more ++ rest, column, allowed := false, indent := indent
      indents := p.indent :: p.indents }) rfl hflow rfl
    exact ⟨column', allowed, hline.trans hlines⟩

/-- Behind the lines of a section: its block is open, and around it that of the sections. -/
structure InSection (top : Nat) (p : Place) : Prop where
  flow : p.flow = false
  deep : (top : Int) < p.indent
  indents : p.indents = [(top : Int), -1]

/-- What a section is made of behind its name, but for the end of its block. -/
theorem goes_behind_home {top indent : Nat} {block : Block} {inside more : List Char}
    (hinside : SpellsSettings indent block.settings inside) (hindent : top < indent)
    (hsome : block.settings ≠ [])
    (hallows : ∀ setting ∈ block.settings, setting.key.Allows setting.value)
    (hmore : Leaves indent more) {p : Place} (hp : p.rest = inside ++ more) (hflow : p.flow = false)
    (htop : p.indent = top) (hindents : p.indents = [-1]) :
    ∃ kinds q, Goes p kinds q ∧ kinds ++ [.blockEnd] = block.entry.kinds ∧ q.rest = more ∧
      InSection top q := by
  obtain ⟨column, allowed, hlines⟩ := goes_section hinside hsome hallows hmore hp hflow (by omega)
  refine ⟨_, _, hlines, ?_, rfl, hflow, Int.ofNat_lt.mpr hindent, by rw [htop, hindents]⟩
  rw [Block.entry, Layout.kinds, Layout.kindsFrom_block, List.flatMap_map]
  rfl

theorem SpellsSettings.endsWord {indent : Nat} {settings : List Setting} {text : List Char}
    (h : SpellsSettings indent settings text) (hsome : settings ≠ []) (rest : List Char) :
    Yaml.endsWord (text ++ rest) = true := by
  cases h with
  | nil => exact absurd rfl hsome
  | @cons setting settings gap text more spaces hgap htext hmore =>
    obtain ⟨c, gap, rfl⟩ := List.exists_cons_of_ne_nil (List.ne_nil_of_mem hgap.newline_mem)
    obtain rfl | rfl := hgap.isGap c List.mem_cons_self <;> rfl

/-- Blocks are admitted with settings of their own, at values that can be written. -/
def Block.IsAllowed (block : Block) : Prop :=
  block.settings ≠ [] ∧ ∀ setting ∈ block.settings, setting.key.Allows setting.value

/-- **The sections behind the first one**, each of which ends the block of the one before. -/
theorem goes_blocks {top : Nat} {blocks : List Block} {text : List Char}
    (htext : SpellsBlocks top blocks text) (hblocks : ∀ block ∈ blocks, block.IsAllowed) {p : Place}
    (hp : p.rest = text) (hplace : InSection top p) :
    ∃ kinds q, Goes p kinds q ∧
      kinds ++ [.blockEnd] = .blockEnd :: blocks.flatMap (fun block => block.entry.pair) ∧
      q.rest = [] ∧ InSection top q := by
  -- the scanner is inside the block of the section before when a section starts
  induction htext generalizing p with
  | @nil tail htail =>
    have hgap := Yaml.Scanner.goes_gap (hp.trans (List.append_nil tail).symm) htail
      Yaml.Scanner.isStart_nil
    exact ⟨_, _, hgap, rfl, rfl, hplace.flow, hplace.deep, hplace.indents⟩
  | @cons block blocks gap inside more indent hgap hindent hinside hmore ih =>
    obtain ⟨⟨hsome, hallows⟩, hblocks⟩ := List.forall_mem_cons.mp hblocks
    obtain ⟨hname, hdash, hshort⟩ := isWord_home block.home
    let line : Place := { p with
      rest := block.home.name.toList ++ ':' :: (inside ++ more), column := top, allowed := true }
    have hline : Goes p [] line :=
      goes_line hgap hp (Yaml.Scanner.isStart_word hname _) hplace.flow
    have hkey := Yaml.Scanner.goes_name_closes (p := line) rfl hplace.flow rfl hname hdash hshort
      (hinside.endsWord hsome more) hplace.deep hplace.indents
    obtain ⟨kinds, q, hsection, hkinds, hq, hinner⟩ := goes_behind_home hinside hindent hsome hallows
      (hmore.leaves (Nat.le_of_lt hindent)) (p := { line.after _ (inside ++ more) with
        indent := top, indents := [-1] }) rfl hplace.flow rfl rfl
    obtain ⟨kinds', q', hlater, hkinds', hq', hinner'⟩ := ih hblocks hq hinner
    refine ⟨_, q', ((hline.trans hkey).trans hsection).trans hlater, ?_, hq', hinner'⟩
    rw [List.append_assoc, hkinds', List.flatMap_cons, Yaml.Entry.pair, ← hkinds]
    simp [Block.entry]

/-- The first section, as if a line had ended in front of it. -/
theorem goes_first_block {top indent : Nat} {block : Block} {gap inside more text : List Char}
    (hgap : StartsLine top gap) (hinside : SpellsSettings indent block.settings inside)
    (hindent : top < indent) (hblock : block.IsAllowed) (hmore : Leaves indent more)
    (htext : '\n' :: text = gap ++ (block.home.name.toList ++ ':' :: (inside ++ more))) :
    ∃ kinds q, Goes (.start text) kinds q ∧
      kinds ++ [.blockEnd] = .blockMappingStart :: block.entry.pair ∧ q.rest = more ∧
      InSection top q := by
  obtain ⟨hname, hdash, hshort⟩ := isWord_home block.home
  obtain ⟨c, gap, rfl⟩ := List.exists_cons_of_ne_nil (List.ne_nil_of_mem hgap.newline_mem)
  obtain ⟨rfl, htext'⟩ := List.cons.inj htext
  have hcolumn : columnAfter 0 gap = top := hgap.columnAfter_eq 0
  let line : Place :=
    { Place.start (block.home.name.toList ++ ':' :: (inside ++ more)) with column := top }
  have hline : Goes (.start text) [] line := by
    have hskip := Yaml.Scanner.goes_gap (p := .start text) htext'
      (fun c hc => hgap.isGap c (List.mem_cons_of_mem _ hc)) (Yaml.Scanner.isStart_word hname _)
    simpa [Place.past, Place.start, line, hcolumn] using hskip
  have hkey := Yaml.Scanner.goes_name_opens (p := line) rfl rfl rfl hname hdash hshort
    (hinside.endsWord hblock.1 more) (show (-1 : Int) < top by omega)
  obtain ⟨kinds, q, hsection, hkinds, hq, hinner⟩ := goes_behind_home hinside hindent hblock.1 hblock.2
    hmore (p := { line.after _ (inside ++ more) with indent := top, indents := [-1] }) rfl rfl rfl rfl
  refine ⟨_, q, (hline.trans hkey).trans hsection, ?_, hq, hinner⟩
  rw [Yaml.Entry.pair, ← hkinds]
  simp [Block.entry]

/-- **A file is scanned**, but for the ends of its last two blocks. -/
theorem goes_file {blocks : List Block} {text : List Char} (htext : Spells blocks text)
    (hsome : blocks ≠ []) (hblocks : ∀ block ∈ blocks, block.IsAllowed) :
    ∃ kinds q top, Goes (.start text) kinds q ∧
      kinds ++ [.blockEnd, .blockEnd] = Layout.block.kinds (blocks.map Block.entry) ∧ q.rest = [] ∧
      InSection top q := by
  obtain ⟨top, htext⟩ := htext
  generalize hlines : '\n' :: text = lines at htext
  cases htext with
  | nil => exact absurd rfl hsome
  | @cons block blocks gap inside more indent hgap hindent hinside hmore =>
    obtain ⟨hblock, hblocks⟩ := List.forall_mem_cons.mp hblocks
    obtain ⟨kinds, q, hfirst, hkinds, hq, hinner⟩ := goes_first_block hgap hinside hindent hblock
      (hmore.leaves (Nat.le_of_lt hindent)) hlines
    obtain ⟨kinds', q', hlater, hkinds', hq', hinner'⟩ := goes_blocks hmore hblocks hq hinner
    refine ⟨_, q', top, hfirst.trans hlater, ?_, hq', hinner'⟩
    have hends : kinds ++ kinds' ++ [.blockEnd, .blockEnd] =
        kinds ++ [.blockEnd] ++ (blocks.flatMap (fun block => block.entry.pair) ++ [.blockEnd]) := by
      calc kinds ++ kinds' ++ [.blockEnd, .blockEnd]
        _ = kinds ++ (kinds' ++ [.blockEnd]) ++ [.blockEnd] := by simp
        _ = kinds ++ (.blockEnd :: blocks.flatMap fun block => block.entry.pair) ++ [.blockEnd] := by
          rw [hkinds']
        _ = _ := by simp
    rw [hends, hkinds, Layout.kinds, Layout.kindsFrom_block, List.flatMap_map]
    simp [Layout.startKind]

/-! ## 3. Files are documents -/

theorem isAllowed_of_isPrintable {c : Char} (h : Yaml.isPrintable c = true) :
    Yaml.isAllowed c = true := by
  have hrange := Yaml.isPrintable_iff.mp h
  simp [Yaml.isAllowed, hrange]

theorem all_isAllowed_quoted {text : String} (htext : IsPrintable text) :
    (Yaml.quoted text.toList).all Yaml.isAllowed = true := by
  have hbody : (text.toList.flatMap Yaml.quotedChar).all Yaml.isAllowed = true := by
    rw [List.all_flatMap, List.all_eq_true]
    intro c hc
    have hc := isAllowed_of_isPrintable (htext c hc)
    rw [Yaml.quotedChar]
    split
    · simp [hc]; decide
    · simp [hc]
  rw [Yaml.quoted, List.cons_append, List.all_cons, List.all_append, hbody]
  decide

theorem all_isAllowed_gap {gap : List Char} (hgap : IsGap gap) : gap.all Yaml.isAllowed = true :=
  List.all_eq_true.mpr fun c hc => by rcases hgap c hc with rfl | rfl <;> decide

theorem all_isAllowed_spaces (count : Nat) : (List.replicate count ' ').all Yaml.isAllowed = true :=
  all_isAllowed_gap (isGap_spaces count)

theorem isAllowed_of_isDigit {c : Char} (h : c.isDigit = true) : Yaml.isAllowed c = true := by
  have hrange : 48 ≤ c.toNat ∧ c.toNat ≤ 57 := Char.isDigit_iff_toNat.mp h
  exact isAllowed_of_isPrintable (Yaml.isPrintable_iff.mpr (by omega))

theorem all_isAllowed_integerText (n : Int) : (Json.integerText n).all Yaml.isAllowed = true := by
  have hdigits : (Decimal.digitsOf n.natAbs).all Yaml.isAllowed = true :=
    List.all_eq_true.mpr fun c hc => isAllowed_of_isDigit (Json.isDigit_of_mem_digitsOf hc)
  unfold Json.integerText
  split
  · rw [List.all_cons, hdigits]
    decide
  · exact hdigits

theorem all_isAllowed_boolText (b : Bool) : (boolText b).all Yaml.isAllowed = true := by
  cases b <;> decide

theorem Param.all_isAllowed {param : Param} (hparam : param.IsAllowed) :
    param.text.all Yaml.isAllowed = true := by
  cases param with
  | null => decide
  | bool b => exact all_isAllowed_boolText b
  | integer n => exact all_isAllowed_integerText n
  | string text => exact all_isAllowed_quoted hparam

theorem SpellsMembers.all_isAllowed {first : Bool} {members : List (String × Param)} {text : List Char}
    (htext : SpellsMembers first members text)
    (hmembers : ∀ member ∈ members,
      IsPrintable member.1 ∧ member.1.length ≤ 100 ∧ member.2.IsAllowed) :
    text.all Yaml.isAllowed = true := by
  induction htext with
  | nil spaces =>
    rw [List.all_append, all_isAllowed_spaces]
    decide
  | @cons first name param members text before after between hmore ih =>
    obtain ⟨⟨hname, -, hparam⟩, hmembers⟩ := List.forall_mem_cons.mp hmembers
    have hmark : (if first then [] else [',']).all Yaml.isAllowed = true := by cases first <;> decide
    have hcolon : Yaml.isAllowed ':' = true := by decide
    simp only [List.all_append, List.all_cons, all_isAllowed_spaces, hmark, all_isAllowed_quoted hname,
      hcolon, Param.all_isAllowed hparam, ih hmembers, Bool.and_self]

/-- Every value is written with characters that a text may hold. -/
theorem Key.all_isAllowed {key : Key} {value : key.Value} {text : List Char}
    (htext : key.Spells value text) (hallows : key.Allows value) :
    text.all Yaml.isAllowed = true := by
  cases key with
  | baseUrl => exact htext ▸ all_isAllowed_quoted hallows
  | tokenEnv => exact htext ▸ all_isAllowed_quoted hallows
  | level => exact htext ▸ all_isAllowed_quoted hallows
  | model => exact htext ▸ all_isAllowed_quoted hallows
  | stream => exact htext ▸ all_isAllowed_boolText value
  | parameters =>
    obtain ⟨inside, hinside, rfl⟩ := htext
    rw [List.all_cons, hinside.all_isAllowed hallows.2]
    decide

theorem SpellsSettings.all_isAllowed {indent : Nat} {settings : List Setting} {text : List Char}
    (htext : SpellsSettings indent settings text)
    (hallows : ∀ setting ∈ settings, setting.key.Allows setting.value) :
    text.all Yaml.isAllowed = true := by
  induction htext with
  | nil => rfl
  | @cons setting settings gap text more spaces hgap htext hmore ih =>
    obtain ⟨hsetting, hsettings⟩ := List.forall_mem_cons.mp hallows
    have hname : setting.key.name.toList.all Yaml.isAllowed = true := by
      cases setting.key <;> decide
    have hcolon : Yaml.isAllowed ':' = true := by decide
    simp only [List.all_append, List.all_cons, all_isAllowed_gap hgap.isGap, hname, hcolon,
      all_isAllowed_spaces, Key.all_isAllowed htext hsetting, ih hsettings, Bool.and_self]

theorem SpellsBlocks.all_isAllowed {top : Nat} {blocks : List Block} {text : List Char}
    (htext : SpellsBlocks top blocks text) (hblocks : ∀ block ∈ blocks, block.IsAllowed) :
    text.all Yaml.isAllowed = true := by
  induction htext with
  | nil htail => exact all_isAllowed_gap htail
  | @cons block blocks gap inside more indent hgap hindent hinside hmore ih =>
    obtain ⟨hblock, hblocks⟩ := List.forall_mem_cons.mp hblocks
    have hname : block.home.name.toList.all Yaml.isAllowed = true := by
      cases block.home <;> decide
    have hcolon : Yaml.isAllowed ':' = true := by decide
    simp only [List.all_append, List.all_cons, all_isAllowed_gap hgap.isGap, hname, hcolon,
      hinside.all_isAllowed hblock.2, ih hblocks, Bool.and_self]

/-- **A file is a document of the settings it spells.** -/
theorem ofText_of_spells {blocks : List Block} {text : List Char} (htext : Spells blocks text)
    (hsome : blocks ≠ []) (hblocks : ∀ block ∈ blocks, block.IsAllowed) :
    ∃ root events, Node.IsMapping (blocks.map Block.entry) root ∧
      Yaml.Document.ofText text = { root, events, fault := none, followed := false } := by
  obtain ⟨kinds, q, top, hgoes, hkinds, hq, hinner⟩ := goes_file htext hsome hblocks
  obtain ⟨lines, htext⟩ := htext
  have hallowed : ∀ c ∈ text, Yaml.isAllowed c = true := fun c hc =>
    List.all_eq_true.mp (htext.all_isAllowed hblocks) c (List.mem_cons_of_mem _ hc)
  have hcloses : Yaml.Scanner.closings (-1) q.indent q.indents = (2, -1, []) := by
    have hdeep := hinner.deep
    rw [hinner.indents, Yaml.Scanner.closings, if_pos (by omega), Yaml.Scanner.closings,
      if_pos (by omega)]
    rfl
  obtain ⟨tokens, htokens, hscan⟩ :=
    Yaml.Scanner.scan_of_goes hallowed hgoes hq hinner.flow hcloses
  refine Yaml.ofText_of_makes (makes_blocks blocks) ?_ hscan
  rw [htokens, ← hkinds]
  rfl

end Relay.Config
