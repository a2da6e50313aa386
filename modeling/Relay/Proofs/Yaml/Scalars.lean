import Relay.Yaml.Token.Scalar

/-!
# Gaps, quoted texts and words

What the scanner makes of three simple shapes of text, wherever they stand:

* a *gap* of spaces and newlines is passed over, and its newlines are counted (`readGap_gap`);
* a text between double quotes is read back, whatever spaces it holds (`scanQuoted_quoted`);
* a *word* of names and numbers is read up to the colon behind a key (`scanPlain_key`), up to the
  mark that ends a part of a flow collection (`scanPlain_part`), or through the gap that leads out
  of the indentation (`scanPlain_leaves`).
-/

namespace Relay.Yaml

/-! ## 1. Characters -/

/-- The printable characters of ASCII. -/
def isPrintable (c : Char) : Bool :=
  decide (0x20 ≤ c.toNat) && decide (c.toNat ≤ 0x7E)

theorem isPrintable_iff {c : Char} : isPrintable c = true ↔ 0x20 ≤ c.toNat ∧ c.toNat ≤ 0x7E := by
  simp [isPrintable]

/-- A printable character other than the space is no part of a gap. -/
theorem isBlankOrBreak_of_isPrintable {c : Char} (h : isPrintable c = true) (hc : c ≠ ' ') :
    isBlankOrBreak c = false := by
  obtain ⟨hlow, hhigh⟩ := isPrintable_iff.mp h
  have hne {d : Char} (hd : d.toNat < 0x20 ∨ 0x7E < d.toNat) : c ≠ d := by
    rintro rfl
    omega
  simp [isBlankOrBreak, isBlank, isBreak, hc, hne (d := '\t') (by decide), hne (d := '\n') (by decide),
    hne (d := '\r') (by decide), hne (d := '\u0085') (by decide), hne (d := '\u2028') (by decide),
    hne (d := '\u2029') (by decide)]

theorem ne_of_isNameChar {c d : Char} (h : isNameChar c = true) (hd : isNameChar d = false) :
    c ≠ d := by
  rintro rfl
  rw [h] at hd
  cases hd

/-- The characters of names mean nothing to the scanner. -/
theorem classes_of_isNameChar {c : Char} (h : isNameChar c = true) :
    isBlankOrBreak c = false ∧ isFlowIndicator c = false ∧ c ≠ '#' ∧ c ≠ ':' := by
  have hne {d : Char} (hd : isNameChar d = false) : c ≠ d := ne_of_isNameChar h hd
  refine ⟨?_, ?_, hne (by decide), hne (by decide)⟩
  · simp [isBlankOrBreak, isBlank, isBreak, hne (d := ' ') (by decide), hne (d := '\t') (by decide),
      hne (d := '\n') (by decide), hne (d := '\r') (by decide), hne (d := '\u0085') (by decide),
      hne (d := '\u2028') (by decide), hne (d := '\u2029') (by decide)]
  · simp [isFlowIndicator, hne (d := ',') (by decide), hne (d := '[') (by decide),
      hne (d := ']') (by decide), hne (d := '\x7b') (by decide), hne (d := '\x7d') (by decide)]

/-! ## 2. Places -/

namespace Mark

@[simp] theorem forward_line (mark : Mark) (text : List Char) :
    (mark.forward text).line = mark.line := rfl

@[simp] theorem forward_column (mark : Mark) (text : List Char) :
    (mark.forward text).column = mark.column + text.length := rfl

@[simp] theorem forward_index (mark : Mark) (text : List Char) :
    (mark.forward text).index = mark.index + byteCount text := rfl

end Mark

theorem byteCount_append (text more : List Char) :
    byteCount (text ++ more) = byteCount text + byteCount more := by
  induction text with
  | nil => simp [byteCount]
  | cons c rest ih => rw [List.cons_append, byteCount, byteCount, ih, Nat.add_assoc]

/-- A character takes at most four bytes. -/
theorem byteCount_le (text : List Char) : byteCount text ≤ 4 * text.length := by
  induction text with
  | nil => simp [byteCount]
  | cons c rest ih =>
    have hsize := Char.utf8Size_le_four c
    rw [byteCount, List.length_cons]
    omega

theorem Mark.forward_nil (mark : Mark) : mark.forward [] = mark := rfl

theorem Mark.forward_append (mark : Mark) (text more : List Char) :
    mark.forward (text ++ more) = (mark.forward text).forward more := by
  simp [Mark.forward, byteCount_append, Nat.add_assoc]

theorem Mark.forward_cons (mark : Mark) (c : Char) (text : List Char) :
    mark.forward (c :: text) = (mark.forward [c]).forward text :=
  mark.forward_append [c] text

theorem Cursor.skip_one (c : Char) (rest : List Char) (mark : Mark) :
    Cursor.skip ⟨c :: rest, mark⟩ 1 = ⟨rest, mark.forward [c]⟩ := rfl

theorem Cursor.skip_two (c d : Char) (rest : List Char) (mark : Mark) :
    Cursor.skip ⟨c :: d :: rest, mark⟩ 2 = ⟨rest, mark.forward [c, d]⟩ := rfl

theorem Cursor.skipWhile_of_head {p : Char → Bool} {cursor : Cursor}
    (h : ∀ c ∈ cursor.rest.head?, p c = false) : cursor.skipWhile p = cursor := by
  have hnone : cursor.rest.takeWhile p = [] := by
    cases hrest : cursor.rest with
    | nil => rfl
    | cons c rest => rw [List.takeWhile_cons_of_neg (by simp [h c (by rw [hrest]; rfl)])]
  rw [Cursor.skipWhile, Cursor.span, hnone]
  rfl

theorem Cursor.skipWhile_cons {p : Char → Bool} {c : Char} (h : p c = true) (rest : List Char)
    (mark : Mark) :
    Cursor.skipWhile ⟨c :: rest, mark⟩ p = Cursor.skipWhile ⟨rest, mark.forward [c]⟩ p := by
  have htaken : (c :: rest).takeWhile p = c :: rest.takeWhile p := List.takeWhile_cons_of_pos h
  simp only [Cursor.skipWhile, Cursor.span, htaken, Cursor.skip, List.length_cons,
    List.drop_succ_cons, List.take_succ_cons]
  rw [Mark.forward_cons]

/-- The place behind a gap of spaces and newlines. -/
def Mark.over (mark : Mark) (gap : List Char) : Mark :=
  gap.foldl (fun mark c => if c = '\n' then mark.nextLine ['\n'] else mark.forward [c]) mark

/-- Inside a line there is no marker of a document. -/
theorem Cursor.not_atDocumentMarker {cursor : Cursor} (h : 0 < cursor.mark.column) :
    cursor.atDocumentMarker = false := by
  have hcolumn : (cursor.mark.column == 0) = false := beq_eq_false_iff_ne.mpr (by omega)
  simp [Cursor.atDocumentMarker, hcolumn]

theorem Cursor.not_atDocumentMarker_of_head {c : Char} (hc : c ≠ '-' ∧ c ≠ '.') (rest : List Char)
    (mark : Mark) : Cursor.atDocumentMarker ⟨c :: rest, mark⟩ = false := by
  simp [Cursor.atDocumentMarker, hc]

/-! ## 3. Gaps -/

/-- Spaces and newlines. -/
def IsGap (gap : List Char) : Prop :=
  ∀ c ∈ gap, c = ' ' ∨ c = '\n'

/-- A text behind which a gap ends. -/
def IsSolid (text : List Char) : Prop :=
  ∀ c ∈ text.head?, isBlankOrBreak c = false

/-- The column behind a gap that starts in the given one. -/
def columnAfter : (column : Nat) → (gap : List Char) → Nat
  | column, [] => column
  | column, c :: gap => columnAfter (if c = '\n' then 0 else column + 1) gap

@[simp] theorem columnAfter_spaces (column count : Nat) :
    columnAfter column (List.replicate count ' ') = column + count := by
  induction count generalizing column with
  | zero => rfl
  | succ count ih =>
    rw [List.replicate_succ, columnAfter, if_neg (by decide), ih]
    omega

/-- Behind a newline the column is that of its line, whatever came before. -/
theorem columnAfter_newline (column : Nat) (gap : List Char) (count : Nat) :
    columnAfter column (gap ++ '\n' :: List.replicate count ' ') = count := by
  induction gap generalizing column with
  | nil => simp [columnAfter]
  | cons c gap ih => exact ih _

@[simp] theorem Mark.over_column (mark : Mark) (gap : List Char) :
    (mark.over gap).column = columnAfter mark.column gap := by
  induction gap generalizing mark with
  | nil => rfl
  | cons c gap ih =>
    rw [Mark.over, List.foldl_cons, columnAfter]
    split
    · exact ih _
    · exact ih _

/-- A gap read on through more spaces and newlines. -/
def Gap.over (start : Gap) (gap : List Char) : Gap :=
  gap.foldl (fun gap c => if c = '\n' then gap.withBreak ['\n'] else gap.withBlank c) start

theorem Gap.broken_over (start : Gap) (gap : List Char) :
    (start.over gap).broken = (start.broken || decide ('\n' ∈ gap)) := by
  induction gap generalizing start with
  | nil => simp [Gap.over]
  | cons c gap ih =>
    have hrest := ih (if c = '\n' then start.withBreak ['\n'] else start.withBlank c)
    rw [Gap.over, List.foldl_cons]
    refine hrest.trans ?_
    by_cases hc : c = '\n'
    · simp only [hc, ↓reduceIte, List.mem_cons, true_or, decide_true, Bool.or_true]
      have hbroken : (start.withBreak ['\n']).broken = true := by
        rw [Gap.withBreak]
        split
        · assumption
        · rfl
      rw [hbroken, Bool.true_or]
    · have hbroken : (start.withBlank c).broken = start.broken := by
        rw [Gap.withBlank]
        split <;> rfl
      simp [hc, hbroken, Ne.symm hc]

/-- A gap without newlines keeps its spaces. -/
theorem Gap.text_over {gap : List Char} (h : '\n' ∉ gap) : (Gap.over {} gap).text = gap := by
  have hover : ∀ blanks : List Char, Gap.over { blanks } gap = { blanks := blanks ++ gap } := by
    induction gap with
    | nil => simp [Gap.over]
    | cons c gap ih =>
      intro blanks
      rw [List.mem_cons, not_or] at h
      have hstep : Gap.withBlank { blanks } c = { blanks := blanks ++ [c] } := rfl
      rw [Gap.over, List.foldl_cons, if_neg (Ne.symm h.1), hstep]
      exact (ih h.2 _).trans (by rw [List.append_assoc]; rfl)
  rw [show ({} : Gap) = { blanks := [] } from rfl, hover]
  rfl

/-- **A gap is read to its end.** -/
theorem readGap_gap (since : Option (Mark × Nat)) {gap rest : List Char} (hgap : IsGap gap)
    (hrest : IsSolid rest) {bound : Nat} (hbound : gap.length ≤ bound) (start : Gap) (mark : Mark) :
    readGap since bound start ⟨gap ++ rest, mark⟩ = .ok (start.over gap, ⟨rest, mark.over gap⟩) := by
  induction gap generalizing bound start mark with
  | nil =>
    cases bound with
    | zero => rfl
    | succ bound =>
      cases rest with
      | nil => rfl
      | cons c rest =>
        have hc := hrest c rfl
        simp only [isBlankOrBreak, Bool.or_eq_false_iff] at hc
        simp [readGap, hc, Gap.over, Mark.over]
  | cons c gap ih =>
    obtain ⟨bound, rfl⟩ := Nat.exists_eq_succ_of_ne_zero (Nat.ne_of_gt (Nat.lt_of_lt_of_le
      (Nat.succ_pos _) hbound))
    have hnext := ih (fun d hd => hgap d (List.mem_cons_of_mem _ hd)) (Nat.le_of_succ_le_succ hbound)
    obtain rfl | rfl := hgap c List.mem_cons_self
    · have hblank : isBlank ' ' = true := by decide
      rw [List.cons_append, readGap]
      simp only [hblank, ↓reduceIte]
      cases since with
      | none => exact hnext _ _
      | some place =>
        have htab : (' ' == '\t') = false := by decide
        simp only [htab, Bool.and_false, Bool.false_eq_true, ↓reduceIte]
        exact hnext _ _
    · have hblank : isBlank '\n' = false := by decide
      have hbreak : isBreak '\n' = true := by decide
      rw [List.cons_append, readGap]
      simp only [hblank, hbreak, Bool.false_eq_true, ↓reduceIte]
      exact hnext _ _

/-! ## 4. Quoted texts -/

/-- A character between quotes. -/
def quotedChar (c : Char) : List Char :=
  if c = '"' ∨ c = '\\' then ['\\', c] else [c]

/-- A text between double quotes. -/
def quoted (text : List Char) : List Char :=
  '"' :: text.flatMap quotedChar ++ ['"']

theorem length_quotedChar (c : Char) : 1 ≤ (quotedChar c).length ∧ (quotedChar c).length ≤ 2 := by
  rw [quotedChar]
  split <;> simp

/-- A quoted text is at most twice as long. -/
theorem length_quoted_le (text : List Char) : (quoted text).length ≤ 2 * text.length + 2 := by
  have hbody : (text.flatMap quotedChar).length ≤ 2 * text.length := by
    induction text with
    | nil => simp
    | cons c text ih =>
      have hchar := (length_quotedChar c).2
      rw [List.flatMap_cons, List.length_append, List.length_cons]
      omega
  rw [quoted, List.cons_append, List.length_cons, List.length_append, List.length_singleton]
  omega

/-- A run of spaces is gone over like any other text. -/
theorem Mark.over_spaces (mark : Mark) (count : Nat) :
    mark.over (List.replicate count ' ') = mark.forward (List.replicate count ' ') := by
  induction count generalizing mark with
  | zero => rfl
  | succ count ih => exact (ih _).trans (mark.forward_cons _ _).symm

theorem isGap_spaces (count : Nat) : IsGap (List.replicate count ' ') :=
  fun _ hc => .inl (List.eq_of_mem_replicate hc)

theorem newline_not_mem_spaces (count : Nat) : '\n' ∉ List.replicate count ' ' := fun h => by
  cases List.eq_of_mem_replicate h

/-- Spaces between quotes belong to the text. -/
theorem readQuoted_spaces {start mark : Mark} {count bound : Nat} {tail text : List Char}
    {behind : Cursor} (hcolumn : 0 < mark.column) (htail : IsSolid tail) (hbound : count < bound)
    (hread : readQuoted false start bound ⟨tail, mark.forward (List.replicate (count + 1) ' ')⟩ =
      .ok (text, behind)) :
    readQuoted false start (bound + 1) ⟨List.replicate (count + 1) ' ' ++ tail, mark⟩ =
      .ok (List.replicate (count + 1) ' ' ++ text, behind) := by
  have hgap := readGap_gap none (isGap_spaces (count + 1)) htail
    (Nat.le_trans (Nat.le_of_eq List.length_replicate) hbound) {} mark
  have hmarker : Cursor.atDocumentMarker ⟨List.replicate (count + 1) ' ' ++ tail, mark⟩ = false :=
    Cursor.not_atDocumentMarker hcolumn
  have hspace : isBlankOrBreak ' ' = true := by decide
  have htexts : (Gap.over {} (List.replicate (count + 1) ' ')).text = List.replicate (count + 1) ' ' :=
    Gap.text_over (newline_not_mem_spaces _)
  rw [Mark.over_spaces] at hgap
  rw [readQuoted, hmarker]
  simp only [List.replicate_succ, List.cons_append] at hgap hread htexts ⊢
  simp [hspace, hgap, hread, htexts, bind, Except.bind]

/-- One character between quotes, other than the space. -/
theorem readQuoted_char {start mark : Mark} {c : Char} {bound : Nat} {tail text : List Char}
    {behind : Cursor} (hcolumn : 0 < mark.column) (hc : isPrintable c = true) (hspace : c ≠ ' ')
    (hread : readQuoted false start bound ⟨tail, mark.forward (quotedChar c)⟩ =
      .ok (text, behind)) :
    readQuoted false start (bound + 1) ⟨quotedChar c ++ tail, mark⟩ = .ok (c :: text, behind) := by
  have hmarker {rest : List Char} : Cursor.atDocumentMarker ⟨rest, mark⟩ = false :=
    Cursor.not_atDocumentMarker hcolumn
  have hsolid := isBlankOrBreak_of_isPrintable hc hspace
  rw [quotedChar] at hread ⊢
  split at hread
  case isTrue hmark =>
    have hescape : shortEscape? c = some c := by rcases hmark with rfl | rfl <;> rfl
    have hbreak : isBreak c = false := (Bool.or_eq_false_iff.mp hsolid).2
    rw [if_pos hmark, readQuoted, hmarker]
    simp [readScalarEscape, Cursor.peek?, hescape, hbreak, Cursor.skip_two, hread, bind, Except.bind]
  case isFalse hmark =>
    rw [if_neg hmark, readQuoted, hmarker]
    rw [not_or] at hmark
    simp [hsolid, hmark, Cursor.skip_one, hread, bind, Except.bind]

theorem isSolid_quotedBody {text : List Char} (htext : ∀ c ∈ text, isPrintable c = true)
    (hhead : ∀ c ∈ text.head?, c ≠ ' ') (rest : List Char) :
    IsSolid (text.flatMap quotedChar ++ '"' :: rest) := by
  cases text with
  | nil =>
    rintro _ ⟨⟩
    decide
  | cons c text =>
    have hsolid := isBlankOrBreak_of_isPrintable (htext c List.mem_cons_self) (hhead c rfl)
    rw [List.flatMap_cons, quotedChar]
    split
    · rintro _ ⟨⟩
      decide
    · rintro _ ⟨⟩
      exact hsolid

theorem flatMap_quotedChar_spaces (count : Nat) :
    (List.replicate count ' ').flatMap quotedChar = List.replicate count ' ' := by
  induction count with
  | zero => rfl
  | succ count ih => rw [List.replicate_succ, List.flatMap_cons, ih]; rfl

/-- The spaces at the front of a text. -/
theorem exists_spaces (text : List Char) :
    ∃ count tail, text = List.replicate count ' ' ++ tail ∧ ∀ c ∈ tail.head?, c ≠ ' ' := by
  induction text with
  | nil => exact ⟨0, [], rfl, nofun⟩
  | cons c text ih =>
    by_cases hc : c = ' '
    · obtain ⟨count, tail, rfl, htail⟩ := ih
      exact ⟨count + 1, tail, by rw [hc, List.replicate_succ, List.cons_append], htail⟩
    · refine ⟨0, c :: text, rfl, ?_⟩
      rintro _ ⟨⟩
      exact hc

/-- **A text between quotes is read back.** -/
theorem readQuoted_body {start : Mark} {text rest : List Char}
    (htext : ∀ c ∈ text, isPrintable c = true) {bound : Nat}
    (hbound : (text.flatMap quotedChar).length < bound) {mark : Mark} (hcolumn : 0 < mark.column) :
    readQuoted false start bound ⟨text.flatMap quotedChar ++ '"' :: rest, mark⟩ =
      .ok (text, ⟨rest, mark.forward (text.flatMap quotedChar ++ ['"'])⟩) := by
  -- a run of spaces is read at once, so the induction is on the length
  induction hlength : text.length using Nat.strongRecOn generalizing text bound mark with
  | ind length ih =>
  obtain ⟨bound, rfl⟩ := Nat.exists_eq_succ_of_ne_zero (Nat.ne_of_gt (Nat.zero_lt_of_lt hbound))
  obtain ⟨count, tail, rfl, hhead⟩ := exists_spaces text
  rw [List.flatMap_append, flatMap_quotedChar_spaces, List.length_append, List.length_replicate]
    at hbound
  rw [List.flatMap_append, flatMap_quotedChar_spaces]
  have htail : ∀ c ∈ tail, isPrintable c = true := fun c hc => htext c (List.mem_append_right _ hc)
  rcases count with _ | count
  · rcases tail with _ | ⟨c, more⟩
    · have hmarker : Cursor.atDocumentMarker ⟨'"' :: rest, mark⟩ = false :=
        Cursor.not_atDocumentMarker hcolumn
      simp [readQuoted, hmarker, Cursor.skip_one]
    · have hsize := (length_quotedChar c).1
      rw [List.flatMap_cons, List.length_append] at hbound
      have hmore : (more.flatMap quotedChar).length < bound := by omega
      have hbehind : 0 < (mark.forward (quotedChar c)).column := Nat.add_pos_left hcolumn _
      have hread := ih more.length (by rw [← hlength]; simp)
        (fun d hd => htail d (List.mem_cons_of_mem _ hd)) hmore hbehind rfl
      have hchar := readQuoted_char hcolumn (htail c List.mem_cons_self) (hhead c rfl) hread
      simpa [List.flatMap_cons, Mark.forward_append] using hchar
  · have hmore : (tail.flatMap quotedChar).length < bound := by omega
    have hbehind : 0 < (mark.forward (List.replicate (count + 1) ' ')).column :=
      Nat.add_pos_left hcolumn _
    have hread := ih tail.length (by rw [← hlength]; simp) htail hmore hbehind rfl
    have hspaces := readQuoted_spaces hcolumn (isSolid_quotedBody htail hhead rest)
      (by omega : count < bound) hread
    simpa [Mark.forward_append] using hspaces

/-- **A quoted scalar is scanned.** -/
theorem scanQuoted_quoted {text rest : List Char} (htext : ∀ c ∈ text, isPrintable c = true)
    (mark : Mark) :
    scanQuoted false ⟨quoted text ++ rest, mark⟩ =
      .ok ({ kind := .scalar text .doubleQuoted, start := mark, stop := mark.forward (quoted text) },
        ⟨rest, mark.forward (quoted text)⟩) := by
  have hbody : ∀ bound, (text.flatMap quotedChar).length < bound →
      readQuoted false mark bound ⟨text.flatMap quotedChar ++ '"' :: rest, mark.forward ['"']⟩ =
        .ok (text, ⟨rest, mark.forward (quoted text)⟩) := by
    intro bound hbound
    have hcolumn : 0 < (mark.forward ['"']).column := Nat.succ_pos _
    rw [readQuoted_body htext hbound hcolumn, ← Mark.forward_append]
    rfl
  have hquoted : quoted text ++ rest = '"' :: (text.flatMap quotedChar ++ '"' :: rest) := by
    simp [quoted]
  rw [hquoted, scanQuoted]
  simp only [Cursor.skip_one]
  rw [hbody _ (by simp; omega)]
  rfl

/-! ## 5. Words -/

/-- A text of names and numbers. -/
structure IsWord (word : List Char) : Prop where
  ne_nil : word ≠ []
  names : ∀ c ∈ word, isNameChar c = true

/-- **A word is read to its end.** No marker of a document may stand at its start. -/
theorem readPlain_word {flow inWord : Bool} {indent : Nat} {start mark : Mark} {word rest : List Char}
    (hword : IsWord word)
    (hmarker : inWord = false → Cursor.atDocumentMarker ⟨word ++ rest, mark⟩ = false)
    {bound : Nat} {stop : Mark} {plain : PlainEnd}
    (hread : readPlain flow indent start bound true {} (mark.forward word)
      ⟨rest, mark.forward word⟩ = .ok plain) :
    readPlain flow indent start (word.length + bound) inWord {} stop ⟨word ++ rest, mark⟩ =
      .ok (plain.after word) := by
  obtain ⟨hne, hnames⟩ := hword
  induction word generalizing inWord mark stop with
  | nil => exact absurd rfl hne
  | cons c word ih =>
    obtain ⟨hc, hmore⟩ := List.forall_mem_cons.mp hnames
    obtain ⟨hsolid, hflow, hhash, hcolon⟩ := classes_of_isNameChar hc
    have hnext : readPlain flow indent start (word.length + bound) true {} (mark.forward [c])
        ⟨word ++ rest, mark.forward [c]⟩ = .ok (plain.after word) := by
      rw [Mark.forward_cons] at hread
      rcases word with _ | ⟨d, more⟩
      · simpa [Mark.forward_nil, PlainEnd.after] using hread
      · have hbehind : true = false →
            Cursor.atDocumentMarker ⟨d :: more ++ rest, mark.forward [c]⟩ = false := nofun
        exact ih hbehind hread (List.cons_ne_nil _ _) hmore
    have hstart : (!inWord && (Cursor.atDocumentMarker ⟨c :: (word ++ rest), mark⟩ || c == '#')) =
        false := by
      cases inWord with
      | false => simpa [hhash] using hmarker rfl
      | true => rfl
    rw [List.length_cons, Nat.add_right_comm, List.cons_append, readPlain]
    simp [hstart, hsolid, hflow, hcolon, Cursor.skip_one, hnext, PlainEnd.after, Gap.text, bind,
      Except.bind]

section Scan

variable (indent : Nat) {word rest : List Char} {mark : Mark} (hword : IsWord word)
  (hmarker : Cursor.atDocumentMarker ⟨word ++ rest, mark⟩ = false)

include hword hmarker

/-- What scanning a word comes to, from what reading behind the word does. -/
theorem scanPlain_word {flow : Bool} {plain : PlainEnd} (hempty : plain.text = [])
    (hread : ∀ bound, rest.length + 2 ≤ bound → readPlain flow indent mark bound true {}
      (mark.forward word) ⟨rest, mark.forward word⟩ = .ok plain) :
    scanPlain flow indent ⟨word ++ rest, mark⟩ =
      .ok ({ kind := .scalar word .plain, start := mark, stop := plain.stop },
        { plain with text := word }) := by
  have hlength := List.length_pos_iff.mpr hword.ne_nil
  have hsplit : 2 * (word ++ rest).length + 1 =
      word.length + (word.length + 2 * rest.length + 1) := by
    rw [List.length_append]
    omega
  have hbehind := hread (word.length + 2 * rest.length + 1) (by omega)
  have hplain : readPlain flow indent mark (2 * (word ++ rest).length + 1) false {} mark
      ⟨word ++ rest, mark⟩ = .ok (plain.after word) := by
    rw [hsplit]
    exact readPlain_word hword (fun _ => hmarker) hbehind
  simp only [scanPlain, hplain, bind, Except.bind, PlainEnd.after, hempty, List.append_nil]

/-- **A key is a word in front of a colon.** -/
theorem scanPlain_key {more : List Char} (hrest : rest = ':' :: more) (hmore : endsWord more = true) :
    scanPlain false indent ⟨word ++ rest, mark⟩ =
      .ok ({ kind := .scalar word .plain, start := mark, stop := mark.forward word },
        { text := word, stop := mark.forward word, cursor := ⟨rest, mark.forward word⟩,
          broken := false }) := by
  have hread : ∀ bound, rest.length + 2 ≤ bound → readPlain false indent mark bound true {}
      (mark.forward word) ⟨rest, mark.forward word⟩ =
        .ok { stop := mark.forward word, cursor := ⟨rest, mark.forward word⟩, broken := false } := by
    intro bound hbound
    obtain ⟨bound, rfl⟩ : ∃ more, bound = more + 1 := ⟨bound - 1, by omega⟩
    have hcolon : isBlankOrBreak ':' = false := by decide
    simp [hrest, readPlain, hcolon, hmore]
  exact scanPlain_word indent hword hmarker rfl hread

/-- **A word in a flow collection ends at the mark behind it**, and the spaces between are passed
over. -/
theorem scanPlain_part {count : Nat} {c : Char} {more : List Char}
    (hrest : rest = List.replicate count ' ' ++ c :: more) (hc : c = ',' ∨ c = '\x7d') :
    scanPlain true indent ⟨word ++ rest, mark⟩ =
      .ok ({ kind := .scalar word .plain, start := mark, stop := mark.forward word },
        { text := word, stop := mark.forward word
          cursor := ⟨c :: more, (mark.forward word).over (List.replicate count ' ')⟩
          broken := false }) := by
  have hsolid : isBlankOrBreak c = false ∧ (c == '#') = false ∧ (c == ':') = false ∧
      isFlowIndicator c = true := by
    rcases hc with rfl | rfl <;> decide
  have hmarks {place : Mark} : Cursor.atDocumentMarker ⟨c :: more, place⟩ = false := by
    rcases hc with rfl | rfl <;> simp [Cursor.atDocumentMarker]
  have hends {bound : Nat} {inWord : Bool} {gap : Gap} {stop place : Mark} :
      readPlain true indent mark (bound + 1) inWord gap stop ⟨c :: more, place⟩ =
        .ok { stop, cursor := ⟨c :: more, place⟩, broken := gap.broken } := by
    simp [readPlain, hmarks, hsolid]
  have hread : ∀ bound, rest.length + 2 ≤ bound → readPlain true indent mark bound true {}
      (mark.forward word) ⟨rest, mark.forward word⟩ =
        .ok { stop := mark.forward word
              cursor := ⟨c :: more, (mark.forward word).over (List.replicate count ' ')⟩
              broken := false } := by
    intro bound hbound
    rw [hrest] at hbound ⊢
    rcases count with _ | count
    · obtain ⟨bound, rfl⟩ : ∃ more, bound = more + 1 := ⟨bound - 1, by omega⟩
      exact hends
    · rw [List.length_append, List.length_replicate] at hbound
      obtain ⟨bound, rfl⟩ : ∃ more, bound = more + 2 := ⟨bound - 2, by omega⟩
      have hbehind : IsSolid (c :: more) := by
        rintro _ ⟨⟩
        exact hsolid.1
      have hgap := readGap_gap (some (mark, indent)) (isGap_spaces (count + 1)) hbehind
        (by rw [List.length_replicate]; omega : _ ≤ bound + 1) {} (mark.forward word)
      have hbroken : (Gap.over {} (List.replicate (count + 1) ' ')).broken = false := by
        simp [Gap.broken_over]
      have hspace : isBlankOrBreak ' ' = true := by decide
      rw [readPlain]
      simp only [List.replicate_succ, List.cons_append] at hgap hbroken ⊢
      simp [hspace, hgap, hends, hbroken, bind, Except.bind]
  exact scanPlain_word indent hword hmarker rfl hread

/-- **A word in a block ends at a gap that leads out of the indentation**, and the gap is passed
over. -/
theorem scanPlain_leaves {gap behind : List Char} (hrest : rest = gap ++ behind) (hgap : IsGap gap)
    (hbehind : IsSolid behind)
    (hleaves : behind = [] ∨ ∀ column, columnAfter column gap < indent) :
    scanPlain false indent ⟨word ++ rest, mark⟩ =
      .ok ({ kind := .scalar word .plain, start := mark, stop := mark.forward word },
        { text := word, stop := mark.forward word, cursor := ⟨behind, (mark.forward word).over gap⟩
          broken := decide ('\n' ∈ gap) }) := by
  have hread : ∀ bound, rest.length + 2 ≤ bound → readPlain false indent mark bound true {}
      (mark.forward word) ⟨rest, mark.forward word⟩ =
        .ok { stop := mark.forward word, cursor := ⟨behind, (mark.forward word).over gap⟩
              broken := decide ('\n' ∈ gap) } := by
    intro bound hbound
    rw [hrest, List.length_append] at hbound
    rw [hrest]
    obtain ⟨bound, rfl⟩ : ∃ more, bound = more + 2 := ⟨bound - 2, by omega⟩
    rcases gap with _ | ⟨c, gap⟩
    · rcases hleaves with rfl | hcolumn
      · rfl
      · exact absurd (hcolumn indent) (Nat.lt_irrefl indent)
    · have hread := readGap_gap (some (mark, indent)) hgap hbehind
        (by omega : _ ≤ bound + 1) {} (mark.forward word)
      have hc : isBlankOrBreak c = true := by
        rcases hgap c List.mem_cons_self with rfl | rfl <;> decide
      have hbroken : (Gap.over {} (c :: gap)).broken = decide ('\n' ∈ c :: gap) := by
        rw [Gap.broken_over, Bool.false_or]
      have hends {gap : Gap} {stop place : Mark} :
          readPlain false indent mark (bound + 1) false gap stop ⟨[], place⟩ =
            .ok { stop, cursor := ⟨[], place⟩, broken := gap.broken } := rfl
      rw [List.cons_append] at hread ⊢
      rw [readPlain]
      simp only [Bool.not_true, Bool.false_and, Bool.false_eq_true, ↓reduceIte, hc, hread, bind,
        Except.bind, hbroken, Bool.not_false, Bool.true_and, decide_eq_true_eq, Mark.over_column]
      split
      · rfl
      · rename_i hdeep
        obtain rfl := hleaves.resolve_right fun hcolumn => hdeep (hcolumn _)
        rw [hends, hbroken]
  exact scanPlain_word indent hword hmarker rfl hread

end Scan

end Relay.Yaml
