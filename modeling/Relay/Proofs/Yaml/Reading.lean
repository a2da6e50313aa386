import Relay.Proofs.Json.Scalars
import Relay.Proofs.Yaml.Building
import Relay.Yaml.Decode

/-!
# Reading nodes without aliases

What the readers answer for scalars and mappings that bring no anchors, tags and aliases. `Reads`
says that a reader answers a value for a node, wherever the node stands; then an object is read when
its values are (`reads_object`), and a record when each of its settings is one that it does not have
yet (`reads_record`).
-/

namespace Relay.Yaml

/-! ## 1. Integers -/

/-- **The digits of a number spell it.** -/
theorem digitsValue?_digitsOf (n : Nat) : digitsValue? 10 (Decimal.digitsOf n) = some n := by
  have hdigit : ∀ d < 10, digitOf? 10 (Nat.digitChar d) = some d := by decide
  have hfold : (Decimal.digitsOf n).foldlM
      (fun n c => (digitOf? 10 c).map (n * 10 + ·)) 0 = some n := by
    induction n using Nat.strongRecOn with
    | ind n ih =>
      by_cases hten : 10 ≤ n
      · rw [Json.digitsOf_of_ten_le hten, List.foldlM_append, ih (n / 10) (by omega)]
        simp only [List.foldlM_cons, List.foldlM_nil, hdigit (n % 10) (by omega), bind, Option.bind,
          Option.map_some, pure]
        rw [Nat.div_add_mod' n 10]
      · rw [Json.digitsOf_of_lt_ten (by omega)]
        simp [hdigit n (by omega)]
  have hempty : (Decimal.digitsOf n).isEmpty = false := by
    rw [List.isEmpty_eq_false_iff]
    exact Nat.toDigits_ne_nil
  rw [digitsValue?, hempty, if_neg Bool.false_ne_true, hfold]

section Digits

variable (n : Nat)

theorem dropSign_digitsOf : dropSign (Decimal.digitsOf n) = Decimal.digitsOf n := by
  unfold dropSign
  split
  · rename_i heq
    exact absurd (Json.isDigit_of_mem_digitsOf (heq ▸ List.mem_cons_self)) (by decide)
  · rename_i heq
    exact absurd (Json.isDigit_of_mem_digitsOf (heq ▸ List.mem_cons_self)) (by decide)
  · rfl

/-- The digits of a number have no superfluous zero, behind a sign or not. -/
theorem hasLeadingZero_of_dropSign {text : List Char} (h : dropSign text = Decimal.digitsOf n) :
    hasLeadingZero text = false := by
  rw [hasLeadingZero, h]
  split
  · rename_i d more heq
    rcases Nat.eq_zero_or_pos n with rfl | hn
    · cases heq
    · obtain ⟨first, rest, hdigits, hfirst⟩ := Json.digitsOf_eq_cons hn
      rw [hdigits] at heq
      exact absurd (List.cons.inj heq).1 hfirst
  · rfl

theorem magnitude?_digitsOf : magnitude? false (Decimal.digitsOf n) = some n := by
  have hdigits {c d : Char} {more : List Char} (h : Decimal.digitsOf n = c :: d :: more) :
      d.isDigit = true :=
    Json.isDigit_of_mem_digitsOf (h ▸ List.mem_cons_of_mem _ List.mem_cons_self)
  unfold magnitude?
  simp only [Bool.false_eq_true, ↓reduceIte, digitsValue?_digitsOf]
  split
  · rename_i heq
    exact absurd (hdigits heq) (by decide)
  · rename_i heq
    exact absurd (hdigits heq) (by decide)
  · rename_i heq
    exact absurd (hdigits heq) (by decide)
  · rfl

end Digits

/-- What an integer text starts with. -/
theorem exists_cons_integerText (n : Int) :
    ∃ c more, Json.integerText n = c :: more ∧ (c.isDigit = true ∨ c = '-') := by
  unfold Json.integerText
  split
  · exact ⟨'-', _, rfl, .inr rfl⟩
  · obtain ⟨c, more, hdigits⟩ : ∃ c more, Decimal.digitsOf n.natAbs = c :: more :=
      List.exists_cons_of_ne_nil Nat.toDigits_ne_nil
    exact ⟨c, more, hdigits, .inl (Json.isDigit_of_mem_digitsOf (hdigits ▸ List.mem_cons_self))⟩

theorem integerWord?_integerText {n : Int} (hlow : -9223372036854775808 ≤ n)
    (hhigh : n < 18446744073709551616) :
    integerWord? (Json.integerText n) = some (.integer n) := by
  have hint : Meaning.ofInt? n = some (.integer n) := by
    have hsizes : (twoTo 63 : Int) = 2 ^ 63 ∧ (twoTo 64 : Int) = 2 ^ 64 := by decide
    rw [Meaning.ofInt?, if_pos (by rw [hsizes.1, hsizes.2]; exact ⟨hlow, hhigh⟩)]
  have hdrop := dropSign_digitsOf n.natAbs
  unfold Json.integerText
  split
  case isTrue hneg =>
    have hvalue : -(n.natAbs : Int) = n := by omega
    rw [integerWord?, hasLeadingZero_of_dropSign n.natAbs rfl, magnitude?_digitsOf, Option.bind_some,
      hvalue, hint]
  case isFalse hneg =>
    have hvalue : (n.natAbs : Int) = n := by omega
    unfold integerWord?
    simp only [hasLeadingZero_of_dropSign n.natAbs hdrop]
    split
    · rename_i heq
      exact absurd (Json.isDigit_of_mem_digitsOf (heq ▸ List.mem_cons_self)) (by decide)
    · rename_i heq
      exact absurd (Json.isDigit_of_mem_digitsOf (heq ▸ List.mem_cons_self)) (by decide)
    · rw [magnitude?_digitsOf, Option.bind_some, hvalue, hint]

/-- **The text of an integer of 64 bits spells it.** -/
theorem ofPlain_integerText {n : Int} (hlow : -9223372036854775808 ≤ n)
    (hhigh : n < 18446744073709551616) :
    Meaning.ofPlain (Json.integerText n) = .integer n := by
  obtain ⟨c, more, htext, hc⟩ := exists_cons_integerText n
  have hne (word : String) (hword : word.toList.head?.any (fun d => d.isDigit || d == '-') = false) :
      String.ofList (Json.integerText n) ≠ word := by
    rintro rfl
    rw [String.toList_ofList, htext, List.head?_cons, Option.any_some, Bool.or_eq_false_iff] at hword
    rcases hc with hc | hc
    · rw [hword.1] at hc
      cases hc
    · exact beq_eq_false_iff_ne.mp hword.2 hc
  have hempty : (Json.integerText n).isEmpty = false := by rw [htext]; rfl
  have hnull : isNullWord (Json.integerText n) = false := by
    simp [isNullWord, hne "null" rfl, hne "Null" rfl,
      hne "NULL" rfl, hne "~" rfl]
  have hbool : boolWord? (Json.integerText n) = none := by
    simp [boolWord?, hne "true" rfl, hne "True" rfl,
      hne "TRUE" rfl, hne "false" rfl,
      hne "False" rfl, hne "FALSE" rfl]
  rw [Meaning.ofPlain, hempty, hnull, hbool, integerWord?_integerText hlow hhigh]
  rfl

/-! ## 2. Scalars -/

/-- **A reader answers a value for a node**, wherever the node stands, if collections may nest
`depth` deep there. -/
def Reads {α : Type} (depth : Nat) (read : Site → Node → Decode α) (a : α) (node : Node) : Prop :=
  ∀ site jumps, depth ≤ site.depth → (read site node).run jumps = .ok (a, jumps)

theorem Reads.mono {α : Type} {depth more : Nat} {read : Site → Node → Decode α} {a : α} {node : Node}
    (h : Reads depth read a node) (hdepth : depth ≤ more) : Reads more read a node :=
  fun site jumps hsite => h site jumps (Nat.le_trans hdepth hsite)

/-- What is read may be put anywhere. -/
theorem Reads.map {α β : Type} {depth : Nat} {read : Site → Node → Decode α} {a : α} {node : Node}
    (h : Reads depth read a node) (f : α → β) :
    Reads depth (fun site node => f <$> read site node) (f a) node := by
  intro site jumps hsite
  rw [StateT.run_map, h site jumps hsite]
  rfl

/-- A reader goes on with what the reader before it answered. -/
theorem run_bind_of_ok {α β : Type} {read : Decode α} {more : α → Decode β} {a : α} {jumps after : Nat}
    (h : read.run jumps = .ok (a, after)) : (read >>= more).run jumps = (more a).run after := by
  rw [StateT.run_bind, h]
  rfl

section Scalar

variable {text : List Char} {style : ScalarStyle} {node : Node} (hnode : node.IsText text style)

include hnode

theorem reads_string (expected : String) :
    Reads 0 (readString expected) (String.ofList text) node := by
  obtain ⟨mark, rfl⟩ := hnode
  exact fun _ _ _ => rfl

theorem reads_bool (b : Bool) (hstyle : style = .plain) (hword : boolWord? text = some b) :
    Reads 0 readBool b node := by
  obtain ⟨mark, rfl⟩ := hnode
  subst hstyle
  intro site jumps _
  simp [readBool, follow, allowsBool, hword]
  rfl

/-- A quoted text is a string that is not left out, whatever it spells. -/
theorem reads_optionalString (hstyle : style ≠ .plain) (outer : Site → Site) (since : Mark) :
    Reads 0 (fun site => readOptionalString (outer site) since site) (some (String.ofList text))
      node := by
  obtain ⟨mark, rfl⟩ := hnode
  intro site jumps _
  simp [readOptionalString, follow, isNothing, hstyle, readString]
  rfl

/-- An untyped scalar is read as what it means. -/
theorem reads_value {value : Json.Value} (depth : Nat)
    (hvalue : (if style = .plain then Meaning.ofPlain text else .string text).value = some value) :
    Reads 0 (readValueIn depth) value node := by
  obtain ⟨mark, rfl⟩ := hnode
  intro site jumps _
  -- the reader has no equations to rewrite with, but it computes up to what the scalar means
  cases depth <;>
    · delta readValueIn
      conv => lhs; whnf
      rw [hvalue]
      rfl

end Scalar

/-! ## 3. Objects -/

/-- The entries of a mapping are read one after another. -/
theorem readEntries_of_fits {α : Type} {depth : Nat} {read : Site → Node → Decode α}
    {entries : List Entry} {nodes : List (Node × Node)} {values : List α}
    (hfits : List.Forall₂ Entry.Fits entries nodes)
    (hreads : List.Forall₂ (fun entry a => ∀ node, entry.Holds node → Reads depth read a node)
      entries values)
    (firstKey otherKey : String) (site : Site) (hdepth : depth ≤ site.depth) (jumps : Nat) :
    (readEntries site read firstKey otherKey nodes).run jumps =
      .ok ((entries.map fun entry => String.ofList entry.name).zip values, jumps) := by
  induction hfits generalizing values firstKey with
  | nil => cases hreads; rfl
  | @cons entry node entries nodes hentry hfits ih =>
    obtain ⟨key, value⟩ := node
    cases hreads with
    | @cons _ a _ values ha hreads =>
      have hkey := reads_string hentry.1 firstKey site jumps (Nat.zero_le _)
      have hvalue := ha value hentry.2 (site.enter (stepTo key)) jumps hdepth
      rw [readEntries, run_bind_of_ok hkey, run_bind_of_ok hvalue,
        run_bind_of_ok (ih hreads otherKey)]
      rfl

/-- **An object is read when its values are.** -/
theorem reads_object {depth : Nat} {entries : List Entry} {values : List Json.Value} {node : Node}
    (hnode : node.IsMapping entries)
    (hreads : ∀ inner, List.Forall₂
      (fun entry value => ∀ node, entry.Holds node → Reads depth (readValueIn inner) value node)
      entries values) :
    Reads (depth + 1) readObject
      (Json.Object.ofList ((entries.map fun entry => String.ofList entry.name).zip values)) node := by
  obtain ⟨mark, nodes, rfl, hfits⟩ := hnode
  intro site jumps hdepth
  obtain ⟨inner, hinner⟩ : ∃ inner, site.depth = inner + 1 := ⟨site.depth - 1, by omega⟩
  have hentries := readEntries_of_fits hfits (hreads inner) "a string" "a string" site
    (Nat.le_of_succ_le hdepth) jumps
  simp only [readObject, follow, pure_bind, descend, hinner]
  rw [run_bind_of_ok hentries]
  rfl

/-! ## 4. Records -/

/-- The settings of a record are read one after another. `state` is what holds when some settings
have been read. -/
theorem readFields_of_fits {σ κ : Type} {depth : Nat} (site : Site) (since : Mark)
    {field : σ → String → EntryUse σ} {state : List κ → σ} {entry : κ → Entry}
    {settings : List κ} {nodes : List (Node × Node)}
    (hfits : List.Forall₂ Entry.Fits (settings.map entry) nodes) (earlier : List κ)
    (hfield : ∀ done setting more, settings = done ++ setting :: more →
      ∃ read, field (state (earlier ++ done)) (String.ofList (entry setting).name) = .known read ∧
        ∀ node, (entry setting).Holds node →
          Reads depth read (state (earlier ++ (done ++ [setting]))) node)
    (hdepth : depth ≤ site.depth) (jumps : Nat) :
    (readFields site since field (state earlier) nodes).run jumps =
      .ok (state (earlier ++ settings), jumps) := by
  induction settings generalizing nodes earlier with
  | nil =>
    cases hfits
    rw [List.append_nil]
    rfl
  | cons setting settings ih =>
    obtain ⟨⟨key, value⟩, nodes, hentry, hlater, rfl⟩ := List.forall₂_cons_left_iff.mp hfits
    obtain ⟨read, hread, hvalue⟩ := hfield [] setting settings rfl
    have hmore := ih hlater (earlier ++ [setting]) (fun done next more heq => by
      have hnext := hfield (setting :: done) next more (by rw [heq]; rfl)
      simpa only [List.append_assoc, List.singleton_append, List.cons_append, List.nil_append]
        using hnext)
    have hname := reads_string hentry.1 "field identifier" site jumps (Nat.zero_le _)
    have hvalue := hvalue value hentry.2 (site.enter (stepTo key)) jumps hdepth
    rw [List.append_nil] at hread
    rw [List.append_assoc] at hmore
    rw [readFields, run_bind_of_ok hname, hread]
    exact (run_bind_of_ok hvalue).trans hmore

/-- **A record is read when each of its settings is known and new.** -/
theorem reads_record {σ κ : Type} {depth : Nat} {expected : String}
    {field : Mark → σ → String → EntryUse σ} (state : List κ → σ) {entry : κ → Entry}
    {settings : List κ} {node : Node} (hnode : node.IsMapping (settings.map entry))
    (hfield : ∀ since done setting more, settings = done ++ setting :: more →
      ∃ read, field since (state done) (String.ofList (entry setting).name) = .known read ∧
        ∀ node, (entry setting).Holds node → Reads depth read (state (done ++ [setting])) node) :
    Reads (depth + 1) (readRecord expected field (state [])) (state settings) node := by
  obtain ⟨mark, nodes, rfl, hfits⟩ := hnode
  intro site jumps hdepth
  obtain ⟨inner, hinner⟩ : ∃ inner, site.depth = inner + 1 := ⟨site.depth - 1, by omega⟩
  have hfields := readFields_of_fits { site with depth := inner } mark hfits [] (hfield mark)
    (show depth ≤ inner by omega) jumps
  simp only [readRecord, follow, pure_bind, descend, hinner]
  exact hfields

/-- **A document is decoded when its root is read.** -/
theorem decode_of_reads {α : Type} {read : Site → Node → Decode α} {text : List Char} {root : Node}
    {events : Nat} {a : α}
    (htext : Document.ofText text = { root, events, fault := none, followed := false })
    {depth : Nat} (hdepth : depth ≤ 128) (hread : Reads depth read a root) :
    decode read text = .ok a := by
  have hrun := hread { document := Document.ofText text } 0 hdepth
  rw [decode]
  simp only [htext] at hrun ⊢
  rw [hrun]
  rfl

end Relay.Yaml
