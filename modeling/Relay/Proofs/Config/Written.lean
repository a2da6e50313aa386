import Relay.Config
import Relay.Json.Printer
import Relay.Proofs.Yaml.Building
import Relay.Proofs.Yaml.Scalars

/-!
# Settings as they are written

How a file of settings is spelled: one block mapping for every section that is there, below it one
line for every setting that is there, in any order (`Spells`). Strings stand between double quotes,
and the parameters of requests in one line between braces. Indentation, spaces and empty lines are
as the writer likes. Whatever the sections are, some file spells them (`exists_spells`).

The tree of such a file is a mapping of its sections, each a mapping of its settings; the tokens of
the file make it up (`makes_blocks`).
-/

namespace Relay.Config

open Yaml (IsGap Layout Makes Node ScalarStyle TokenKind)

/-! ## 1. Settings -/

/-- The sections of a file. -/
inductive Section where
  | endpoint
  | logs
  | defaults
  deriving DecidableEq, Repr

def Section.name : Section → String
  | .endpoint => "endpoint"
  | .logs => "logs"
  | .defaults => "defaults"

/-- The value of a parameter, as far as it can be written here. -/
inductive Param where
  | null
  | bool (b : Bool)
  | integer (n : Int)
  | string (text : String)
  deriving DecidableEq, Repr

def Param.value : Param → Json.Value
  | .null => .null
  | .bool b => .bool b
  | .integer n => .number (.integer n)
  | .string text => .string text

/-- The settings of all sections. -/
inductive Key where
  | baseUrl
  | tokenEnv
  | level
  | model
  | stream
  | parameters
  deriving DecidableEq, Repr

namespace Key

/-- The section of a setting. -/
def home : Key → Section
  | .baseUrl => .endpoint
  | .tokenEnv => .endpoint
  | .level => .logs
  | .model => .defaults
  | .stream => .defaults
  | .parameters => .defaults

def name : Key → String
  | .baseUrl => "base_url"
  | .tokenEnv => "token_env"
  | .level => "level"
  | .model => "model"
  | .stream => "stream"
  | .parameters => "parameters"

/-- What a setting is set to. -/
abbrev Value : Key → Type
  | .baseUrl => String
  | .tokenEnv => String
  | .level => String
  | .model => String
  | .stream => Bool
  | .parameters => List (String × Param)

end Key

/-- A setting and what it is set to. -/
structure Setting where
  key : Key
  value : key.Value

/-! ## 2. Values -/

/-- A text of printable characters of ASCII. -/
def IsPrintable (text : String) : Prop :=
  ∀ c ∈ text.toList, Yaml.isPrintable c = true

/-- An integer of a parameter fits 64 bits, with or without a sign. -/
def Param.IsAllowed : Param → Prop
  | .null => True
  | .bool _ => True
  | .integer n => -9223372036854775808 ≤ n ∧ n < 18446744073709551616
  | .string text => IsPrintable text

/-- What a setting may be set to. -/
def Key.Allows : (key : Key) → key.Value → Prop
  | .baseUrl, text => IsPrintable text
  | .tokenEnv, text => IsPrintable text
  | .level, text => IsPrintable text
  | .model, text => IsPrintable text
  | .stream, _ => True
  | .parameters, members => (members.map Prod.fst).Nodup ∧
    ∀ member ∈ members, IsPrintable member.1 ∧ member.1.length ≤ 100 ∧ member.2.IsAllowed

instance (text : String) : Decidable (IsPrintable text) :=
  decidable_of_iff (text.toList.all Yaml.isPrintable = true) List.all_eq_true

instance : (param : Param) → Decidable param.IsAllowed
  | .null => .isTrue trivial
  | .bool _ => .isTrue trivial
  | .integer n => inferInstanceAs (Decidable (-9223372036854775808 ≤ n ∧ n < 18446744073709551616))
  | .string text => inferInstanceAs (Decidable (IsPrintable text))

instance : (key : Key) → (value : key.Value) → Decidable (key.Allows value)
  | .baseUrl, text => inferInstanceAs (Decidable (IsPrintable text))
  | .tokenEnv, text => inferInstanceAs (Decidable (IsPrintable text))
  | .level, text => inferInstanceAs (Decidable (IsPrintable text))
  | .model, text => inferInstanceAs (Decidable (IsPrintable text))
  | .stream, _ => .isTrue trivial
  | .parameters, members => inferInstanceAs (Decidable ((members.map Prod.fst).Nodup ∧
    ∀ member ∈ members, IsPrintable member.1 ∧ member.1.length ≤ 100 ∧ member.2.IsAllowed))

def boolText (b : Bool) : List Char :=
  (if b then "true" else "false").toList

def Param.text : Param → List Char
  | .null => "null".toList
  | .bool b => boolText b
  | .integer n => Json.integerText n
  | .string text => Yaml.quoted text.toList

/-- What is left of the line of parameters from a place between two of them on. Around every one
there may be spaces, and `first` tells whether none has come yet. -/
inductive SpellsMembers : (first : Bool) → List (String × Param) → List Char → Prop where
  | nil {first : Bool} (spaces : Nat) :
    SpellsMembers first [] (List.replicate spaces ' ' ++ ['\x7d'])
  | cons {first : Bool} {name : String} {param : Param} {members : List (String × Param)}
      {text : List Char} (before after between : Nat) (hmore : SpellsMembers false members text) :
    SpellsMembers first ((name, param) :: members)
      (List.replicate before ' ' ++ ((if first then [] else [',']) ++ (List.replicate after ' ' ++
        (Yaml.quoted name.toList ++ ':' :: (List.replicate between ' ' ++ (param.text ++ text))))))

/-- How a value is written. -/
def Key.Spells : (key : Key) → key.Value → List Char → Prop
  | .baseUrl, value, text => text = Yaml.quoted value.toList
  | .tokenEnv, value, text => text = Yaml.quoted value.toList
  | .level, value, text => text = Yaml.quoted value.toList
  | .model, value, text => text = Yaml.quoted value.toList
  | .stream, b, text => text = boolText b
  | .parameters, members, text =>
    ∃ inside, SpellsMembers true members inside ∧ text = '\x7b' :: inside

/-! ## 3. Files -/

/-- The gap in front of a line with so many spaces: the rest of the line before, and empty lines. -/
def StartsLine (indent : Nat) (gap : List Char) : Prop :=
  ∃ front, IsGap front ∧ gap = front ++ '\n' :: List.replicate indent ' '

/-- The lines of a section, all with the same indentation. -/
inductive SpellsSettings (indent : Nat) : List Setting → List Char → Prop where
  | nil : SpellsSettings indent [] []
  | cons {setting : Setting} {settings : List Setting} {gap text more : List Char} (spaces : Nat)
      (hgap : StartsLine indent gap) (htext : setting.key.Spells setting.value text)
      (hmore : SpellsSettings indent settings more) :
    SpellsSettings indent (setting :: settings)
      (gap ++ (setting.key.name.toList ++ ':' :: (List.replicate (spaces + 1) ' ' ++ (text ++ more))))

/-- A section with settings. -/
structure Block where
  home : Section
  settings : List Setting

/-- Sections, each on lines of its own, behind the line that was before. The names of all sections
have the same indentation, and the lines of every section are deeper. -/
inductive SpellsBlocks (top : Nat) : List Block → List Char → Prop where
  | nil {tail : List Char} (htail : IsGap tail) : SpellsBlocks top [] tail
  | cons {block : Block} {blocks : List Block} {gap inside more : List Char} {indent : Nat}
      (hgap : StartsLine top gap) (hindent : top < indent)
      (hinside : SpellsSettings indent block.settings inside) (hmore : SpellsBlocks top blocks more) :
    SpellsBlocks top (block :: blocks) (gap ++ (block.home.name.toList ++ ':' :: (inside ++ more)))

/-- **How a file is written**, as if a line had ended in front of it. -/
def Spells (blocks : List Block) (text : List Char) : Prop :=
  ∃ top, SpellsBlocks top blocks ('\n' :: text)

theorem startsLine_newline (indent : Nat) :
    StartsLine indent ('\n' :: List.replicate indent ' ') :=
  ⟨[], List.forall_mem_nil _, rfl⟩

theorem exists_spellsMembers (first : Bool) (members : List (String × Param)) :
    ∃ text, SpellsMembers first members text := by
  induction members generalizing first with
  | nil => exact ⟨_, .nil 0⟩
  | cons member members ih =>
    obtain ⟨text, htext⟩ := ih false
    exact ⟨_, .cons 0 0 0 htext⟩

theorem Key.exists_text (key : Key) (value : key.Value) : ∃ text, key.Spells value text := by
  cases key with
  | baseUrl => exact ⟨_, rfl⟩
  | tokenEnv => exact ⟨_, rfl⟩
  | level => exact ⟨_, rfl⟩
  | model => exact ⟨_, rfl⟩
  | stream => exact ⟨_, rfl⟩
  | parameters =>
    obtain ⟨inside, hinside⟩ := exists_spellsMembers true value
    exact ⟨_, inside, hinside, rfl⟩

theorem exists_spellsSettings (indent : Nat) (settings : List Setting) :
    ∃ text, SpellsSettings indent settings text := by
  induction settings with
  | nil => exact ⟨_, .nil⟩
  | cons setting settings ih =>
    obtain ⟨more, hmore⟩ := ih
    obtain ⟨text, htext⟩ := setting.key.exists_text setting.value
    exact ⟨_, .cons 0 (startsLine_newline indent) htext hmore⟩

/-- **Sections can be written**, whatever they are. -/
theorem exists_spells (blocks : List Block) : ∃ text : String, Spells blocks text.toList := by
  suffices hlines : ∃ text, SpellsBlocks 0 blocks ('\n' :: text) by
    obtain ⟨text, htext⟩ := hlines
    exact ⟨String.ofList text, 0, by rwa [String.toList_ofList]⟩
  induction blocks with
  | nil => exact ⟨[], .nil fun _ hc => .inr (List.mem_singleton.mp hc)⟩
  | cons block blocks ih =>
    obtain ⟨more, hmore⟩ := ih
    obtain ⟨inside, hinside⟩ := exists_spellsSettings 1 block.settings
    exact ⟨_, .cons (startsLine_newline 0) Nat.one_pos hinside hmore⟩

/-! ## 4. The tree of a file -/

/-- The text of a parameter without its quotes. -/
def Param.content : Param → List Char
  | .null => "null".toList
  | .bool b => boolText b
  | .integer n => Json.integerText n
  | .string text => text.toList

def Param.style : Param → ScalarStyle
  | .null => .plain
  | .bool _ => .plain
  | .integer _ => .plain
  | .string _ => .doubleQuoted

/-- A parameter as an entry of a mapping. -/
def memberEntry (member : String × Param) : Yaml.Entry where
  name := member.1.toList
  style := .doubleQuoted
  kinds := [.scalar member.2.content member.2.style]
  Holds := Node.IsText member.2.content member.2.style

namespace Key

/-- The tokens of a value. -/
def kinds : (key : Key) → key.Value → List TokenKind
  | .baseUrl, text => [.scalar text.toList .doubleQuoted]
  | .tokenEnv, text => [.scalar text.toList .doubleQuoted]
  | .level, text => [.scalar text.toList .doubleQuoted]
  | .model, text => [.scalar text.toList .doubleQuoted]
  | .stream, b => [.scalar (boolText b) .plain]
  | .parameters, members => Layout.flow.kinds (members.map memberEntry)

/-- What the node of a value is like. -/
def Holds : (key : Key) → key.Value → Node → Prop
  | .baseUrl, text => Node.IsText text.toList .doubleQuoted
  | .tokenEnv, text => Node.IsText text.toList .doubleQuoted
  | .level, text => Node.IsText text.toList .doubleQuoted
  | .model, text => Node.IsText text.toList .doubleQuoted
  | .stream, b => Node.IsText (boolText b) .plain
  | .parameters, members => Node.IsMapping (members.map memberEntry)

theorem makes (key : Key) (value : key.Value) : Makes true (key.kinds value) (key.Holds value) := by
  cases key with
  | baseUrl => exact Yaml.makes_scalar true _ _
  | tokenEnv => exact Yaml.makes_scalar true _ _
  | level => exact Yaml.makes_scalar true _ _
  | model => exact Yaml.makes_scalar true _ _
  | stream => exact Yaml.makes_scalar true _ _
  | parameters =>
    refine Yaml.makes_mapping (fun _ => rfl) fun entry hentry => ?_
    obtain ⟨member, -, rfl⟩ := List.mem_map.mp hentry
    exact Yaml.makes_scalar _ _ _

end Key

/-- A setting as an entry of its section. -/
def Setting.entry (setting : Setting) : Yaml.Entry where
  name := setting.key.name.toList
  style := .plain
  kinds := setting.key.kinds setting.value
  Holds := setting.key.Holds setting.value

/-- A section as an entry of the file. -/
def Block.entry (block : Block) : Yaml.Entry where
  name := block.home.name.toList
  style := .plain
  kinds := Layout.block.kinds (block.settings.map Setting.entry)
  Holds := Node.IsMapping (block.settings.map Setting.entry)

/-- **The tokens of a file make up its tree.** -/
theorem makes_blocks (blocks : List Block) :
    Makes true (Layout.block.kinds (blocks.map Block.entry))
      (Node.IsMapping (blocks.map Block.entry)) := by
  refine Yaml.makes_mapping (fun _ => rfl) fun entry hentry => ?_
  obtain ⟨block, -, rfl⟩ := List.mem_map.mp hentry
  refine Yaml.makes_mapping (fun _ => rfl) fun entry hentry => ?_
  obtain ⟨setting, -, rfl⟩ := List.mem_map.mp hentry
  exact setting.key.makes setting.value

end Relay.Config
