import Relay.Text.Digit
import Relay.Text.Utf8

/-!
# Percent encoding

Each part of an address has a set of characters that stand there escaped: every byte of such a
character is written as `%` and two hexadecimal digits. This file fixes the sets, one inside the
next, and the two directions.
-/

namespace Relay.Url

/-! ## 1. What is escaped where -/

/-- Controls and everything beyond ASCII are escaped everywhere. -/
def inControls (c : Char) : Bool :=
  c.toNat < 0x20 || 0x7E < c.toNat

/-- What is escaped in a fragment. -/
def inFragment (c : Char) : Bool :=
  inControls c || [' ', '"', '<', '>', '\x60'].contains c

/-- What is escaped in a query. -/
def inQuery (c : Char) : Bool :=
  inControls c || [' ', '"', '#', '<', '>'].contains c

/-- What is escaped in the query of a web address. -/
def inWebQuery (c : Char) : Bool :=
  inQuery c || c == '\''

/-- What is escaped in a path. -/
def inPath (c : Char) : Bool :=
  inFragment c || ['#', '?', '\x7b', '\x7d'].contains c

/-- What is escaped in a user name or a password. -/
def inUserinfo (c : Char) : Bool :=
  inPath c || ['/', ':', ';', '=', '@', '[', '\\', ']', '^', '|'].contains c

/-! ## 2. The two directions -/

/-- A hexadecimal digit. -/
def upperHexDigit (n : Nat) : Char :=
  (Nat.digitChar (n % 16)).toUpper

/-- A byte, escaped. -/
def escapeByte (b : UInt8) : List Char :=
  ['%', upperHexDigit (b.toNat / 16), upperHexDigit b.toNat]

/-- A character, escaped when it is in the set. -/
def escapeChar (escaped : Char → Bool) (c : Char) : List Char :=
  if escaped c then (Text.Utf8.encode [c]).flatMap escapeByte else [c]

/-- A text with the characters of the set escaped. -/
def escape (escaped : Char → Bool) (text : List Char) : List Char :=
  text.flatMap (escapeChar escaped)

/-- A text in which nothing is to be escaped stays as it is. -/
theorem escape_eq_self {escaped : Char → Bool} {text : List Char}
    (h : ∀ c ∈ text, escaped c = false) : escape escaped text = text := by
  induction text with
  | nil => rfl
  | cons c rest ih =>
    have hc : escaped c = false := h c List.mem_cons_self
    have hr : escape escaped rest = rest := ih (fun d hd => h d (List.mem_cons_of_mem _ hd))
    simp only [escape, List.flatMap_cons] at hr ⊢
    simp [escapeChar, hc, hr]

/-- The bytes of a text in which escapes stand for bytes. A `%` without two digits stands for
itself. -/
def unescape : List Char → List UInt8
  | [] => []
  | '%' :: a :: b :: rest =>
    match Text.hexValue? a, Text.hexValue? b with
    | some x, some y => UInt8.ofNat (16 * x + y) :: unescape rest
    | _, _ => 0x25 :: unescape (a :: b :: rest)
  | c :: rest => Text.Utf8.encode [c] ++ unescape rest

end Relay.Url
