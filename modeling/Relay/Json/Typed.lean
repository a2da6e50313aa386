import Relay.Json.Parser
import Relay.Json.Printer
import Relay.Text.Quoted

/-!
# Reading JSON text into types

A document with a known layout is read straight from its text. This file has the readers for the
plain types (`asString`, `asNatural`, `asBool`), for lists and maps, and for records.

* A value of another kind is named by `mismatch`, behind its text where it is a plain value and in
  front of it where it is a list or an object.
* A record is read from an object, its members in any order and unknown ones skipped (`readRecord`),
  or from a list of its fields in their order (`readFields`).
* A fault of a whole record, such as a missing field, is placed behind the closing bracket, when
  that is what comes next (`behindObject`).
-/

namespace Relay.Json

/-! ## 1. Plain types -/

/-- How a message names a number. -/
def Number.describe : Number → String
  | .integer n => "integer `" ++ toString n ++ "`"
  | .real x => "floating point `" ++ String.ofList (Number.text (.real x)) ++ "`"

/-- Refuses a value of another kind than the expected one. A plain value is read first, so a fault
in its text wins. -/
def mismatch {α : Type} (expected : String) (s : List Char) : Except Fault α :=
  match s with
  | [] => failNext .expectedValue []
  | c :: rest =>
    let refuse (found : String) (rest : List Char) : Except Fault α :=
      failAt (.invalidType found expected) rest
    if c = 'n' then readWord "ull".toList rest >>= refuse "null"
    else if c = 't' then readWord "rue".toList rest >>= refuse "boolean `true`"
    else if c = 'f' then readWord "alse".toList rest >>= refuse "boolean `false`"
    else if c = '-' then readNumber true rest >>= fun r => refuse r.1.describe r.2
    else if c.isDigit then readNumber false (c :: rest) >>= fun r => refuse r.1.describe r.2
    else if c = '"' then
      readString rest >>= fun r => refuse ("string " ++ Text.quote (String.ofList r.1)) r.2
    else if c = '[' then refuse "sequence" (c :: rest)
    else if c = '\x7b' then refuse "map" (c :: rest)
    else failNext .expectedValue (c :: rest)

/-- Goes on with the text from its first character that is not white space, which must exist. -/
def expectSome {α : Type} (read : Char → List Char → Except Fault α) (s : List Char) :
    Except Fault α :=
  match skipSpace s with
  | [] => failAt .eofInValue []
  | c :: rest => read c rest

/-- Reads a string. -/
def asString (s : List Char) : Except Fault (String × List Char) :=
  s |> expectSome fun c rest =>
    if c = '"' then (readString rest).map (fun r => (String.ofList r.1, r.2))
    else mismatch "a string" (c :: rest)

/-- Reads a truth value. -/
def asBool (s : List Char) : Except Fault (Bool × List Char) :=
  s |> expectSome fun c rest =>
    if c = 't' then (readWord "rue".toList rest).map (fun rest => (true, rest))
    else if c = 'f' then (readWord "alse".toList rest).map (fun rest => (false, rest))
    else mismatch "a boolean" (c :: rest)

/-- The natural number that a number is, read just before `rest`. -/
def Number.natural (n : Number) (rest : List Char) : Except Fault (Nat × List Char) :=
  match n with
  | .integer (.ofNat k) => .ok (k, rest)
  | .integer k => failAt (.invalidValue (Number.describe (.integer k)) "usize") rest
  | .real x => failAt (.invalidType (Number.describe (.real x)) "usize") rest

/-- Reads a natural number of 64 bits. -/
def asNatural (s : List Char) : Except Fault (Nat × List Char) :=
  s |> expectSome fun c rest =>
    if c = '-' then readNumber true rest >>= fun r => r.1.natural r.2
    else if c.isDigit then readNumber false (c :: rest) >>= fun r => r.1.natural r.2
    else mismatch "usize" (c :: rest)

/-! ## 2. Lists and maps -/

/-- Reads the items of a list to its end. -/
def readItemsWith {α : Type} (read : List Char → Except Fault (α × List Char)) :
    (bound : Nat) → (first : Bool) → List Char → Except Fault (List α × List Char)
  | 0, _, s => failAt .eofInValue s
  | bound + 1, first, s =>
    match nextItem first s with
    | .error fault => .error fault
    | .ok (.done rest) => .ok ([], rest)
    | .ok (.item s) => do
      let (item, s) ← read s
      let (more, s) ← readItemsWith read bound false s
      .ok (item :: more, s)

/-- Reads a list of values of one type. -/
def asList {α : Type} (read : List Char → Except Fault (α × List Char)) (s : List Char) :
    Except Fault (List α × List Char) :=
  s |> expectSome fun c rest =>
    if c = '[' then readItemsWith read (rest.length + 1) true rest
    else mismatch "a sequence" (c :: rest)

/-- Reads the members of an object to its end, all with one reader. -/
def readEntriesWith {α : Type} (read : List Char → Except Fault (α × List Char)) :
    (bound : Nat) → (first : Bool) → List Char → Except Fault (List (String × α) × List Char)
  | 0, _, s => failAt .eofInValue s
  | bound + 1, first, s =>
    match nextMember first s with
    | .error fault => .error fault
    | .ok (.done rest) => .ok ([], rest)
    | .ok (.item s) => do
      let (key, s) ← readString s
      let s ← readColon s
      let (value, s) ← read s
      let (more, s) ← readEntriesWith read bound false s
      .ok ((String.ofList key, value) :: more, s)

/-- Reads a map from any keys to values of one type, as entries in the order of the text. -/
def asMap {α : Type} (read : List Char → Except Fault (α × List Char)) (s : List Char) :
    Except Fault (List (String × α) × List Char) :=
  s |> expectSome fun c rest =>
    if c = '\x7b' then readEntriesWith read (rest.length + 1) true rest
    else mismatch "a map" (c :: rest)

/-! ## 3. Records -/

/-- The place behind an object, if its end comes next. -/
def behindObject (s : List Char) : List Char :=
  match skipSpace s with
  | [] => []
  | c :: rest => if c = '\x7d' then rest else c :: rest

/-- Expects the end of a list whose fields have all been read. -/
def closeList (s : List Char) : Except Fault (List Char) :=
  match skipSpace s with
  | [] => failAt .eofInList []
  | c :: rest =>
    if c = ']' then .ok rest
    else if c = ',' then
      match skipSpace rest with
      | [] => failNext .trailingCharacters []
      | d :: more => failNext (if d = ']' then .trailingComma else .trailingCharacters) (d :: more)
    else failNext .trailingCharacters (c :: rest)

/-- What a record does with a member. -/
inductive MemberUse (σ : Type) where
  /-- The name means nothing to the record. -/
  | unknown
  /-- The field has been read before. -/
  | repeated
  /-- The value is read with this reader. -/
  | known (read : List Char → Except Fault (σ × List Char))

/-- Reads the members of a record to its end, starting from what has been read. -/
def readRecordMembers {σ : Type} (field : σ → String → MemberUse σ) :
    (bound : Nat) → (first : Bool) → σ → List Char → Except Fault (σ × List Char)
  | 0, _, _, s => failAt .eofInValue s
  | bound + 1, first, state, s =>
    match nextMember first s with
    | .error fault => .error fault
    | .ok (.done rest) => .ok (state, rest)
    | .ok (.item s) => do
      let (key, s) ← readString s
      let name := String.ofList key
      match field state name with
      | .repeated => failAt (.duplicateField name) (behindObject s)
      | .unknown => do
        let s ← readColon s
        let s ← skipValue s
        readRecordMembers field bound false state s
      | .known read => do
        let s ← readColon s
        let (state, s) ← read s
        readRecordMembers field bound false state s

/-- One field of a record that is read from a list. -/
structure Slot (σ : Type) where
  read : σ → List Char → Except Fault (σ × List Char)
  /-- Whether the list may end before the field. -/
  optional : Bool

/-- Reads the fields of a record from a list, as far as the list goes. `count` fields have been
read. -/
def readFields {σ : Type} (expected : String) (count : Nat) (state : σ) (s : List Char) :
    List (Slot σ) → Except Fault (σ × List Char)
  | [] => (closeList s).map (fun rest => (state, rest))
  | slot :: more =>
    match nextItem (count == 0) s with
    | .error fault => .error fault
    | .ok (.done rest) =>
      if slot.optional && more.all Slot.optional then .ok (state, rest)
      else failAt (.invalidLength (count + missing (slot :: more)) expected) rest
    | .ok (.item s) => do
      let (state, s) ← slot.read state s
      readFields expected (count + 1) state s more
where
  /-- How many fields are passed over before the first one that must be there. -/
  missing (slots : List (Slot σ)) : Nat := (slots.takeWhile Slot.optional).length

/-- A record: how its members and fields are read, and how it is completed. -/
structure Layout (σ α : Type) where
  /-- Nothing read yet. -/
  start : σ
  field : σ → String → MemberUse σ
  slots : List (Slot σ)
  /-- The record, or the name of the first field that is missing. -/
  finish : σ → Except String α
  /-- What a message calls the record. -/
  name : String

/-- Reads a record. -/
def Layout.read {σ α : Type} (layout : Layout σ α) (s : List Char) :
    Except Fault (α × List Char) :=
  s |> expectSome fun c rest =>
    if c = '[' then complete
      (readFields (layout.name ++ " with " ++ toString layout.slots.length ++ " elements") 0
        layout.start rest layout.slots)
    else if c = '\x7b' then complete
      (readRecordMembers layout.field (rest.length + 1) true layout.start rest)
    else mismatch layout.name (c :: rest)
where
  /-- Completes what has been read. -/
  complete (r : Except Fault (σ × List Char)) : Except Fault (α × List Char) := do
    let (state, rest) ← r
    match layout.finish state with
    | .ok a => .ok (a, rest)
    | .error field => failAt (.missingField field) rest

end Relay.Json
