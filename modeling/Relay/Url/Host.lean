import Relay.Power
import Relay.Url.Domain
import Relay.Url.Percent

/-!
# Hosts

The host of an address is a name, an IPv4 address or an IPv6 address (`Host`). This file fixes how
each is read and written:

* a host in brackets is an IPv6 address, written with its longest run of zero groups left out;
* in a web address, escapes stand for bytes, the name is a domain name in its ASCII form
  (`Domain.ascii?`), and a name whose last label is a number must be an IPv4 address. The parts of
  such an address are decimal, octal or hexadecimal, and the last one fills what the others leave;
* elsewhere a name is kept, its controls and non-ASCII characters escaped.
-/

namespace Relay.Url

/-- The host of an address. -/
inductive Host where
  | name (text : List Char)
  | ipv4 (address : Nat)
  | ipv6 (groups : List Nat)
  deriving DecidableEq, Repr

/-! ## 1. IPv4 addresses -/

/-- One part of an IPv4 address: hexadecimal behind `0x`, octal behind `0`, otherwise decimal. -/
def ipv4Part? : List Char → Option Nat
  | [] => none
  | '0' :: x :: digits =>
    if x = 'x' ∨ x = 'X' then Text.numeral? 16 Text.isHexDigit digits
    else Text.numeral? 8 Text.isOctalDigit (x :: digits)
  | digits => Text.numeral? 10 Char.isDigit digits

/-- The labels of a name, without an empty last one. -/
def labelsOf (name : List Char) : List (List Char) :=
  let labels := name.splitOn '.'
  if labels.getLast? = some [] then labels.dropLast else labels

/-- Whether the last label of a name is a number, so that the whole must be an IPv4 address. -/
def endsInNumber (name : List Char) : Bool :=
  if name.isEmpty then false
  else match (labelsOf name).getLast? with
    | none => false
    | some last =>
      (!last.isEmpty && last.all Char.isDigit) || (ipv4Part? last).isSome

/-- The parts of an address joined to one number: the last part fills the bytes that the others
leave. -/
def joinIpv4 (place : Nat) : List Nat → Option Nat
  | [] => none
  | [last] => if last < twoTo (8 * (place + 1)) then some last else none
  | part :: more =>
    if part < 256 then (joinIpv4 (place - 1) more).map (part * twoTo (8 * place) + ·) else none

/-- The IPv4 address that a name spells. -/
def ipv4? (name : List Char) : Option Nat := do
  let parts := labelsOf name
  if 4 < parts.length then failure
  let numbers ← parts.mapM ipv4Part?
  joinIpv4 3 numbers

/-- The text of an IPv4 address. -/
def ipv4Text (address : Nat) : List Char :=
  ['.'].intercalate
    ([24, 16, 8, 0].map (fun shift => Nat.toDigits 10 (address / twoTo shift % 256)))

/-! ## 2. IPv6 addresses -/

/-- A group of up to four hexadecimal digits. -/
def group? (digits : List Char) : Option Nat :=
  if digits.isEmpty || 4 < digits.length then none else Text.numeral? 16 Text.isHexDigit digits

/-- A byte in decimal, without leading zeros. -/
def decimalByte? (digits : List Char) : Option Nat :=
  if digits.isEmpty || (1 < digits.length && digits.head? == some '0') then none
  else (Text.numeral? 10 Char.isDigit digits).filter (· < 256)

/-- Two groups written as an IPv4 address. -/
def groupPair? (text : List Char) : Option (List Nat) := do
  match ← (text.splitOn '.').mapM decimalByte? with
  | [a, b, c, d] => some [256 * a + b, 256 * c + d]
  | _ => none

/-- Groups divided by colons. The last ones may be written as an IPv4 address where that is
allowed. -/
def groups? (mayEndInIpv4 : Bool) : List (List Char) → Option (List Nat)
  | [] => some []
  | [last] =>
    if mayEndInIpv4 && last.contains '.' then groupPair? last
    else (group? last).map ([·])
  | part :: more => do
    let n ← group? part
    let rest ← groups? mayEndInIpv4 more
    some (n :: rest)

/-- The groups of one side of a gap. -/
def sideGroups? (mayEndInIpv4 : Bool) (text : List Char) : Option (List Nat) :=
  if text.isEmpty then some [] else groups? mayEndInIpv4 (text.splitOn ':')

/-- The text before and behind the first double colon. -/
def splitGap : List Char → Option (List Char × List Char)
  | [] => none
  | ':' :: ':' :: rest => some ([], rest)
  | c :: rest => (splitGap rest).map (fun sides => (c :: sides.1, sides.2))

/-- The eight groups of an IPv6 address. A double colon stands for one or more zero groups. -/
def ipv6? (text : List Char) : Option (List Nat) := do
  match splitGap text with
  | none =>
    let groups ← groups? true (text.splitOn ':')
    if groups.length = 8 then some groups else none
  | some (left, right) =>
    let before ← sideGroups? false left
    let behind ← sideGroups? true right
    let given := before.length + behind.length
    if given ≤ 7 then some (before ++ List.replicate (8 - given) 0 ++ behind) else none

/-- The length of the run of zeros at the start. -/
def zeroRun (groups : List Nat) : Nat :=
  (groups.takeWhile (· == 0)).length

/-- Where the first of the longest runs of zeros starts, and its length. -/
def longestRun : (index : Nat) → List Nat → Nat × Nat
  | _, [] => (0, 0)
  | index, group :: more =>
    let here := zeroRun (group :: more)
    let later := longestRun (index + 1) more
    if later.2 ≤ here then (index, here) else later

/-- Groups divided by colons. -/
def groupsText (groups : List Nat) : List Char :=
  [':'].intercalate (groups.map (Nat.toDigits 16))

/-- The text of an IPv6 address: the longest run of at least two zeros is left out. -/
def ipv6Text (groups : List Nat) : List Char :=
  let (start, length) := longestRun 0 groups
  if length < 2 then groupsText groups
  else groupsText (groups.take start) ++ [':', ':'] ++ groupsText (groups.drop (start + length))

/-! ## 3. Names -/

/-- What no host may hold. -/
def isForbidden (c : Char) : Bool :=
  ['\x00', '\t', '\n', '\r', ' ', '#', '/', ':', '<', '>', '?', '@', '[', '\\', ']', '^',
    '|'].contains c

/-- What no name in a web address may hold. -/
def isForbiddenInName (c : Char) : Bool :=
  isForbidden c || c.toNat < 0x20 || c == '%' || c.toNat == 0x7F

/-! ## 4. Reading and writing -/

namespace Host

/-- The text of a host. -/
def text : Host → List Char
  | .name text => text
  | .ipv4 address => ipv4Text address
  | .ipv6 groups => '[' :: ipv6Text groups ++ [']']

/-- A host in brackets, behind the first of them. -/
def bracketed? (rest : List Char) : Option Host :=
  if rest.getLast? = some ']' then (ipv6? rest.dropLast).map .ipv6 else none

/-- The host of a web address. -/
def ofWeb? : List Char → Option Host
  | '[' :: rest => bracketed? rest
  | given =>
    match Text.Utf8.decode (unescape given) with
    | .error _ => none
    | .ok decoded =>
      match Domain.ascii? decoded with
      | none => none
      | some domain =>
        if domain.isEmpty || domain.any isForbiddenInName then none
        else if endsInNumber domain then (ipv4? domain).map .ipv4
        else some (.name domain)

/-- The host of another address. -/
def ofOther? : List Char → Option Host
  | '[' :: rest => bracketed? rest
  | given => if given.any isForbidden then none else some (.name (escape inControls given))

end Host

end Relay.Url
