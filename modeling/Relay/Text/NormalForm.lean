import Relay.Text.Decomposition
import Relay.Text.Mark

/-!
# The composed normal form

Texts that are canonically the same have one normal form (form C). `normalForm` finds it in three
steps:

1. every character is taken apart (`decomposition`);
2. marks of different classes that stand together are put in the order of their classes (`order`);
3. marks are put together with the character they belong to, where that makes one (`compose`). A
   mark is *blocked* from that character by one of the same class between them.
-/

namespace Relay.Text

/-! ## 1. The order of marks -/

/-- Puts a character behind a text that is given last character first: in front of the marks of a
higher class that the text ends in. -/
def placeMark (c : Char) : List Char → List Char
  | [] => [c]
  | last :: before =>
    if combiningClass c ≠ 0 ∧ combiningClass c < combiningClass last then
      last :: placeMark c before
    else c :: last :: before

/-- A text with its marks in the order of their classes. -/
def order (text : List Char) : List Char :=
  (text.foldl (fun before c => placeMark c before) []).reverse

/-! ## 2. Putting together -/

/-- Puts characters together with `base`, behind which the marks in `kept` stand, the last one
first. -/
def composeBehind (base : Char) (kept : List Char) : List Char → List Char
  | [] => base :: kept.reverse
  | c :: rest =>
    let isBlocked :=
      match kept with
      | [] => false
      | last :: _ => combiningClass c ≤ combiningClass last
    match if isBlocked then none else composite? base c with
    | some whole => composeBehind whole kept rest
    | none =>
      if combiningClass c = 0 then base :: kept.reverse ++ composeBehind c [] rest
      else composeBehind base (c :: kept) rest

/-- A text in the order of its marks with everything put together. Marks in front of the first
character of class zero belong to nothing. -/
def compose : List Char → List Char
  | [] => []
  | c :: rest => if combiningClass c = 0 then composeBehind c [] rest else c :: compose rest

/-! ## 3. The normal form -/

/-- The composed normal form of a text. -/
def normalForm (text : List Char) : List Char :=
  compose (order (text.flatMap decomposition))

end Relay.Text
