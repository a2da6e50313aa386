import Relay.Text.Digit
import Relay.Text.Space

/-!
# Tables of characters

What no rule gives about characters is looked up in a table. A table is written as words divided by
white space, and each word (a *row*) as numbers in hexadecimal divided by points:

* in a table of closed ranges a row is the first and the last number, or the only one (`ranges`);
* in other tables every place of a row has its own meaning (`rows`, `triples`).
-/

namespace Relay.Text

/-- Whether some closed range holds the number. -/
def inRanges (ranges : List (Nat × Nat)) (n : Nat) : Bool :=
  ranges.any (fun range => range.1 ≤ n && n ≤ range.2)

namespace Table

/-- The numbers of a row. -/
def row (word : List Char) : List Nat :=
  (word.splitOn '.').map (numeralValue 16)

/-- The rows of a table. -/
def rows (text : String) : List (List Nat) :=
  (words text.toList).map row

/-- The closed ranges of a table. -/
def ranges (text : String) : List (Nat × Nat) :=
  (rows text).map (fun row => (row.headD 0, row.getLastD 0))

/-- The rows of a table in which all have three numbers. -/
def triples (text : String) : List (Nat × Nat × Nat) :=
  (rows text).filterMap (fun row =>
    match row with
    | [a, b, c] => some (a, b, c)
    | _ => none)

end Table

end Relay.Text
