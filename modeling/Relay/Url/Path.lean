import Relay.Url.Percent

/-!
# Paths

The path of an address is a list of segments, each behind its slash, or a plain text when the
address has no hierarchy. Reading a path (`readSegments`) escapes its segments and resolves the dot
segments among them: `.` stays where it is, `..` leaves the segment before it. Either may be written
with `%2e` for a dot, and where one of them is last, the path ends with a slash.

A segment that looks like a drive (`C:` or `C|`) is never left.
-/

namespace Relay.Url

/-! ## 1. Dot segments -/

/-- A segment in lower case, with its dots written as dots. -/
def plainDots : List Char → List Char
  | '%' :: '2' :: e :: rest =>
    if e.toLower = 'e' then '.' :: plainDots rest else '%' :: '2' :: e :: rest
  | '.' :: rest => '.' :: plainDots rest
  | other => other

/-- A segment that stays where it is. -/
def isDot (segment : List Char) : Bool :=
  plainDots segment == ['.']

/-- A segment that leaves the one before it. -/
def isDoubleDot (segment : List Char) : Bool :=
  plainDots segment == ['.', '.']

/-- A letter and a colon or a bar. -/
def isDrive : List Char → Bool
  | [letter, mark] => letter.isAlpha && (mark == ':' || mark == '|')
  | _ => false

/-- The segments so far, the last one first, without the last one. -/
def leave : List (List Char) → List (List Char)
  | [] => []
  | last :: before => if isDrive last then last :: before else before

/-- Resolves dot segments, given the segments so far, the last one first. -/
def resolve (before : List (List Char)) : List (List Char) → List (List Char)
  | [] => before.reverse
  | [last] =>
    if isDot last then ([] :: before).reverse
    else if isDoubleDot last then ([] :: leave before).reverse
    else (last :: before).reverse
  | segment :: more =>
    if isDot segment then resolve before more
    else if isDoubleDot segment then resolve (leave before) more
    else resolve (segment :: before) more

/-- Without dot segments nothing is resolved. -/
theorem resolve_eq_append {before segments : List (List Char)}
    (h : ∀ s ∈ segments, isDot s = false ∧ isDoubleDot s = false) :
    resolve before segments = before.reverse ++ segments := by
  fun_induction resolve before segments with
  | case1 => simp
  | case2 before last h₁ => simp_all
  | case3 before last h₁ h₂ => simp_all
  | case4 before last h₁ h₂ => simp
  | case5 before s more hm h₁ ih => simp_all
  | case6 before s more hm h₁ h₂ ih => simp_all
  | case7 before s more hm h₁ h₂ ih => simp_all

/-- The segments of the text behind the first slash. `isSlash` tells what divides them. -/
def readSegments (isSlash : Char → Bool) (text : List Char) : List (List Char) :=
  resolve [] ((text.splitOnP isSlash).map (escape inPath))

/-! ## 2. Paths -/

/-- The path of an address. -/
inductive Path where
  | segments (list : List (List Char))
  /-- Behind the scheme of an address without hierarchy. -/
  | plain (text : List Char)
  deriving DecidableEq, Repr

namespace Path

/-- The text of a path. -/
def text : Path → List Char
  | .segments list => list.flatMap (fun segment => '/' :: segment)
  | .plain text => text

end Path

end Relay.Url
