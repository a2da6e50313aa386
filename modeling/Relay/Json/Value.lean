import Relay.Binary64

/-!
# JSON values

The untyped values that pass through a relay: the sampling parameters of a request and the chunks
of a response.

* A number is an integer when its text was one that fits 64 bits (from `-2^63` to `2^64 - 1`), and a
  finite binary64 number otherwise.
* The members of an object are kept in increasing order of their keys, by code point, and no key
  occurs twice; `Object.insert` keeps it so, and the last value given to a key wins.
-/

namespace Relay.Json

/-! ## 1. Values -/

/-- A number. -/
inductive Number where
  | integer (n : Int)
  | real (x : Binary64)
  deriving DecidableEq, Repr

/-- A value. -/
inductive Value where
  | null
  | bool (b : Bool)
  | number (n : Number)
  | string (s : String)
  | array (items : List Value)
  | object (members : List (String × Value))
  deriving Repr, Inhabited

/-- The members of an object. -/
abbrev Object := List (String × Value)

/-! ## 2. Members of an object -/

namespace Object

/-- The object with `value` under `key`, in the place of an earlier value. -/
def insert (key : String) (value : Value) : Object → Object
  | [] => [(key, value)]
  | (k, v) :: more =>
    if key = k then (key, value) :: more
    else if key < k then (key, value) :: (k, v) :: more
    else (k, v) :: insert key value more

/-- The value under a key. -/
def find? (key : String) (members : Object) : Option Value :=
  members.lookup key

/-- The object that results from members given in some order. -/
def ofList (members : List (String × Value)) : Object :=
  members.foldl (fun object member => insert member.1 member.2 object) []

end Object

/-! ## 3. Nesting -/

mutual

/-- How many arrays and objects lie around the innermost part of a value. -/
def Value.depth : Value → Nat
  | .array items => depthOfItems items + 1
  | .object members => depthOfMembers members + 1
  | _ => 0

/-- The greatest depth among the items of an array. -/
def depthOfItems : List Value → Nat
  | [] => 0
  | item :: more => max item.depth (depthOfItems more)

/-- The greatest depth among the members of an object. -/
def depthOfMembers : List (String × Value) → Nat
  | [] => 0
  | (_, value) :: more => max value.depth (depthOfMembers more)

end

end Relay.Json
