import Relay.Text.Utf8

/-!
# Environment variables

An environment holds the variables that are set, with their bytes. A value counts only if it is
text: `Environment.get?` finds no other.
-/

namespace Relay

/-- The variables that are set. -/
structure Environment where
  entries : List (String × List UInt8) := []
  deriving DecidableEq, Repr

namespace Environment

/-- The variables of a list, the last one of a name. -/
def ofList (entries : List (String × List UInt8)) : Environment :=
  { entries := entries.reverse }

/-- The text of a variable, if it is set and its value is text. -/
def get? (env : Environment) (name : String) : Option String :=
  match env.entries.lookup name with
  | none => none
  | some bytes => ((Text.Utf8.decode bytes).toOption).map String.ofList

/-- Without a variable. -/
def erase (env : Environment) (name : String) : Environment :=
  { entries := env.entries.filter (fun entry => entry.1 != name) }

/-- With a variable, in the place of an earlier one of the name. -/
def insert (env : Environment) (name : String) (value : List UInt8) : Environment :=
  { entries := (name, value) :: (env.erase name).entries }

end Environment

end Relay
