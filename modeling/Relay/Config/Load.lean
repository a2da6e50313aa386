import Relay.Config
import Relay.Environment
import Relay.Files
import Relay.Log

/-!
# Loading settings

Settings are loaded from a file. Its path is given, or it is that of the variable `CONFIG_PATH`, or
`config.yaml`. The path is logged before the file is read.
-/

namespace Relay.Config

/-- What loading comes to. -/
structure Loaded where
  result : Except Error Config
  log : List Event

/-- The path of the file that is loaded when none is given. -/
def path (env : Environment) : String :=
  (env.get? "CONFIG_PATH").getD "config.yaml"

/-- The settings in a file. -/
def readFile (source : Source) (path : String) : Except Error Config :=
  match source path with
  | .error cause => .error (.io cause)
  | .ok bytes =>
    match Text.Utf8.decode bytes with
    | .error _ => .error (.io .notText)
    | .ok text => ofYaml (String.ofList text)

/-- Loads settings from the file with a path. -/
def loadFrom (source : Source) (path : String) : Loaded :=
  { result := readFile source path, log := [.loadingConfig path] }

/-- Loads settings from the file that the environment names. -/
def load (source : Source) (env : Environment) : Loaded :=
  loadFrom source (path env)

end Relay.Config
