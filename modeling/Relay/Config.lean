import Relay.Error

/-!
# Settings

The settings of a relay come from a YAML file with three sections, all of them optional:

* `endpoint`: where requests go (`base_url`) and which environment variable holds the token
  (`token_env`);
* `logs`: how much is logged (`level`);
* `defaults`: what a request is made of (`model`, `stream`, `parameters`).

A setting that is left out has the default that its structure names. A file that holds nothing
but white space leaves everything out.
-/

namespace Relay

/-! ## 1. The settings and their defaults -/

/-- Where requests go. -/
structure EndpointConfig where
  baseUrl : String := "https://api-inference.huggingface.co"
  /-- The environment variable that holds the token of requests that bring none. -/
  tokenEnv : String := "HUGGINGFACE_TOKEN"
  deriving Repr

/-- How much is logged. -/
structure LogsConfig where
  level : String := "info"
  deriving Repr

/-- What a request is made of. -/
structure RequestDefaults where
  model : Option String := none
  stream : Bool := true
  parameters : Json.Object := []
  deriving Repr

/-- All settings. -/
structure Config where
  endpoint : EndpointConfig := {}
  logs : LogsConfig := {}
  defaults : RequestDefaults := {}
  deriving Repr

/-! ## 2. Reading -/

namespace Config

open Yaml (Decode EntryUse Mark Node Site)

/-- A setting of a record: `seen` tells whether it has been read, `set` puts its value. -/
def setting {σ α : Type} (seen : Bool) (read : Site → Node → Decode α) (set : α → σ) :
    EntryUse σ :=
  if seen then .repeated else .known (fun site node => set <$> read site node)

/-- What has been read of the section `endpoint`. -/
structure EndpointParts where
  baseUrl : Option String := none
  tokenEnv : Option String := none

/-- The settings of the section `endpoint`. -/
def endpointField (_ : Mark) (parts : EndpointParts) (name : String) : EntryUse EndpointParts :=
  let text := Yaml.readString "a string"
  if name = "base_url" then
    setting parts.baseUrl.isSome text (fun s => { parts with baseUrl := some s })
  else if name = "token_env" then
    setting parts.tokenEnv.isSome text (fun s => { parts with tokenEnv := some s })
  else .unknown

/-- The section, with defaults for what was left out. -/
def EndpointParts.complete (parts : EndpointParts) : EndpointConfig :=
  let initial : EndpointConfig := {}
  { baseUrl := parts.baseUrl.getD initial.baseUrl
    tokenEnv := parts.tokenEnv.getD initial.tokenEnv }

/-- The settings of the section `logs`. -/
def logsField (_ : Mark) (level : Option String) (name : String) : EntryUse (Option String) :=
  if name = "level" then setting level.isSome (Yaml.readString "a string") some else .unknown

/-- The section, with its default. -/
def completeLogs (level : Option String) : LogsConfig :=
  let initial : LogsConfig := {}
  { level := level.getD initial.level }

/-- What has been read of the section `defaults`. -/
structure DefaultsParts where
  model : Option (Option String) := none
  stream : Option Bool := none
  parameters : Option Json.Object := none

/-- The settings of the section `defaults`. -/
def defaultsField (since : Mark) (parts : DefaultsParts) (name : String) : EntryUse DefaultsParts :=
  if name = "model" then
    setting parts.model.isSome
      (fun site => Yaml.readOptionalString { site with path := site.path.drop 1 } since site)
      (fun m => { parts with model := some m })
  else if name = "stream" then
    setting parts.stream.isSome Yaml.readBool (fun b => { parts with stream := some b })
  else if name = "parameters" then
    setting parts.parameters.isSome Yaml.readObject (fun o => { parts with parameters := some o })
  else .unknown

/-- The section, with defaults for what was left out. -/
def DefaultsParts.complete (parts : DefaultsParts) : RequestDefaults :=
  let initial : RequestDefaults := {}
  { model := parts.model.getD initial.model
    stream := parts.stream.getD initial.stream
    parameters := parts.parameters.getD initial.parameters }

/-- What has been read of the file. -/
structure Parts where
  endpoint : Option EndpointConfig := none
  logs : Option LogsConfig := none
  defaults : Option RequestDefaults := none

/-- The sections of the file. -/
def sectionField (_ : Mark) (parts : Parts) (name : String) : EntryUse Parts :=
  if name = "endpoint" then
    setting parts.endpoint.isSome
      (Yaml.readRecord "struct EndpointConfig" endpointField {})
      (fun e => { parts with endpoint := some e.complete })
  else if name = "logs" then
    setting parts.logs.isSome
      (Yaml.readRecord "struct LogsConfig" logsField none)
      (fun l => { parts with logs := some (completeLogs l) })
  else if name = "defaults" then
    setting parts.defaults.isSome
      (Yaml.readRecord "struct RequestDefaults" defaultsField {})
      (fun d => { parts with defaults := some d.complete })
  else .unknown

/-- All settings, with defaults for what was left out. -/
def Parts.complete (parts : Parts) : Config :=
  { endpoint := parts.endpoint.getD {}
    logs := parts.logs.getD {}
    defaults := parts.defaults.getD {} }

/-- The settings that a YAML text gives. -/
def ofYaml (text : String) : Except Error Config :=
  if Text.isBlank text.toList then .ok {}
  else
    match Yaml.decode (Yaml.readRecord "struct Config" sectionField {}) text.toList with
    | .ok parts => .ok parts.complete
    | .error e => .error (.yaml e)

end Config

end Relay
