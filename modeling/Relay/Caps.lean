import Relay.Json.Typed

/-!
# Capabilities of an endpoint

An endpoint publishes which models it offers. The document is JSON with a known layout; unknown
members are skipped, some fields may be left out, and every record may also be written as a list of
its fields in order.

The models are kept by name in increasing order, and the last entry of a name wins.
-/

namespace Relay

/-! ## 1. The document -/

/-- What is published about a model. -/
structure CapsModel where
  /-- How many tokens its context holds. -/
  contextSize : Nat
  similarModels : List String := []
  supportsTools : Bool := false
  deriving Repr, DecidableEq

/-- What is published about an endpoint. -/
structure Caps where
  cloudName : String
  models : List (String × CapsModel)
  defaultModel : String
  embeddingModel : String := ""
  deriving Repr, DecidableEq

namespace Caps

/-- The model to use when `requested` was asked for: the advertised one when nothing was. -/
def resolveModel (caps : Caps) (requested : Option String) : String :=
  match requested with
  | some model => if model.isEmpty then caps.defaultModel else model
  | none => caps.defaultModel

/-- The context size of a model. -/
def contextSize? (caps : Caps) (model : String) : Option Nat :=
  (caps.models.lookup model).map CapsModel.contextSize

/-- The models with another entry, in the place of an earlier one of the name. -/
def insertModel (name : String) (model : CapsModel) :
    List (String × CapsModel) → List (String × CapsModel)
  | [] => [(name, model)]
  | (n, m) :: more =>
    if name = n then (name, model) :: more
    else if name < n then (name, model) :: (n, m) :: more
    else (n, m) :: insertModel name model more

/-- The models of entries in some order. -/
def modelsOf (entries : List (String × CapsModel)) : List (String × CapsModel) :=
  entries.foldl (fun models entry => insertModel entry.1 entry.2 models) []

/-! ## 2. Reading -/

open Json (Fault MemberUse Layout Slot)

/-- A field of a record: `seen` tells whether it has been read, `set` puts its value. -/
def field {σ α : Type} (seen : Bool) (read : List Char → Except Fault (α × List Char))
    (set : α → σ) : MemberUse σ :=
  if seen then .repeated else .known (fun s => (read s).map (fun r => (set r.1, r.2)))

/-- A field in its place in a list. -/
def slot {σ α : Type} (optional : Bool) (read : List Char → Except Fault (α × List Char))
    (set : σ → α → σ) : Slot σ :=
  { optional, read := fun state s => (read s).map (fun r => (set state r.1, r.2)) }

/-- What has been read about a model. -/
structure ModelParts where
  contextSize : Option Nat := none
  similarModels : Option (List String) := none
  supportsTools : Option Bool := none

/-- The record about a model. -/
def modelLayout : Layout ModelParts CapsModel where
  start := {}
  name := "struct CapsModel"
  field parts name :=
    if name = "n_ctx" then
      field parts.contextSize.isSome Json.asNatural (fun n => { parts with contextSize := some n })
    else if name = "similar_models" then
      field parts.similarModels.isSome (Json.asList Json.asString)
        (fun l => { parts with similarModels := some l })
    else if name = "supports_tools" then
      field parts.supportsTools.isSome Json.asBool (fun b => { parts with supportsTools := some b })
    else .unknown
  slots :=
    [slot false Json.asNatural (fun parts n => { parts with contextSize := some n }),
     slot true (Json.asList Json.asString) (fun parts l => { parts with similarModels := some l }),
     slot true Json.asBool (fun parts b => { parts with supportsTools := some b })]
  finish parts :=
    match parts.contextSize with
    | none => .error "n_ctx"
    | some contextSize =>
      .ok { contextSize, similarModels := parts.similarModels.getD []
            supportsTools := parts.supportsTools.getD false }

/-- What has been read about an endpoint. -/
structure Parts where
  cloudName : Option String := none
  models : Option (List (String × CapsModel)) := none
  defaultModel : Option String := none
  embeddingModel : Option String := none

/-- The record about an endpoint. -/
def layout : Layout Parts Caps where
  start := {}
  name := "struct Caps"
  field parts name :=
    if name = "cloud_name" then
      field parts.cloudName.isSome Json.asString (fun s => { parts with cloudName := some s })
    else if name = "code_chat_models" then
      field parts.models.isSome (Json.asMap modelLayout.read)
        (fun l => { parts with models := some (modelsOf l) })
    else if name = "code_chat_default_model" then
      field parts.defaultModel.isSome Json.asString (fun s => { parts with defaultModel := some s })
    else if name = "embedding_model" then
      field parts.embeddingModel.isSome Json.asString
        (fun s => { parts with embeddingModel := some s })
    else .unknown
  slots :=
    [slot false Json.asString (fun parts s => { parts with cloudName := some s }),
     slot false (Json.asMap modelLayout.read)
       (fun parts l => { parts with models := some (modelsOf l) }),
     slot false Json.asString (fun parts s => { parts with defaultModel := some s }),
     slot true Json.asString (fun parts s => { parts with embeddingModel := some s })]
  finish parts :=
    match parts.cloudName, parts.models, parts.defaultModel with
    | none, _, _ => .error "cloud_name"
    | _, none, _ => .error "code_chat_models"
    | _, _, none => .error "code_chat_default_model"
    | some cloudName, some models, some defaultModel =>
      .ok { cloudName, models, defaultModel, embeddingModel := parts.embeddingModel.getD "" }

/-- Reads the document. -/
def parse (text : List Char) : Except Json.Located Caps :=
  Json.readAll layout.read text

/-! ## 3. Writing -/

/-- What is published about a model, as a value. -/
def modelValue (model : CapsModel) : Json.Value :=
  .object
    [("n_ctx", .number (.integer model.contextSize)),
     ("similar_models", .array (model.similarModels.map .string)),
     ("supports_tools", .bool model.supportsTools)]

/-- The document as a value. -/
def value (caps : Caps) : Json.Value :=
  .object
    [("cloud_name", .string caps.cloudName),
     ("code_chat_default_model", .string caps.defaultModel),
     ("code_chat_models", .object (caps.models.map (fun entry => (entry.1, modelValue entry.2)))),
     ("embedding_model", .string caps.embeddingModel)]

end Caps

end Relay
