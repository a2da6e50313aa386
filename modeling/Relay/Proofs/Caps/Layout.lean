import Relay.Caps.Fetch
import Relay.Proofs.Entries.Order
import Relay.Proofs.Forwarder.Decoding
import Relay.Proofs.Json.Typed

/-!
# Capabilities however they are written

What is published about an endpoint may be written in many ways: its members and those of each model
in any order, others among them, white space and escapes anywhere, and defaults left out
(`Caps.IsText`). All of them are decoded alike (`Caps.parse_of_isText`), and what is decoded can be
written down and decoded again (`Caps.isText_of_parse`).
-/

namespace Relay

open Json (Field Lists HasMembers IsList SpellsString IsValue Blank Reads Takes Answers)
open Text.Utf8 (encode)

/-! ## 1. Ways of writing -/

/-- Whether a text is a list of strings. -/
def SpellsStrings (text : List Char) (strings : List String) : Prop :=
  ∃ items, IsList text items ∧ List.Forall₂ SpellsString items strings

namespace CapsModel

/-- How the size of the context is written. -/
def sizeField (model : CapsModel) : Field where
  name := "n_ctx"
  Spells := (· = Decimal.digitsOf model.contextSize)
  Lacks := False

/-- How the similar models are written, unless there are none. -/
def similarField (model : CapsModel) : Field where
  name := "similar_models"
  Spells := (SpellsStrings · model.similarModels)
  Lacks := model.similarModels = []

/-- How the support of tools is written, unless there is none. -/
def toolsField (model : CapsModel) : Field where
  name := "supports_tools"
  Spells := (· = (Json.Value.bool model.supportsTools).text)
  Lacks := model.supportsTools = false

/-- The fields of what is published about a model. -/
def fields (model : CapsModel) : List Field :=
  [model.sizeField, model.similarField, model.toolsField]

/-- Whether a text says this about a model. -/
def IsText (model : CapsModel) (text : List Char) : Prop :=
  ∃ members, HasMembers text members ∧ Lists model.fields members

end CapsModel

/-- Whether a text is a map of these models, in any order. -/
def SpellsModels (text : List Char) (models : List (String × CapsModel)) : Prop :=
  ∃ members entries, HasMembers text members ∧ entries.Perm models ∧
    List.Forall₂ (fun member entry => member.1 = entry.1 ∧ entry.2.IsText member.2) members entries

namespace Caps

/-- How the name is written. -/
def nameField (caps : Caps) : Field where
  name := "cloud_name"
  Spells := (SpellsString · caps.cloudName)
  Lacks := False

/-- How the models are written. -/
def modelsField (caps : Caps) : Field where
  name := "code_chat_models"
  Spells := (SpellsModels · caps.models)
  Lacks := False

/-- How the advertised model is written. -/
def defaultField (caps : Caps) : Field where
  name := "code_chat_default_model"
  Spells := (SpellsString · caps.defaultModel)
  Lacks := False

/-- How the embedding model is written, unless there is none. -/
def embeddingField (caps : Caps) : Field where
  name := "embedding_model"
  Spells := (SpellsString · caps.embeddingModel)
  Lacks := caps.embeddingModel = ""

/-- The fields of what is published about an endpoint. -/
def fields (caps : Caps) : List Field :=
  [caps.nameField, caps.modelsField, caps.defaultField, caps.embeddingField]

/-- **Whether a text says this about an endpoint.** -/
def IsText (caps : Caps) (text : List Char) : Prop :=
  ∃ before object behind members, Blank before ∧ Blank behind ∧
    text = before ++ (object ++ behind) ∧ HasMembers object members ∧ Lists caps.fields members

/-- Whether capabilities can be published: no model is named twice, and the sizes are numbers of 64
bits. -/
structure Proper (caps : Caps) : Prop where
  ordered : Ordered caps.models
  sizes : ∀ entry ∈ caps.models, entry.2.contextSize < 2 ^ 64

end Caps

/-! ## 2. Reading a model -/

theorem reads_strings {text : List Char} {strings : List String} (h : SpellsStrings text strings) :
    Reads (Json.asList Json.asString) text strings := by
  obtain ⟨items, hlist, hitems⟩ := h
  exact Json.reads_asList hlist (hitems.imp fun _ _ hspells =>
    ⟨hspells.begins, Json.reads_asString hspells⟩)

/-- **The member of a field is read.** It comes for the first time, so nothing has been read for the
field. -/
theorem takes_listed {σ α β : Type} {fields : List Field} {members done more : List (String × List Char)}
    {names : List String} {text : List Char} {read : List Char → Except Json.Fault (α × List Char)}
    {a : α} {b : β} (field : Field) (hfield : field ∈ fields) (h : Lists fields members)
    (hmembers : members = done ++ (field.name, text) :: more) (hnames : done.map Prod.fst = names)
    (state : σ) (slot : Option β) (hslot : slot = if field.name ∈ names then some b else none)
    (set : α → σ) (hreads : field.Spells text → Reads read text a) :
    Takes text state (Caps.field slot.isSome read set) (set a) := by
  obtain ⟨hspells, hnew⟩ := h.spells field hfield hmembers rfl
  rw [hslot, if_neg (hnames ▸ hnew), Option.isSome_none, Caps.field]
  exact .read ((hreads hspells).map set)

namespace CapsModel

/-- What has been read about a model when members with these names have been taken. -/
def partsOf (model : CapsModel) (names : List String) : Caps.ModelParts where
  contextSize := if "n_ctx" ∈ names then some model.contextSize else none
  similarModels := if "similar_models" ∈ names then some model.similarModels else none
  supportsTools := if "supports_tools" ∈ names then some model.supportsTools else none

variable {model : CapsModel} {members done more : List (String × List Char)}
  {member : String × List Char}

/-- **Each member of a model is taken once**, wherever it stands. -/
theorem takes_member (hsize : model.contextSize < 2 ^ 64) (h : Lists model.fields members)
    (hmembers : members = done ++ member :: more) :
    Takes member.2 (model.partsOf (done.map Prod.fst))
      (Caps.modelLayout.field (model.partsOf (done.map Prod.fst)) member.1)
      (model.partsOf ((done ++ [member]).map Prod.fst)) := by
  obtain ⟨name, text⟩ := member
  rw [List.map_append, List.map_singleton]
  generalize hnames : done.map Prod.fst = names
  by_cases hsizeName : name = "n_ctx"
  · subst hsizeName
    have hmax : Json.maxSignificand = 2 ^ 64 - 1 := rfl
    have htakes := takes_listed model.sizeField (by simp [fields]) h hmembers hnames
      (model.partsOf names) (model.partsOf names).contextSize rfl
      (fun n => { model.partsOf names with contextSize := some n })
      fun hspells => hspells ▸ Json.reads_asNatural (by omega)
    simpa [Caps.modelLayout, partsOf] using htakes
  by_cases hsimilarName : name = "similar_models"
  · subst hsimilarName
    have htakes := takes_listed model.similarField (by simp [fields]) h hmembers hnames
      (model.partsOf names) (model.partsOf names).similarModels rfl
      (fun l => { model.partsOf names with similarModels := some l })
      reads_strings
    simpa [Caps.modelLayout, partsOf] using htakes
  by_cases htoolsName : name = "supports_tools"
  · subst htoolsName
    have htakes := takes_listed model.toolsField (by simp [fields]) h hmembers hnames
      (model.partsOf names) (model.partsOf names).supportsTools rfl
      (fun b => { model.partsOf names with supportsTools := some b })
      fun hspells => hspells ▸ Json.reads_asBool model.supportsTools
    simpa [Caps.modelLayout, partsOf] using htakes
  -- any other name means nothing
  have hother : name ∉ model.fields.map Field.name := by
    simp [fields, sizeField, similarField, toolsField, hsizeName, hsimilarName, htoolsName]
  have hvalue := h.other (name, text) (by simp [hmembers]) hother
  have hsame : model.partsOf (names ++ [name]) = model.partsOf names := by
    simp [partsOf, Ne.symm hsizeName, Ne.symm hsimilarName, Ne.symm htoolsName]
  have hunknown : Caps.modelLayout.field (model.partsOf names) name = .unknown := by
    simp [Caps.modelLayout, hsizeName, hsimilarName, htoolsName]
  rw [hsame, hunknown]
  exact .skipped hvalue

/-- Whatever is left out of a model has its default. -/
theorem finish_partsOf (h : Lists model.fields members) :
    Caps.modelLayout.finish (model.partsOf (members.map Prod.fst)) = .ok model := by
  have hsize : "n_ctx" ∈ members.map Prod.fst :=
    h.mem model.sizeField (by simp [fields]) id
  have hsimilar : (if "similar_models" ∈ members.map Prod.fst then some model.similarModels
      else none).getD [] = model.similarModels := by
    split_ifs with hmem
    · rfl
    · exact (h.lacks model.similarField (by simp [fields]) hmem).symm
  have htools : (if "supports_tools" ∈ members.map Prod.fst then some model.supportsTools
      else none).getD false = model.supportsTools := by
    split_ifs with hmem
    · rfl
    · exact (h.lacks model.toolsField (by simp [fields]) hmem).symm
  simp only [Caps.modelLayout, partsOf, hsize, hsimilar, htools, if_true]

/-- **A model is read however it is written.** -/
theorem reads_of_isText {text : List Char} (hsize : model.contextSize < 2 ^ 64)
    (h : model.IsText text) : Reads Caps.modelLayout.read text model := by
  obtain ⟨members, hmembers, hlists⟩ := h
  exact Json.reads_record model.partsOf hmembers rfl
    (fun _ _ _ heq => takes_member hsize hlists heq) (finish_partsOf hlists)

end CapsModel

/-! ## 3. Reading all -/

/-- Models are put in order by their names. -/
theorem insertModel_eq_entered (name : String) (model : CapsModel)
    (models : List (String × CapsModel)) : Caps.insertModel name model models =
      entered name model models := by
  induction models with
  | nil => rfl
  | cons first more ih => rw [Caps.insertModel, entered, ih]

theorem modelsOf_eq_enteredAll (entries : List (String × CapsModel)) :
    Caps.modelsOf entries = enteredAll entries := by
  have hinsert : (fun (models : List (String × CapsModel)) (entry : String × CapsModel) =>
      Caps.insertModel entry.1 entry.2 models) = fun models entry => entered entry.1 entry.2 models :=
    funext fun models => funext fun entry => insertModel_eq_entered entry.1 entry.2 models
  rw [Caps.modelsOf, hinsert, enteredAll]

namespace Caps

variable {caps : Caps} {members done more : List (String × List Char)}
  {member : String × List Char} {text : List Char}

/-- **The models are read however they are written**, and come to those that are meant. -/
theorem reads_models (hproper : caps.Proper) (h : SpellsModels text caps.models) :
    ∃ entries, modelsOf entries = caps.models ∧ Reads (Json.asMap modelLayout.read) text entries := by
  obtain ⟨members, entries, ⟨items, hobject, hitems⟩, hperm, hentries⟩ := h
  refine ⟨entries, ?_, Json.reads_asMap hobject ?_⟩
  · rw [modelsOf_eq_enteredAll]
    exact enteredAll_of_perm hperm hproper.ordered
  · have hsizes : ∀ entry ∈ entries, entry.2.contextSize < 2 ^ 64 :=
      fun entry hentry => hproper.sizes entry (hperm.subset hentry)
    clear hperm hobject
    induction hentries generalizing items with
    | nil =>
      rw [List.forall₂_nil_right_iff.mp hitems]
      exact .nil
    | @cons member entry members entries hfirst hmore ih =>
      obtain ⟨item, items, hitem, hrest, rfl⟩ := List.forall₂_cons_right_iff.mp hitems
      obtain ⟨hsize, hsizes⟩ := List.forall_mem_cons.mp hsizes
      rw [hfirst.1] at hitem
      exact .cons ⟨_, hitem, CapsModel.reads_of_isText hsize hfirst.2⟩ (ih items hrest hsizes)

/-- What has been read about an endpoint when members with these names have been taken. -/
def partsOf (caps : Caps) (names : List String) : Parts where
  cloudName := if "cloud_name" ∈ names then some caps.cloudName else none
  models := if "code_chat_models" ∈ names then some caps.models else none
  defaultModel := if "code_chat_default_model" ∈ names then some caps.defaultModel else none
  embeddingModel := if "embedding_model" ∈ names then some caps.embeddingModel else none

/-- **Each member is taken once**, wherever it stands. -/
theorem takes_member (hproper : caps.Proper) (h : Lists caps.fields members)
    (hmembers : members = done ++ member :: more) :
    Takes member.2 (caps.partsOf (done.map Prod.fst))
      (layout.field (caps.partsOf (done.map Prod.fst)) member.1)
      (caps.partsOf ((done ++ [member]).map Prod.fst)) := by
  obtain ⟨name, text⟩ := member
  rw [List.map_append, List.map_singleton]
  generalize hnames : done.map Prod.fst = names
  by_cases hcloudName : name = "cloud_name"
  · subst hcloudName
    have htakes := takes_listed caps.nameField (by simp [fields]) h hmembers hnames
      (caps.partsOf names) (caps.partsOf names).cloudName rfl
      (fun s => { caps.partsOf names with cloudName := some s })
      Json.reads_asString
    simpa [layout, partsOf] using htakes
  by_cases hmodelsName : name = "code_chat_models"
  · subst hmodelsName
    obtain ⟨hspells, -⟩ := h.spells caps.modelsField (by simp [fields]) hmembers rfl
    obtain ⟨entries, hentries, hreads⟩ := reads_models hproper hspells
    have htakes := takes_listed caps.modelsField (by simp [fields]) h hmembers hnames
      (caps.partsOf names) (caps.partsOf names).models rfl
      (fun l => { caps.partsOf names with models := some (modelsOf l) })
      fun _ => hreads
    simpa [layout, partsOf, hentries] using htakes
  by_cases hdefaultName : name = "code_chat_default_model"
  · subst hdefaultName
    have htakes := takes_listed caps.defaultField (by simp [fields]) h hmembers hnames
      (caps.partsOf names) (caps.partsOf names).defaultModel rfl
      (fun s => { caps.partsOf names with defaultModel := some s })
      Json.reads_asString
    simpa [layout, partsOf] using htakes
  by_cases hembeddingName : name = "embedding_model"
  · subst hembeddingName
    have htakes := takes_listed caps.embeddingField (by simp [fields]) h hmembers hnames
      (caps.partsOf names) (caps.partsOf names).embeddingModel rfl
      (fun s => { caps.partsOf names with embeddingModel := some s })
      Json.reads_asString
    simpa [layout, partsOf] using htakes
  -- any other name means nothing
  have hother : name ∉ caps.fields.map Field.name := by
    simp [fields, nameField, modelsField, defaultField, embeddingField, hcloudName, hmodelsName,
      hdefaultName, hembeddingName]
  have hvalue := h.other (name, text) (by simp [hmembers]) hother
  have hsame : caps.partsOf (names ++ [name]) = caps.partsOf names := by
    simp [partsOf, Ne.symm hcloudName, Ne.symm hmodelsName, Ne.symm hdefaultName,
      Ne.symm hembeddingName]
  have hunknown : layout.field (caps.partsOf names) name = .unknown := by
    simp [layout, hcloudName, hmodelsName, hdefaultName, hembeddingName]
  rw [hsame, hunknown]
  exact .skipped hvalue

/-- Whatever is left out has its default. -/
theorem finish_partsOf (h : Lists caps.fields members) :
    layout.finish (caps.partsOf (members.map Prod.fst)) = .ok caps := by
  have hname : "cloud_name" ∈ members.map Prod.fst :=
    h.mem caps.nameField (by simp [fields]) id
  have hmodels : "code_chat_models" ∈ members.map Prod.fst :=
    h.mem caps.modelsField (by simp [fields]) id
  have hdefault : "code_chat_default_model" ∈ members.map Prod.fst :=
    h.mem caps.defaultField (by simp [fields]) id
  have hembedding : (if "embedding_model" ∈ members.map Prod.fst then some caps.embeddingModel
      else none).getD "" = caps.embeddingModel := by
    split_ifs with hmem
    · rfl
    · exact (h.lacks caps.embeddingField (by simp [fields]) hmem).symm
  simp only [layout, partsOf, hname, hmodels, hdefault, hembedding, if_true]

/-- **Capabilities are decoded however they are written.** -/
theorem parse_of_isText (hproper : caps.Proper) (h : caps.IsText text) : parse text = .ok caps := by
  obtain ⟨before, object, behind, members, hbefore, hbehind, rfl, hmembers, hlists⟩ := h
  have hreads : Reads layout.read object caps := Json.reads_record caps.partsOf hmembers rfl
    (fun _ _ _ heq => takes_member hproper hlists heq) (finish_partsOf hlists)
  have hread := hreads before behind hbefore hbehind.endsNumeral
  have hspace : Json.skipSpace behind = [] := List.dropWhile_eq_nil_iff.mpr hbehind
  simp only [parse, Json.readAll, hread, Json.expectEnd, hspace]

end Caps

/-! ## 4. What is decoded -/

theorem answers_field {σ α : Type} {seen : Bool} {reader : List Char → Except Json.Fault (α × List Char)}
    {set : α → σ} {read : List Char → Except Json.Fault (σ × List Char)} {P : σ → Prop} {Q : α → Prop}
    (h : Caps.field seen reader set = .known read) (hreader : Answers reader Q)
    (hset : ∀ a, Q a → P (set a)) : Answers read P := by
  unfold Caps.field at h
  split_ifs at h
  obtain rfl := Json.MemberUse.known.inj h
  exact hreader.map hset

theorem answers_slot {σ α : Type} {optional : Bool}
    {reader : List Char → Except Json.Fault (α × List Char)} {set : σ → α → σ} {P : σ → Prop}
    {Q : α → Prop} (hreader : Answers reader Q) (hset : ∀ state a, P state → Q a → P (set state a)) :
    ∀ state, P state → Answers ((Caps.slot optional reader set).read state) P :=
  fun state hstate => hreader.map fun a ha => hset state a hstate ha

theorem answers_any {α : Type} (read : List Char → Except Json.Fault (α × List Char)) :
    Answers read fun _ => True :=
  fun _ _ _ _ => trivial

/-- **The size of every model that is decoded is a number of 64 bits.** -/
theorem answers_model :
    Answers Caps.modelLayout.read fun model => model.contextSize ≤ Json.maxSignificand := by
  let P (parts : Caps.ModelParts) : Prop := ∀ n ∈ parts.contextSize, n ≤ Json.maxSignificand
  refine Json.answers_record (P := P) nofun (fun state name read hstate hknown => ?_) ?_
    fun state model hstate hfinish => ?_
  · simp only [Caps.modelLayout] at hknown
    split_ifs at hknown
    · exact answers_field hknown Json.answers_asNatural fun n hn k hk => Option.some.inj hk ▸ hn
    · exact answers_field hknown (answers_any _) fun _ _ => hstate
    · exact answers_field hknown (answers_any _) fun _ _ => hstate
  · intro slot hslot
    simp only [Caps.modelLayout, List.mem_cons, List.not_mem_nil, or_false] at hslot
    rcases hslot with rfl | rfl | rfl
    · exact answers_slot Json.answers_asNatural fun _ n _ hn k hk => Option.some.inj hk ▸ hn
    · exact answers_slot (answers_any _) fun _ _ hstate _ => hstate
    · exact answers_slot (answers_any _) fun _ _ hstate _ => hstate
  · simp only [Caps.modelLayout] at hfinish
    split at hfinish
    · cases hfinish
    · rename_i size hsize
      obtain rfl := Except.ok.inj hfinish
      exact hstate size hsize

namespace Caps

/-- **What is decoded can be published.** -/
theorem proper_of_parse {text : List Char} {caps : Caps} (h : parse text = .ok caps) : caps.Proper := by
  let P (parts : Parts) : Prop := ∀ models ∈ parts.models,
    Ordered models ∧ ∀ entry ∈ models, entry.2.contextSize ≤ Json.maxSignificand
  have hmodels (entries : List (String × CapsModel))
      (hentries : ∀ entry ∈ entries, entry.2.contextSize ≤ Json.maxSignificand) :
      Ordered (modelsOf entries) ∧
        ∀ entry ∈ modelsOf entries, entry.2.contextSize ≤ Json.maxSignificand := by
    rw [modelsOf_eq_enteredAll]
    obtain ⟨hordered, hmem⟩ := ordered_enteredAll entries
    exact ⟨hordered, fun entry hentry => hentries entry (hmem entry hentry)⟩
  have hanswers : Answers layout.read Proper := by
    refine Json.answers_record (P := P) nofun (fun state name read hstate hknown => ?_) ?_
      fun state caps hstate hfinish => ?_
    · simp only [layout] at hknown
      split_ifs at hknown
      · exact answers_field hknown (answers_any _) fun _ _ => hstate
      · exact answers_field hknown (Json.answers_asMap answers_model)
          fun entries hentries _ heq => Option.some.inj heq ▸ hmodels entries hentries
      · exact answers_field hknown (answers_any _) fun _ _ => hstate
      · exact answers_field hknown (answers_any _) fun _ _ => hstate
    · intro slot hslot
      simp only [layout, List.mem_cons, List.not_mem_nil, or_false] at hslot
      rcases hslot with rfl | rfl | rfl | rfl
      · exact answers_slot (answers_any _) fun _ _ hstate _ => hstate
      · exact answers_slot (Json.answers_asMap answers_model)
          fun _ entries _ hentries _ heq => Option.some.inj heq ▸ hmodels entries hentries
      · exact answers_slot (answers_any _) fun _ _ hstate _ => hstate
      · exact answers_slot (answers_any _) fun _ _ hstate _ => hstate
    · simp only [layout] at hfinish
      split at hfinish
      · cases hfinish
      · cases hfinish
      · cases hfinish
      · rename_i cloudName models defaultModel hname hsome hdefault
        obtain rfl := Except.ok.inj hfinish
        obtain ⟨hordered, hsizes⟩ := hstate models hsome
        have hmax : Json.maxSignificand = 2 ^ 64 - 1 := rfl
        refine ⟨hordered, fun entry hentry => ?_⟩
        have hsize := hsizes entry hentry
        omega
  unfold parse Json.readAll at h
  split at h
  · cases h
  · rename_i a rest hread
    split at h
    · cases h
    · obtain rfl := Except.ok.inj h
      exact hanswers text a rest hread

end Caps

/-! ## 5. What is written -/

theorem spellsStrings_text (strings : List String) :
    SpellsStrings (Json.Value.array (strings.map .string)).text strings := by
  refine ⟨_, Json.isList_text _, ?_⟩
  rw [List.map_map, List.forall₂_map_left_iff, List.forall₂_same]
  intro s _
  simp only [Function.comp_apply, Json.Value.text]
  exact Json.spellsString_stringText s

/-- **What is written about a model says it.** -/
theorem CapsModel.isText_value (model : CapsModel) : model.IsText (Caps.modelValue model).text := by
  have hsize : model.sizeField.Spells
      (Json.Value.number (.integer model.contextSize)).text := by
    simp [sizeField, Json.Value.text, Json.Number.text, Json.integerText]
  have hdistinct : ["n_ctx", "similar_models", "supports_tools"].Nodup := by decide
  refine ⟨_, Json.hasMembers_text _, Json.lists_of_fields model.fields ?_ hdistinct⟩
  exact .cons ⟨rfl, hsize⟩ (.cons ⟨rfl, spellsStrings_text _⟩ (.cons ⟨rfl, rfl⟩ .nil))

namespace Caps

theorem spellsModels_text (models : List (String × CapsModel)) : SpellsModels
    (Json.Value.object (models.map fun entry => (entry.1, modelValue entry.2))).text models := by
  refine ⟨_, models, Json.hasMembers_text _, .refl _, ?_⟩
  rw [List.map_map, List.forall₂_map_left_iff, List.forall₂_same]
  exact fun entry _ => ⟨rfl, entry.2.isText_value⟩

/-- **What is written says what was published.** -/
theorem isText_value (caps : Caps) : caps.IsText caps.value.text := by
  have hname : caps.nameField.Spells (Json.Value.string caps.cloudName).text := by
    rw [Json.Value.text]
    exact Json.spellsString_stringText caps.cloudName
  have hdefault : caps.defaultField.Spells (Json.Value.string caps.defaultModel).text := by
    rw [Json.Value.text]
    exact Json.spellsString_stringText caps.defaultModel
  have hembedding : caps.embeddingField.Spells (Json.Value.string caps.embeddingModel).text := by
    rw [Json.Value.text]
    exact Json.spellsString_stringText caps.embeddingModel
  let written := [caps.nameField, caps.defaultField, caps.modelsField, caps.embeddingField]
  have hperm : written.Perm caps.fields := .cons _ (.swap ..)
  have hdistinct : ["cloud_name", "code_chat_default_model", "code_chat_models",
      "embedding_model"].Nodup := by decide
  refine ⟨[], caps.value.text, [], _, Json.blank_nil, Json.blank_nil, by simp,
    Json.hasMembers_text _, (Json.lists_of_fields written ?_ hdistinct).of_perm hperm⟩
  exact .cons ⟨rfl, hname⟩ (.cons ⟨rfl, hdefault⟩ (.cons ⟨rfl, spellsModels_text _⟩
    (.cons ⟨rfl, hembedding⟩ .nil)))

/-! ## 6. Fetching -/

/-- When a message is read and answered with status 200, the answer arrives. -/
theorem arrival_of_sent (built : Except TransportCause Http.Message) {response : Http.Response}
    (hstatus : response.status = 200)
    (hsent : (Http.exchange built (.answered response)).message.isSome = true) :
    (Http.exchange built (.answered response)).arrival = .response response := by
  unfold Http.exchange at hsent ⊢
  split at hsent
  · cases hsent
  · simp [Http.Message.send, Http.Response.arrival, Http.Response.hasStatus,
      Http.Response.isPreliminary, hstatus]

/-- Capabilities begin with white space or a bracket, and with no byte order mark. -/
theorem IsText.head_ne {caps : Caps} {text : List Char} (h : caps.IsText text) :
    text.head? ≠ some '\uFEFF' := by
  obtain ⟨before, object, behind, members, hbefore, -, rfl, ⟨items, ⟨inside, -, rfl⟩, -⟩, -⟩ := h
  cases before with
  | nil => simp
  | cons first more =>
    intro hmark
    obtain rfl := Option.some.inj hmark
    exact absurd (hbefore _ List.mem_cons_self) (by decide)

/-- **What is fetched is what was published**, when the answer arrives. -/
theorem result_of_fetch {caps : Caps} {text : List Char} (hproper : caps.Proper)
    (h : caps.IsText text) {response : Http.Response} (hholds : response.Holds (encode text))
    (hcharset : Http.charsetOf response.contentType = .utf8) {baseUrl : String}
    (hsent : (fetch baseUrl (.answered response)).message.isSome = true) :
    (fetch baseUrl (.answered response)).result = some (.ok caps) := by
  have harrival := arrival_of_sent (Http.Message.start .get (address baseUrl)) hholds.status
    (by simpa only [fetch] using hsent)
  have hwhole : response.whole = .text text := by
    rw [response.whole_eq, hholds.complete, Http.Response.text_of_utf8 hcharset hholds.bytes h.head_ne]
  have hstatus : ¬response.status ≠ 200 := not_not.mpr hholds.status
  simp only [fetch, harrival, arrive, take, hwhole, if_neg hstatus, parse_of_isText hproper h,
    Except.mapError]

/-! ## 7. All layouts -/

/-- **Decoding does not depend on the layout.**

Take capabilities that can be published, and any text that says them: the members of the top object
and of each model in any order, with any other members among them, and with or without those that
have their default. The text is decoded to these capabilities; and so they are the result of fetching,
when an answer with status 200 arrives and brings the text in UTF-8.

What is decoded from any text can be published. The text that is written for it is one of those that
say it, so decoding is undone by writing. -/
theorem unmoved_by_layout :
    (∀ (caps : Caps) (text : List Char), caps.Proper → caps.IsText text →
      parse text = .ok caps ∧
        ∀ (baseUrl : String) (response : Http.Response), response.Holds (encode text) →
          Http.charsetOf response.contentType = .utf8 →
          (fetch baseUrl (.answered response)).message.isSome = true →
          (fetch baseUrl (.answered response)).result = some (.ok caps)) ∧
      ∀ (text : List Char) (caps : Caps), parse text = .ok caps →
        caps.Proper ∧ caps.IsText caps.value.text ∧ parse caps.value.text = .ok caps := by
  refine ⟨fun caps text hproper htext => ⟨parse_of_isText hproper htext, ?_⟩, fun text caps hparse => ?_⟩
  · exact fun baseUrl response hholds hcharset hsent =>
      result_of_fetch hproper htext hholds hcharset hsent
  · have hproper := proper_of_parse hparse
    exact ⟨hproper, caps.isText_value, parse_of_isText hproper caps.isText_value⟩

/-- Another member in front of the known ones, an escape in a name, and a model without its
defaults. -/
theorem unmoved_by_layout_shuffled :
    let caps : Caps :=
      { cloudName := "A", models := [("m", { contextSize := 5, supportsTools := true })]
        defaultModel := "m" }
    let model := "\x7b\"supports_tools\":true,\"n_ctx\":5\x7d"
    let text := "\x7b\"x\": [\x7b\x7d, -1.5e3],\"code_chat_default_model\":\"m\"," ++
      "\"code_chat_models\":\x7b\"m\":" ++ model ++ "\x7d,\"cloud_name\":\"\\u0041\"\x7d "
    caps.Proper ∧ caps.IsText text.toList ∧ parse text.toList = .ok caps := by
  intro caps model text
  have hmember (name : String) (value : List Char) :
      Json.IsMember (SpellsString · name) (Json.stringText name.toList ++ ':' :: value) value :=
    ⟨_, [], [], Json.spellsString_stringText name, Json.blank_nil, Json.blank_nil, rfl⟩
  have hproper : caps.Proper := ⟨List.pairwise_singleton _ _, by decide⟩
  have hnumber : Json.IsNumeral "1.5e3".toList :=
    ⟨['1'], ['.', '5'], ['e', '3'], ⟨by decide, by decide⟩, .inr ⟨['5'], by decide, rfl⟩,
      .inr ⟨'e', [], ['3'], .inl rfl, .inl rfl, by decide, rfl⟩, by decide⟩
  have hspace : Blank [' '] := by decide
  have hbraces : Json.IsObject "\x7b\x7d".toList [] := ⟨[], .ends Json.blank_nil, by decide⟩
  have hempty : IsValue "\x7b\x7d".toList := .object hbraces .nil nofun
  have hlist : IsList "[\x7b\x7d, -1.5e3]".toList ["\x7b\x7d".toList, '-' :: "1.5e3".toList] :=
    ⟨_, .first Json.blank_nil (.later Json.blank_nil hspace (.ends Json.blank_nil)), by decide⟩
  have hother : IsValue "[\x7b\x7d, -1.5e3]".toList :=
    .list hlist (by simpa using ⟨hempty, .negative hnumber⟩)
  have hcloudName : SpellsString "\"\\u0041\"".toList "A" :=
    ⟨"\\u0041".toList, .cons (.number (by decide)) .nil, by decide⟩
  have hdefault : SpellsString "\"m\"".toList "m" := Json.spellsString_stringText "m"
  let entry : CapsModel := { contextSize := 5, supportsTools := true }
  have hsize : "5".toList = Decimal.digitsOf entry.contextSize := by decide
  have htools : "true".toList = (Json.Value.bool entry.supportsTools).text := rfl
  have hmodel : entry.IsText model.toList := by
    refine ⟨[("supports_tools", "true".toList), ("n_ctx", "5".toList)], ⟨_, ⟨_, .first Json.blank_nil
      (.later Json.blank_nil Json.blank_nil (.ends Json.blank_nil)), by decide⟩,
      .cons (hmember _ _) (.cons (hmember _ _) .nil)⟩, fun field hfield => ?_, ?_⟩
    · simp only [CapsModel.fields, List.mem_cons, List.not_mem_nil, or_false] at hfield
      rcases hfield with rfl | rfl | rfl
      · exact .inl ⟨"5".toList, hsize, by decide⟩
      · exact .inr ⟨rfl, by decide⟩
      · exact .inl ⟨"true".toList, htools, by decide⟩
    · simp [entry, CapsModel.fields, CapsModel.toolsField, CapsModel.sizeField]
  have hmodels : SpellsModels ("\x7b\"m\":" ++ model ++ "\x7d").toList caps.models :=
    ⟨[("m", model.toList)], caps.models, ⟨_, ⟨_, .first Json.blank_nil (.ends Json.blank_nil), by decide⟩,
      .cons (hmember _ _) .nil⟩, .refl _, .cons ⟨rfl, hmodel⟩ .nil⟩
  have htext : caps.IsText text.toList := by
    refine ⟨[], _, [' '], [("x", "[\x7b\x7d, -1.5e3]".toList),
      ("code_chat_default_model", "\"m\"".toList),
      ("code_chat_models", ("\x7b\"m\":" ++ model ++ "\x7d").toList),
      ("cloud_name", "\"\\u0041\"".toList)], Json.blank_nil, hspace, ?_,
      ⟨_, ⟨_, .first Json.blank_nil (.later Json.blank_nil Json.blank_nil
        (.later Json.blank_nil Json.blank_nil (.later Json.blank_nil Json.blank_nil
          (.ends Json.blank_nil)))), rfl⟩,
      .cons ⟨_, [], [' '], Json.spellsString_stringText "x", Json.blank_nil, hspace, rfl⟩
        (.cons (hmember _ _) (.cons (hmember _ _) (.cons (hmember _ _) .nil)))⟩,
      fun field hfield => ?_, ?_⟩
    · decide +kernel
    · simp only [fields, List.mem_cons, List.not_mem_nil, or_false] at hfield
      rcases hfield with rfl | rfl | rfl | rfl
      · exact .inl ⟨_, hcloudName, by decide⟩
      · exact .inl ⟨_, hmodels, by decide⟩
      · exact .inl ⟨_, hdefault, by decide⟩
      · exact .inr ⟨rfl, by decide⟩
    · simpa [fields, nameField, modelsField, defaultField, embeddingField] using hother
  obtain ⟨hparse, -⟩ := unmoved_by_layout.1 caps text.toList hproper htext
  exact ⟨hproper, htext, hparse⟩

end Caps

end Relay
