import Relay.Proofs.Config.Scanned
import Relay.Proofs.Json.Proper
import Relay.Proofs.Yaml.Reading

/-!
# Settings and their defaults

A file may set any of the settings and leave out the others. Such a `Choice` is listed by sections,
each of which lists what is chosen in it (`Choice.Lists`), in whatever order; every choice is listed
so by some (`Choice.exists_lists`). Every section is read to what it lists (`reads_endpoint`,
`reads_logs`, `reads_defaults`), and the file to what is chosen, with the default of every other
setting (`ofYaml_of_spells`).
-/

namespace Relay.Config

open Yaml (Decode EntryUse Mark Node Reads ScalarStyle Site)

/-! ## 1. Choices -/

/-- What a file sets: a value for some of the settings. -/
abbrev Choice := (key : Key) → Option key.Value

namespace Choice

/-- The settings are those that are chosen in a section, each of them once. -/
structure Fills (choice : Choice) (home : Section) (settings : List Setting) : Prop where
  keys : (settings.map Setting.key).Nodup
  mem_iff : ∀ key value, ⟨key, value⟩ ∈ settings ↔ key.home = home ∧ choice key = some value

/-- **The sections list a choice.** Each of them is there once, filled with what is chosen in it. None
is empty, and none is left out in which something is chosen. -/
structure Lists (choice : Choice) (blocks : List Block) : Prop where
  homes : (blocks.map Block.home).Nodup
  fills : ∀ block ∈ blocks, choice.Fills block.home block.settings
  settings_ne : ∀ block ∈ blocks, block.settings ≠ []
  covers : ∀ key value, choice key = some value → key.home ∈ blocks.map Block.home

/-- The part of a choice that sets these keys. -/
def only (choice : Choice) (keys : List Key) : Choice :=
  fun key => if key ∈ keys then choice key else none

variable {choice : Choice} {keys : List Key} {key other : Key}

theorem only_of_not_mem (h : key ∉ keys) : choice.only keys key = none := if_neg h

theorem only_concat_self : choice.only (keys ++ [key]) key = choice key :=
  if_pos (List.mem_append_right _ (List.mem_singleton_self key))

theorem only_concat_of_ne (h : other ≠ key) :
    choice.only (keys ++ [key]) other = choice.only keys other := by
  simp [only, h]

/-- The keys of a filled section are all that is chosen in it. -/
theorem Fills.only_eq {home : Section} {settings : List Setting} (h : choice.Fills home settings)
    (key : Key) (hkey : key.home = home) : choice.only (settings.map Setting.key) key = choice key := by
  rw [only]
  split
  · rfl
  · rename_i hnot
    cases hvalue : choice key with
    | none => rfl
    | some value =>
      exact absurd (List.mem_map_of_mem ((h.mem_iff key value).mpr ⟨hkey, hvalue⟩)) hnot

/-- A setting of a filled section is new behind those before it. -/
theorem Fills.fresh {home : Section} {settings done more : List Setting} {value : key.Value}
    (h : choice.Fills home settings) (hsettings : settings = done ++ ⟨key, value⟩ :: more) :
    key.home = home ∧ choice key = some value ∧ key ∉ done.map Setting.key := by
  have hmem : ⟨key, value⟩ ∈ settings := by simp [hsettings]
  obtain ⟨hhome, hvalue⟩ := (h.mem_iff key value).mp hmem
  have hkeys := h.keys
  rw [hsettings, List.map_append, List.map_cons, List.nodup_append] at hkeys
  exact ⟨hhome, hvalue, fun hdone => hkeys.2.2 key hdone key List.mem_cons_self rfl⟩

/-- What is chosen in a section. -/
def settings (choice : Choice) (home : Section) : List Setting :=
  ([.baseUrl, .tokenEnv, .level, .model, .stream, .parameters].filter fun key => key.home = home).filterMap
    fun key => (choice key).map (Setting.mk key)

theorem fills_settings (choice : Choice) (home : Section) :
    choice.Fills home (choice.settings home) where
  keys := by
    rw [settings, List.Nodup, List.pairwise_map, List.pairwise_filterMap]
    refine List.Pairwise.imp ?_ (List.Pairwise.filter _ (show List.Nodup _ by decide))
    intro key other hne first hfirst second hsecond
    obtain ⟨value, -, rfl⟩ := Option.map_eq_some_iff.mp hfirst
    obtain ⟨value', -, rfl⟩ := Option.map_eq_some_iff.mp hsecond
    exact hne
  mem_iff := by
    intro key value
    rw [settings, List.mem_filterMap]
    constructor
    · rintro ⟨other, hother, hvalue⟩
      obtain ⟨_, hvalue, ⟨⟩⟩ := Option.map_eq_some_iff.mp hvalue
      exact ⟨of_decide_eq_true (List.mem_filter.mp hother).2, hvalue⟩
    · rintro ⟨hhome, hvalue⟩
      refine ⟨key, List.mem_filter.mpr ⟨?_, decide_eq_true hhome⟩, by rw [hvalue]; rfl⟩
      cases key <;> decide

/-- **Every choice is listed by some sections.** -/
theorem exists_lists (choice : Choice) : ∃ blocks, choice.Lists blocks := by
  let all : List Block := [.endpoint, .logs, .defaults].map fun home => ⟨home, choice.settings home⟩
  refine ⟨all.filter fun block => !block.settings.isEmpty, ?_, ?_, ?_, ?_⟩
  · have hall : (all.map Block.home).Nodup :=
      show [Section.endpoint, .logs, .defaults].Nodup by decide
    exact (List.filter_sublist.map Block.home).nodup hall
  · intro block hblock
    obtain ⟨home, -, rfl⟩ := List.mem_map.mp (List.mem_filter.mp hblock).1
    exact choice.fills_settings home
  · intro block hblock hempty
    have hsome := (List.mem_filter.mp hblock).2
    rw [hempty] at hsome
    cases hsome
  · intro key value hvalue
    have hmem := ((choice.fills_settings key.home).mem_iff key value).mpr ⟨rfl, hvalue⟩
    refine List.mem_map.mpr ⟨⟨key.home, choice.settings key.home⟩, List.mem_filter.mpr ⟨?_, ?_⟩, rfl⟩
    · exact List.mem_map_of_mem (by cases key <;> decide)
    · simpa using List.ne_nil_of_mem hmem

end Choice

/-! ## 2. Settings are read -/

/-- A setting that has not been read is known, and is put to the others. -/
theorem known_setting {σ α : Type} {depth : Nat} {read : Site → Node → Decode α} {set : α → σ}
    {seen : Bool} {use : EntryUse σ} {a : α} {after : σ} {P : Node → Prop}
    (huse : use = setting seen read set) (hseen : seen = false) (hafter : set a = after)
    (hread : ∀ node, P node → Reads depth read a node) :
    ∃ read', use = .known read' ∧ ∀ node, P node → Reads depth read' after node := by
  subst huse hseen hafter
  exact ⟨_, rfl, fun node hnode => (hread node hnode).map set⟩

/-- What parameters are read to. -/
def objectOf (members : List (String × Param)) : Json.Object :=
  .ofList (members.map fun member => (member.1, member.2.value))

theorem reads_text {value : String} {style : ScalarStyle} {node : Node}
    (hnode : node.IsText value.toList style) (expected : String) :
    Reads 1 (Yaml.readString expected) value node := by
  have hread : Reads 0 (Yaml.readString expected) (String.ofList value.toList) node :=
    Yaml.reads_string hnode expected
  rw [String.ofList_toList] at hread
  exact hread.mono (Nat.zero_le 1)

theorem reads_model {value : String} {style : ScalarStyle} {node : Node}
    (hnode : node.IsText value.toList style) (hstyle : style ≠ .plain) (outer : Site → Site)
    (since : Mark) :
    Reads 1 (fun site => Yaml.readOptionalString (outer site) since site) (some value) node := by
  have hread := Yaml.reads_optionalString hnode hstyle outer since
  rw [String.ofList_toList] at hread
  exact hread.mono (Nat.zero_le 1)

theorem reads_stream {b : Bool} {node : Node} (hnode : node.IsText (boolText b) .plain) :
    Reads 1 Yaml.readBool b node := by
  have hword : Yaml.boolWord? (boolText b) = some b := by cases b <;> rfl
  exact (Yaml.reads_bool hnode b rfl hword).mono (Nat.zero_le 1)

/-- A parameter means its value. -/
theorem Param.means {param : Param} (hparam : param.IsAllowed) :
    (if param.style = .plain then Yaml.Meaning.ofPlain param.content
      else .string param.content).value = some param.value := by
  cases param with
  | null => rfl
  | bool b => cases b <;> rfl
  | integer n =>
    have hmeaning : Yaml.Meaning.ofPlain (Json.integerText n) = .integer n :=
      Yaml.ofPlain_integerText hparam.1 hparam.2
    exact congrArg Yaml.Meaning.value hmeaning
  | string text => exact congrArg (some ∘ Json.Value.string) String.ofList_toList

/-- **The parameters are read to an object.** -/
theorem reads_parameters {members : List (String × Param)} {node : Node}
    (hallows : ∀ member ∈ members, member.2.IsAllowed)
    (hnode : node.IsMapping (members.map memberEntry)) :
    Reads 1 Yaml.readObject (objectOf members) node := by
  have hmembers : ((members.map memberEntry).map fun entry => String.ofList entry.name).zip
      (members.map fun member => member.2.value) =
        members.map fun member => (member.1, member.2.value) := by
    simp [List.zip_map', memberEntry]
  have hread : Reads (0 + 1) Yaml.readObject _ node := Yaml.reads_object hnode fun inner =>
    List.forall₂_map_left_iff.mpr (List.forall₂_map_right_iff.mpr (List.forall₂_same.mpr
      fun member hmember node hnode =>
        Yaml.reads_value hnode inner (Param.means (hallows member hmember))))
  rw [hmembers] at hread
  exact hread

/-! ## 3. Sections are read -/

namespace Choice

/-- What is read of the section `endpoint`. -/
def endpoint (choice : Choice) : EndpointParts where
  baseUrl := choice .baseUrl
  tokenEnv := choice .tokenEnv

/-- What is read of the section `defaults`. -/
def defaults (choice : Choice) : DefaultsParts where
  model := (choice .model).map some
  stream := choice .stream
  parameters := (choice .parameters).map objectOf

end Choice

theorem Setting.ofList_name (setting : Setting) :
    String.ofList setting.entry.name = setting.key.name := String.ofList_toList

section Block

variable {choice : Choice} {settings : List Setting} {node : Node}
  (hnode : node.IsMapping (settings.map Setting.entry))

include hnode

theorem reads_endpoint (hfills : choice.Fills .endpoint settings) :
    Reads 2 (Yaml.readRecord "struct EndpointConfig" endpointField {}) choice.endpoint node := by
  let state (done : List Setting) : EndpointParts := (choice.only (done.map Setting.key)).endpoint
  have hall : state settings = choice.endpoint := by
    simp only [state, Choice.endpoint, hfills.only_eq .baseUrl rfl, hfills.only_eq .tokenEnv rfl]
  rw [← hall]
  refine Yaml.reads_record state hnode fun since done setting more hsettings => ?_
  rw [setting.ofList_name]
  obtain ⟨key, value⟩ := setting
  obtain ⟨hhome, hvalue, hnew⟩ := hfills.fresh hsettings
  cases key with
  | baseUrl =>
    have huse : endpointField since (state done) "base_url" =
        Config.setting (state done).baseUrl.isSome (Yaml.readString "a string")
          (fun text => { state done with baseUrl := some text }) := rfl
    have hafter : { state done with baseUrl := some value } =
        state (done ++ [⟨.baseUrl, value⟩]) := by
      simp [state, Choice.endpoint, Choice.only_concat_self, Choice.only_concat_of_ne, hvalue]
    exact known_setting huse (congrArg Option.isSome (Choice.only_of_not_mem hnew)) hafter
      fun node hnode => reads_text hnode "a string"
  | tokenEnv =>
    have huse : endpointField since (state done) "token_env" =
        Config.setting (state done).tokenEnv.isSome (Yaml.readString "a string")
          (fun text => { state done with tokenEnv := some text }) := rfl
    have hafter : { state done with tokenEnv := some value } =
        state (done ++ [⟨.tokenEnv, value⟩]) := by
      simp [state, Choice.endpoint, Choice.only_concat_self, Choice.only_concat_of_ne, hvalue]
    exact known_setting huse (congrArg Option.isSome (Choice.only_of_not_mem hnew)) hafter
      fun node hnode => reads_text hnode "a string"
  | level => cases hhome
  | model => cases hhome
  | stream => cases hhome
  | parameters => cases hhome

theorem reads_logs (hfills : choice.Fills .logs settings) :
    Reads 2 (Yaml.readRecord "struct LogsConfig" logsField none) (choice .level) node := by
  let state (done : List Setting) : Option String := choice.only (done.map Setting.key) .level
  have hall : state settings = choice .level := hfills.only_eq .level rfl
  rw [← hall]
  refine Yaml.reads_record state hnode fun since done setting more hsettings => ?_
  rw [setting.ofList_name]
  obtain ⟨key, value⟩ := setting
  obtain ⟨hhome, hvalue, hnew⟩ := hfills.fresh hsettings
  cases key with
  | level =>
    have huse : logsField since (state done) "level" =
        Config.setting (state done).isSome (Yaml.readString "a string") some := rfl
    have hafter : some value = state (done ++ [⟨.level, value⟩]) := by
      simp [state, Choice.only_concat_self, hvalue]
    exact known_setting huse (congrArg Option.isSome (Choice.only_of_not_mem hnew)) hafter
      fun node hnode => reads_text hnode "a string"
  | baseUrl => cases hhome
  | tokenEnv => cases hhome
  | model => cases hhome
  | stream => cases hhome
  | parameters => cases hhome

theorem reads_defaults (hfills : choice.Fills .defaults settings)
    (hallows : ∀ key value, choice key = some value → key.Allows value) :
    Reads 2 (Yaml.readRecord "struct RequestDefaults" defaultsField {}) choice.defaults node := by
  let state (done : List Setting) : DefaultsParts := (choice.only (done.map Setting.key)).defaults
  have hall : state settings = choice.defaults := by
    simp only [state, Choice.defaults, hfills.only_eq .model rfl, hfills.only_eq .stream rfl,
      hfills.only_eq .parameters rfl]
  rw [← hall]
  refine Yaml.reads_record state hnode fun since done setting more hsettings => ?_
  rw [setting.ofList_name]
  obtain ⟨key, value⟩ := setting
  obtain ⟨hhome, hvalue, hnew⟩ := hfills.fresh hsettings
  have hnone : choice.only (done.map Setting.key) key = none := Choice.only_of_not_mem hnew
  cases key with
  | model =>
    have huse : defaultsField since (state done) "model" =
        Config.setting (state done).model.isSome
          (fun site => Yaml.readOptionalString { site with path := site.path.drop 1 } since site)
          (fun text => { state done with model := some text }) := rfl
    have hseen : (state done).model.isSome = false := by simp [state, Choice.defaults, hnone]
    have hafter : { state done with model := some (some value) } =
        state (done ++ [⟨.model, value⟩]) := by
      simp [state, Choice.defaults, Choice.only_concat_self, Choice.only_concat_of_ne, hvalue]
    exact known_setting huse hseen hafter fun node hnode => reads_model hnode nofun _ since
  | stream =>
    have huse : defaultsField since (state done) "stream" =
        Config.setting (state done).stream.isSome Yaml.readBool
          (fun b => { state done with stream := some b }) := rfl
    have hseen : (state done).stream.isSome = false := by simp [state, Choice.defaults, hnone]
    have hafter : { state done with stream := some value } = state (done ++ [⟨.stream, value⟩]) := by
      simp [state, Choice.defaults, Choice.only_concat_self, Choice.only_concat_of_ne, hvalue]
    exact known_setting huse hseen hafter fun node hnode => reads_stream hnode
  | parameters =>
    have huse : defaultsField since (state done) "parameters" =
        Config.setting (state done).parameters.isSome Yaml.readObject
          (fun object => { state done with parameters := some object }) := rfl
    have hseen : (state done).parameters.isSome = false := by simp [state, Choice.defaults, hnone]
    have hafter : { state done with parameters := some (objectOf value) } =
        state (done ++ [⟨.parameters, value⟩]) := by
      simp [state, Choice.defaults, Choice.only_concat_self, Choice.only_concat_of_ne, hvalue]
    exact known_setting huse hseen hafter fun node hnode =>
      reads_parameters (fun member hmember => ((hallows _ _ hvalue).2 member hmember).2.2) hnode
  | baseUrl => cases hhome
  | tokenEnv => cases hhome
  | level => cases hhome

end Block

/-! ## 4. Files are read -/

/-- What is read of the sections of a choice that have been read. -/
def Choice.parts (choice : Choice) (homes : List Section) : Parts where
  endpoint := if .endpoint ∈ homes then some choice.endpoint.complete else none
  logs := if .logs ∈ homes then some (completeLogs (choice .level)) else none
  defaults := if .defaults ∈ homes then some choice.defaults.complete else none

theorem Block.ofList_name (block : Block) :
    String.ofList block.entry.name = block.home.name := String.ofList_toList

/-- A file is blank when no section is in it. -/
theorem isBlank_iff_of_spells {blocks : List Block} {text : List Char} (htext : Spells blocks text) :
    Text.isBlank text = true ↔ blocks = [] := by
  obtain ⟨top, htext⟩ := htext
  have hline : Text.isBlank text = Text.isBlank ('\n' :: text) := rfl
  rw [hline]
  generalize '\n' :: text = lines at htext
  cases htext with
  | nil htail =>
    have hblank : Text.isBlank lines = true :=
      List.all_eq_true.mpr fun c hc => by rcases htail c hc with rfl | rfl <;> rfl
    exact iff_of_true hblank rfl
  | @cons block blocks gap inside more indent =>
    -- the colon behind the name of the section is no white space
    refine iff_of_false (fun hblank => ?_) (List.cons_ne_nil _ _)
    have hcolon := List.all_eq_true.mp hblank ':' (by simp)
    cases hcolon

section File

variable {choice : Choice} {blocks : List Block}
  (hallows : ∀ key value, choice key = some value → key.Allows value) (hlists : choice.Lists blocks)

include hallows hlists

/-- **A file is read to the sections of its choice.** -/
theorem reads_file {root : Node} (hroot : root.IsMapping (blocks.map Block.entry)) :
    Reads 3 (Yaml.readRecord "struct Config" sectionField {}) (choice.parts (blocks.map Block.home))
      root := by
  let state (done : List Block) : Parts := choice.parts (done.map Block.home)
  show Reads 3 (Yaml.readRecord "struct Config" sectionField (state [])) (state blocks) root
  refine Yaml.reads_record state hroot fun since done block more hblocks => ?_
  have hfills := hlists.fills block (by simp [hblocks])
  have hnew : block.home ∉ done.map Block.home := by
    have hhomes := hlists.homes
    rw [hblocks, List.map_append, List.map_cons, List.nodup_append] at hhomes
    exact fun hdone => hhomes.2.2 _ hdone _ List.mem_cons_self rfl
  rw [block.ofList_name]
  obtain ⟨home, settings⟩ := block
  cases home with
  | endpoint =>
    have huse : sectionField since (state done) "endpoint" =
        Config.setting (state done).endpoint.isSome
          (Yaml.readRecord "struct EndpointConfig" endpointField {})
          (fun parts => { state done with endpoint := some parts.complete }) := rfl
    have hafter : { state done with endpoint := some choice.endpoint.complete } =
        state (done ++ [⟨.endpoint, settings⟩]) := by
      simp [state, Choice.parts]
    exact known_setting huse (congrArg Option.isSome (if_neg hnew)) hafter fun node hnode =>
      reads_endpoint hnode hfills
  | logs =>
    have huse : sectionField since (state done) "logs" =
        Config.setting (state done).logs.isSome (Yaml.readRecord "struct LogsConfig" logsField none)
          (fun level => { state done with logs := some (completeLogs level) }) := rfl
    have hafter : { state done with logs := some (completeLogs (choice .level)) } =
        state (done ++ [⟨.logs, settings⟩]) := by
      simp [state, Choice.parts]
    exact known_setting huse (congrArg Option.isSome (if_neg hnew)) hafter fun node hnode =>
      reads_logs hnode hfills
  | defaults =>
    have huse : sectionField since (state done) "defaults" =
        Config.setting (state done).defaults.isSome
          (Yaml.readRecord "struct RequestDefaults" defaultsField {})
          (fun parts => { state done with defaults := some parts.complete }) := rfl
    have hafter : { state done with defaults := some choice.defaults.complete } =
        state (done ++ [⟨.defaults, settings⟩]) := by
      simp [state, Choice.parts]
    exact known_setting huse (congrArg Option.isSome (if_neg hnew)) hafter fun node hnode =>
      reads_defaults hnode hfills hallows

omit hallows in
/-- What is not in a file is not chosen. -/
theorem none_of_not_mem (key : Key) (h : key.home ∉ blocks.map Block.home) : choice key = none := by
  cases hvalue : choice key with
  | none => rfl
  | some value => exact absurd (hlists.covers key value hvalue) h

omit hallows in
/-- **Settings that are left out have their defaults**, in a section that is there or not. -/
theorem complete_parts :
    (choice.parts (blocks.map Block.home)).complete =
      { endpoint := choice.endpoint.complete
        logs := completeLogs (choice .level)
        defaults := choice.defaults.complete } := by
  have hendpoint : (choice.parts (blocks.map Block.home)).endpoint.getD {} =
      choice.endpoint.complete := by
    by_cases h : Section.endpoint ∈ blocks.map Block.home
    · rw [Choice.parts, if_pos h]
      rfl
    · have hnone (key : Key) (hkey : key.home = .endpoint) : choice key = none :=
        none_of_not_mem hlists key (hkey ▸ h)
      rw [Choice.parts, if_neg h, Choice.endpoint, hnone .baseUrl rfl, hnone .tokenEnv rfl]
      rfl
  have hlogs : (choice.parts (blocks.map Block.home)).logs.getD {} =
      completeLogs (choice .level) := by
    by_cases h : Section.logs ∈ blocks.map Block.home
    · rw [Choice.parts, if_pos h]
      rfl
    · rw [Choice.parts, if_neg h, none_of_not_mem hlists .level h]
      rfl
  have hdefaults : (choice.parts (blocks.map Block.home)).defaults.getD {} =
      choice.defaults.complete := by
    by_cases h : Section.defaults ∈ blocks.map Block.home
    · rw [Choice.parts, if_pos h]
      rfl
    · have hnone (key : Key) (hkey : key.home = .defaults) : choice key = none :=
        none_of_not_mem hlists key (hkey ▸ h)
      rw [Choice.parts, if_neg h, Choice.defaults, hnone .model rfl, hnone .stream rfl,
        hnone .parameters rfl]
      rfl
  rw [Parts.complete, hendpoint, hlogs, hdefaults]

/-- A file is read to the sections of its choice, with their defaults. -/
theorem ofYaml_eq_parts {text : String} (htext : Spells blocks text.toList) :
    Config.ofYaml text = .ok (choice.parts (blocks.map Block.home)).complete := by
  have hblank := isBlank_iff_of_spells htext
  rw [Config.ofYaml]
  split
  case isTrue h =>
    obtain rfl := hblank.mp h
    rfl
  case isFalse h =>
    have hsome : blocks ≠ [] := fun hblocks => h (hblank.mpr hblocks)
    have hblocks : ∀ block ∈ blocks, block.IsAllowed := fun block hblock =>
      ⟨hlists.settings_ne block hblock, fun setting hsetting =>
        hallows _ _ (((hlists.fills block hblock).mem_iff _ _).mp hsetting).2⟩
    obtain ⟨root, events, hroot, hdocument⟩ := ofText_of_spells htext hsome hblocks
    have hread := reads_file hallows hlists hroot
    rw [Yaml.decode_of_reads hdocument (by decide) hread]

/-- **A file yields what it sets, and the default of every other setting.** The parameters are all
there, each once. -/
theorem ofYaml_of_spells {text : String} (htext : Spells blocks text.toList) :
    ∃ parameters,
      Config.ofYaml text = .ok {
        endpoint := {
          baseUrl := (choice .baseUrl).getD "https://api-inference.huggingface.co"
          tokenEnv := (choice .tokenEnv).getD "HUGGINGFACE_TOKEN" }
        logs := { level := (choice .level).getD "info" }
        defaults := { model := choice .model, stream := (choice .stream).getD true, parameters } } ∧
      parameters.Perm
        (((choice .parameters).getD []).map fun member => (member.1, member.2.value)) := by
  have hdistinct : (((choice .parameters).getD []).map Prod.fst).Nodup := by
    cases hmembers : choice .parameters with
    | none => exact .nil
    | some members => exact (hallows .parameters members hmembers).1
  have hcomplete : (choice.parts (blocks.map Block.home)).complete = {
      endpoint := {
        baseUrl := (choice .baseUrl).getD "https://api-inference.huggingface.co"
        tokenEnv := (choice .tokenEnv).getD "HUGGINGFACE_TOKEN" }
      logs := { level := (choice .level).getD "info" }
      defaults := {
        model := choice .model
        stream := (choice .stream).getD true
        parameters := objectOf ((choice .parameters).getD []) } } := by
    have hmodel : ((choice .model).map some).getD none = choice .model := by
      cases choice .model <;> rfl
    have hparameters : ((choice .parameters).map objectOf).getD [] =
        objectOf ((choice .parameters).getD []) := by
      cases choice .parameters <;> rfl
    rw [complete_parts hlists, ← hmodel, ← hparameters]
    rfl
  refine ⟨_, (ofYaml_eq_parts hallows hlists htext).trans (congrArg Except.ok hcomplete), ?_⟩
  rw [objectOf, Json.Object.ofList_eq_enteredAll]
  refine perm_enteredAll ?_
  rwa [List.map_map]

end File

/-- Three settings out of two sections. -/
def Choice.sample : Choice
  | .model => some "m"
  | .parameters => some [("top k", .integer (-3)), ("stop", .string "a\"b")]
  | .level => some "warn"
  | _ => none

/-- The sections of the three settings. -/
def sampleBlocks : List Block :=
  [⟨.defaults, [⟨.parameters, [("top k", .integer (-3)), ("stop", .string "a\"b")]⟩, ⟨.model, "m"⟩]⟩,
    ⟨.logs, [⟨.level, "warn"⟩]⟩]

theorem allows_sample (key : Key) (value : key.Value) (h : Choice.sample key = some value) :
    key.Allows value := by
  cases key with
  | model => cases h; decide
  | level => cases h; decide
  | parameters => cases h; decide
  | baseUrl => cases h
  | tokenEnv => cases h
  | stream => cases h

theorem lists_sample : Choice.sample.Lists sampleBlocks where
  homes := by decide
  settings_ne := by simp [sampleBlocks]
  fills := by
    simp only [sampleBlocks, List.forall_mem_cons]
    refine ⟨⟨by decide, fun key value => ?_⟩, ⟨by decide, fun key value => ?_⟩, by simp⟩
    · cases key <;> simp [Choice.sample, Key.home, eq_comm]
    · cases key <;> simp [Choice.sample, Key.home, eq_comm]
  covers := by
    intro key value h
    cases key <;> cases h <;> decide

/-- A file that sets them. -/
def sampleText : String :=
  "defaults:\n  parameters: \x7b\"top k\": -3, \"stop\": \"a\\\"b\"\x7d\n  model:  \"m\"\n\n" ++
    "logs:\n level: \"warn\"\n"

theorem spells_sample : Spells sampleBlocks sampleText.toList := by
  have hempty : StartsLine 0 ['\n', '\n'] := ⟨['\n'], fun _ hc => .inr (List.mem_singleton.mp hc), rfl⟩
  have hmembers : SpellsMembers true [("top k", .integer (-3)), ("stop", .string "a\"b")] _ :=
    .cons 0 0 1 (.cons 0 1 1 (.nil 0))
  have hdefaults : SpellsSettings 2 [⟨.parameters, _⟩, ⟨.model, "m"⟩] _ :=
    .cons 0 (startsLine_newline 2) ⟨_, hmembers, rfl⟩ (.cons 1 (startsLine_newline 2) rfl .nil)
  have hlogs : SpellsSettings 1 [⟨.level, "warn"⟩] _ := .cons 0 (startsLine_newline 1) rfl .nil
  have htail : SpellsBlocks 0 [] ['\n'] := .nil fun _ hc => .inr (List.mem_singleton.mp hc)
  have hfile : SpellsBlocks 0 sampleBlocks _ :=
    .cons (startsLine_newline 0) Nat.two_pos hdefaults (.cons hempty Nat.one_pos hlogs htail)
  exact ⟨0, hfile⟩

/-- Endpoint and stream are left out of the file. -/
theorem ofYaml_sample :
    ∃ parameters,
      Config.ofYaml sampleText = .ok {
        endpoint := {
          baseUrl := "https://api-inference.huggingface.co"
          tokenEnv := "HUGGINGFACE_TOKEN" }
        logs := { level := "warn" }
        defaults := { model := some "m", stream := true, parameters } } ∧
      parameters.Perm [("top k", .number (.integer (-3))), ("stop", .string "a\"b")] :=
  ofYaml_of_spells allows_sample lists_sample spells_sample

end Relay.Config
