import Relay.Proofs.Program.Refinement

/-!
# The guards of the program

The program sends nothing before seven guards have passed (`Guard`), and the first one that fails
decides what it says. This file fixes

* what each guard asks for, of the file, the environment and the input alone (`Guard.Passes`), and
  what the program says where it fails (`Guard.Says`);
* that the program stops where the first guard fails (`stopsWith_of_failsFirst`): nothing is sent or
  written then, and no session is created (`StopsWith`).

Which guards fail behind the first one does not matter. The main statement is `guarded_run`.
-/

namespace Relay.Program

/-! ## 1. What is loaded -/

namespace Setting

/-- Whether the file that the environment names can be read, and this is its text. -/
def Reads (setting : Setting) (text : String) : Prop :=
  setting.source (Config.path setting.env) = .ok (Text.Utf8.encode text.toList)

/-- Whether these are the settings in that file. -/
def Loads (setting : Setting) (config : Config) : Prop :=
  ∃ text, setting.Reads text ∧ Config.ofYaml text = .ok config

/-- Whether the file cannot be read, and this is why. -/
def Misses (setting : Setting) (cause : FileCause) : Prop :=
  setting.source (Config.path setting.env) = .error cause ∨
    cause = .notText ∧ ∃ bytes, setting.source (Config.path setting.env) = .ok bytes ∧
      ∀ text, bytes ≠ Text.Utf8.encode text

variable {setting : Setting}

/-- The file can be read, or the program is told why not. -/
theorem reads_or_misses (setting : Setting) :
    (∃ text, setting.Reads text) ∨ ∃ cause, setting.Misses cause ∧
      (Config.load setting.source setting.env).result = .error (.io cause) := by
  unfold Reads Misses Config.load Config.loadFrom Config.readFile
  cases setting.source (Config.path setting.env) with
  | error cause => exact .inr ⟨cause, .inl rfl, rfl⟩
  | ok bytes =>
    cases hdecode : Text.Utf8.decode bytes with
    | ok text =>
      refine .inl ⟨String.ofList text, ?_⟩
      rw [String.toList_ofList, Text.Utf8.decode_eq_ok_iff.mp hdecode]
    | error fault =>
      have hno (text : List Char) : bytes ≠ Text.Utf8.encode text := by
        intro hbytes
        rw [Text.Utf8.decode_eq_ok_iff.mpr hbytes] at hdecode
        cases hdecode
      exact .inr ⟨.notText, .inr ⟨rfl, bytes, rfl, hno⟩, by simp only [hdecode]⟩

theorem load_of_reads {text : String} (h : setting.Reads text) :
    (Config.load setting.source setting.env).result = Config.ofYaml text := by
  have hbytes : setting.source (Config.path setting.env) = _ := h
  simp only [Config.load, Config.loadFrom, Config.readFile, hbytes, Text.Utf8.decode_encode,
    String.ofList_toList]

theorem load_of_loads {config : Config} (h : setting.Loads config) :
    (Config.load setting.source setting.env).result = .ok config := by
  obtain ⟨text, hreads, hyaml⟩ := h
  rw [load_of_reads hreads, hyaml]

/-- There is one way to read the settings. -/
theorem Loads.unique {config other : Config} (h : setting.Loads config)
    (hother : setting.Loads other) : config = other :=
  Except.ok.inj ((load_of_loads h).symm.trans (load_of_loads hother))

end Setting

/-- Whether a log level is one, and can be used as a filter. -/
def Accepts (level : String) : Prop :=
  (Threshold.parse? level).isSome = true ∧ (Threshold.ofDirectives? level).isSome = true

theorem threshold_of_accepts {level : String} (h : Accepts level) :
    ∃ shown, threshold level = .ok shown := by
  obtain ⟨shown, hshown⟩ := Option.isSome_iff_exists.mp h.1
  obtain ⟨used, hused⟩ := Option.isSome_iff_exists.mp h.2
  exact ⟨used, by rw [threshold, hshown, hused]⟩

/-! ## 2. The guards -/

/-- What is asked for before anything is sent, in this order: a file that can be read, settings in
it, a log level, a model, an input that is text, a name of the model that is not empty, and a
token. -/
inductive Guard where
  | file
  | settings
  | level
  | model
  | input
  | name
  | token

namespace Guard

/-- The place of a guard in the order. -/
def rank : Guard → Nat
  | file => 0
  | settings => 1
  | level => 2
  | model => 3
  | input => 4
  | name => 5
  | token => 6

/-- Whether a guard has what it asks for. -/
def Passes (guard : Guard) (setting : Setting) : Prop :=
  match guard with
  | file => ∃ text, setting.Reads text
  | settings => ∃ config, setting.Loads config
  | level => ∃ config, setting.Loads config ∧ Accepts (levelText setting.env config)
  | model => ∃ config name, setting.Loads config ∧ config.defaults.model = some name
  | input => ∃ prompt : String, setting.input = Text.Utf8.encode prompt.toList
  | name => ∃ config name, setting.Loads config ∧ config.defaults.model = some name ∧ name ≠ ""
  | token => ∃ config token, setting.Loads config ∧
      setting.env.Holds config.endpoint.tokenEnv token ∧ token ≠ ""

/-- What the program says where a guard fails. -/
def Says (guard : Guard) (setting : Setting) (text : String) : Prop :=
  match guard with
  | file => ∃ cause, setting.Misses cause ∧
      text = "Failed to load configuration: IO error: " ++ cause.message
  | settings => ∃ found e, setting.Reads found ∧ Config.ofYaml found = .error e ∧
      text = "Failed to load configuration: " ++ e.message
  | level => ∃ config, setting.Loads config ∧
      text =
        if (Threshold.parse? (levelText setting.env config)).isSome then
          "Error: invalid filter directive"
        else
          "Invalid log level: '" ++ levelText setting.env config ++
            "'. Valid levels: error, warn, info, debug, trace"
  | model => text = "Error: defaults.model must be set in the configuration"
  | input => ∃ fault, Text.Utf8.decode setting.input = .error fault ∧
      text = "Error: " ++ fault.message
  | name => text = "Error: Configuration error: model name must not be empty"
  | token => ∃ config, setting.Loads config ∧
      text = "Error: Missing credential: no auth override and $" ++ config.endpoint.tokenEnv ++
        " is not set"

/-- Whether a guard fails, and all guards in front of it pass. -/
structure FailsFirst (guard : Guard) (setting : Setting) : Prop where
  fails : ¬guard.Passes setting
  earlier : ∀ other : Guard, other.rank < guard.rank → other.Passes setting

/-- Where a guard fails, there is a first one that does. -/
theorem exists_failsFirst {setting : Setting} {guard : Guard} (h : ¬guard.Passes setting) :
    ∃ first : Guard, first.FailsFirst setting := by
  by_cases hearlier : ∀ other : Guard, other.rank < guard.rank → other.Passes setting
  · exact ⟨guard, h, hearlier⟩
  · push Not at hearlier
    obtain ⟨other, hless, hother⟩ := hearlier
    exact exists_failsFirst hother
termination_by guard.rank

end Guard

/-! ## 3. Runs that stop in front of the call -/

/-- Whether the program says a text, and nothing else comes of its run. -/
structure StopsWith (setting : Setting) (reply : Http.Reply) (text : String) : Prop where
  complaint : (run setting reply).complaint = some text
  output : (run setting reply).output = []
  messages : (run setting reply).messages = []
  created : (run setting reply).created = 0
  exitCode : (run setting reply).exitCode = 1

section Stops

variable {setting : Setting} {reply : Http.Reply}

/-- A run that fails in front of the call comes to nothing but what the program says. -/
theorem stopsWith_of_failure {trouble : Trouble} {log : List Event}
    (hrun : run setting reply = failure trouble log) :
    StopsWith setting reply trouble.message := by
  refine ⟨?_, ?_, ?_, ?_, ?_⟩ <;> rw [hrun] <;> rfl

theorem stopsWith_of_trouble {trouble : Trouble} (h : prepare setting = .error trouble) :
    StopsWith setting reply trouble.message := by
  have hrun : run setting reply = failure trouble [] := by rw [run, h]
  exact stopsWith_of_failure hrun

theorem stopsWith_of_refused {prepared : Prepared} {e : Error}
    (h : prepare setting = .ok prepared) (hcall : prepared.call = .error e) :
    StopsWith setting reply ("Error: " ++ e.message) := by
  have hrun : run setting reply =
      failure (.call e) (prepared.threshold.shown [.forwardingPrompt prepared.model]) := by
    simp only [run, h, resume, hcall]
  exact stopsWith_of_failure hrun

/-- What comes out is made of the call, or the program stops in front of it. -/
theorem run_cases (setting : Setting) (reply : Http.Reply) :
    (∃ text, StopsWith setting reply text) ∨
      ∃ prepared order,
        run setting reply = finish prepared ((Handle.new false order reply).drain {}) := by
  cases hprepare : prepare setting with
  | error trouble => exact .inl ⟨_, stopsWith_of_trouble hprepare⟩
  | ok prepared =>
    cases hcall : prepared.call with
    | error e => exact .inl ⟨_, stopsWith_of_refused hprepare hcall⟩
    | ok order =>
      refine .inr ⟨prepared, order, ?_⟩
      simp only [run, hprepare, resume, hcall]
      rfl

/-- **One message at most is sent**: that of the call. -/
theorem length_messages_run_le (setting : Setting) (reply : Http.Reply) :
    (run setting reply).messages.length ≤ 1 := by
  rcases run_cases setting reply with ⟨text, hstops⟩ | ⟨prepared, order, hrun⟩
  · rw [hstops.messages]
    exact Nat.zero_le 1
  · rw [hrun, messages_finish, ((Handle.new false order reply).quiet_drain {}).1]
    exact Option.length_toList_le

/-! ## 4. The first guard that fails -/

/-- Settings that pass the first five guards are ready for the call. -/
theorem ready_of_passes {config : Config} {model prompt : String} (hloads : setting.Loads config)
    (hlevel : Guard.level.Passes setting) (hmodel : config.defaults.model = some model)
    (hinput : setting.input = Text.Utf8.encode prompt.toList) :
    Ready setting config model prompt := by
  obtain ⟨other, hother, haccepts⟩ := hlevel
  obtain rfl := hloads.unique hother
  exact ⟨Setting.load_of_loads hloads, hmodel, threshold_of_accepts haccepts, hinput⟩

/-- Where the file cannot be read, the program says why. -/
theorem stopsWith_file (h : ¬Guard.file.Passes setting) :
    ∃ text, Guard.file.Says setting text ∧ StopsWith setting reply text := by
  rcases setting.reads_or_misses with hreads | ⟨cause, hmisses, hload⟩
  · exact absurd hreads h
  · have hprepare : prepare setting = .error (.config (.io cause)) := by
      simp only [prepare, hload]
    refine ⟨_, ⟨cause, hmisses, ?_⟩, stopsWith_of_trouble hprepare⟩
    have hfront : "Failed to load configuration: " ++ "IO error: " =
        "Failed to load configuration: IO error: " := by decide
    rw [← hfront, String.append_assoc]
    rfl

/-- Where its text is no settings, the program says why. -/
theorem stopsWith_settings {text : String} (hreads : setting.Reads text)
    (h : ¬Guard.settings.Passes setting) :
    ∃ text, Guard.settings.Says setting text ∧ StopsWith setting reply text := by
  cases hyaml : Config.ofYaml text with
  | ok config => exact absurd ⟨config, text, hreads, hyaml⟩ h
  | error e =>
    have hprepare : prepare setting = .error (.config e) := by
      simp only [prepare, Setting.load_of_reads hreads, hyaml]
    exact ⟨_, ⟨text, e, hreads, hyaml, rfl⟩, stopsWith_of_trouble hprepare⟩

section Loaded

variable {config : Config} (hloads : setting.Loads config)
include hloads

/-- A log level that is not accepted is said, or that it is no filter. -/
theorem stopsWith_level (h : ¬Guard.level.Passes setting) :
    ∃ text, Guard.level.Says setting text ∧ StopsWith setting reply text := by
  refine ⟨_, ⟨config, hloads, rfl⟩, ?_⟩
  cases hparse : Threshold.parse? (levelText setting.env config) with
  | none =>
    have hprepare : prepare setting = .error (.level (levelText setting.env config)) := by
      simp only [prepare, Setting.load_of_loads hloads, threshold, hparse]
    exact stopsWith_of_trouble hprepare
  | some shown =>
    have huse : Threshold.ofDirectives? (levelText setting.env config) = none := by
      by_contra huse
      refine h ⟨config, hloads, ?_, Option.isSome_iff_ne_none.mpr huse⟩
      rw [hparse]
      rfl
    have hprepare : prepare setting = .error .filter := by
      simp only [prepare, Setting.load_of_loads hloads, threshold, hparse, huse]
    exact stopsWith_of_trouble hprepare

theorem stopsWith_model (haccepts : Accepts (levelText setting.env config))
    (h : ¬Guard.model.Passes setting) :
    ∃ text, Guard.model.Says setting text ∧ StopsWith setting reply text := by
  obtain ⟨shown, hshown⟩ := threshold_of_accepts haccepts
  have hmodel : config.defaults.model = none := by
    by_contra hmodel
    obtain ⟨name, hname⟩ := Option.ne_none_iff_exists'.mp hmodel
    exact h ⟨config, name, hloads, hname⟩
  have hprepare : prepare setting = .error .noModel := by
    simp only [prepare, Setting.load_of_loads hloads, hshown, hmodel]
  exact ⟨_, rfl, stopsWith_of_trouble hprepare⟩

theorem stopsWith_input (haccepts : Accepts (levelText setting.env config)) {name : String}
    (hname : config.defaults.model = some name) (h : ¬Guard.input.Passes setting) :
    ∃ text, Guard.input.Says setting text ∧ StopsWith setting reply text := by
  obtain ⟨shown, hshown⟩ := threshold_of_accepts haccepts
  cases hdecode : Text.Utf8.decode setting.input with
  | ok text =>
    refine absurd ⟨String.ofList text, ?_⟩ h
    rw [String.toList_ofList, Text.Utf8.decode_eq_ok_iff.mp hdecode]
  | error fault =>
    have hprepare : prepare setting = .error (.input fault) := by
      simp only [prepare, Setting.load_of_loads hloads, hshown, hname, hdecode]
    exact ⟨_, ⟨fault, hdecode, rfl⟩, stopsWith_of_trouble hprepare⟩

end Loaded

section Opening

variable {config : Config} {model prompt : String} (hready : Ready setting config model prompt)
include hready

/-- Where the opening of the call is refused, the program says why. -/
theorem stopsWith_of_order {e : Error}
    (horder : (Forwarder.ofConfig config.endpoint).order setting.env
      (library setting config model prompt reply 0).request = .error e) :
    StopsWith setting reply ("Error: " ++ e.message) := by
  obtain ⟨prepared, hprepare, hcall⟩ := prepare_of_ready hready reply
  exact stopsWith_of_refused hprepare (hcall.trans horder)

theorem stopsWith_name (hloads : setting.Loads config) (h : ¬Guard.name.Passes setting) :
    ∃ text, Guard.name.Says setting text ∧ StopsWith setting reply text := by
  have hempty : model = "" := by
    by_contra hempty
    exact h ⟨config, model, hloads, hready.named, hempty⟩
  have horder : (Forwarder.ofConfig config.endpoint).order setting.env
      (library setting config model prompt reply 0).request = .error (.config .emptyModel) :=
    Forwarder.order_of_empty ((Request.model_build _ _ _).trans hempty)
  have htext : "Error: " ++ (Error.config .emptyModel).message =
      "Error: Configuration error: model name must not be empty" := by decide
  exact ⟨_, htext, stopsWith_of_order hready horder⟩

theorem stopsWith_token (hloads : setting.Loads config) (hmodel : model ≠ "")
    (h : ¬Guard.token.Passes setting) :
    ∃ text, Guard.token.Says setting text ∧ StopsWith setting reply text := by
  let request := (library setting config model prompt reply 0).request
  have hown : request.token = none := Request.token_build _ _ _
  have hnamed : request.model ≠ "" := by
    rwa [show request.model = model from Request.model_build _ _ _]
  rcases Forwarder.credential_cases (.ofConfig config.endpoint) setting.env request with
    ⟨token, -, -, hne, hfinds⟩ | ⟨hcredential, -⟩
  · rcases hfinds with hbrings | ⟨-, hholds⟩
    · rw [hown] at hbrings
      cases hbrings
    · exact absurd ⟨config, token, hloads, hholds, hne⟩ h
  · have horder := Forwarder.order_of_error hnamed hcredential
    have hfront : "Error: " ++ "Missing credential: no auth override and $" =
        "Error: Missing credential: no auth override and $" := by decide
    let forwarder := Forwarder.ofConfig config.endpoint
    have hmessage : (Error.missingCredential forwarder.tokenEnv).message =
        "Missing credential: no auth override and $" ++ config.endpoint.tokenEnv ++
          " is not set" := rfl
    refine ⟨_, ⟨config, hloads, ?_⟩, stopsWith_of_order hready horder⟩
    rw [hmessage, ← String.append_assoc, ← String.append_assoc, hfront]

end Opening

/-- **The first guard that fails decides what the program says.** -/
theorem stopsWith_of_failsFirst {first : Guard} (h : first.FailsFirst setting)
    (reply : Http.Reply) : ∃ text, first.Says setting text ∧ StopsWith setting reply text := by
  obtain ⟨hfails, hearlier⟩ := h
  cases first with
  | file => exact stopsWith_file hfails
  | settings =>
    obtain ⟨text, hreads⟩ := hearlier .file (by decide)
    exact stopsWith_settings hreads hfails
  | level =>
    obtain ⟨config, hloads⟩ := hearlier .settings (by decide)
    exact stopsWith_level hloads hfails
  | model =>
    obtain ⟨config, hloads, haccepts⟩ := hearlier .level (by decide)
    exact stopsWith_model hloads haccepts hfails
  | input =>
    obtain ⟨config, hloads, haccepts⟩ := hearlier .level (by decide)
    obtain ⟨other, name, hother, hname⟩ := hearlier .model (by decide)
    obtain rfl := hloads.unique hother
    exact stopsWith_input hloads haccepts hname hfails
  | name =>
    obtain ⟨config, name, hloads, hname⟩ := hearlier .model (by decide)
    obtain ⟨prompt, hprompt⟩ := hearlier .input (by decide)
    have hready := ready_of_passes hloads (hearlier .level (by decide)) hname hprompt
    exact stopsWith_name hready hloads hfails
  | token =>
    obtain ⟨config, name, hloads, hname, hmodel⟩ := hearlier .name (by decide)
    obtain ⟨prompt, hprompt⟩ := hearlier .input (by decide)
    have hready := ready_of_passes hloads (hearlier .level (by decide)) hname hprompt
    exact stopsWith_token hready hloads hmodel hfails

end Stops

/-- **The program sends one message at most, and none before all guards have passed.**

Take any file, environment, input and reply. If something is sent, the file that the environment
names can be read and holds settings, the log level in force is accepted, a model is named, the
input is text, the model's name is not empty, and the variable of the settings holds a token.

Whichever of these guards fail, the first one in this order decides what the program says. Nothing
is written to the output and nothing is sent then, no session is created, and the exit code is 1. -/
theorem guarded_run (setting : Setting) (reply : Http.Reply) :
    (run setting reply).messages.length ≤ 1 ∧
      ((run setting reply).messages ≠ [] → ∀ guard : Guard, guard.Passes setting) ∧
      ∀ guard : Guard, ¬guard.Passes setting →
        ∃ (first : Guard) (text : String), first.FailsFirst setting ∧ first.Says setting text ∧
          StopsWith setting reply text := by
  have hstops (guard : Guard) (hfails : ¬guard.Passes setting) :
      ∃ (first : Guard) (text : String), first.FailsFirst setting ∧ first.Says setting text ∧
        StopsWith setting reply text := by
    obtain ⟨first, hfirst⟩ := Guard.exists_failsFirst hfails
    obtain ⟨text, hsays, htext⟩ := stopsWith_of_failsFirst hfirst reply
    exact ⟨first, text, hfirst, hsays, htext⟩
  refine ⟨length_messages_run_le setting reply, fun hsent guard => ?_, hstops⟩
  by_contra hfails
  obtain ⟨_, _, -, -, htext⟩ := hstops guard hfails
  exact hsent htext.messages

end Relay.Program
