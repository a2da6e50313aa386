import Relay.Proofs.Program.Guards
import Relay.Proofs.Program.Levels

/-!
# What the program logs

Behind its filter the program does the same at every level: `Program.unfiltered` is what comes out
when all events are shown, and a run is this with the events that the threshold admits
(`run_of_threshold`). From it follow

* which events a run shows when its level has been validated (`effective_of_validated`): those up to
  the level, unless the level has a plus sign in front, which the filter refuses;
* that runs at two levels differ in their logs only, and there by nothing but the filter
  (`run_at_two_levels`).
-/

namespace Relay.Program

/-! ## 1. Filtering what comes out -/

/-- The threshold that shows all events. -/
def everything : Threshold :=
  ⟨Level.trace.rank⟩

/-- What comes out when only the events up to a threshold are shown. -/
def Outcome.through (outcome : Outcome) (threshold : Threshold) : Outcome :=
  { outcome with log := outcome.log.filter (fun event => event.level.rank ≤ threshold.rank) }

theorem shown_eq_filter (threshold : Threshold) (events : List Event) :
    threshold.shown events = events.filter (fun event => event.level.rank ≤ threshold.rank) :=
  rfl

theorem shown_everything (events : List Event) : everything.shown events = events := by
  rw [shown_eq_filter, List.filter_eq_self]
  intro event _
  cases event.level <;> rfl

/-- Behind one threshold a lower one shows what it shows by itself. -/
theorem Outcome.through_through (outcome : Outcome) {less more : Threshold}
    (h : less.rank ≤ more.rank) :
    (outcome.through more).through less = outcome.through less := by
  have hlog : (outcome.through more).log.filter (fun event => event.level.rank ≤ less.rank) =
      outcome.log.filter (fun event => event.level.rank ≤ less.rank) := by
    rw [Outcome.through, List.filter_filter]
    refine List.filter_congr fun event _ => ?_
    have hboth : (event.level.rank ≤ less.rank ∧ event.level.rank ≤ more.rank) ↔
        event.level.rank ≤ less.rank :=
      and_iff_left_of_imp fun hless => Nat.le_trans hless h
    rw [← Bool.decide_and, decide_eq_decide.mpr hboth]
  unfold Outcome.through at hlog ⊢
  rw [hlog]

theorem finish_through (prepared : Prepared) (drained : Handle.Drained) :
    finish prepared drained =
      (finish { prepared with threshold := everything } drained).through prepared.threshold := by
  unfold finish
  cases drained.stop <;> simp only [shown_everything] <;> rfl

/-- **Filtering commutes with the call.** -/
theorem resume_through (prepared : Prepared) (reply : Http.Reply) :
    resume prepared reply =
      (resume { prepared with threshold := everything } reply).through prepared.threshold := by
  unfold resume
  cases prepared.call with
  | error e =>
    simp only [shown_everything]
    rfl
  | ok order => exact finish_through prepared _

/-! ## 2. The program behind its filter -/

/-- What comes out behind the filter when all events are shown. The log level has no part in it. -/
def unfiltered (setting : Setting) (config : Config) (reply : Http.Reply) : Outcome :=
  match config.defaults.model with
  | none => failure .noModel []
  | some model =>
    match Text.Utf8.decode setting.input with
    | .error fault => failure (.input fault) []
    | .ok prompt =>
      let forwarder := Forwarder.ofConfig config.endpoint
      resume
        { threshold := everything, model
          call := forwarder.order setting.env (request config model (String.ofList prompt)) }
        reply

section Behind

variable {setting : Setting} {config : Config} {reply : Http.Reply}

/-- **A run is what happens behind the filter, with the events that the filter admits.** -/
theorem run_of_threshold (hloads : setting.Loads config) {level : Threshold}
    (hlevel : threshold (levelText setting.env config) = .ok level) :
    run setting reply = (unfiltered setting config reply).through level := by
  simp only [run, prepare, Setting.load_of_loads hloads, hlevel, unfiltered]
  cases config.defaults.model with
  | none => rfl
  | some model =>
    cases Text.Utf8.decode setting.input with
    | error fault => rfl
    | ok prompt => exact resume_through _ reply

end Behind

/-! ## 3. The level in force -/

section Given

variable {setting : Setting} {config : Config}

/-- Whether a text is the log level that is given: the variable holds it, or the variable holds no
text and the settings have it. -/
def Setting.GivesLevel (setting : Setting) (config : Config) (text : String) : Prop :=
  setting.env.Holds "RUST_LOG" text ∨
    (∀ other, ¬setting.env.Holds "RUST_LOG" other) ∧ config.logs.level = text

theorem levelText_of_givesLevel {text : String} (h : setting.GivesLevel config text) :
    levelText setting.env config = text := by
  unfold levelText
  rcases h with hholds | ⟨hnone, hsettings⟩
  · rw [Environment.get?_eq_some_iff.mpr hholds, Option.getD_some]
  · have hget : setting.env.get? "RUST_LOG" = none := by
      cases hget : setting.env.get? "RUST_LOG" with
      | none => rfl
      | some other => exact absurd (Environment.get?_eq_some_iff.mp hget) (hnone other)
    rw [hget, Option.getD_none, hsettings]

theorem threshold_of_parse? {text : String} {level : Threshold}
    (h : Threshold.parse? text = some level) :
    threshold text = if text.toList.head? = some '+' then .error .filter else .ok level := by
  rw [threshold, h, Threshold.directives_ofDirectives?.read_of_parse? h]
  by_cases hsign : text.toList.head? = some '+'
  · rw [if_pos hsign, if_pos hsign]
  · rw [if_neg hsign, if_neg hsign]

end Given

/-! ## 4. A setting without a token -/

/-- A file with settings that name a model. -/
def tokenlessText : String :=
  "{endpoint: {base_url: http://far, token_env: T}, defaults: {model: m}}"

/-- The settings in this file. -/
def tokenlessConfig : Config :=
  { endpoint := { baseUrl := "http://far", tokenEnv := "T" }
    defaults := { model := some "m" } }

/-- The program with this file, at a level that the variable gives, and without a token. -/
def tokenless (level : String) : Setting :=
  { source := fun _ => .ok (Text.Utf8.encode tokenlessText.toList)
    env := { entries := [("RUST_LOG", Text.Utf8.encode level.toList)] } }

theorem loads_tokenless (level : String) : (tokenless level).Loads tokenlessConfig := by
  refine ⟨tokenlessText, rfl, ?_⟩
  have hread : (Config.ofYaml tokenlessText).toOption.map
        (fun c => (c.endpoint.baseUrl, c.endpoint.tokenEnv, c.logs.level, c.defaults.model,
          c.defaults.stream, c.defaults.parameters.isEmpty)) =
      some ("http://far", "T", "info", some "m", true, true) := by
    decide +kernel
  cases hyaml : Config.ofYaml tokenlessText with
  | error e =>
    rw [hyaml] at hread
    cases hread
  | ok found =>
    obtain ⟨⟨baseUrl, tokenEnv⟩, ⟨level⟩, model, stream, parameters⟩ := found
    rw [hyaml] at hread
    simp only [Except.toOption, Option.map_some, Option.some.injEq, Prod.mk.injEq,
      List.isEmpty_iff] at hread
    obtain ⟨rfl, rfl, rfl, rfl, rfl, rfl⟩ := hread
    rfl

theorem holds_tokenless (level : String) : (tokenless level).env.Holds "RUST_LOG" level :=
  rfl

/-- The program reports that it forwards the prompt, and stops because there is no token. -/
theorem unfiltered_tokenless (level : String) (reply : Http.Reply) :
    unfiltered (tokenless level) tokenlessConfig reply =
      failure (.call (.missingCredential "T")) [.forwardingPrompt "m"] := by
  have hinput : Text.Utf8.decode (tokenless level).input = .ok [] :=
    Text.Utf8.decode_eq_ok_iff.mpr rfl
  have horder : (Forwarder.ofConfig tokenlessConfig.endpoint).order (tokenless level).env
      (request tokenlessConfig "m" (String.ofList [])) = .error (.missingCredential "T") :=
    Forwarder.order_of_error (by decide) rfl
  have hmodel : tokenlessConfig.defaults.model = some "m" := rfl
  simp only [unfiltered, hmodel, hinput, horder, resume, shown_everything]

/-! ## 5. Levels that have been validated -/

section Effective

variable {setting : Setting} {config : Config} {text : String} {level : Threshold}

/-- A level with a plus sign is refused by the filter. -/
theorem prepare_of_sign (hloads : setting.Loads config) (hgives : setting.GivesLevel config text)
    (hlevel : Threshold.parse? text = some level) (hsign : text.toList.head? = some '+') :
    prepare setting = .error .filter := by
  have htext := levelText_of_givesLevel hgives
  simp only [prepare, Setting.load_of_loads hloads, htext, threshold_of_parse? hlevel, hsign,
    if_true]

/-- The guard of the level passes exactly where there is no plus sign. -/
theorem passes_level_iff (hloads : setting.Loads config) (hgives : setting.GivesLevel config text)
    (hlevel : Threshold.parse? text = some level) :
    Guard.level.Passes setting ↔ text.toList.head? ≠ some '+' := by
  have htext := levelText_of_givesLevel hgives
  have huse := Threshold.directives_ofDirectives?.read_of_parse? hlevel
  constructor
  · rintro ⟨other, hother, -, hused⟩ hsign
    obtain rfl := hloads.unique hother
    rw [htext, huse, if_pos hsign] at hused
    cases hused
  · intro hsign
    refine ⟨config, hloads, ?_⟩
    rw [htext, Accepts, hlevel, huse, if_neg hsign]
    exact ⟨rfl, rfl⟩

/-- **A level that has been validated decides what is logged, unless it has a plus sign.** Take any
text that the validation accepts, and a run that it is given to. If the text begins with a plus sign,
the filter refuses it: the program says so, and nothing is logged, sent or written. Otherwise the run
passes the guard, and comes to what happens behind it, with the events whose severity is within the
level that the text was validated as. -/
theorem effective_of_validated (hloads : setting.Loads config)
    (hgives : setting.GivesLevel config text) (hlevel : Threshold.parse? text = some level)
    (reply : Http.Reply) :
    (text.toList.head? = some '+' →
      ¬Guard.level.Passes setting ∧ (run setting reply).log = [] ∧
        StopsWith setting reply "Error: invalid filter directive") ∧
    (text.toList.head? ≠ some '+' →
      Guard.level.Passes setting ∧
        run setting reply =
          { unfiltered setting config reply with
            log := (unfiltered setting config reply).log.filter
              (fun event => event.level.rank ≤ level.rank) }) := by
  have hpasses := passes_level_iff hloads hgives hlevel
  refine ⟨fun hsign => ?_, fun hsign => ⟨hpasses.mpr hsign, ?_⟩⟩
  · have hprepare := prepare_of_sign hloads hgives hlevel hsign
    refine ⟨fun hpass => hpasses.mp hpass hsign, ?_, stopsWith_of_trouble hprepare⟩
    rw [run, hprepare]
    rfl
  · refine run_of_threshold hloads ?_
    rw [levelText_of_givesLevel hgives, threshold_of_parse? hlevel, if_neg hsign]

/-- A zero in front of the rank makes no difference. -/
theorem effective_of_validated_zero :
    (tokenless "03").Loads tokenlessConfig ∧
      (tokenless "03").GivesLevel tokenlessConfig "03" ∧ Threshold.parse? "03" = some ⟨3⟩ ∧
      Guard.level.Passes (tokenless "03") ∧
      (run (tokenless "03") .refused).log = [.forwardingPrompt "m"] := by
  have hloads := loads_tokenless "03"
  have hgives : (tokenless "03").GivesLevel tokenlessConfig "03" := .inl (holds_tokenless "03")
  have hlevel : Threshold.parse? "03" = some ⟨3⟩ := by decide +kernel
  obtain ⟨-, hused⟩ := effective_of_validated hloads hgives hlevel .refused
  obtain ⟨hpasses, hrun⟩ := hused (by decide)
  refine ⟨hloads, hgives, hlevel, hpasses, ?_⟩
  rw [hrun, unfiltered_tokenless]
  rfl

/-- A plus sign passes the validation, and not the filter. -/
theorem validated_not_effective :
    (tokenless "+3").Loads tokenlessConfig ∧
      (tokenless "+3").GivesLevel tokenlessConfig "+3" ∧ Threshold.parse? "+3" = some ⟨3⟩ ∧
      ¬Guard.level.Passes (tokenless "+3") ∧
      (run (tokenless "+3") .refused).log ≠
        (unfiltered (tokenless "+3") tokenlessConfig .refused).log.filter
          (fun event => event.level.rank ≤ 3) := by
  have hloads := loads_tokenless "+3"
  have hgives : (tokenless "+3").GivesLevel tokenlessConfig "+3" := .inl (holds_tokenless "+3")
  have hlevel : Threshold.parse? "+3" = some ⟨3⟩ := by decide +kernel
  have hsign : "+3".toList.head? = some '+' := by decide
  have hshown : (run (tokenless "+3") .refused).log = [] := by
    rw [run, prepare_of_sign hloads hgives hlevel hsign]
    rfl
  refine ⟨hloads, hgives, hlevel, fun hpass => (passes_level_iff hloads hgives hlevel).mp hpass hsign,
    ?_⟩
  rw [hshown, unfiltered_tokenless]
  exact (List.cons_ne_nil _ _).symm

end Effective

/-! ## 6. Runs at two levels -/

/-- Whether two settings differ in nothing but the variable `RUST_LOG`, which holds a text in either.
-/
structure Setting.DifferInLevel (setting other : Setting) (text another : String) : Prop where
  source : setting.source = other.source
  input : setting.input = other.input
  env : ∀ name, name ≠ "RUST_LOG" → setting.env.get? name = other.env.get? name
  holds : setting.env.Holds "RUST_LOG" text
  others : other.env.Holds "RUST_LOG" another

section Two

variable {setting other : Setting} {text another : String} {config : Config}

theorem loads_of_load (h : (Config.load setting.source setting.env).result = .ok config) :
    setting.Loads config := by
  rcases setting.reads_or_misses with ⟨found, hreads⟩ | ⟨cause, -, hmisses⟩
  · exact ⟨found, hreads, (Setting.load_of_reads hreads).symm.trans h⟩
  · rw [h] at hmisses
    cases hmisses

theorem load_eq_of_differ (h : setting.DifferInLevel other text another) :
    Config.load setting.source setting.env = Config.load other.source other.env := by
  rw [Config.load, Config.load, Config.path, Config.path, h.source, h.env _ (by decide)]

/-- The call is the same, because its token is. -/
theorem order_congr {env env' : Environment} {forwarder : Forwarder} (request : Request)
    (h : env.get? forwarder.tokenEnv = env'.get? forwarder.tokenEnv) :
    forwarder.order env request = forwarder.order env' request := by
  simp only [Forwarder.order, Forwarder.credential, h]

theorem unfiltered_eq_of_differ (h : setting.DifferInLevel other text another)
    (htoken : config.endpoint.tokenEnv ≠ "RUST_LOG") (reply : Http.Reply) :
    unfiltered setting config reply = unfiltered other config reply := by
  have horder (request : Request) :
      (Forwarder.ofConfig config.endpoint).order setting.env request =
        (Forwarder.ofConfig config.endpoint).order other.env request :=
    order_congr request (h.env _ htoken)
  simp only [unfiltered, h.input, horder]

/-- **Logging is a side observation.** Take two settings that differ in nothing but the variable
`RUST_LOG`, which holds a level that is accepted in either, and let the token come from another
variable. The runs exit alike, write and say the same and send the same messages, whatever the
reply. And the events that the less verbose run shows are those of the more verbose run up to its
level, in their order. -/
theorem run_at_two_levels (h : setting.DifferInLevel other text another)
    (htoken : ∀ config, setting.Loads config → config.endpoint.tokenEnv ≠ "RUST_LOG")
    {less more : Threshold} (hless : threshold text = .ok less)
    (hmore : threshold another = .ok more) (hle : less.rank ≤ more.rank) (reply : Http.Reply) :
    let quiet := run setting reply
    let loud := run other reply
    quiet.exitCode = loud.exitCode ∧ quiet.output = loud.output ∧
      quiet.complaint = loud.complaint ∧ quiet.messages = loud.messages ∧
      quiet.log = loud.log.filter (fun event => event.level.rank ≤ less.rank) := by
  intro quiet loud
  have hload := load_eq_of_differ h
  cases hresult : (Config.load setting.source setting.env).result with
  | error e =>
    have hquiet : quiet = failure (.config e) [] := by simp only [quiet, run, prepare, hresult]
    have hloud : loud = failure (.config e) [] := by
      simp only [loud, run, prepare, ← hload, hresult]
    rw [hquiet, hloud]
    exact ⟨rfl, rfl, rfl, rfl, rfl⟩
  | ok config =>
    have hloads : setting.Loads config := loads_of_load hresult
    have hothers : other.Loads config := loads_of_load (hload ▸ hresult)
    have hquiet : quiet = (unfiltered setting config reply).through less := by
      refine run_of_threshold hloads ?_
      rw [levelText_of_givesLevel (.inl h.holds), hless]
    have hloud : loud = (unfiltered other config reply).through more := by
      refine run_of_threshold hothers ?_
      rw [levelText_of_givesLevel (.inl h.others), hmore]
    have hthrough : quiet = loud.through less := by
      rw [hquiet, hloud, unfiltered_eq_of_differ h (htoken config hloads),
        Outcome.through_through _ hle]
    rw [hthrough]
    exact ⟨rfl, rfl, rfl, rfl, rfl⟩

/-- Without a token, a run at `info` reports that it forwards the prompt, and one at `WARN` fails
alike without a word of it. -/
theorem run_at_two_levels_tokenless :
    let quiet := run (tokenless "WARN") .refused
    let loud := run (tokenless "info") .refused
    quiet.complaint = loud.complaint ∧ quiet.exitCode = loud.exitCode ∧
      loud.log = [.forwardingPrompt "m"] ∧ quiet.log = [] := by
  intro quiet loud
  have hdiffer : (tokenless "WARN").DifferInLevel (tokenless "info") "WARN" "info" := by
    refine ⟨rfl, rfl, fun name hname => ?_, holds_tokenless _, holds_tokenless _⟩
    have hne : (name == "RUST_LOG") = false := beq_eq_false_iff_ne.mpr hname
    simp only [tokenless, Environment.get?, List.lookup_cons, hne, List.lookup_nil]
  have htoken : ∀ config, (tokenless "WARN").Loads config →
      config.endpoint.tokenEnv ≠ "RUST_LOG" := by
    intro config hloads
    rw [hloads.unique (loads_tokenless "WARN")]
    decide
  have hwarn : threshold "WARN" = .ok ⟨2⟩ := by
    have hlevel : Threshold.parse? "WARN" = some ⟨2⟩ := by decide +kernel
    rw [threshold_of_parse? hlevel]
    rfl
  have hinfo : threshold "info" = .ok ⟨3⟩ := by
    have hlevel : Threshold.parse? "info" = some ⟨3⟩ := by decide +kernel
    rw [threshold_of_parse? hlevel]
    rfl
  obtain ⟨hexit, -, hcomplaint, -, hlog⟩ :=
    run_at_two_levels hdiffer htoken hwarn hinfo (by decide) .refused
  have hloud : loud.log = [.forwardingPrompt "m"] := by
    have htext : levelText (tokenless "info").env tokenlessConfig = "info" :=
      levelText_of_givesLevel (.inl (holds_tokenless "info"))
    have hrun : loud = _ := run_of_threshold (loads_tokenless "info") (htext ▸ hinfo)
    rw [hrun, unfiltered_tokenless]
    rfl
  refine ⟨hcomplaint, hexit, hloud, ?_⟩
  rw [show quiet.log = _ from hlog, show (run (tokenless "info") .refused).log = _ from hloud]
  rfl

end Two

end Relay.Program
