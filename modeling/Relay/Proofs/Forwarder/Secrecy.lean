import Relay.Proofs.Call.Alike
import Relay.Proofs.Forwarder.Life
import Relay.Proofs.Forwarder.Refusals

/-!
# Secrets do not leak

Two runs that differ in a secret, and in nothing else, are told apart by what they send alone, and
there by the header or the member that the secret belongs in. This file carries that from one step
(`alike_effect`) to whole runs (`concealed_of_run`). Two states are alike when their calls are and
the tokens that their environments hold (`State.Alike`).
-/

namespace Relay

/-! ## 1. Requests and environments -/

/-- Whether two requests differ in nothing but the secret. -/
structure Request.Alike (secret : Secret) (request other : Request) : Prop where
  model : request.model = other.model
  stream : request.stream = other.stream
  prompt : secret ≠ .prompt → request.prompt = other.prompt
  parameters : secret ≠ .parameters → request.parameters = other.parameters
  token : secret.Tokens request.token other.token

namespace Request.Alike

variable {secret : Secret} {request other : Request}

theorem refl (request : Request) : request.Alike secret request :=
  ⟨rfl, rfl, fun _ => rfl, fun _ => rfl, .inl rfl⟩

/-- The secret is in the member of the body that it belongs in. -/
theorem bodies (h : request.Alike secret other) :
    secret.Bodies (some request.bodyText) (some other.bodyText) := by
  have hmembers (key : String) (hprompt : key ≠ "inputs" → request.prompt = other.prompt)
      (hparameters : key ≠ "parameters" → request.parameters = other.parameters) :
      List.Forall₂ (fun member member' => member.1 = member'.1 ∧ (member.1 ≠ key → member = member'))
        [("inputs", Json.Value.string request.prompt), ("parameters", .object request.parameters),
          ("stream", .bool request.stream)]
        [("inputs", Json.Value.string other.prompt), ("parameters", .object other.parameters),
          ("stream", .bool other.stream)] := by
    refine .cons ⟨rfl, fun hne => ?_⟩ (.cons ⟨rfl, fun hne => ?_⟩ (.cons ⟨rfl, fun hne => ?_⟩ .nil))
    · rw [hprompt (Ne.symm hne)]
    · rw [hparameters (Ne.symm hne)]
    · rw [h.stream]
  cases secret with
  | token =>
    refine .inl ?_
    rw [bodyText, bodyText, body, body, h.prompt (by decide), h.parameters (by decide), h.stream]
  | prompt =>
    refine .inr ⟨"inputs", rfl, _, _, hmembers "inputs" (fun hne => absurd rfl hne)
      (fun _ => h.parameters (by decide)), rfl, rfl⟩
  | parameters =>
    refine .inr ⟨"parameters", rfl, _, _, hmembers "parameters" (fun _ => h.prompt (by decide))
      (fun hne => absurd rfl hne), rfl, rfl⟩

end Request.Alike

namespace Environment

variable (env : Environment) {name other : String}

theorem get?_insert_self (value : List UInt8) :
    (env.insert name value).get? name = ((Text.Utf8.decode value).toOption).map String.ofList := by
  simp [get?, insert]

theorem get?_erase_self (name : String) : (env.erase name).get? name = none := by
  simp [get?, erase, lookup_erased_self]

theorem get?_erase_of_ne (h : other ≠ name) : (env.erase name).get? other = env.get? other := by
  simp [get?, erase, lookup_erased_of_ne _ h]

theorem get?_insert_of_ne (value : List UInt8) (h : other ≠ name) :
    (env.insert name value).get? other = env.get? other := by
  have hne : (other == name) = false := beq_eq_false_iff_ne.mpr h
  rw [← env.get?_erase_of_ne h]
  simp only [get?, insert, List.lookup_cons, hne]

end Environment

namespace Forwarder

/-! ## 2. The token of a call -/

section Order

variable {secret : Secret} {forwarder : Forwarder} {env env' : Environment}
  {request other : Request}

theorem filter_of_credential {token : String} (h : IsCredential token) :
    (some token).filter (fun token => !token.isEmpty) = some token :=
  filter_eq_some_iff.mpr ⟨rfl, h.nonempty⟩

/-- **There is a token for both requests, or for neither.** -/
theorem alike_credential (henv : secret.Tokens (env.get? forwarder.tokenEnv)
    (env'.get? forwarder.tokenEnv)) (hrequest : request.Alike secret other) :
    (∃ token token', forwarder.credential env request = .ok token ∧
      forwarder.credential env' other = .ok token' ∧ secret.Tokens (some token) (some token')) ∨
    ∃ e, forwarder.credential env request = .error e ∧ forwarder.credential env' other = .error e := by
  unfold credential Request.credential?
  rcases hrequest.token with hown | ⟨hsecret, token, token', hown, hother, hplain, hplain'⟩
  · rw [hown]
    cases other.token.filter (fun token => !token.isEmpty) with
    | some token => exact .inl ⟨token, token, rfl, rfl, .inl rfl⟩
    | none =>
      rcases henv with hheld | ⟨hsecret, token, token', hheld, hheld', hplain, hplain'⟩
      · rw [hheld]
        cases (env'.get? forwarder.tokenEnv).filter (fun token => !token.isEmpty) with
        | some token => exact .inl ⟨token, token, rfl, rfl, .inl rfl⟩
        | none => exact .inr ⟨_, rfl, rfl⟩
      · simp only [hheld, hheld', filter_of_credential hplain, filter_of_credential hplain']
        exact .inl ⟨token, token', rfl, rfl, .inr ⟨hsecret, _, _, rfl, rfl, hplain, hplain'⟩⟩
  · simp only [hown, hother, filter_of_credential hplain, filter_of_credential hplain']
    exact .inl ⟨token, token', rfl, rfl, .inr ⟨hsecret, _, _, rfl, rfl, hplain, hplain'⟩⟩

/-- **Both requests are ordered alike, or refused for the same reason.** -/
theorem alike_order (henv : secret.Tokens (env.get? forwarder.tokenEnv)
    (env'.get? forwarder.tokenEnv)) (hrequest : request.Alike secret other) :
    (∃ order order', forwarder.order env request = .ok order ∧
      forwarder.order env' other = .ok order' ∧ order.Alike secret order') ∨
    ∃ e, forwarder.order env request = .error e ∧ forwarder.order env' other = .error e := by
  by_cases hmodel : other.model = ""
  · exact .inr ⟨_, order_of_empty (hrequest.model.trans hmodel), order_of_empty hmodel⟩
  · have hmodel' : request.model ≠ "" := hrequest.model ▸ hmodel
    rcases alike_credential henv hrequest with ⟨token, token', hown, hother, htokens⟩ |
      ⟨e, hown, hother⟩
    · refine .inl ⟨_, _, order_of_ok hmodel' hown, order_of_ok hmodel hother, ?_⟩
      exact ⟨by rw [hrequest.model], hrequest.stream, htokens, hrequest.bodies⟩
    · exact .inr ⟨e, order_of_error hmodel' hown, order_of_error hmodel hother⟩

end Order

/-! ## 3. States -/

/-- Whether two entries are those of alike calls of the same name. -/
def EntriesAlike (secret : Secret) (entry other : String × Handle) : Prop :=
  entry.1 = other.1 ∧ entry.2.Alike secret other.2

/-- Whether two states differ in nothing but the secret, as far as a forwarder can see. -/
structure State.Alike (secret : Secret) (tokenEnv : String) (state other : State) : Prop where
  sessions : state.sessions = other.sessions
  env : secret.Tokens (state.env.get? tokenEnv) (other.env.get? tokenEnv)
  calls : List.Forall₂ (EntriesAlike secret) state.calls other.calls
  kept : state.kept = other.kept

namespace State.Alike

variable {secret : Secret} {tokenEnv : String} {state other : State} {call call' : Handle}
  {before before' : Handle}

theorem call? (h : state.Alike secret tokenEnv other) (name : String) :
    Option.Rel (Handle.Alike secret) (state.call? name) (other.call? name) := by
  have hlookup {entries others : List (String × Handle)}
      (hentries : List.Forall₂ (EntriesAlike secret) entries others) :
      Option.Rel (Handle.Alike secret) (entries.lookup name) (others.lookup name) := by
    induction hentries with
    | nil => exact .none
    | @cons entry entry' more more' hentry hmore ih =>
      obtain ⟨key, handle⟩ := entry
      obtain ⟨key', handle'⟩ := entry'
      obtain ⟨rfl, halike⟩ := hentry
      simp only [List.lookup_cons]
      split
      · exact .some halike
      · exact ih
  exact hlookup h.calls

/-- A call is open in both states, and alike there, or in neither. -/
theorem call?_cases (h : state.Alike secret tokenEnv other) (name : String) :
    (state.call? name = none ∧ other.call? name = none) ∨
      ∃ call call', state.call? name = some call ∧ other.call? name = some call' ∧
        call.Alike secret call' := by
  have hcall := h.call? name
  generalize state.call? name = own at hcall ⊢
  generalize other.call? name = its at hcall ⊢
  cases hcall with
  | none => exact .inl ⟨rfl, rfl⟩
  | some halike => exact .inr ⟨_, _, rfl, rfl, halike⟩

theorem eraseCall (h : state.Alike secret tokenEnv other) (name : String) :
    (state.eraseCall name).Alike secret tokenEnv (other.eraseCall name) := by
  refine ⟨h.sessions, h.env, ?_, h.kept⟩
  refine List.rel_filter ?_ h.calls
  rintro entry entry' ⟨hname, -⟩
  simp only [hname]

theorem putCall (h : state.Alike secret tokenEnv other) (name : String)
    (hcall : call.Alike secret call') :
    (state.putCall name call).Alike secret tokenEnv (other.putCall name call') :=
  ⟨h.sessions, h.env, .cons ⟨rfl, hcall⟩ (h.eraseCall name).calls, h.kept⟩

theorem afterPoll (h : state.Alike secret tokenEnv other) (name : String)
    (hbefore : before.Alike secret before') (hcall : call.Alike secret call')
    (sessions : Sessions) :
    (state.afterPoll name before call sessions).Alike secret tokenEnv
      (other.afterPoll name before' call' sessions) := by
  refine ⟨rfl, h.env, (h.putCall name hcall).calls, ?_⟩
  simp only [State.afterPoll, hbefore.holdsConnection, hcall.holdsConnection, h.kept]

theorem held (h : state.Alike secret tokenEnv other) : state.held = other.held := by
  refine List.Forall₂.length_eq (List.rel_filter (R := EntriesAlike secret) ?_ h.calls)
  rintro entry entry' ⟨-, halike⟩
  simp only [halike.holdsConnection]

end State.Alike

/-! ## 4. Steps -/

/-- Whether two steps are the same, or differ in nothing but the secret of a request, or of the
variable that holds the token. -/
inductive Step.Alike (secret : Secret) (tokenEnv : String) : Step → Step → Prop where
  | same (step : Step) : Alike secret tokenEnv step step
  | openCall (name : String) (cancellable : Bool) (reply : Http.Reply) {request other : Request}
    (h : request.Alike secret other) :
    Alike secret tokenEnv (.openCall name request cancellable reply)
      (.openCall name other cancellable reply)
  | setEnv (hsecret : secret = .token) {token token' : String} (h : IsCredential token)
    (h' : IsCredential token') :
    Alike secret tokenEnv (.setEnv tokenEnv (some (Text.Utf8.encode token.toList)))
      (.setEnv tokenEnv (some (Text.Utf8.encode token'.toList)))

/-- Whether two effects are alike: what is answered and logged is the same. -/
structure Effect.Alike (secret : Secret) (tokenEnv : String) (effect other : Effect) : Prop where
  state : effect.state.Alike secret tokenEnv other.state
  outcome : effect.outcome = other.outcome
  messages : List.Forall₂ (Http.Message.Alike secret) effect.messages other.messages
  log : effect.log = other.log

section Steps

variable {secret : Secret} {forwarder : Forwarder} {tokenEnv : String} {state other : State}

/-- What is done with a call is done alike, if it is so where the call is open. -/
theorem alike_withCall (h : state.Alike secret tokenEnv other) (name : String)
    (act act' : Handle → Effect)
    (hact : ∀ call call' : Handle, call.Alike secret call' →
      (act call).Alike secret tokenEnv (act' call')) :
    (withCall state name act).Alike secret tokenEnv (withCall other name act') := by
  unfold withCall
  rcases h.call?_cases name with ⟨hown, hother⟩ | ⟨call, call', hown, hother, halike⟩
  · rw [hown, hother]
    exact ⟨h, rfl, .nil, rfl⟩
  · rw [hown, hother]
    exact hact call call' halike

theorem alike_polled (h : state.Alike secret tokenEnv other) (name : String)
    {before before' : Handle} (hbefore : before.Alike secret before') {polled polled' : Polled Handle}
    (hpolled : polled.Alike secret (Handle.Alike secret) polled') :
    (Forwarder.polled state name before polled).Alike secret tokenEnv
      (Forwarder.polled other name before' polled') := by
  refine ⟨?_, ?_, forall₂_toList hpolled.message, hpolled.log⟩
  · simp only [Forwarder.polled, hpolled.sessions]
    exact h.afterPoll name hbefore hpolled.call _
  · simp only [Forwarder.polled, hpolled.item]

theorem alike_openCall (h : state.Alike secret forwarder.tokenEnv other) (name : String)
    (cancellable : Bool) (reply : Http.Reply) {request request' : Request}
    (hrequest : request.Alike secret request') :
    (effect forwarder state (.openCall name request cancellable reply)).Alike secret
      forwarder.tokenEnv (effect forwarder other (.openCall name request' cancellable reply)) := by
  rw [openCall_eq, openCall_eq]
  rcases alike_order h.env hrequest with ⟨order, order', hown, hother, horder⟩ | ⟨e, hown, hother⟩
  · rw [hown, hother]
    refine ⟨h.putCall name ?_, rfl, .nil, rfl⟩
    have hcall : ({ order, reply } : Call).Alike secret { order := order', reply } :=
      ⟨horder, rfl, rfl⟩
    cases cancellable with
    | true => exact .guarded ⟨hcall, rfl, rfl⟩
    | false => exact .plain hcall
  · rw [hown, hother]
    exact ⟨h, rfl, .nil, rfl⟩

/-- Setting or removing a variable alike leaves the tokens alike. -/
theorem alike_setEnv (h : state.Alike secret tokenEnv other) (name : String)
    (value : Option (List UInt8)) :
    (effect forwarder state (.setEnv name value)).Alike secret tokenEnv
      (effect forwarder other (.setEnv name value)) := by
  refine ⟨⟨h.sessions, ?_, h.calls, h.kept⟩, rfl, .nil, rfl⟩
  by_cases hname : tokenEnv = name
  · subst hname
    refine .inl ?_
    cases value with
    | some bytes => simp only [effect, Environment.get?_insert_self]
    | none => simp only [effect, Environment.get?_erase_self]
  · cases value with
    | some bytes =>
      simp only [effect, Environment.get?_insert_of_ne _ _ hname]
      exact h.env
    | none =>
      simp only [effect, Environment.get?_erase_of_ne _ hname]
      exact h.env

/-- So does setting the variable that holds the token, to one token or another. -/
theorem alike_setToken (h : state.Alike secret tokenEnv other) (hsecret : secret = .token)
    {token token' : String} (hplain : IsCredential token) (hplain' : IsCredential token') :
    (effect forwarder state (.setEnv tokenEnv (some (Text.Utf8.encode token.toList)))).Alike
      secret tokenEnv
      (effect forwarder other (.setEnv tokenEnv (some (Text.Utf8.encode token'.toList)))) := by
  have hget (env : Environment) (text : String) :
      (env.insert tokenEnv (Text.Utf8.encode text.toList)).get? tokenEnv = some text := by
    rw [Environment.get?_eq_some_iff, Environment.Holds, Environment.insert, List.lookup_cons_self]
  refine ⟨⟨h.sessions, .inr ⟨hsecret, token, token', ?_, ?_, hplain, hplain'⟩, h.calls, h.kept⟩,
    rfl, .nil, rfl⟩
  · exact hget state.env token
  · exact hget other.env token'

/-- A step from alike states comes to the same, but for the secret in what it sends. -/
theorem alike_effect_same (h : state.Alike secret forwarder.tokenEnv other) (step : Step) :
    (effect forwarder state step).Alike secret forwarder.tokenEnv
      (effect forwarder other step) := by
  cases step with
  | openCall name request cancellable reply =>
    exact alike_openCall h name cancellable reply (.refl request)
  | next name =>
    refine alike_withCall h name _ _ fun call call' hcall => ?_
    rw [h.sessions]
    exact alike_polled h name hcall (hcall.poll _)
  | nextThenCancel name =>
    refine alike_withCall h name _ _ fun call call' hcall => ?_
    rw [h.sessions]
    exact alike_polled h name hcall (hcall.pollThenFire _)
  | drain name =>
    refine alike_withCall h name _ _ fun call call' hcall => ?_
    have hdrained := hcall.drain other.sessions
    rw [h.sessions]
    simp only [hdrained.sessions, hdrained.chunks, hdrained.stop, hdrained.log]
    exact ⟨h.afterPoll name hcall hdrained.call _, rfl, hdrained.messages, rfl⟩
  | collect name =>
    refine alike_withCall h name _ _ fun call call' hcall => ?_
    have hdrained := hcall.drain other.sessions
    rw [h.sessions]
    simp only [Handle.Drained.collected, hdrained.sessions, hdrained.chunks, hdrained.stop,
      hdrained.log]
    exact ⟨(h.afterPoll name hcall hdrained.call _).eraseCall name, rfl, hdrained.messages, rfl⟩
  | cancel name =>
    simp only [effect]
    rcases h.call?_cases name with ⟨hown, hother⟩ | ⟨call, call', hown, hother, halike⟩
    · rw [hown, hother]
      exact ⟨h, rfl, .nil, rfl⟩
    · rw [hown, hother]
      exact ⟨h.putCall name halike.fire, rfl, .nil, rfl⟩
  | drop name =>
    refine alike_withCall h name _ _ fun call call' hcall => ?_
    exact ⟨h.eraseCall name, rfl, .nil, rfl⟩
  | lookForClose =>
    refine ⟨h, ?_, .nil, rfl⟩
    simp only [effect, h.kept, h.held]
  | acquire =>
    simp only [effect, h.sessions]
    exact ⟨⟨rfl, h.env, h.calls, h.kept⟩, rfl, .nil, rfl⟩
  | shutdown =>
    simp only [effect, h.sessions]
    exact ⟨⟨rfl, h.env, h.calls, h.kept⟩, rfl, .nil, rfl⟩
  | setEnv name value => exact alike_setEnv h name value
  | url model => exact ⟨h, rfl, .nil, rfl⟩
  | caps baseUrl reply =>
    simp only [effect, h.sessions]
    refine ⟨⟨rfl, h.env, h.calls, h.kept⟩, rfl, ?_, rfl⟩
    exact List.forall₂_same.mpr fun message _ => .refl message

/-- **Steps that differ in a secret come to the same**, but for the secret in what they send. -/
theorem alike_effect (h : state.Alike secret forwarder.tokenEnv other) {step step' : Step}
    (hstep : step.Alike secret forwarder.tokenEnv step') :
    (effect forwarder state step).Alike secret forwarder.tokenEnv
      (effect forwarder other step') := by
  cases hstep with
  | same => exact alike_effect_same h step
  | openCall name cancellable reply hrequest => exact alike_openCall h name cancellable reply hrequest
  | setEnv hsecret hplain hplain' => exact alike_setToken h hsecret hplain hplain'

end Steps

/-! ## 5. Runs -/

/-- Whether two reports are the same, but for the secret in what was sent. -/
structure Report.Alike (secret : Secret) (report other : Report) : Prop where
  outcome : report.outcome = other.outcome
  messages : List.Forall₂ (Http.Message.Alike secret) report.messages other.messages
  log : report.log = other.log
  created : report.created = other.created
  active : report.active = other.active

section Runs

variable {secret : Secret} {forwarder : Forwarder}

theorem alike_run {state other : State} (h : state.Alike secret forwarder.tokenEnv other)
    {steps steps' : List Step}
    (hsteps : List.Forall₂ (Step.Alike secret forwarder.tokenEnv) steps steps') :
    List.Forall₂ (Report.Alike secret) (run forwarder state steps) (run forwarder other steps') := by
  induction hsteps generalizing state other with
  | nil => exact .nil
  | cons hstep _ ih =>
    have heffect := alike_effect h hstep
    refine .cons ⟨heffect.outcome, heffect.messages, heffect.log, ?_, ?_⟩ (ih heffect.state)
    · simp only [Effect.report, heffect.state.sessions]
    · simp only [Effect.report, heffect.state.sessions]

/-- **Secrets do not leak.**

Take two runs with the same forwarder and the same sessions, whose steps differ in nothing but a
secret: the tokens that requests bring or the environment holds, as long as they can be sent; the
prompts of requests; or their parameters. Each step answers the same in both, logs the same, and
leaves the sessions alike. What it sends differs in the value that takes the token, or in the member
of the body that the prompt or the parameters belong in, and in nothing else. -/
theorem concealed_of_run (secret : Secret) (forwarder : Forwarder) (sessions : Sessions)
    {env env' : Environment}
    (henv : secret.Tokens (env.get? forwarder.tokenEnv) (env'.get? forwarder.tokenEnv))
    {steps steps' : List Step}
    (hsteps : List.Forall₂ (Step.Alike secret forwarder.tokenEnv) steps steps') :
    List.Forall₂ (Report.Alike secret) (run forwarder { sessions, env } steps)
      (run forwarder { sessions, env := env' } steps') := by
  have hstart : State.Alike secret forwarder.tokenEnv { sessions, env } { sessions, env := env' } :=
    ⟨rfl, henv, .nil, rfl⟩
  exact alike_run hstart hsteps

/-- The environment holds one token or another, and so does the request of a second call; a third
call is opened when the variable has been set anew. -/
theorem concealed_of_run_three_calls :
    let forwarder : Forwarder := { baseUrl := "http://far", tokenEnv := "TOKEN" }
    let held (token : String) : Environment :=
      .ofList [("TOKEN", Text.Utf8.encode token.toList)]
    let steps (token : String) : List Step :=
      [.openCall "a" { model := "m", prompt := "p" } true .dropped,
        .openCall "b" { model := "m", prompt := "p", token := some token } false .silent,
        .next "a", .next "b", .setEnv "TOKEN" (some (Text.Utf8.encode token.toList)),
        .openCall "c" { model := "../m", prompt := "p" } false .refused, .drain "c"]
    List.Forall₂ (Report.Alike .token) (run forwarder { env := held "first" } (steps "first"))
      (run forwarder { env := held "second" } (steps "second")) := by
  intro forwarder held steps
  have hfirst : IsCredential "first" :=
    ⟨by decide, Http.Message.isHeaderValue_iff.mp (by decide)⟩
  have hsecond : IsCredential "second" :=
    ⟨by decide, Http.Message.isHeaderValue_iff.mp (by decide)⟩
  have htokens : Secret.Tokens .token (some "first") (some "second") :=
    .inr ⟨rfl, _, _, rfl, rfl, hfirst, hsecond⟩
  have hheld (token : String) : (held token).get? "TOKEN" = some token :=
    Environment.get?_eq_some_iff.mpr rfl
  refine concealed_of_run .token forwarder {} ?_ ?_
  · rw [hheld, hheld]
    exact htokens
  · refine .cons (.same _) (.cons (.openCall "b" false .silent ?_) (.cons (.same _)
      (.cons (.same _) (.cons (.setEnv rfl hfirst hsecond) (.cons (.same _)
        (.cons (.same _) .nil))))))
    exact ⟨rfl, rfl, fun _ => rfl, fun _ => rfl, htokens⟩

end Runs

end Forwarder

end Relay
