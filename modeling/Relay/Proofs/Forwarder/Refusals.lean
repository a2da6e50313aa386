import Relay.Proofs.Forwarder.Sending
import Relay.Proofs.Request.Building
import Relay.Proofs.Text.Utf8

/-!
# Openings that are refused

An opening is refused when the model has no name, and otherwise when there is no token: neither one
that the request brings (`Request.lastToken?`) nor one that the environment holds
(`Environment.Holds`). A refused opening comes to nothing but its answer, and the run goes on as if
it had not been tried; an opening that is not refused settles the token of the call
(`traceless_of_refused`).
-/

namespace Relay

/-! ## 1. What a variable holds -/

namespace Environment

variable {env : Environment} {name text : String}

/-- Whether a variable is set to the bytes of a text. -/
def Holds (env : Environment) (name text : String) : Prop :=
  env.entries.lookup name = some (Text.Utf8.encode text.toList)

/-- Whether a variable holds nothing that counts: it is not set, or empty, or its bytes are those of
no text. -/
def IsBlank (env : Environment) (name : String) : Prop :=
  env.entries.lookup name = none ∨ env.entries.lookup name = some [] ∨
    ∃ bytes, env.entries.lookup name = some bytes ∧ ∀ text, bytes ≠ Text.Utf8.encode text

theorem get?_eq_some_iff : env.get? name = some text ↔ env.Holds name text := by
  unfold get? Holds
  cases env.entries.lookup name with
  | none => simp
  | some bytes =>
    simp only [Option.map_eq_some_iff, Option.some.injEq]
    constructor
    · rintro ⟨chars, hchars, rfl⟩
      cases hdecode : Text.Utf8.decode bytes with
      | error fault => simp [hdecode, Except.toOption] at hchars
      | ok decoded =>
        have hsame : decoded = chars := by simpa [hdecode, Except.toOption] using hchars
        rw [String.toList_ofList, ← hsame]
        exact Text.Utf8.decode_eq_ok_iff.mp hdecode
    · intro hbytes
      refine ⟨text.toList, ?_, String.ofList_toList⟩
      rw [Text.Utf8.decode_eq_ok_iff.mpr hbytes]
      rfl

/-- Nothing counts in a variable exactly when it holds no text, or the empty one. -/
theorem isBlank_iff : env.IsBlank name ↔ ∀ text, env.Holds name text → text = "" := by
  unfold IsBlank Holds
  cases env.entries.lookup name with
  | none => simp
  | some bytes =>
    simp only [Option.some.injEq, false_or, reduceCtorEq]
    constructor
    · rintro (rfl | ⟨bytes, rfl, hno⟩) text hbytes
      · have hread : Text.Utf8.decode [] = .ok text.toList :=
          Text.Utf8.decode_eq_ok_iff.mpr hbytes
        have hempty : Text.Utf8.decode [] = .ok [] := Text.Utf8.decode_encode []
        rw [hempty] at hread
        exact String.toList_eq_nil_iff.mp (Except.ok.inj hread).symm
      · exact absurd hbytes (hno _)
    · intro hall
      by_cases htext : ∃ text, bytes = Text.Utf8.encode text
      · obtain ⟨text, htext⟩ := htext
        have hnil : String.ofList text = "" := hall _ (by rwa [String.toList_ofList])
        have htextNil : text = [] := by
          rw [← String.toList_ofList (l := text), hnil]
          rfl
        rw [htextNil] at htext
        exact .inl htext
      · exact .inr ⟨bytes, rfl, not_exists.mp htext⟩

end Environment

/-! ## 2. The token of a call -/

namespace Forwarder

/-- Whether there is no token for a request that brings this one, or none. -/
def Lacks (forwarder : Forwarder) (env : Environment) (own : Option String) : Prop :=
  (own = none ∨ own = some "") ∧ env.IsBlank forwarder.tokenEnv

/-- Whether a token is the one for a request that brings this one, or none. -/
def Finds (forwarder : Forwarder) (env : Environment) (own : Option String) (token : String) :
    Prop :=
  token ≠ "" ∧
    (own = some token ∨ (own = none ∨ own = some "") ∧ env.Holds forwarder.tokenEnv token)

section Credential

variable (forwarder : Forwarder) (env : Environment) (request : Request)

theorem filter_eq_some_iff {held : Option String} {token : String} :
    held.filter (fun token => !token.isEmpty) = some token ↔ held = some token ∧ token ≠ "" := by
  simp [Option.filter_eq_some_iff]

theorem filter_eq_none_iff {held : Option String} :
    held.filter (fun token => !token.isEmpty) = none ↔ held = none ∨ held = some "" := by
  cases held with
  | none => simp
  | some text => simp [Option.filter_some]

/-- **Either there is a token for a request, or one is lacking.** -/
theorem credential_cases :
    (∃ token, forwarder.credential env request = .ok token ∧
      ¬forwarder.Lacks env request.token ∧ forwarder.Finds env request.token token) ∨
    forwarder.credential env request = .error (.missingCredential forwarder.tokenEnv) ∧
      forwarder.Lacks env request.token := by
  unfold credential Request.credential?
  cases hown : request.token.filter (fun token => !token.isEmpty) with
  | some token =>
    obtain ⟨hbrings, hne⟩ := filter_eq_some_iff.mp hown
    refine .inl ⟨token, rfl, ?_, hne, .inl hbrings⟩
    rintro ⟨hnone, -⟩
    rw [filter_eq_none_iff.mpr hnone] at hown
    cases hown
  | none =>
    have hbrings := filter_eq_none_iff.mp hown
    cases hheld : (env.get? forwarder.tokenEnv).filter (fun token => !token.isEmpty) with
    | some token =>
      obtain ⟨hget, hne⟩ := filter_eq_some_iff.mp hheld
      have hholds := Environment.get?_eq_some_iff.mp hget
      refine .inl ⟨token, rfl, ?_, hne, .inr ⟨hbrings, hholds⟩⟩
      rintro ⟨-, hblank⟩
      exact hne (Environment.isBlank_iff.mp hblank token hholds)
    | none =>
      refine .inr ⟨rfl, hbrings, Environment.isBlank_iff.mpr fun text hholds => ?_⟩
      rw [Environment.get?_eq_some_iff.mpr hholds] at hheld
      rcases filter_eq_none_iff.mp hheld with hno | hempty
      · cases hno
      · exact Option.some.inj hempty

end Credential

/-! ## 3. Openings -/

section Order

variable {forwarder : Forwarder} {env : Environment} {request : Request}

theorem order_of_empty (h : request.model = "") :
    forwarder.order env request = .error (.config .emptyModel) := by
  have hempty : request.model.isEmpty = true := String.isEmpty_iff.mpr h
  rw [order, if_pos hempty]

theorem order_of_error {e : Error} (hmodel : request.model ≠ "")
    (h : forwarder.credential env request = .error e) :
    forwarder.order env request = .error e := by
  have hnonempty : ¬request.model.isEmpty = true := mt String.isEmpty_iff.mp hmodel
  rw [order, if_neg hnonempty, h]

theorem order_of_ok {token : String} (hmodel : request.model ≠ "")
    (h : forwarder.credential env request = .ok token) :
    forwarder.order env request = .ok
      { url := forwarder.endpointUrl request.model, stream := request.stream, token
        body := request.bodyText } := by
  have hnonempty : ¬request.model.isEmpty = true := mt String.isEmpty_iff.mp hmodel
  rw [order, if_neg hnonempty, h]

end Order

theorem Launch.opened_of_error {launch : Launch} {e : Error}
    (h : launch.forwarder.order launch.state.env launch.request = .error e) :
    launch.opened = { state := launch.state, outcome := .refused e } := by
  rw [opened, openCall_eq, h]

/-- **What an opening comes to, by its request.** -/
theorem Launch.opened_cases (launch : Launch) :
    let lacks := launch.forwarder.Lacks launch.state.env launch.request.token
    (launch.request.model = "" ∧
      launch.opened = { state := launch.state, outcome := .refused (.config .emptyModel) }) ∨
    (launch.request.model ≠ "" ∧ lacks ∧
      launch.opened =
        { state := launch.state
          outcome := .refused (.missingCredential launch.forwarder.tokenEnv) }) ∨
    (launch.request.model ≠ "" ∧ ¬lacks ∧ launch.opened.outcome = .opened ∧
      ∃ token, launch.forwarder.credential launch.state.env launch.request = .ok token ∧
        launch.forwarder.Finds launch.state.env launch.request.token token) := by
  intro lacks
  by_cases hmodel : launch.request.model = ""
  · exact .inl ⟨hmodel, opened_of_error (order_of_empty hmodel)⟩
  · rcases credential_cases launch.forwarder launch.state.env launch.request with
      ⟨token, hcredential, hfound, hfinds⟩ | ⟨hcredential, hlacks⟩
    · refine .inr (.inr ⟨hmodel, hfound, ?_, token, hcredential, hfinds⟩)
      rw [opened_of_order (order_of_ok hmodel hcredential)]
    · exact .inr (.inl ⟨hmodel, hlacks, opened_of_error (order_of_error hmodel hcredential)⟩)

/-- **An opening is refused for want of a name or of a token, and leaves no trace then.**

Take any state, and a request that is built by any steps. The opening of a call is refused because
the model has no name exactly when it has none. It is refused because there is no token, naming the
variable, exactly when the model has a name, the last step that sets a token sets the empty one or
there is no such step, and the variable is not set, empty, or not UTF-8. Else it is not refused.

A refused opening changes nothing, sends nothing and logs nothing, and the run goes on as it would
have without. The token of a call that was not refused is the one of the last step that sets one,
unless that is empty, and what the variable holds at that moment otherwise: the call is opened with
it, and with it goes out whatever is sent for the call. -/
theorem traceless_of_refused (forwarder : Forwarder) (state : State) (name model prompt : String)
    (changes : List Request.Change) (cancellable : Bool) (reply : Http.Reply) (after : List Step) :
    let launch : Launch :=
      { forwarder, state, name, request := .build model prompt changes, cancellable, reply, after }
    let opening := Step.openCall name launch.request cancellable reply
    let own := Request.lastToken? changes
    let lacks := forwarder.Lacks state.env own
    let refusedFor (e : Error) := launch.opened.outcome = .refused e
    (refusedFor (.config .emptyModel) ↔ model = "") ∧
      (refusedFor (.missingCredential forwarder.tokenEnv) ↔ model ≠ "" ∧ lacks) ∧
      (launch.opened.outcome = .opened ↔ model ≠ "" ∧ ¬lacks) ∧
      (∀ e, refusedFor e →
        launch.opened.state = state ∧ launch.opened.messages = [] ∧ launch.opened.log = [] ∧
          launch.sent = [] ∧
          run forwarder state (opening :: after) =
            launch.opened.report :: run forwarder state after) ∧
      (launch.opened.outcome = .opened → ∃ token, forwarder.Finds state.env own token ∧
        (∃ order, order.token = token ∧
          launch.opened.state.call? name = some (.new cancellable order reply)) ∧
        ∀ message ∈ launch.sent, ∃ address,
          Url.ofText? (forwarder.endpointUrl model) = some address ∧
            message.Takes launch.request.bodyText address token) := by
  intro launch opening own lacks refusedFor
  have hmodel : launch.request.model = model := Request.model_build model prompt changes
  have htoken : launch.request.token = own := Request.token_build model prompt changes
  have hcases := launch.opened_cases
  rw [hmodel, htoken] at hcases
  have hrun : run forwarder state (opening :: after) =
      launch.opened.report :: run forwarder launch.opened.state after := rfl
  -- a refused opening comes to its answer alone
  have htrace (e : Error)
      (hopened : launch.opened = { state, outcome := .refused e }) :
      launch.opened.state = state ∧ launch.opened.messages = [] ∧ launch.opened.log = [] ∧
        launch.sent = [] ∧
        run forwarder state (opening :: after) =
          launch.opened.report :: run forwarder state after := by
    refine ⟨by rw [hopened], by rw [hopened], by rw [hopened], ?_, ?_⟩
    · rw [Launch.sent, Launch.stages, hopened]
      rfl
    · rw [hrun, hopened]
  rcases hcases with ⟨hempty, hopened⟩ | ⟨hnamed, hlacks, hopened⟩ |
    ⟨hnamed, hfound, hopened, token, hcredential, hfinds⟩
  · have houtcome : launch.opened.outcome = .refused (.config .emptyModel) := by rw [hopened]
    simp only [refusedFor, houtcome]
    refine ⟨by simp [hempty], by simp [hempty], by simp [hempty], fun _ _ => htrace _ hopened, ?_⟩
    intro h
    cases h
  · have houtcome : launch.opened.outcome = .refused (.missingCredential forwarder.tokenEnv) := by
      rw [hopened]
    simp only [refusedFor, houtcome]
    have hlack : lacks := hlacks
    refine ⟨by simp [hnamed], by simp [hnamed, hlack], by simp [hlack],
      fun _ _ => htrace _ hopened, ?_⟩
    intro h
    cases h
  · simp only [refusedFor, hopened]
    have hfind : ¬lacks := hfound
    refine ⟨by simp [hnamed], by simp [hfind], by simp [hnamed, hfind], by simp, fun _ => ?_⟩
    have horder := order_of_ok (hmodel.trans_ne hnamed) hcredential
    refine ⟨token, hfinds, ⟨_, rfl, Launch.call?_opened_of_order horder⟩,
      fun message hmessage => ?_⟩
    obtain ⟨address, found, haddress, hfoundToken, htakes⟩ := Launch.takes_of_mem_sent hmessage
    have hsame : found = token := Except.ok.inj (hfoundToken.symm.trans hcredential)
    rw [hmodel] at haddress
    exact ⟨address, haddress, hsame ▸ htakes⟩

/-- An empty token takes the place of an earlier one, and a variable that is not UTF-8 does not
count. -/
example :
    let forwarder : Forwarder := { baseUrl := "http://far", tokenEnv := "TOKEN" }
    let request : Request := .build "m" "p" [.token "t", .stream true, .token ""]
    (effect forwarder { env := .ofList [("TOKEN", [0x74, 0xC3])] }
      (.openCall "a" request true .silent)).outcome = .refused (.missingCredential "TOKEN") := by
  cbv

end Forwarder

end Relay
