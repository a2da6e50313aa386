import Relay.Proofs.Forwarder.Collecting
import Relay.Proofs.Forwarder.Refusals
import Relay.Proofs.Http.Headers

/-!
# The token goes out once, and alone in its header

What is sent for a call has one content type and one token, the one that was found when the call was
opened. A token with a control is not sent at all: the call fails, and nothing leaves. So no token
can bring a header of its own along (`bears_of_sent`). What does stand beside the token is the user
name and the password of the address, when it has them: they make another value of the same header
(`basic_beside_token`).
-/

namespace Relay

theorem Http.values_bearing {message : Message} {address : Url} {token : String}
    (h : message.headers = bearing address token) :
    message.values .contentType = ["application/json"] ∧
      message.values .authorization = (Message.basic? address).toList ++ ["Bearer " ++ token] := by
  simp [Message.values, h, bearing, List.filter_map, Function.comp_def, Message.jsonType]

/-- A call whose message cannot be built delivers why. -/
theorem Order.script_of_unbuildable {order : Order} {cause : TransportCause}
    (h : order.message = .error cause) (reply : Http.Reply) :
    order.script reply = { stop := .failed (.transport cause) } := by
  rw [script, h]
  rfl

namespace Forwarder

namespace Launch

variable {launch : Launch} {order : Order} {cause : TransportCause}

/-- **A call whose message cannot be built sends nothing, and delivers why.** -/
theorem fails_of_unbuildable
    (horder : launch.forwarder.order launch.state.env launch.request = .ok order)
    (hmessage : order.message = .error cause) :
    launch.sent = [] ∧
      Delivers launch.forwarder launch.opened.state launch.name [] (.failed (.transport cause)) ∧
      (∀ stage ∈ launch.stages, ∀ e, (stage.effect launch.forwarder).outcome.error? = some e →
        e = .transport cause ∨ (launch.cancellable = true ∧ launch.Fires) ∧ e = .cancelled) ∧
      ((launch.cancellable = true → ¬launch.Fires) → ∃ ends,
        launch.stages.flatMap (fun stage => (stage.effect launch.forwarder).outcome.items) <+:
          .failed (.transport cause) :: List.replicate ends .ended) := by
  have hscript := Order.script_of_unbuildable hmessage launch.reply
  refine ⟨?_, ?_, fun stage hstage e he => ?_, fun hunfired => ?_⟩
  · rcases sent_of_order horder with hsent | hsent
    · rw [hsent, hmessage]
      rfl
    · exact hsent
  · rw [delivers_iff launch.forwarder (call?_opened_of_order horder), Handle.prospect_new, hscript]
    rfl
  · rcases stop_of_error horder hstage he with hstop | hcancelled
    · rw [hscript] at hstop
      exact .inl (Handle.Stop.failed.inj hstop).symm
    · exact .inr hcancelled
  · obtain ⟨ends, hitems⟩ := items_of_unfired horder hunfired
    rw [hscript] at hitems
    exact ⟨ends, hitems⟩

end Launch

/-- **Whatever is sent for a call has one content type and one token**, and nothing of either
can be read as another header.

Take any call in any run. A message that is sent for it has the type of JSON as its only content
type, and the token that was found when the call was opened, behind what the address brings: the
token stands alone if there is neither a user name nor a password in the address. When the token has
a control other than a tab, nothing is sent, and the call delivers that the connection failed, and
then the end, unless its token fires before. -/
theorem bears_of_sent (launch : Launch) :
    let model := launch.request.model
    let credential := launch.forwarder.credential launch.state.env launch.request
    (∀ message ∈ launch.sent, ∃ address token,
      Url.ofText? (launch.forwarder.endpointUrl model) = some address ∧ credential = .ok token ∧
        message.method = .post ∧
        message.values .contentType = ["application/json"] ∧
        message.values .authorization =
          (Http.Message.basic? address).toList ++ ["Bearer " ++ token] ∧
        ((∀ authority ∈ address.authority, authority.user = [] ∧ authority.password = none) →
          message.values .authorization = ["Bearer " ++ token]) ∧
        ∀ header ∈ message.headers, ¬HasControl header.value) ∧
      ∀ token, model ≠ "" → credential = .ok token → HasControl token →
        launch.opened.outcome = .opened ∧ launch.sent = [] ∧ ∃ cause,
          Delivers launch.forwarder launch.opened.state launch.name []
            (.failed (.transport cause)) ∧
          (∀ stage ∈ launch.stages, ∀ e, (stage.effect launch.forwarder).outcome.error? = some e →
            e = .transport cause ∨ (launch.cancellable = true ∧ launch.Fires) ∧ e = .cancelled) ∧
          ((launch.cancellable = true → ¬launch.Fires) → ∃ ends,
            launch.stages.flatMap (fun stage => (stage.effect launch.forwarder).outcome.items) <+:
              .failed (.transport cause) :: List.replicate ends .ended) := by
  intro model credential
  refine ⟨fun message hmem => ?_, fun token hmodel hcredential hcontrol => ?_⟩
  · obtain ⟨order, horder, hsent⟩ := Launch.order_of_mem_sent hmem
    obtain ⟨token, hcredential, rfl⟩ := eq_of_order horder
    obtain ⟨address, haddress, hplain, hmethod, hheaders⟩ := Order.headers_of_sent hsent
    obtain ⟨htype, hauthorization⟩ := Http.values_bearing hheaders
    refine ⟨address, token, haddress, hcredential, hmethod, htype, hauthorization,
      fun hanonymous => ?_, ?_⟩
    · rw [hauthorization, Http.Message.basic?_of_anonymous hanonymous]
      rfl
    · rw [hheaders]
      exact Http.not_hasControl_of_bearing hplain
  · let order : Order :=
      { url := launch.forwarder.endpointUrl launch.request.model, stream := launch.request.stream
        token, body := launch.request.bodyText }
    have horder : launch.forwarder.order launch.state.env launch.request = .ok order :=
      order_of_ok hmodel hcredential
    obtain ⟨cause, hmessage⟩ := order.message_of_control hcontrol
    obtain ⟨hsent, hfails⟩ := Launch.fails_of_unbuildable horder hmessage
    refine ⟨?_, hsent, cause, hfails⟩
    rw [Launch.opened_of_order horder]

/-- A token that goes on with a line of its own is not sent. -/
theorem bears_of_sent_two_lines :
    let launch : Launch :=
      { forwarder := { baseUrl := "http://far", tokenEnv := "TOKEN" }
        state := { env := .ofList [("TOKEN", Text.Utf8.encode "t\r\nX: y".toList)] }
        name := "a"
        request := { model := "m", prompt := "p" }
        cancellable := true
        reply := .silent
        after := [.next "a", .drain "a"] }
    launch.sent = [] ∧ ∃ cause, Delivers launch.forwarder launch.opened.state "a" []
      (.failed (.transport cause)) := by
  intro launch
  have hmodel : launch.request.model ≠ "" := by decide
  have hcredential : launch.forwarder.credential launch.state.env launch.request =
      .ok "t\r\nX: y" := by
    cbv
  have hcontrol : HasControl "t\r\nX: y" := hasControl_iff.mpr ⟨'\r', by decide, by decide⟩
  obtain ⟨-, hsent, cause, hdelivers, -⟩ :=
    (bears_of_sent launch).2 _ hmodel hcredential hcontrol
  exact ⟨hsent, cause, hdelivers⟩

/-- A user name and a password in the address make a second value beside the token. -/
theorem basic_beside_token :
    let launch : Launch :=
      { forwarder := .ofConfig { baseUrl := "http://user:pw@far/", tokenEnv := "TOKEN" }
        state := {}
        name := "a"
        request := { model := "m", prompt := "p", token := some "t" }
        cancellable := false
        reply := .dropped
        after := [.next "a"] }
    launch.sent.map (fun message => message.values .authorization) =
      [["Basic dXNlcjpwdw==", "Bearer t"]] := by
  intro launch
  let order : Order :=
    { url := "http://user:pw@far/models/m", stream := false, token := "t"
      body := launch.request.bodyText }
  have horder : launch.forwarder.order launch.state.env launch.request = .ok order := by rfl
  have hvalues : (Http.exchange order.message .dropped).message.toList.map
      (fun message => message.values .authorization) = [["Basic dXNlcjpwdw==", "Bearer t"]] := by
    cbv
  rw [Launch.sent_of_polled horder rfl]
  exact hvalues

end Forwarder

end Relay
