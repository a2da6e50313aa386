import Relay.Proofs.Call.Stops
import Relay.Proofs.Forwarder.Refusals
import Relay.Proofs.Forwarder.Stops
import Relay.Proofs.Text.Shorten

/-!
# Bodies in errors

An answer with another status than 200 is an error with its body in it, which goes on one line
there. This file says what is on that line (`longest_part_of_shorten`), and that no error that a run
reports holds more of a body: not one that a call delivers (`isShort_prospect`), and none that a
step answers itself (`isShort_effect`).
-/

namespace Relay

/-! ## 1. Errors with a body -/

/-- Whether the body in an error, if there is one, is on one line of the width for bodies. -/
def Error.IsShort (e : Error) : Prop :=
  ∀ status snippet, e = .endpoint status snippet →
    snippet.length ≤ 50 ∧ Text.SingleSpaced snippet.toList

namespace Error

theorem isShort_ofResponse (status : Nat) (body : String) : (ofResponse status body).IsShort := by
  intro _ _ h
  obtain ⟨-, rfl⟩ := Error.endpoint.inj h
  rw [Text.shorten, String.length_ofList, String.toList_ofList]
  exact ⟨Text.length_shortenChars_le body.toList Text.snippetWidth,
    Text.singleSpaced_shortenChars body.toList Text.snippetWidth⟩

/-- An error that is none of an answer has no body in it. -/
theorem isShort_of_ne {e : Error} (h : ∀ status snippet, e ≠ .endpoint status snippet) :
    e.IsShort :=
  fun status snippet he => absurd he (h status snippet)

theorem isShort_transport (cause : TransportCause) : (transport cause).IsShort :=
  isShort_of_ne fun _ _ => Error.noConfusion

theorem isShort_decode (cause : DecodeCause) : (decode cause).IsShort :=
  isShort_of_ne fun _ _ => Error.noConfusion

end Error

/-- The error of an order that is refused has no body in it: nothing has been sent. -/
theorem Forwarder.isShort_order (forwarder : Forwarder) {env : Environment} {request : Request}
    {e : Error} (h : forwarder.order env request = .error e) : e.IsShort := by
  by_cases hmodel : request.model = ""
  · rw [order_of_empty hmodel] at h
    exact Except.error.inj h ▸ Error.isShort_of_ne fun _ _ => Error.noConfusion
  · rcases credential_cases forwarder env request with ⟨token, hcredential, -⟩ | ⟨hcredential, -⟩
    · rw [order_of_ok hmodel hcredential] at h
      cases h
    · rw [order_of_error hmodel hcredential] at h
      exact Except.error.inj h ▸ Error.isShort_of_ne fun _ _ => Error.noConfusion

theorem Caps.isShort_fetch {baseUrl : String} {reply : Http.Reply} {e : Error}
    (h : (fetch baseUrl reply).result = some (.error e)) : e.IsShort := by
  simp only [fetch] at h
  cases harrival : (Http.exchange (Http.Message.start .get (address baseUrl)) reply).arrival with
  | failure cause =>
    rw [harrival] at h
    obtain rfl := Except.error.inj (Option.some.inj h)
    exact Error.isShort_transport cause
  | silence =>
    rw [harrival] at h
    cases h
  | response response =>
    rw [harrival, arrive, take] at h
    cases hwhole : response.whole with
    | waiting => simp [hwhole] at h
    | cutShort =>
      simp only [hwhole, Option.some.injEq, Except.error.injEq] at h
      exact h ▸ Error.isShort_decode _
    | text text =>
      simp only [hwhole] at h
      split at h
      · obtain rfl := Except.error.inj (Option.some.inj h)
        exact Error.isShort_ofResponse _ _
      · cases hparse : parse text with
        | ok caps => simp [hparse, Except.mapError] at h
        | error fault =>
          simp only [hparse, Except.mapError, Option.some.injEq, Except.error.injEq] at h
          exact h ▸ Error.isShort_decode _

/-! ## 2. Errors that a call delivers -/

/-- The error that is to be expected. -/
def Prospect.error? : Prospect → Option Error
  | .script expected => expected.stop.error?
  | .finished => none

namespace Prospect

variable {prospect : Prospect} {e : Error}

theorem error_of_next (h : prospect.next.taken = some (.failed e)) : prospect.error? = some e := by
  cases prospect with
  | finished => cases h
  | script script =>
    obtain ⟨chunks, stop, log⟩ := script
    cases chunks with
    | nil => exact congrArg (Option.bind · Item.error?) h
    | cons chunk more => cases h

end Prospect

theorem Handle.Stop.eq_of_error {stop : Handle.Stop} {e : Error} (h : stop.error? = some e) :
    stop = .failed e := by
  cases stop with
  | failed cause => exact congrArg _ (Option.some.inj h)
  | _ => cases h

namespace Script

variable {e : Error}

theorem StopsBy.isShort {stream : Bool} {response : Http.Response}
    (h : StopsBy stream response (.failed e)) : e.IsShort := by
  cases h with
  | refused hstatus hending body => exact Error.isShort_ofResponse _ _
  | lost => exact Error.isShort_transport _
  | lostWhole | undecodable => exact Error.isShort_decode _

theorem isShort_ofLines {url : String} {delivered : Nat} {ending : Http.Ending}
    {lines : List (List UInt8)} (h : (ofLines url delivered ending lines).stop = .failed e) :
    e.IsShort := by
  simp only [ofLines] at h
  cases hfailure : Frame.failureOf lines with
  | some failure =>
    rw [hfailure] at h
    obtain rfl := Handle.Stop.failed.inj h
    obtain ⟨cause, rfl⟩ := Frame.decode_of_failureOf hfailure
    exact Error.isShort_decode cause
  | none =>
    rw [hfailure] at h
    cases ending with
    | cut =>
      obtain rfl := Handle.Stop.failed.inj h
      exact Error.isShort_transport _
    | _ => cases h

theorem isShort_script {order : Order} {reply : Http.Reply}
    (h : (order.script reply).stop = .failed e) : e.IsShort := by
  cases harrival : (Http.exchange order.message reply).arrival with
  | failure cause =>
    rw [Order.script, harrival] at h
    obtain rfl := Handle.Stop.failed.inj h
    exact Error.isShort_transport cause
  | silence =>
    rw [Order.script, harrival] at h
    cases h
  | response response =>
    rw [Order.script_of_response harrival] at h
    have hstops := stopsBy_ofResponse order response
    rw [h] at hstops
    exact hstops.isShort

end Script

/-- **The error that is to be expected of a call is short.** -/
theorem isShort_prospect (handle : Handle) {e : Error} (h : handle.prospect.error? = some e) :
    e.IsShort := by
  have hcall (call : Call) (h : call.prospect.error? = some e) : e.IsShort := by
    obtain ⟨order, reply, progress⟩ := call
    cases progress with
    | unsent => exact Script.isShort_script (Handle.Stop.eq_of_error h)
    | reading reader delivered => exact Script.isShort_ofLines (Handle.Stop.eq_of_error h)
    | _ => cases h
  cases handle with
  | plain call => exact hcall call h
  | guarded call =>
    obtain ⟨inner, fired, phase⟩ := call
    cases phase with
    | running =>
      cases fired with
      | true => exact Option.some.inj h ▸ Error.isShort_of_ne fun _ _ => Error.noConfusion
      | false => exact hcall inner h
    | _ => cases h

theorem isShort_poll (handle : Handle) (sessions : Sessions) {e : Error}
    (h : (handle.poll sessions).item = some (.failed e)) : e.IsShort :=
  isShort_prospect handle
    (Prospect.error_of_next ((handle.follows_poll sessions).item.symm.trans h))

namespace Forwarder

/-! ## 3. Errors that a run reports -/

/-- The error that a step reports: one that a call delivers, or its own. -/
def Outcome.reported? : Outcome → Option Error
  | .refused e => some e
  | .caps (some (.error e)) => some e
  | outcome => outcome.error?

section Reported

variable {forwarder : Forwarder} {state : State} {step : Step} {e : Error}

theorem Outcome.reported_cases {outcome : Outcome} (h : outcome.reported? = some e) :
    outcome = .refused e ∨ outcome = .caps (some (.error e)) ∨ .failed e ∈ outcome.delivered := by
  cases outcome with
  | refused cause => exact .inl (congrArg _ (Option.some.inj h))
  | caps result =>
    rcases result with _ | _ | caps
    · cases h
    · exact .inr (.inl (by rw [Option.some.inj h]))
    · cases h
  | item taken =>
    obtain ⟨item, rfl, hitem⟩ := Option.bind_eq_some_iff.mp h
    cases item with
    | failed cause => exact .inr (.inr (Option.some.inj hitem ▸ List.mem_singleton_self _))
    | _ => cases hitem
  | drained chunks stop =>
    rw [Handle.Stop.eq_of_error h]
    exact .inr (.inr (List.mem_append_right _ (List.mem_singleton_self _)))
  | collected result =>
    rcases result with _ | cause | chunks
    · cases h
    · exact .inr (.inr (Option.some.inj h ▸ List.mem_singleton_self _))
    · cases h
  | _ => cases h

/-- Only an opening is refused. -/
theorem order_of_refused (h : (effect forwarder state step).outcome = .refused e) :
    ∃ request, forwarder.order state.env request = .error e := by
  cases step with
  | openCall name request cancellable reply =>
    rw [openCall_eq] at h
    cases horder : forwarder.order state.env request with
    | error cause =>
      rw [horder] at h
      exact ⟨request, horder.trans (congrArg _ (Outcome.refused.inj h))⟩
    | ok order =>
      rw [horder] at h
      cases h
  | next name | nextThenCancel name | drain name | collect name | cancel name | drop name =>
    simp only [effect, withCall] at h
    split at h <;> cases h
  | _ => cases h

/-- Only fetching answers capabilities. -/
theorem fetch_of_caps {result : Option (Except Error Caps)}
    (h : (effect forwarder state step).outcome = .caps result) :
    ∃ baseUrl reply, (Caps.fetch baseUrl reply).result = result := by
  cases step with
  | caps baseUrl reply => exact ⟨baseUrl, reply, Outcome.caps.inj h⟩
  | openCall name request cancellable reply =>
    rw [openCall_eq] at h
    split at h <;> cases h
  | next name | nextThenCancel name | drain name | collect name | cancel name | drop name =>
    simp only [effect, withCall] at h
    split at h <;> cases h
  | _ => cases h

/-- **The error that a step reports is short.** -/
theorem isShort_effect (h : (effect forwarder state step).outcome.reported? = some e) :
    e.IsShort := by
  rcases Outcome.reported_cases h with hrefused | hcaps | hdelivered
  · obtain ⟨request, horder⟩ := order_of_refused hrefused
    exact isShort_order forwarder horder
  · obtain ⟨baseUrl, reply, hresult⟩ := fetch_of_caps hcaps
    exact Caps.isShort_fetch hresult
  · have hpoll (handle : Handle) (sessions : Sessions) :
        ∀ item ∈ (handle.poll sessions).item, ∀ cause, item = .failed cause → cause.IsShort := by
      rintro item hitem cause rfl
      exact isShort_poll handle sessions hitem
    exact forall_effect _ hpoll forwarder state step _ hdelivered e rfl

end Reported

theorem isShort_run (forwarder : Forwarder) (state : State) (steps : List Step) {report : Report}
    {e : Error} (hreport : report ∈ run forwarder state steps)
    (h : report.outcome.reported? = some e) : e.IsShort := by
  induction steps generalizing state with
  | nil => cases hreport
  | cons step more ih =>
    rcases List.mem_cons.mp hreport with rfl | hmore
    · exact isShort_effect h
    · exact ih _ hmore

/-! ## 4. What is on the line -/

/-- **Of a text that is too long for its width, the longest part is kept that ends at a break and
leaves room for the mark.**

Take the words of any text on a line. If the line has the width, it is the shortened text. If not,
the longest part of it is, from the start, that ends at a break and has at most `width - 6`
characters, with the mark behind it; and the mark alone where there is no such part. So a shortened
text has the width, unless it is the mark, and holds no white space but single spaces between other
characters.

Bodies in errors are such texts: in every error that any run reports there are at most 50 characters
of a body, on one line. -/
theorem longest_part_of_shorten (text : String) (width : Nat) :
    let line := Text.collapse text.toList
    let short := (Text.shorten text width).toList
    (line.length ≤ width → short = line) ∧
      (width < line.length → ∃ kept, Text.LongestCut line (width - 6) kept ∧
        short = if kept = [] then "[...]".toList else kept ++ " [...]".toList) ∧
      short.length ≤ max width 5 ∧ Text.SingleSpaced short ∧
      ∀ (forwarder : Forwarder) (state : State) (steps : List Step),
        ∀ report ∈ run forwarder state steps, ∀ status snippet,
          report.outcome.reported? = some (.endpoint status snippet) →
            snippet.length ≤ 50 ∧ Text.SingleSpaced snippet.toList := by
  intro line short
  have hshort : short = Text.shortenChars text.toList width := String.toList_ofList
  rw [hshort]
  refine ⟨Text.shortenChars_of_fits, fun hlong => ?_, Text.length_shortenChars_le _ _,
    Text.singleSpaced_shortenChars _ _, fun forwarder state steps report hreport status snippet h =>
      isShort_run forwarder state steps hreport h status snippet rfl⟩
  obtain ⟨kept, hcut, hkept⟩ := Text.exists_shortenChars hlong
  refine ⟨kept, hcut, hkept.trans ?_⟩
  by_cases hnil : kept = []
  · rw [if_pos hnil, hnil]
    rfl
  · rw [if_neg hnil, Text.withEllipsis_of_ne_nil hnil]
    rfl

end Forwarder

end Relay
