import Relay.Forwarder

/-!
# What is sent

The message of an order takes the body of the request to the address of its model, with the token
that was found when the call was opened (`Message.Takes`). Nothing else goes into it: this is what
the far end reads, whatever the connection comes to (`Forwarder.takes_of_sent`).
-/

namespace Relay

namespace Http

/-- Whether a message takes a body to an address, with a token. -/
structure Message.Takes (message : Message) (body : String) (address : Url) (token : String) :
    Prop where
  method : message.method = .post
  target : message.url.target = address.target
  /-- Credentials in the address come in front of the token. -/
  authorization : message.values .authorization =
    (addressed .post address).values .authorization ++ ["Bearer " ++ token]
  body : message.body = some body

/-! ## 1. Steps of building -/

namespace Message

variable {message after : Message} {name other : HeaderName}

@[simp] theorem method_addressed (method : Method) (url : Url) :
    (addressed method url).method = method := by
  unfold addressed
  cases url.authority with
  | none => rfl
  | some authority =>
    simp only
    cases credentials? authority <;> rfl

@[simp] theorem target_addressed (method : Method) (url : Url) :
    (addressed method url).url.target = url.target := by
  unfold addressed
  cases url.authority with
  | none => rfl
  | some authority =>
    simp only
    cases credentials? authority <;> rfl

@[simp] theorem method_addHeader (value : String) :
    (message.addHeader name value).method = message.method := rfl

@[simp] theorem url_addHeader (value : String) :
    (message.addHeader name value).url = message.url := rfl

@[simp] theorem values_addHeader_self (value : String) :
    (message.addHeader name value).values name = message.values name ++ [value] := by
  simp [values, addHeader]

theorem values_addHeader_of_ne (value : String) (h : other ≠ name) :
    (message.addHeader name value).values other = message.values other := by
  simp [values, addHeader, Ne.symm h]

@[simp] theorem method_defaultHeader (value : String) :
    (message.defaultHeader name value).method = message.method := by
  unfold defaultHeader
  split <;> rfl

@[simp] theorem url_defaultHeader (value : String) :
    (message.defaultHeader name value).url = message.url := by
  unfold defaultHeader
  split <;> rfl

@[simp] theorem body_defaultHeader (value : String) :
    (message.defaultHeader name value).body = message.body := by
  unfold defaultHeader
  split <;> rfl

theorem values_defaultHeader_of_ne (value : String) (h : other ≠ name) :
    (message.defaultHeader name value).values other = message.values other := by
  unfold defaultHeader
  split
  · exact values_addHeader_of_ne value h
  · rfl

theorem eq_of_start {method : Method} {address : String}
    (h : start method address = .ok message) :
    ∃ url, Url.ofText? address = some url ∧ message = addressed method url := by
  unfold start at h
  split at h
  · cases h
  · rename_i url hurl
    split at h
    · exact ⟨url, hurl, (Except.ok.inj h).symm⟩
    · cases h

theorem eq_of_bearer {token : String} (h : message.bearer token = .ok after) :
    after = message.addHeader .authorization ("Bearer " ++ token) := by
  simp only [bearer] at h
  split at h
  · exact (Except.ok.inj h).symm
  · cases h

theorem eq_of_complete (h : message.complete = .ok after) :
    after = message.defaultHeader .contentType jsonType := by
  unfold complete at h
  split at h
  · exact (Except.ok.inj h).symm
  · cases h

end Message

/-! ## 2. The message of an order -/

/-- A message that the far end has read is the one that was built, made ready. -/
theorem complete_of_exchange {built : Except TransportCause Message} {reply : Reply}
    {message : Message} (h : (exchange built reply).message = some message) :
    ∃ bare, built = .ok bare ∧ bare.complete = .ok message := by
  cases built with
  | error cause => simp [exchange, Except.bind] at h
  | ok bare =>
    refine ⟨bare, rfl, ?_⟩
    simp only [exchange, Except.bind] at h
    cases hready : bare.complete with
    | error cause => simp [hready] at h
    | ok ready =>
      simp only [hready, Message.send] at h
      cases reply <;> simp_all

end Http

open Http (Message)

theorem Order.eq_of_message {order : Order} {message : Message} (h : order.message = .ok message) :
    ∃ address, Url.ofText? order.url = some address ∧
      message = ((Message.addressed .post address).addHeader .authorization
        ("Bearer " ++ order.token)).withJson order.body := by
  unfold Order.message at h
  cases hstart : Message.start .post order.url with
  | error cause => simp [hstart, bind, Except.bind] at h
  | ok started =>
    cases hbearer : started.bearer order.token with
    | error cause => simp [hstart, hbearer, bind, Except.bind] at h
    | ok borne =>
      obtain ⟨address, haddress, rfl⟩ := Message.eq_of_start hstart
      obtain rfl := Message.eq_of_bearer hbearer
      simp only [hstart, hbearer, bind, Except.bind] at h
      exact ⟨address, haddress, (Except.ok.inj h).symm⟩

/-- What the far end reads takes the body of the order to its address, with its token. -/
theorem Order.takes_of_sent {order : Order} {reply : Http.Reply} {message : Message}
    (h : (Http.exchange order.message reply).message = some message) :
    ∃ address, Url.ofText? order.url = some address ∧
      message.Takes order.body address order.token := by
  obtain ⟨bare, hbuilt, hready⟩ := Http.complete_of_exchange h
  obtain ⟨address, haddress, rfl⟩ := Order.eq_of_message hbuilt
  obtain rfl := Message.eq_of_complete hready
  have hne : Http.HeaderName.authorization ≠ .contentType := by decide
  refine ⟨address, haddress, ?_, ?_, ?_, ?_⟩
  · simp [Message.withJson]
  · simp [Message.withJson]
  · rw [Message.values_defaultHeader_of_ne _ hne]
    exact (Message.values_defaultHeader_of_ne _ hne).trans (Message.values_addHeader_self _)
  · simp [Message.withJson]

/-! ## 3. The message of a call -/

namespace Forwarder

variable {forwarder : Forwarder} {env : Environment} {request : Request} {order : Order}

theorem eq_of_order (h : forwarder.order env request = .ok order) :
    ∃ token, forwarder.credential env request = .ok token ∧
      order = { url := forwarder.endpointUrl request.model, stream := request.stream, token
                body := request.bodyText } := by
  unfold Forwarder.order at h
  split at h
  · cases h
  · split at h
    · cases h
    · rename_i token htoken
      exact ⟨token, htoken, (Except.ok.inj h).symm⟩

/-- **What a call sends is settled when it is opened**, by the request and by the environment of
that moment. -/
theorem takes_of_sent {reply : Http.Reply} {message : Message}
    (horder : forwarder.order env request = .ok order)
    (hsent : (Http.exchange order.message reply).message = some message) :
    ∃ address token, Url.ofText? (forwarder.endpointUrl request.model) = some address ∧
      forwarder.credential env request = .ok token ∧
      message.Takes request.bodyText address token := by
  obtain ⟨token, htoken, rfl⟩ := eq_of_order horder
  obtain ⟨address, haddress, htakes⟩ := Order.takes_of_sent hsent
  exact ⟨address, token, haddress, htoken, htakes⟩

end Forwarder

end Relay
