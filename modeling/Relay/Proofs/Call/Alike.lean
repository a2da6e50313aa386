import Mathlib.Data.List.Forall2
import Relay.Proofs.Call.Handle
import Relay.Proofs.Http.Headers

/-!
# Calls that differ in a secret

A `Secret` is a part of what calls are made from: the tokens, the prompts, or the parameters. Two
orders are alike (`Order.Alike`) when they differ in nothing else, and calls are alike when their
orders are and they have got equally far. Alike calls are polled and drained alike
(`Handle.Alike.poll`, `Handle.Alike.drain`): they answer and log the same, and what they send is the
same but for the secret (`Http.Message.Alike`).
-/

namespace Relay

/-! ## 1. Secrets -/

/-- What two calls may differ in. -/
inductive Secret where
  | token
  | prompt
  | parameters
  deriving DecidableEq, Repr

/-- Whether a text can be sent as a token. -/
structure IsCredential (text : String) : Prop where
  nonempty : text ≠ ""
  plain : ¬HasControl text

namespace Secret

variable (secret : Secret)

/-- The member of a body that a secret is in. -/
def member? : Secret → Option String
  | .token => none
  | .prompt => some "inputs"
  | .parameters => some "parameters"

/-- Whether two tokens are the same, or differ and are the secret. -/
def Tokens (own other : Option String) : Prop :=
  own = other ∨ secret = .token ∧ ∃ token token', own = some token ∧ other = some token' ∧
    IsCredential token ∧ IsCredential token'

/-- Whether two bodies are the same, or those of objects that differ in nothing but the member that
the secret is in. -/
def Bodies (body other : Option String) : Prop :=
  body = other ∨ ∃ key, secret.member? = some key ∧ ∃ members members' : Json.Object,
    List.Forall₂ (fun member member' => member.1 = member'.1 ∧ (member.1 ≠ key → member = member'))
        members members' ∧
      body = some (Json.Value.object members).toText ∧
      other = some (Json.Value.object members').toText

variable {secret}

/-- Tokens that are alike can be sent or cannot. -/
theorem Tokens.hasControl_iff {token token' : String}
    (h : secret.Tokens (some token) (some token')) : HasControl token ↔ HasControl token' := by
  rcases h with heq | ⟨-, _, _, hown, hother, hplain, hplain'⟩
  · rw [Option.some.inj heq]
  · rw [Option.some.inj hown, Option.some.inj hother]
    exact iff_of_false hplain.plain hplain'.plain

end Secret

/-! ## 2. Messages -/

namespace Http.Message

/-- Whether two messages differ in nothing but the secret. -/
structure Alike (secret : Secret) (message other : Message) : Prop where
  method : message.method = other.method
  url : message.url = other.url
  contentType : message.values .contentType = other.values .contentType
  authorization : message.values .authorization = other.values .authorization ∨
    secret = .token ∧ ∃ before token token', IsCredential token ∧ IsCredential token' ∧
      message.values .authorization = before ++ ["Bearer " ++ token] ∧
      other.values .authorization = before ++ ["Bearer " ++ token']
  body : secret.Bodies message.body other.body

namespace Alike

variable {secret : Secret} {message other : Message}

theorem refl (message : Message) : message.Alike secret message :=
  ⟨rfl, rfl, rfl, .inl rfl, .inl rfl⟩

/-- Both get a content type, or neither. -/
theorem defaultHeader (h : message.Alike secret other) (value : String) :
    (message.defaultHeader .contentType value).Alike secret
      (other.defaultHeader .contentType value) := by
  have hne : HeaderName.authorization ≠ .contentType := by decide
  have htype : (message.defaultHeader .contentType value).values .contentType =
      (other.defaultHeader .contentType value).values .contentType := by
    simp only [Message.defaultHeader, h.contentType]
    split
    · rw [values_addHeader_self, values_addHeader_self, h.contentType]
    · exact h.contentType
  refine ⟨?_, ?_, htype, ?_, ?_⟩
  · rw [method_defaultHeader, method_defaultHeader, h.method]
  · rw [url_defaultHeader, url_defaultHeader, h.url]
  · rw [values_defaultHeader_of_ne _ hne, values_defaultHeader_of_ne _ hne]
    exact h.authorization
  · rw [body_defaultHeader, body_defaultHeader]
    exact h.body

theorem withJson (h : message.Alike secret other) {body body' : String}
    (hbody : secret.Bodies (some body) (some body')) :
    (message.withJson body).Alike secret (other.withJson body') := by
  have hdefault := h.defaultHeader jsonType
  exact ⟨hdefault.method, hdefault.url, hdefault.contentType, hdefault.authorization, hbody⟩

/-- A token stands behind what the same message brings. -/
theorem addToken (message : Message) {token token' : String}
    (h : secret.Tokens (some token) (some token')) :
    (message.addHeader .authorization ("Bearer " ++ token)).Alike secret
      (message.addHeader .authorization ("Bearer " ++ token')) := by
  have hne : HeaderName.contentType ≠ .authorization := by decide
  refine ⟨rfl, rfl, ?_, ?_, .inl rfl⟩
  · rw [values_addHeader_of_ne _ hne, values_addHeader_of_ne _ hne]
  · rw [values_addHeader_self, values_addHeader_self]
    rcases h with heq | ⟨hsecret, _, _, hown, hother, hplain, hplain'⟩
    · rw [Option.some.inj heq]
      exact .inl rfl
    · obtain rfl := Option.some.inj hown
      obtain rfl := Option.some.inj hother
      exact .inr ⟨hsecret, _, _, _, hplain, hplain', rfl, rfl⟩

end Alike

end Http.Message

open Http (Message Reply Arrival)

/-- Whether two messages could be built, and alike, or neither could. -/
def Http.BuiltAlike (secret : Secret) (built other : Except TransportCause Message) : Prop :=
  (∃ cause, built = .error cause ∧ other = .error cause) ∨
    ∃ message message', built = .ok message ∧ other = .ok message' ∧ message.Alike secret message'

/-- Whether two exchanges are alike: what arrives is the same. -/
structure Http.Exchange.Alike (secret : Secret) (exchange other : Http.Exchange) : Prop where
  message : Option.Rel (Message.Alike secret) exchange.message other.message
  arrival : exchange.arrival = other.arrival

section Exchange

variable {secret : Secret} {message other : Message}

theorem Http.Message.Alike.complete (h : message.Alike secret other) :
    Http.BuiltAlike secret message.complete other.complete := by
  simp only [Message.complete, h.url]
  split
  · exact .inr ⟨_, _, rfl, rfl, h.defaultHeader Message.jsonType⟩
  · exact .inl ⟨_, rfl, rfl⟩

theorem Http.Message.Alike.send (h : message.Alike secret other) (reply : Reply) :
    (message.send reply).Alike secret (other.send reply) := by
  simp only [Message.send, h.url]
  cases reply with
  | refused => exact ⟨.none, rfl⟩
  | dropped => exact ⟨.some h, rfl⟩
  | silent => exact ⟨.some h, rfl⟩
  | answered response => exact ⟨.some h, rfl⟩

/-- **Messages that differ in a secret come to the same**, whatever the far end does. -/
theorem Http.BuiltAlike.exchange {built built' : Except TransportCause Message}
    (h : Http.BuiltAlike secret built built') (reply : Reply) :
    (Http.exchange built reply).Alike secret (Http.exchange built' reply) := by
  rcases h with ⟨cause, rfl, rfl⟩ | ⟨message, message', rfl, rfl, h⟩
  · exact ⟨.none, rfl⟩
  · simp only [Http.exchange, Except.bind]
    rcases h.complete with ⟨cause, hown, hother⟩ | ⟨ready, ready', hown, hother, hready⟩
    · simp only [hown, hother]
      exact ⟨.none, rfl⟩
    · simp only [hown, hother]
      exact hready.send reply

end Exchange

/-! ## 3. Orders -/

/-- Whether two orders differ in nothing but the secret. -/
structure Order.Alike (secret : Secret) (order other : Order) : Prop where
  url : order.url = other.url
  stream : order.stream = other.stream
  token : secret.Tokens (some order.token) (some other.token)
  body : secret.Bodies (some order.body) (some other.body)

/-- **Whether a message can be built does not depend on the secret**, and all else that is in it
does not. -/
theorem Order.Alike.message {secret : Secret} {order other : Order} (h : order.Alike secret other) :
    Http.BuiltAlike secret order.message other.message := by
  unfold Order.message
  rw [h.url]
  cases Message.start .post other.url with
  | error cause => exact .inl ⟨cause, rfl, rfl⟩
  | ok started =>
    by_cases hcontrol : HasControl order.token
    · have hcontrol' := h.token.hasControl_iff.mp hcontrol
      refine .inl ⟨.unbuildable, ?_, ?_⟩
      · simp only [bind, Except.bind, started.bearer_of_control hcontrol]
      · simp only [bind, Except.bind, started.bearer_of_control hcontrol']
    · have hplain := mt h.token.hasControl_iff.mpr hcontrol
      refine .inr ⟨_, _, ?_, ?_, (Message.Alike.addToken started h.token).withJson h.body⟩
      · simp only [bind, Except.bind, started.bearer_of_plain hcontrol]
      · simp only [bind, Except.bind, started.bearer_of_plain hplain]

/-! ## 4. Calls -/

/-- Whether two polls are alike: what is answered and logged is the same, and so are the sessions
that are left. -/
structure Polled.Alike {σ : Type} (secret : Secret) (CallsAlike : σ → σ → Prop)
    (polled other : Polled σ) : Prop where
  call : CallsAlike polled.call other.call
  sessions : polled.sessions = other.sessions
  item : polled.item = other.item
  message : Option.Rel (Message.Alike secret) polled.message other.message
  log : polled.log = other.log

/-- Whether two calls differ in nothing but the secret. -/
structure Call.Alike (secret : Secret) (call other : Call) : Prop where
  order : call.order.Alike secret other.order
  reply : call.reply = other.reply
  progress : call.progress = other.progress

/-- An answer is taken by the address and the mode of an order. -/
theorem Call.arrive_congr {order other : Order} (hurl : order.url = other.url)
    (hstream : order.stream = other.stream) (arrival : Arrival) :
    arrive order arrival = arrive other arrival := by
  cases arrival with
  | failure cause => rfl
  | silence => rfl
  | response response => simp only [arrive, take, hurl, hstream]

section Poll

variable {secret : Secret}

theorem Call.Alike.poll {call other : Call} (h : call.Alike secret other) (sessions : Sessions) :
    (call.poll sessions).Alike secret (Call.Alike secret) (other.poll sessions) := by
  obtain ⟨order, reply, progress⟩ := call
  obtain ⟨order', reply', progress'⟩ := other
  obtain ⟨(horder : order.Alike secret order'), rfl, rfl⟩ := h
  have hurl := horder.url
  have hstream := horder.stream
  cases progress with
  | unsent =>
    have hexchange := horder.message.exchange reply
    have hturn := arrive_congr hurl hstream (Http.exchange order'.message reply).arrival
    simp only [Call.poll, hexchange.arrival, hturn, hurl, hstream]
    exact ⟨⟨horder, rfl, rfl⟩, rfl, rfl, hexchange.message, rfl⟩
  | reading reader delivered =>
    simp only [Call.poll, hurl]
    exact ⟨⟨horder, rfl, rfl⟩, rfl, rfl, .none, rfl⟩
  | waiting => exact ⟨⟨horder, rfl, rfl⟩, rfl, rfl, .none, rfl⟩
  | answered => exact ⟨⟨horder, rfl, rfl⟩, rfl, rfl, .none, rfl⟩
  | broken held => exact ⟨⟨horder, rfl, rfl⟩, rfl, rfl, .none, rfl⟩
  | finished => exact ⟨⟨horder, rfl, rfl⟩, rfl, rfl, .none, rfl⟩

theorem Call.Alike.holdsConnection {call other : Call} (h : call.Alike secret other) :
    call.holdsConnection = other.holdsConnection := by
  rw [Call.holdsConnection, Call.holdsConnection, h.progress]

/-- Whether two calls that can be cancelled differ in nothing but the secret. -/
structure Guarded.Alike (secret : Secret) (guarded other : Guarded) : Prop where
  call : guarded.call.Alike secret other.call
  fired : guarded.fired = other.fired
  phase : guarded.phase = other.phase

theorem Guarded.Alike.poll {guarded other : Guarded} (h : guarded.Alike secret other)
    (sessions : Sessions) :
    (guarded.poll sessions).Alike secret (Guarded.Alike secret) (other.poll sessions) := by
  obtain ⟨call, fired, phase⟩ := guarded
  obtain ⟨call', fired', phase'⟩ := other
  obtain ⟨hcall, rfl, rfl⟩ := h
  cases phase with
  | running =>
    cases fired with
    | true => exact ⟨⟨hcall, rfl, rfl⟩, rfl, rfl, .none, rfl⟩
    | false =>
      have hpolled := hcall.poll sessions
      simp only [Guarded.poll, Bool.false_eq_true, if_false, hpolled.item]
      exact ⟨⟨hpolled.call, rfl, rfl⟩, hpolled.sessions, rfl, hpolled.message, hpolled.log⟩
  | spent => exact ⟨⟨hcall, rfl, rfl⟩, rfl, rfl, .none, rfl⟩
  | finished => exact ⟨⟨hcall, rfl, rfl⟩, rfl, rfl, .none, rfl⟩

end Poll

/-! ## 5. Calls in the hands of callers -/

theorem forall₂_toList {α : Type} {R : α → α → Prop} {o o' : Option α} (h : Option.Rel R o o') :
    List.Forall₂ R o.toList o'.toList := by
  cases h with
  | some h => exact .cons h .nil
  | none => exact .nil

namespace Handle

/-- Whether two calls in the hands of callers differ in nothing but the secret. -/
inductive Alike (secret : Secret) : Handle → Handle → Prop where
  | plain {call other : Call} (h : call.Alike secret other) : Alike secret (.plain call) (.plain other)
  | guarded {call other : Guarded} (h : call.Alike secret other) :
    Alike secret (.guarded call) (.guarded other)

/-- Whether two drainings are alike. -/
structure Drained.Alike (secret : Secret) (drained other : Drained) : Prop where
  call : Handle.Alike secret drained.call other.call
  sessions : drained.sessions = other.sessions
  chunks : drained.chunks = other.chunks
  stop : drained.stop = other.stop
  messages : List.Forall₂ (Message.Alike secret) drained.messages other.messages
  log : drained.log = other.log

namespace Alike

variable {secret : Secret} {handle other : Handle}

theorem holdsConnection (h : handle.Alike secret other) :
    handle.holdsConnection = other.holdsConnection := by
  cases h with
  | plain h => exact h.holdsConnection
  | guarded h =>
    simp only [Handle.holdsConnection, Guarded.holdsConnection, h.phase, h.call.holdsConnection]

theorem fire (h : handle.Alike secret other) : handle.fire.Alike secret other.fire := by
  cases h with
  | plain h => exact .plain h
  | guarded h => exact .guarded ⟨h.call, rfl, h.phase⟩

/-- **Calls that differ in a secret are polled alike.** -/
theorem poll (h : handle.Alike secret other) (sessions : Sessions) :
    (handle.poll sessions).Alike secret (Handle.Alike secret) (other.poll sessions) := by
  cases h with
  | plain h =>
    have hpolled := h.poll sessions
    exact ⟨.plain hpolled.call, hpolled.sessions, hpolled.item, hpolled.message, hpolled.log⟩
  | guarded h =>
    have hpolled := h.poll sessions
    exact ⟨.guarded hpolled.call, hpolled.sessions, hpolled.item, hpolled.message, hpolled.log⟩

theorem pollThenFire (h : handle.Alike secret other) (sessions : Sessions) :
    (handle.pollThenFire sessions).Alike secret (Handle.Alike secret)
      (other.pollThenFire sessions) := by
  have hfirst := h.poll sessions
  by_cases hi : (other.poll sessions).item = none
  · have hsecond := hfirst.call.fire.poll (other.poll sessions).sessions
    rw [pollThenFire_of_none (hfirst.item.trans hi), pollThenFire_of_none hi]
    simp only [hfirst.sessions, hfirst.log, hsecond.log]
    exact ⟨hsecond.call, hsecond.sessions, hsecond.item, hfirst.message, rfl⟩
  · rw [pollThenFire_of_answered (hfirst.item ▸ hi), pollThenFire_of_answered hi]
    exact hfirst

/-- **Calls that differ in a secret are drained alike.** -/
theorem drain (h : handle.Alike secret other) (sessions : Sessions) :
    (handle.drain sessions).Alike secret (other.drain sessions) := by
  induction handle, sessions using drain_induction generalizing other with
  | chunk handle sessions chunk hi ih =>
    have hpolled := h.poll sessions
    have hrest := ih hpolled.call
    rw [hpolled.sessions] at hrest
    rw [drain_of_chunk hi, drain_of_chunk (hpolled.item ▸ hi)]
    simp only [hpolled.sessions]
    refine ⟨hrest.call, hrest.sessions, ?_, hrest.stop, ?_, ?_⟩
    · simp only [hrest.chunks]
    · exact List.rel_append (forall₂_toList hpolled.message) hrest.messages
    · simp only [hpolled.log, hrest.log]
  | stop handle sessions stop hi =>
    have hpolled := h.poll sessions
    rw [drain_of_stop stop hi, drain_of_stop stop (hpolled.item ▸ hi)]
    exact ⟨hpolled.call, hpolled.sessions, rfl, rfl, forall₂_toList hpolled.message, hpolled.log⟩

end Alike

end Handle

end Relay
