import Relay.Proofs.Call.Handle
import Relay.Proofs.Frame.Lines

/-!
# What a call delivers

A call is polled bit by bit, and answers out of a state of its own. What it comes to can be said at
once: a `Script`, that is its chunks and the stop behind them. This file fixes

* the script of every order and reply (`Order.script`), for a streamed body from its lines alone;
* what a caller can expect of a call at any time (`Prospect`): the rest of its script, or nothing
  but the end when the stop is out. `Prospect.next` and `Prospect.drain` take from it;
* that calls do as their prospects say: `Handle.follows_poll`, `Handle.follows_drain`. Sessions have
  no part in it.
-/

namespace Relay

open Http (Body Ending Reply Response Arrival)
open Relay.Frame (chunksOf failureOf carried)

/-! ## 1. Scripts and prospects -/

/-- What a call has to deliver. -/
structure Script where
  chunks : List Chunk := []
  /-- What comes behind the chunks. -/
  stop : Handle.Stop
  /-- What is logged about the answer when the stop is reached. -/
  log : List Event := []

/-- What can be expected of a call. -/
inductive Prospect where
  | script (script : Script)
  /-- The stop is out: the end is answered for ever. -/
  | finished

namespace Prospect

/-- What taking from a prospect comes to: what is taken, what is logged about the answer, and what
can be expected then. -/
structure Taken (α : Type) where
  taken : α
  log : List Event := []
  rest : Prospect

/-- What can be expected behind a stop. A call that waits does so for ever. -/
def behind : Handle.Stop → Prospect
  | .waiting => .script { stop := .waiting }
  | _ => .finished

/-- Takes one item. -/
def next : Prospect → Taken (Option Item)
  | .script { chunks := chunk :: more, stop, log } =>
    { taken := some (.chunk chunk), rest := .script { chunks := more, stop, log } }
  | .script { chunks := [], stop, log } => { taken := stop.item?, log, rest := behind stop }
  | .finished => { taken := some .ended, rest := .finished }

/-- Takes all chunks, and the stop. -/
def drain : Prospect → Taken (List Chunk × Handle.Stop)
  | .script { chunks, stop, log } => { taken := (chunks, stop), log, rest := behind stop }
  | .finished => { taken := ([], .ended), rest := .finished }

section Drain

variable {prospect : Prospect} (stop : Handle.Stop)

/-- The stop is taken where it is next in the script, or where it is the end and out already. -/
theorem eq_of_stop (h : prospect.next.taken = stop.item?) :
    (∃ log, prospect = .script { stop, log }) ∨ prospect = .finished ∧ stop = .ended := by
  cases prospect with
  | script script =>
    obtain ⟨chunks, stop', log⟩ := script
    cases chunks with
    | nil =>
      have hstop : stop' = stop := by
        cases stop' <;> cases stop <;> simp_all [next, Handle.Stop.item?]
      exact .inl ⟨log, by rw [hstop]⟩
    | cons chunk more => cases stop <;> simp [next, Handle.Stop.item?] at h
  | finished =>
    refine .inr ⟨rfl, ?_⟩
    cases stop <;> simp_all [next, Handle.Stop.item?]

/-- Behind a stop, there is what is behind it. -/
theorem rest_of_stop (h : prospect.next.taken = stop.item?) :
    prospect.next.rest = behind stop := by
  rcases eq_of_stop stop h with ⟨log, rfl⟩ | ⟨rfl, rfl⟩ <;> rfl

/-- Where there is no chunk to be taken, there is the stop. -/
theorem drain_of_stop (h : prospect.next.taken = stop.item?) :
    prospect.drain =
      { taken := ([], stop), log := prospect.next.log, rest := prospect.next.rest } := by
  rcases eq_of_stop stop h with ⟨log, rfl⟩ | ⟨rfl, rfl⟩ <;> rfl

theorem drain_of_chunk {chunk : Chunk} (h : prospect.next.taken = some (.chunk chunk)) :
    prospect.drain =
      { taken := (chunk :: prospect.next.rest.drain.taken.1, prospect.next.rest.drain.taken.2)
        log := prospect.next.log ++ prospect.next.rest.drain.log
        rest := prospect.next.rest.drain.rest } := by
  cases prospect with
  | script script =>
    obtain ⟨chunks, stop, log⟩ := script
    cases chunks with
    | nil => cases stop <;> simp [next, Handle.Stop.item?] at h
    | cons c more =>
      simp only [next, Option.some.injEq, Item.chunk.injEq] at h
      subst h
      rfl
  | finished => simp [next] at h

end Drain

end Prospect

/-! ## 2. The script of an answer -/

namespace Script

/-- Where the reading of lines stops. -/
def stopOf (ending : Ending) : Option Error → Handle.Stop
  | some e => .failed e
  | none =>
    match ending with
    | .complete => .ended
    | .cut => .failed (.transport .cutShort)
    | .stalled => .waiting

/-- What lines deliver, when so many chunks have been delivered before. -/
def ofLines (url : String) (delivered : Nat) (ending : Ending) (lines : List (List UInt8)) :
    Script :=
  let stop := stopOf ending (failureOf lines)
  { chunks := chunksOf lines
    stop
    log := if stop = .ended then [.streamEnded url (delivered + (chunksOf lines).length)] else [] }

section Lines

variable {lines more : List (List UInt8)} (url : String) (delivered : Nat) (ending : Ending)

/-- Lines without a chunk deliver a stop. -/
theorem ofLines_of_stop {failure : Option Error} (h : carried lines = ([], failure)) :
    ofLines url delivered ending lines =
      { stop := stopOf ending failure
        log := if stopOf ending failure = .ended then [.streamEnded url delivered] else [] } := by
  simp only [carried, Prod.mk.injEq] at h
  simp [ofLines, h]

/-- Lines with a chunk deliver it in front of what the lines behind it deliver. -/
theorem ofLines_of_chunk {chunk : Chunk}
    (h : carried lines = (chunk :: (carried more).1, (carried more).2)) :
    ofLines url delivered ending lines =
      { ofLines url (delivered + 1) ending more with chunks := chunk :: chunksOf more } := by
  simp only [carried, Prod.mk.injEq] at h
  simp only [ofLines, h, List.length_cons]
  rw [Nat.add_right_comm, Nat.add_assoc]

end Lines

/-- What a streamed body delivers: the chunks of its lines in front of the first that cannot be
decoded, and then that line's error, or how the body ends. -/
def ofBody (url : String) (body : Body) : Script :=
  ofLines url 0 body.ending (Frame.lines body)

/-- What a body delivers that is taken as a whole. -/
def ofWhole (response : Response) : Script :=
  match response.whole with
  | .waiting => { stop := .waiting }
  | .cutShort => { stop := .failed (.decode .cutShort) }
  | .text text =>
    match decodeChunk text with
    | .ok chunk => { chunks := [chunk], stop := .ended }
    | .error e => { stop := .failed e }

/-- What an answer with another status than 200 delivers. -/
def ofRefusal (response : Response) : Script :=
  match response.whole with
  | .waiting => { stop := .waiting }
  | .cutShort => { stop := .failed (.decode .cutShort) }
  | .text text =>
    { stop := .failed (.ofResponse response.status (String.ofList text))
      log := [.callRefused response.status (String.ofList text)] }

/-- What an answer delivers. -/
def ofResponse (order : Order) (response : Response) : Script :=
  if response.status ≠ 200 then ofRefusal response
  else if order.stream then ofBody order.url response.received
  else ofWhole response

/-- What a call delivers when something arrives. -/
def ofArrival (order : Order) : Arrival → Script
  | .failure cause => { stop := .failed (.transport cause) }
  | .silence => { stop := .waiting }
  | .response response => ofResponse order response

end Script

/-- What a call delivers. -/
def Order.script (order : Order) (reply : Reply) : Script :=
  .ofArrival order (Http.exchange order.message reply).arrival

/-! ## 3. Calls do as their prospects say -/

/-- Whether an event tells how a call was answered. -/
def Event.isOfAnswer : Event → Bool
  | .streamEnded .. | .callRefused .. => true
  | _ => false

/-- What is logged about answers. -/
def answerLog (log : List Event) : List Event :=
  log.filter Event.isOfAnswer

@[simp] theorem answerLog_nil : answerLog [] = [] := rfl

@[simp] theorem answerLog_append (log more : List Event) :
    answerLog (log ++ more) = answerLog log ++ answerLog more :=
  List.filter_append _ _

/-- What can be expected of a call that has got so far. -/
def Progress.prospect (order : Order) (reply : Reply) : Progress → Prospect
  | .unsent => .script (order.script reply)
  | .reading reader delivered => .script (.ofLines order.url delivered reader.ending reader.lines)
  | .waiting => .script { stop := .waiting }
  | .answered => .script { stop := .ended }
  | .broken _ | .finished => .finished

/-- What can be expected of a call. -/
def Call.prospect (call : Call) : Prospect :=
  call.progress.prospect call.order call.reply

namespace Call

/-- Whether a turn takes from a prospect what is there to be taken. -/
structure Turn.Follows (order : Order) (reply : Reply) (prospect : Prospect) (turn : Turn) :
    Prop where
  item : turn.item = prospect.next.taken
  log : answerLog turn.log = prospect.next.log
  rest : turn.progress.prospect order reply = prospect.next.rest

variable (order : Order) (reply : Reply)

theorem follows_read (reader : Frame.Reader) (delivered : Nat) :
    (read order.url reader delivered).Follows order reply
      (.script (.ofLines order.url delivered reader.ending reader.lines)) := by
  have h := reader.leadsTo_next
  unfold read
  cases hn : reader.next with
  | chunk chunk after =>
    rw [hn] at h
    obtain ⟨hending, hcarried⟩ := h
    rw [Script.ofLines_of_chunk _ _ _ hcarried, ← hending]
    exact ⟨rfl, rfl, rfl⟩
  | failed e =>
    rw [hn] at h
    rcases h with hcarried | ⟨hcarried, hending, rfl⟩
    · rw [Script.ofLines_of_stop _ _ _ hcarried]
      exact ⟨rfl, rfl, rfl⟩
    · rw [Script.ofLines_of_stop _ _ _ hcarried, hending]
      exact ⟨rfl, rfl, rfl⟩
  | ended =>
    rw [hn] at h
    obtain ⟨hcarried, hending⟩ := h
    rw [Script.ofLines_of_stop _ _ _ hcarried, hending]
    exact ⟨rfl, rfl, rfl⟩
  | waiting after =>
    rw [hn] at h
    obtain ⟨hcarried, hending, hafter, hrest⟩ := h
    rw [Script.ofLines_of_stop _ _ _ hcarried, hending]
    refine ⟨rfl, rfl, ?_⟩
    rw [Progress.prospect, Script.ofLines_of_stop _ _ _ hrest, hafter]
    rfl

theorem follows_takeWhole (response : Response) :
    (takeWhole response).Follows order reply (.script (.ofWhole response)) := by
  unfold takeWhole Script.ofWhole
  cases response.whole with
  | waiting => exact ⟨rfl, rfl, rfl⟩
  | cutShort => exact ⟨rfl, rfl, rfl⟩
  | text text =>
    simp only
    cases decodeChunk text with
    | ok chunk => exact ⟨rfl, rfl, rfl⟩
    | error e => exact ⟨rfl, rfl, rfl⟩

theorem follows_takeRefusal (response : Response) :
    (takeRefusal response).Follows order reply (.script (.ofRefusal response)) := by
  unfold takeRefusal Script.ofRefusal
  cases response.whole with
  | waiting => exact ⟨rfl, rfl, rfl⟩
  | cutShort => exact ⟨rfl, rfl, rfl⟩
  | text text => exact ⟨rfl, rfl, rfl⟩

theorem follows_arrive (arrival : Arrival) :
    (arrive order arrival).Follows order reply (.script (.ofArrival order arrival)) := by
  cases arrival with
  | failure cause => exact ⟨rfl, rfl, rfl⟩
  | silence => exact ⟨rfl, rfl, rfl⟩
  | response response =>
    simp only [arrive, take, Script.ofArrival, Script.ofResponse]
    split
    · exact follows_takeRefusal order reply response
    · split
      · rw [Script.ofBody, ← Frame.lines_ofBody]
        exact follows_read order reply (.ofBody response.received) 0
      · exact follows_takeWhole order reply response

end Call

/-- What getting a session logs tells nothing about answers. -/
theorem answerLog_obtain (sessions : Sessions) : answerLog sessions.obtain.log = [] := by
  unfold Sessions.obtain Manager.obtain
  cases sessions.manager.live <;> rfl

/-- Whether a poll takes from a prospect what is there to be taken, and leaves a call of which the
rest can be expected. -/
structure Polled.Follows {σ : Type} (prospectOf : σ → Prospect) (prospect : Prospect)
    (polled : Polled σ) : Prop where
  item : polled.item = prospect.next.taken
  log : answerLog polled.log = prospect.next.log
  rest : prospectOf polled.call = prospect.next.rest

theorem Call.follows_poll (call : Call) (sessions : Sessions) :
    (call.poll sessions).Follows Call.prospect call.prospect := by
  obtain ⟨order, reply, progress⟩ := call
  cases progress with
  | unsent =>
    have h := follows_arrive order reply (Http.exchange order.message reply).arrival
    refine ⟨h.item, ?_, h.rest⟩
    simp only [poll, answerLog_append, answerLog_obtain, List.nil_append]
    exact h.log
  | reading reader delivered =>
    have h := follows_read order reply reader delivered
    exact ⟨h.item, h.log, h.rest⟩
  | waiting => exact ⟨rfl, rfl, rfl⟩
  | answered => exact ⟨rfl, rfl, rfl⟩
  | broken held => exact ⟨rfl, rfl, rfl⟩
  | finished => exact ⟨rfl, rfl, rfl⟩

/-- What can be expected of a call that can be cancelled. -/
def Guarded.prospect (guarded : Guarded) : Prospect :=
  match guarded.phase with
  | .running =>
    if guarded.fired then .script { stop := .failed .cancelled } else guarded.call.prospect
  | .spent | .finished => .finished

theorem Guarded.follows_poll (guarded : Guarded) (sessions : Sessions) :
    (guarded.poll sessions).Follows Guarded.prospect guarded.prospect := by
  obtain ⟨call, fired, phase⟩ := guarded
  cases phase with
  | spent => exact ⟨rfl, rfl, rfl⟩
  | finished => exact ⟨rfl, rfl, rfl⟩
  | running =>
    cases fired with
    | true => exact ⟨rfl, rfl, rfl⟩
    | false =>
      have h := call.follows_poll sessions
      refine ⟨h.item, h.log, ?_⟩
      -- behind an item that ends it, the guarded call does not look at the call inside any more
      simp only [poll, prospect, Bool.false_eq_true, if_false]
      cases hi : (call.poll sessions).item with
      | none => exact h.rest
      | some item =>
        cases item with
        | chunk chunk => exact h.rest
        | failed e =>
          exact (Prospect.rest_of_stop (.failed e) (h.item.symm.trans hi)).symm
        | ended => exact (Prospect.rest_of_stop .ended (h.item.symm.trans hi)).symm

namespace Handle

/-- What can be expected of a call in the hands of a caller. -/
def prospect : Handle → Prospect
  | .plain call => call.prospect
  | .guarded call => call.prospect

/-- **A poll takes what is next of what can be expected**, whatever the sessions are. -/
theorem follows_poll (handle : Handle) (sessions : Sessions) :
    (handle.poll sessions).Follows Handle.prospect handle.prospect := by
  cases handle with
  | plain call =>
    have h := call.follows_poll sessions
    exact ⟨h.item, h.log, h.rest⟩
  | guarded call =>
    have h := call.follows_poll sessions
    exact ⟨h.item, h.log, h.rest⟩

/-- Whether a draining takes all that is to be expected. -/
structure Drained.Follows (prospect : Prospect) (drained : Drained) : Prop where
  taken : (drained.chunks, drained.stop) = prospect.drain.taken
  log : answerLog drained.log = prospect.drain.log
  rest : drained.call.prospect = prospect.drain.rest

/-- **A draining takes all that can be expected.** -/
theorem follows_drain (handle : Handle) (sessions : Sessions) :
    (handle.drain sessions).Follows handle.prospect := by
  induction handle, sessions using drain_induction with
  | chunk handle sessions chunk hi ih =>
    have h := handle.follows_poll sessions
    have hd := Prospect.drain_of_chunk (h.item.symm.trans hi)
    rw [← h.rest] at hd
    rw [drain_of_chunk hi]
    refine ⟨?_, ?_, ?_⟩ <;> rw [hd]
    · rw [← ih.taken]
    · rw [answerLog_append, h.log, ih.log]
    · exact ih.rest
  | stop handle sessions stop hi =>
    have h := handle.follows_poll sessions
    have hd := Prospect.drain_of_stop stop (h.item.symm.trans hi)
    rw [drain_of_stop stop hi]
    refine ⟨?_, ?_, ?_⟩ <;> rw [hd]
    · exact h.log
    · exact h.rest

end Handle

end Relay
