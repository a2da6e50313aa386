import Relay.Caps.Fetch
import Relay.Proofs.Forwarder.Target
import Relay.Proofs.Http.Headers
import Relay.Proofs.Url.Verbatim

/-!
# Addresses that are sent as they are written

Take an endpoint at a plain address, and a model with a plain name. What is sent for the model then
goes to the path that is written in the configuration, up to the slashes at its end, and to the name
as it is: no dot and no slash of the name is lost. The capabilities are asked for beside the models
(`target_of_plain`).
-/

namespace Relay

/-! ## 1. Slashes at the end of a plain address -/

/-- All that goes when the slashes at the end are left out of a plain address are these. -/
theorem withoutEndSlashes_of_plain {text : String} {authority path : List Char} {slashes : Nat}
    (h : Url.PlainAddress text authority path slashes) :
    withoutEndSlashes text = String.ofList (Url.httpMark ++ authority ++ path) := by
  have hlast : ∀ c ∈ (Url.httpMark ++ authority ++ path).getLast?, (c == '/') = false := by
    intro c hc
    rw [beq_eq_false_iff_ne]
    by_cases hempty : path = []
    · rw [hempty, List.append_nil, List.getLast?_append_of_ne_nil _ h.named] at hc
      rintro rfl
      exact (h.bare _ (List.mem_of_getLast? hc)).2 (by decide)
    · rw [List.getLast?_append_of_ne_nil _ hempty] at hc
      exact h.trimmed c hc
  have hdrop : (Url.httpMark ++ authority ++ path).reverse.dropWhile (· == '/') =
      (Url.httpMark ++ authority ++ path).reverse := by
    refine List.dropWhile_eq_self_iff.mpr fun hlength => ?_
    have hhead : (Url.httpMark ++ authority ++ path).getLast? =
        some ((Url.httpMark ++ authority ++ path).reverse[0]) := by
      rw [← List.head?_reverse, List.head?_eq_getElem?, List.getElem?_eq_getElem hlength]
    rw [hlast _ hhead]
    exact Bool.false_ne_true
  rw [← String.ofList_toList (s := text), h.spelled, withoutEndSlashes_append, withoutEndSlashes,
    String.toList_ofList, hdrop, List.reverse_reverse]

/-! ## 2. Messages that are sent -/

namespace Http.Message

/-- An address that names nobody stays as it is. -/
theorem addressed_of_anonymous {address : Url} (method : Method)
    (h : ∀ authority ∈ address.authority, authority.user = [] ∧ authority.password = none) :
    addressed method address = { method, url := address } := by
  unfold addressed
  cases hauthority : address.authority with
  | none => rfl
  | some authority =>
    obtain ⟨huser, hpassword⟩ := h authority hauthority
    have hempty : plainText? [] = some [] := by cbv
    simp [credentials?, huser, hpassword, hempty]

/-- A message to an address that messages can be sent to is sent, unless the connection is
refused. -/
theorem sent_of_sendable (message : Message) {reply : Reply}
    (hsendable : isSendable message.url = true) (hreply : reply ≠ .refused) :
    ∃ sent, (exchange (.ok message) reply).message = some sent := by
  have hready : message.complete = .ok (message.defaultHeader .contentType jsonType) :=
    if_pos hsendable
  simp only [exchange, Except.bind, hready, send]
  cases reply with
  | refused => exact absurd rfl hreply
  | dropped => exact ⟨_, rfl⟩
  | silent => exact ⟨_, rfl⟩
  | answered response => exact ⟨_, rfl⟩

end Http.Message

/-! ## 3. Addresses below a plain one -/

/-- Whether an address names a host, and nobody there. -/
structure Url.Open (url : Url) : Prop where
  host : url.hasHost = true
  anonymous : ∀ authority ∈ url.authority, authority.user = [] ∧ authority.password = none

namespace Url.PlainAddress

variable {text : String} {authority path : List Char} {slashes : Nat}
  (h : PlainAddress text authority path slashes)

include h

/-- **Below a plain address, a plain path is read as it is written.** -/
theorem below {more : String} (hmore : Plain more.toList) :
    ∃ url, ofText? (withoutEndSlashes text ++ "/" ++ more) = some url ∧ url.Open ∧
      url.target = path ++ '/' :: more.toList := by
  obtain ⟨read, left, url, hread, hurl, -, hauthority, htarget⟩ := h.ofChars?_append hmore
  have hat : '@' ∉ authority := fun hmem => (h.bare '@' hmem).2 (by decide)
  obtain ⟨huser, hpassword, hhost⟩ := readAuthority_anonymous (by decide) hat hread
  refine ⟨url, ?_, ⟨?_, ?_⟩, htarget⟩
  · rw [ofText?, withoutEndSlashes_of_plain h]
    simpa using hurl
  · rw [hasHost, hauthority, Option.bind_some]
    exact hhost
  · intro other hother
    obtain rfl := Option.some.inj (hauthority.symm.trans hother)
    exact ⟨huser, hpassword⟩

end Url.PlainAddress

/-- A message to an open address is as it was begun. -/
theorem Url.Open.start {url : Url} (h : url.Open) {address : String} (method : Http.Method)
    (haddress : Url.ofText? address = some url) :
    Http.Message.start method address = .ok { method, url } := by
  rw [Http.Message.start, haddress]
  simp only [h.host, if_true, Http.Message.addressed_of_anonymous method h.anonymous]

namespace Forwarder

/-! ## 4. The models -/

/-- The address of a model with a plain name. -/
theorem endpointUrl_of_plain {baseUrl tokenEnv model : String} {authority path : List Char}
    {slashes : Nat} (h : Url.PlainAddress baseUrl authority path slashes)
    (hmodel : Url.Plain model.toList) :
    ∃ url, Url.ofText? ((ofConfig { baseUrl, tokenEnv }).endpointUrl model) = some url ∧ url.Open ∧
      url.target = path ++ "/models/".toList ++ model.toList := by
  have hfolder : Url.Plain "models".toList := by decide
  have hmore : Url.Plain ("models/" ++ model).toList := by
    have hjoined := hfolder.append hmodel
    simpa using hjoined
  obtain ⟨url, hurl, hopen, htarget⟩ := h.below hmore
  refine ⟨url, ?_, hopen, ?_⟩
  · rw [← hurl, endpointUrl, ofConfig]
    simp only [String.append_assoc]
    rfl
  · rw [htarget]
    simp

/-- **The message for a model goes to its address**, and is sent as soon as the call is polled. -/
theorem sent_of_open {launch : Launch} {url : Url}
    (haddress : Url.ofText? (launch.forwarder.endpointUrl launch.request.model) = some url)
    (hopen : url.Open) :
    (∀ message ∈ launch.sent, message.url.target = url.target) ∧
      ∀ token more, launch.request.model ≠ "" →
        launch.forwarder.credential launch.state.env launch.request = .ok token →
        ¬HasControl token → launch.after = .next launch.name :: more →
        Http.Message.isSendable url = true → launch.reply ≠ .refused →
        ∃ message, launch.sent = [message] := by
  refine ⟨fun message hmessage => ?_, fun token more hmodel htoken hplain hafter hsendable hreply => ?_⟩
  · obtain ⟨address, _, hread, _, htakes⟩ := Launch.takes_of_mem_sent hmessage
    obtain rfl := Option.some.inj (haddress.symm.trans hread)
    exact htakes.target
  · have horder := order_of_ok hmodel htoken
    rw [Launch.sent_of_polled horder hafter, Order.message, hopen.start .post haddress]
    simp only [bind, Except.bind, Http.Message.bearer_of_plain _ hplain]
    let built : Http.Message :=
      (({ method := .post, url } : Http.Message).addHeader .authorization
        ("Bearer " ++ token)).withJson launch.request.bodyText
    have hurl : built.url = url := Http.Message.url_defaultHeader _
    obtain ⟨sent, hsent⟩ := Http.Message.sent_of_sendable built (hurl ▸ hsendable) hreply
    exact ⟨sent, congrArg Option.toList hsent⟩

end Forwarder

namespace Caps

/-! ## 5. The capabilities -/

/-- **The capabilities are asked for at their address.** -/
theorem sent_of_fetch {baseUrl : String} {url : Url}
    (haddress : Url.ofText? (address baseUrl) = some url) (hopen : url.Open) (reply : Http.Reply) :
    (∀ message ∈ (fetch baseUrl reply).message, message.url.target = url.target) ∧
      (Http.Message.isSendable url = true → reply ≠ .refused →
        (fetch baseUrl reply).message.isSome = true) := by
  have hstart := hopen.start .get haddress
  have hmessage : (fetch baseUrl reply).message =
      (Http.exchange (.ok { method := .get, url }) reply).message := by
    simp only [fetch, hstart]
  rw [hmessage]
  refine ⟨fun message hsent => ?_, fun hsendable hreply => ?_⟩
  · obtain ⟨bare, hbuilt, hready⟩ := Http.complete_of_exchange hsent
    obtain rfl := Except.ok.inj hbuilt
    rw [Http.Message.eq_of_complete hready, Http.Message.url_defaultHeader]
  · obtain ⟨sent, hsent⟩ := Http.Message.sent_of_sendable
      { method := .get, url } hsendable hreply
    rw [hsent]
    rfl

end Caps

/-! ## 6. Both -/

/-- **Plain addresses and plain names are sent as they are written.**

Take an endpoint at a plain address: a host and a port, a path, and some slashes. Whatever is sent
for a model with a plain name, in any run, goes to the path of the address, the folder of the models
and the name. Whatever is sent for the capabilities goes to the path and `/caps`. In both cases the
address can be read, and there is something sent, unless the connection is refused or the text of
the address is one that messages are not sent to.

So two plain names have different targets, and another count of slashes changes nothing at all. -/
theorem target_of_plain {baseUrl : String} {authority path : List Char} {slashes : Nat}
    (h : Url.PlainAddress baseUrl authority path slashes) (tokenEnv : String) :
    let forwarder := Forwarder.ofConfig { baseUrl, tokenEnv }
    (∀ launch : Forwarder.Launch, launch.forwarder = forwarder →
        Url.Plain launch.request.model.toList →
        (∀ message ∈ launch.sent,
          message.url.target = path ++ "/models/".toList ++ launch.request.model.toList) ∧
        ∃ url, Url.ofText? (forwarder.endpointUrl launch.request.model) = some url ∧
          ∀ token more, launch.request.model ≠ "" →
            launch.forwarder.credential launch.state.env launch.request = .ok token →
            ¬HasControl token → launch.after = .next launch.name :: more →
            Http.Message.isSendable url = true → launch.reply ≠ .refused →
            ∃ message, launch.sent = [message]) ∧
      (∀ launch other : Forwarder.Launch, launch.forwarder = forwarder → other.forwarder = forwarder →
        Url.Plain launch.request.model.toList → Url.Plain other.request.model.toList →
        ∀ message ∈ launch.sent, ∀ beside ∈ other.sent,
          message.url.target = beside.url.target → launch.request.model = other.request.model) ∧
      (∃ url, Url.ofText? (Caps.address baseUrl) = some url ∧ ∀ reply,
        (∀ message ∈ (Caps.fetch baseUrl reply).message,
          message.url.target = path ++ "/caps".toList) ∧
        (Http.Message.isSendable url = true → reply ≠ .refused →
          (Caps.fetch baseUrl reply).message.isSome = true)) ∧
      ∀ beside count, Url.PlainAddress beside authority path count →
        Forwarder.ofConfig { baseUrl := beside, tokenEnv } = forwarder ∧
          Caps.fetch beside = Caps.fetch baseUrl := by
  intro forwarder
  have hmodels : ∀ launch : Forwarder.Launch, launch.forwarder = forwarder →
      Url.Plain launch.request.model.toList → ∃ url,
        Url.ofText? (launch.forwarder.endpointUrl launch.request.model) = some url ∧ url.Open ∧
          url.target = path ++ "/models/".toList ++ launch.request.model.toList := by
    intro launch hforwarder hmodel
    rw [hforwarder]
    exact Forwarder.endpointUrl_of_plain h hmodel
  have htargets : ∀ launch : Forwarder.Launch, launch.forwarder = forwarder →
      Url.Plain launch.request.model.toList → ∀ message ∈ launch.sent,
        message.url.target = path ++ "/models/".toList ++ launch.request.model.toList := by
    intro launch hforwarder hmodel message hmessage
    obtain ⟨url, hurl, hopen, htarget⟩ := hmodels launch hforwarder hmodel
    rw [(Forwarder.sent_of_open hurl hopen).1 message hmessage, htarget]
  refine ⟨fun launch hforwarder hmodel => ?_,
    fun launch other hlaunch hother hmodel hbeside message hmessage beside hsent htarget => ?_, ?_,
    fun beside count hplain => ?_⟩
  · obtain ⟨url, hurl, hopen, -⟩ := hmodels launch hforwarder hmodel
    exact ⟨htargets launch hforwarder hmodel, url, hforwarder ▸ hurl,
      (Forwarder.sent_of_open hurl hopen).2⟩
  · rw [htargets launch hlaunch hmodel message hmessage,
      htargets other hother hbeside beside hsent] at htarget
    exact String.toList_inj.mp (List.append_cancel_left htarget)
  · have hcaps : Url.Plain "caps".toList := by decide
    obtain ⟨url, hurl, hopen, htarget⟩ := h.below hcaps
    have haddress : Url.ofText? (Caps.address baseUrl) = some url := by
      rw [← hurl, Caps.address, String.append_assoc]
      rfl
    refine ⟨url, haddress, fun reply => ⟨fun message hmessage => ?_, ?_⟩⟩
    · rw [(Caps.sent_of_fetch haddress hopen reply).1 message hmessage, htarget]
      rfl
    · exact (Caps.sent_of_fetch haddress hopen reply).2
  · have hsame : withoutEndSlashes beside = withoutEndSlashes baseUrl := by
      rw [withoutEndSlashes_of_plain hplain, withoutEndSlashes_of_plain h]
    refine ⟨?_, funext fun reply => ?_⟩
    · simp only [forwarder, Forwarder.ofConfig, hsame]
    · simp only [Caps.fetch, Caps.address, hsame]

/-- Empty segments, dots inside of names, and slashes at both ends. -/
theorem target_of_plain_slashes :
    let launch : Forwarder.Launch :=
      { forwarder := .ofConfig { baseUrl := "http://far:8080/a.b//c///", tokenEnv := "TOKEN" }
        state := {}
        name := "a"
        request := { model := "/org//m.x/", prompt := "p", token := some "t" }
        cancellable := false
        reply := .dropped
        after := [.next "a"] }
    ∃ message, launch.sent = [message] ∧
      message.url.target = "/a.b//c".toList ++ "/models/".toList ++ "/org//m.x/".toList := by
  intro launch
  have hplain : Url.PlainAddress "http://far:8080/a.b//c///" "far:8080".toList "/a.b//c".toList 3 :=
    { spelled := by decide
      named := by decide
      bare := by simp [Url.isBlankAround]
      plain := by decide
      rooted := by simp
      trimmed := by simp
      valid := by decide +kernel }
  have hmodel : Url.Plain launch.request.model.toList := by decide
  obtain ⟨hsent, -⟩ := target_of_plain hplain "TOKEN"
  obtain ⟨htarget, url, hurl, hsends⟩ := hsent launch rfl hmodel
  have hsendable : Http.Message.isSendable url = true := by
    have hany : (Url.ofText? "http://far:8080/a.b//c/models//org//m.x/").any
        Http.Message.isSendable = true := by
      decide +kernel
    have hread : Url.ofText? "http://far:8080/a.b//c/models//org//m.x/" = some url := hurl
    rwa [hread] at hany
  have hclean : ¬HasControl "t" := Http.Message.isHeaderValue_iff.mp (by decide)
  have hreply : launch.reply ≠ .refused := by simp [launch]
  obtain ⟨message, hmessage⟩ := hsends "t" [] (by decide) rfl hclean rfl hsendable hreply
  exact ⟨message, hmessage, htarget message (by rw [hmessage]; exact List.mem_singleton_self _)⟩

end Relay
