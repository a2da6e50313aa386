import Relay.Proofs.Forwarder.Refusals
import Relay.Proofs.Url.Below

/-!
# Where requests go

The address of a request is a text that is put together from the address of the endpoint and the
name of the model, and read only then. So the name decides about the path and the query, and not
about the host: `target_of_sent` says which names stay in the folder of the models, and which bring
a query. What leaves the folder are double dots (`target_outside_models`).
-/

namespace Relay

/-! ## 1. Slashes at the end -/

section Slashes

theorem toList_withoutEndSlashes (text : String) :
    ∃ count, text.toList = (withoutEndSlashes text).toList ++ List.replicate count '/' := by
  have hall : ∀ c ∈ (text.toList.reverse.takeWhile (· == '/')).reverse, c = '/' := by
    intro c hc
    simpa using List.mem_takeWhile_imp (List.mem_reverse.mp hc)
  refine ⟨(text.toList.reverse.takeWhile (· == '/')).reverse.length, ?_⟩
  rw [← List.eq_replicate_of_mem hall, withoutEndSlashes, String.toList_ofList,
    ← List.reverse_append, List.takeWhile_append_dropWhile, List.reverse_reverse]

theorem withoutEndSlashes_append (text : List Char) (count : Nat) :
    withoutEndSlashes (String.ofList (text ++ List.replicate count '/')) =
      withoutEndSlashes (String.ofList text) := by
  have hslashes : ∀ c ∈ List.replicate count '/', (c == '/') = true := by
    intro c hc
    rw [List.eq_of_mem_replicate hc]
    rfl
  rw [withoutEndSlashes, withoutEndSlashes, String.toList_ofList, String.toList_ofList,
    List.reverse_append, List.reverse_replicate, List.dropWhile_append_of_pos hslashes]

/-- A text with a slash behind it differs from itself in slashes at the end. -/
theorem exists_slashes {trunk text : List Char} {count : Nat}
    (h : text = trunk ++ List.replicate count '/') :
    ∃ slashes, trunk ++ ['/'] =
      (withoutEndSlashes (String.ofList text)).toList ++ List.replicate (slashes + 1) '/' := by
  obtain ⟨slashes, htrunk⟩ := toList_withoutEndSlashes (String.ofList trunk)
  rw [String.toList_ofList] at htrunk
  refine ⟨slashes, ?_⟩
  calc trunk ++ ['/']
    _ = (withoutEndSlashes (String.ofList trunk)).toList ++ List.replicate slashes '/' ++ ['/'] :=
      congrArg (· ++ ['/']) htrunk
    _ = (withoutEndSlashes (String.ofList text)).toList ++ List.replicate (slashes + 1) '/' := by
      rw [h, withoutEndSlashes_append, List.replicate_succ', List.append_assoc]

end Slashes

/-! ## 2. The address of a message -/

namespace Http.Message

/-- A user name and a password leave the address, and nothing else does. -/
theorem url_addressed (method : Method) (url : Url) :
    (addressed method url).url = { url with authority := (addressed method url).url.authority } ∧
      (addressed method url).url.authority.map Url.Authority.hostText =
        url.authority.map Url.Authority.hostText := by
  obtain ⟨scheme, authority, path, query, fragment⟩ := url
  unfold addressed
  cases authority with
  | none => exact ⟨rfl, rfl⟩
  | some authority =>
    simp only
    cases credentials? authority with
    | none => exact ⟨rfl, rfl⟩
    | some credentials => exact ⟨rfl, rfl⟩

end Http.Message

theorem Order.url_of_sent {order : Order} {reply : Http.Reply} {message : Http.Message}
    (h : (Http.exchange order.message reply).message = some message) :
    ∃ address, Url.ofText? order.url = some address ∧
      message.url = (Http.Message.addressed .post address).url := by
  obtain ⟨bare, hbuilt, hready⟩ := Http.complete_of_exchange h
  obtain ⟨address, haddress, rfl⟩ := Order.eq_of_message hbuilt
  obtain rfl := Http.Message.eq_of_complete hready
  exact ⟨address, haddress, by simp [Http.Message.withJson]⟩

namespace Forwarder

/-! ## 3. Where the messages of a call go -/

/-- **Where a request goes is settled by the address of the endpoint, up to the name of the model.**

Take an endpoint whose address is one of HTTP with neither a query nor a fragment, and a call in any
run. Whatever is sent for it goes to the host that is read when the slashes at the end of that
address are replaced by one (`root`), and has a query exactly when a `?` stands in the name of the
model in front of any `#`. Its path is that of `root`, followed by the folder of the models and what
the segments of the name come to, as long as these stay inside.

Unless a blank or a control stands at its end, the address of the endpoint names the same host, and
has the same path but for the slashes at the end. -/
theorem target_of_sent {config : EndpointConfig} {base : Url} (launch : Launch)
    (hforwarder : launch.forwarder = .ofConfig config)
    (hbase : Url.ofText? config.baseUrl = some base) (hscheme : base.scheme = "http".toList)
    (hquery : base.query = none) (hfragment : base.fragment = none) :
    let name := launch.request.model.toList
    ∀ message ∈ launch.sent, ∃ root,
      Url.ofText? (withoutEndSlashes config.baseUrl ++ "/") = some root ∧
        message.url.scheme = root.scheme ∧
        message.url.authority.map Url.Authority.hostText =
          root.authority.map Url.Authority.hostText ∧
        (message.url.query = none ↔ '?' ∉ name.takeWhile (· != '#')) ∧
        (Url.Stays [] (Url.nameSegments name) → ∃ rest,
          (Url.Path.segments (Url.resolve [] (Url.nameSegments name))).text = '/' :: rest ∧
            message.url.path.text = root.path.text ++ "models/".toList ++ rest) ∧
        ((∀ c ∈ config.baseUrl.toList.getLast?, Url.isBlankAround c = false) →
          root.authority = base.authority ∧ ∃ slashes, root.path.text =
            (withoutEndSlashes (String.ofList base.path.text)).toList ++
              List.replicate (slashes + 1) '/') := by
  intro name message hmessage
  obtain ⟨order, horder, hsent⟩ := Launch.order_of_mem_sent hmessage
  obtain ⟨token, -, rfl⟩ := eq_of_order horder
  obtain ⟨address, haddress, hurl⟩ := Order.url_of_sent hsent
  obtain ⟨count, hcount⟩ := toList_withoutEndSlashes config.baseUrl
  have hweb : Url.isWeb base.scheme = true := by
    rw [hscheme]
    decide
  have hjoined : (launch.forwarder.endpointUrl launch.request.model).toList =
      (withoutEndSlashes config.baseUrl).toList ++ '/' :: (Url.modelsFolder ++ '/' :: name) := by
    rw [hforwarder]
    simp [endpointUrl, ofConfig, Url.modelsFolder, name]
  rw [Url.ofText?, hcount] at hbase
  rw [Url.ofText?, hjoined] at haddress
  obtain ⟨read, path, hroot, rfl, hsame⟩ :=
    Url.exists_below hbase hweb hquery hfragment haddress
  obtain ⟨hrest, hhost⟩ := Http.Message.url_addressed .post (Url.below base.scheme read path name)
  have hrootText := Url.text_goingOn_replicate base.scheme read path 0
  rw [List.replicate_zero] at hrootText
  refine ⟨Url.goingOn base.scheme read path (Url.trail []), ?_, ?_, ?_, ?_, fun hstays => ?_,
    fun hlast => ?_⟩
  · rw [Url.ofText?, String.toList_append]
    exact hroot
  · rw [hurl, hrest]
    rfl
  · rw [hurl, hhost]
    rfl
  · rw [hurl, hrest]
    exact Url.query_below_iff base.scheme read path name
  · obtain ⟨rest, htext⟩ := Url.Path.text_of_ne_nil
      (Url.resolve_ne_nil [] (Url.nameSegments_ne_nil name))
    refine ⟨rest, htext, ?_⟩
    rw [hurl, hrest]
    refine (Url.below_of_stays base.scheme read path name hstays).trans ?_
    rw [htext]
    simp [Url.modelsFolder]
  · obtain ⟨hauthority, ends, hpath⟩ := hsame (hcount ▸ hlast)
    rw [hrootText]
    exact ⟨hauthority.symm, exists_slashes hpath⟩

/-- A folder of its own, a dot in its escaped form, and a fragment with the mark of a query. -/
theorem target_of_sent_nested :
    let launch : Launch :=
      { forwarder := .ofConfig { baseUrl := "http://far/a/", tokenEnv := "TOKEN" }
        state := {}
        name := "a"
        request := { model := "org/%2e/m#?", prompt := "p", token := some "t" }
        cancellable := false
        reply := .dropped
        after := [.next "a"] }
    ∀ message ∈ launch.sent, message.url.query = none ∧ ∃ slashes rest, message.url.path.text =
      "/a".toList ++ List.replicate (slashes + 1) '/' ++ "models/".toList ++ rest := by
  intro launch message hmessage
  let base : Url :=
    { scheme := "http".toList, authority := some { host := some (.name "far".toList) }
      path := .segments ["a".toList, []] }
  have hbase : Url.ofText? "http://far/a/" = some base := by cbv
  obtain ⟨root, -, -, -, hquery, hpath, hroot⟩ :=
    target_of_sent launch rfl hbase rfl rfl rfl message hmessage
  have hsegments : Url.nameSegments "org/%2e/m#?".toList =
      ["org".toList, "%2e".toList, "m".toList] := by
    cbv
  have hstays : Url.Stays [] (Url.nameSegments "org/%2e/m#?".toList) := by
    rw [hsegments]
    exact Url.stays_of_forall (by decide) []
  obtain ⟨rest, -, htext⟩ := hpath hstays
  have hlast : ∀ c ∈ "http://far/a/".toList.getLast?, Url.isBlankAround c = false := by
    intro c hc
    obtain rfl : '/' = c := Option.some.inj hc
    decide
  obtain ⟨-, slashes, hslashes⟩ := hroot hlast
  have hbare : withoutEndSlashes (String.ofList base.path.text) = "/a" := by decide
  rw [hslashes, hbare] at htext
  exact ⟨hquery.mpr (by decide), slashes, rest, htext⟩

/-- Double dots lead out of the folder of the models, and a question mark begins a query. A
backslash at the end of the address of the endpoint counts as one more slash, and a blank there is
read when something stands behind it. -/
theorem target_outside_models :
    let launch (baseUrl model : String) : Launch :=
      { forwarder := .ofConfig { baseUrl, tokenEnv := "TOKEN" }
        state := {}
        name := "a"
        request := { model, prompt := "p", token := some "t" }
        cancellable := false
        reply := .dropped
        after := [.next "a"] }
    let targets (baseUrl model : String) : List String :=
      (launch baseUrl model).sent.map (fun message => String.ofList message.url.target)
    targets "http://far/a" "../../admin" = ["/admin"] ∧
      targets "http://far/a" "x?y" = ["/a/models/x?y"] ∧
      targets "http://far/a\\" "x" = ["/a//models/x"] ∧
      targets "http://far/a " "x" = ["/a%20/models/x"] := by
  intro launch targets
  -- the body of the request has no part in where it goes
  have htargets (baseUrl model : String) (hmodel : model ≠ "") : ∃ body, targets baseUrl model =
      (Http.exchange ({ url := (Forwarder.ofConfig { baseUrl, tokenEnv := "TOKEN" }).endpointUrl model
                        stream := false, token := "t", body } : Order).message
        .dropped).message.toList.map (fun message => String.ofList message.url.target) := by
    let made := launch baseUrl model
    have hcredential : made.forwarder.credential made.state.env made.request = .ok "t" := rfl
    have horder := order_of_ok hmodel hcredential
    exact ⟨_, congrArg (List.map _) (Launch.sent_of_polled horder rfl)⟩
  obtain ⟨bodyOfDots, hdots⟩ := htargets "http://far/a" "../../admin" (by decide)
  obtain ⟨bodyOfQuery, hquery⟩ := htargets "http://far/a" "x?y" (by decide)
  obtain ⟨bodyOfSlash, hslash⟩ := htargets "http://far/a\\" "x" (by decide)
  obtain ⟨bodyOfBlank, hblank⟩ := htargets "http://far/a " "x" (by decide)
  rw [hdots, hquery, hslash, hblank]
  refine ⟨?_, ?_, ?_, ?_⟩
  · cbv
  · cbv
  · cbv
  · cbv

end Forwarder

end Relay
