import Relay.Proofs.Http.Sent
import Relay.Proofs.Text.Utf8

/-!
# The headers of what is sent

A header value has no control but tabs (`Message.isHeaderValue_iff`), so no text can bring a header
of its own along. The message of an order has one content type and one token; when its address comes
with a user name or a password, these stand in front of the token (`Message.Bears`). A token with a
control is never sent: the message of its order cannot be built (`Order.message_of_control`).
-/

namespace Relay

/-! ## 1. Controls -/

/-- Whether the number of a byte or a character is that of a control other than a tab. -/
def IsControl (n : Nat) : Prop :=
  n < 0x20 ∧ n ≠ 0x09 ∨ n = 0x7F

instance (n : Nat) : Decidable (IsControl n) :=
  inferInstanceAs (Decidable (n < 0x20 ∧ n ≠ 0x09 ∨ n = 0x7F))

/-- Whether there is a control other than a tab among the bytes of a text. -/
def HasControl (text : String) : Prop :=
  ∃ b ∈ Text.Utf8.encode text.toList, IsControl b.toNat

/-- A control is a byte of its own, so the characters of a text tell whether there is one. -/
theorem hasControl_iff {text : String} : HasControl text ↔ ∃ c ∈ text.toList, IsControl c.toNat := by
  constructor
  · rintro ⟨b, hmem, hb⟩
    have hsmall : b.toNat < 0x80 := by
      unfold IsControl at hb
      omega
    obtain ⟨c, hc, heq⟩ := (Text.Utf8.mem_encode_iff hsmall).mp hmem
    exact ⟨c, hc, by rwa [heq]⟩
  · rintro ⟨c, hmem, hc⟩
    have hsmall : c.toNat < 0x80 := by
      unfold IsControl at hc
      omega
    have hbyte : (UInt8.ofNat c.toNat).toNat = c.toNat :=
      UInt8.toNat_ofNat_of_lt' (Nat.lt_trans hsmall (by decide))
    refine ⟨UInt8.ofNat c.toNat, ?_, by rwa [hbyte]⟩
    exact (Text.Utf8.mem_encode_iff (by rwa [hbyte])).mpr ⟨c, hmem, hbyte.symm⟩

theorem hasControl_append {text more : String} :
    HasControl (text ++ more) ↔ HasControl text ∨ HasControl more := by
  simp only [hasControl_iff, String.toList_append, List.mem_append, or_and_right, exists_or]

/-- There is no control in what is written in Base64. -/
theorem not_isControl_of_mem_base64 {bytes : List UInt8} {c : Char}
    (h : c ∈ Text.Base64.encode bytes) : ¬IsControl c.toNat := by
  have hletter (n : Nat) : ¬IsControl (Text.Base64.letter n).toNat := by
    have hsmall : ∀ n : Fin 63, ¬IsControl (Text.Base64.letter n.val).toNat := by decide
    by_cases hn : n < 63
    · exact hsmall ⟨n, hn⟩
    · have hslash : Text.Base64.letter n = '/' := by
        simp only [Text.Base64.letter]
        rw [if_neg (by omega), if_neg (by omega), if_neg (by omega), if_neg (by omega)]
      rw [hslash]
      decide
  have hfill : ¬IsControl '='.toNat := by decide
  fun_induction Text.Base64.encode bytes with
  | case1 => cases h
  | case2 a n =>
    simp only [List.mem_cons, List.not_mem_nil, or_false] at h
    rcases h with rfl | rfl | rfl | rfl
    · exact hletter _
    · exact hletter _
    · exact hfill
    · exact hfill
  | case3 a b n =>
    simp only [List.mem_cons, List.not_mem_nil, or_false] at h
    rcases h with rfl | rfl | rfl | rfl
    · exact hletter _
    · exact hletter _
    · exact hletter _
    · exact hfill
  | case4 a b d rest n ih =>
    simp only [List.mem_cons] at h
    rcases h with rfl | rfl | rfl | rfl | hrest
    · exact hletter _
    · exact hletter _
    · exact hletter _
    · exact hletter _
    · exact ih hrest

/-! ## 2. Header values -/

namespace Http.Message

/-- **A text may be the value of a header exactly when it has no control but tabs.** -/
theorem isHeaderValue_iff {value : String} : isHeaderValue value = true ↔ ¬HasControl value := by
  have htab (c : Char) : c = '\t' ↔ c.toNat = 0x09 := by
    rw [← Char.toNat_inj]
    rfl
  rw [isHeaderValue, List.all_eq_true, hasControl_iff, not_exists]
  refine forall_congr' fun c => ?_
  rw [not_and]
  refine imp_congr_right fun _ => ?_
  simp only [Bool.or_eq_true, Bool.and_eq_true, beq_iff_eq, bne_iff_ne, decide_eq_true_eq, htab,
    IsControl]
  omega

theorem hasControl_bearer {token : String} : HasControl ("Bearer " ++ token) ↔ HasControl token := by
  have hmark : ¬HasControl "Bearer " := isHeaderValue_iff.mp (by decide)
  rw [hasControl_append, or_iff_right hmark]

theorem not_hasControl_basicValue (user : List Char) (password : Option (List Char)) :
    ¬HasControl (basicValue user password) := by
  have hmark : ¬HasControl "Basic " := isHeaderValue_iff.mp (by decide)
  rw [basicValue, hasControl_append, or_iff_right hmark, hasControl_iff, String.toList_ofList]
  rintro ⟨c, hmem, hc⟩
  exact not_isControl_of_mem_base64 hmem hc

section Bearer

variable {token : String} (message : Message)

/-- A token without a control is added. -/
theorem bearer_of_plain (h : ¬HasControl token) :
    message.bearer token = .ok (message.addHeader .authorization ("Bearer " ++ token)) := by
  have hvalue : isHeaderValue ("Bearer " ++ token) = true :=
    isHeaderValue_iff.mpr (mt hasControl_bearer.mp h)
  simp only [bearer, hvalue, if_true]

/-- A token with a control is not. -/
theorem bearer_of_control (h : HasControl token) :
    message.bearer token = .error .unbuildable := by
  have hvalue : ¬isHeaderValue ("Bearer " ++ token) = true :=
    fun hok => isHeaderValue_iff.mp hok (hasControl_bearer.mpr h)
  simp only [bearer, hvalue, Bool.false_eq_true, if_false]

end Bearer

/-! ## 3. What the address brings -/

/-- The credentials that an address brings, as the value of a header. -/
def basic? (address : Url) : Option String :=
  (address.authority.bind credentials?).map fun (user, password) => basicValue user password

/-- An address without a user name and a password brings none. -/
theorem basic?_of_anonymous {address : Url}
    (h : ∀ authority ∈ address.authority, authority.user = [] ∧ authority.password = none) :
    basic? address = none := by
  unfold basic?
  cases hauthority : address.authority with
  | none => rfl
  | some authority =>
    obtain ⟨huser, hpassword⟩ := h authority hauthority
    have hplain : plainText? [] = some [] := by cbv
    simp [credentials?, huser, hpassword, hplain]

/-- **All headers of a new message are what its address brings.** -/
theorem headers_addressed (method : Method) (address : Url) :
    (addressed method address).headers =
      (basic? address).toList.map fun value => { name := .authorization, value } := by
  unfold addressed basic?
  cases address.authority with
  | none => rfl
  | some authority =>
    simp only [Option.bind_some]
    cases credentials? authority <;> rfl

end Http.Message

/-! ## 4. The headers of an order -/

open Http (Message Header)

/-- The headers that take a token to an address: one content type, and nothing beside the token but
what the address brings. -/
def Http.bearing (address : Url) (token : String) : List Header :=
  ((Message.basic? address).toList ++ ["Bearer " ++ token]).map
      (fun value => { name := .authorization, value }) ++
    [{ name := .contentType, value := Message.jsonType }]

/-- Adding a body completes the headers. -/
theorem Http.Message.headers_withJson (address : Url) (token body : String) :
    (((addressed .post address).addHeader .authorization ("Bearer " ++ token)).withJson
      body).headers = bearing address token := by
  have hheaders : ((addressed .post address).addHeader .authorization ("Bearer " ++ token)).headers =
      ((basic? address).toList ++ ["Bearer " ++ token]).map
        fun value => { name := .authorization, value } := by
    rw [addHeader, headers_addressed, List.map_append]
    rfl
  have hnone : ((addressed .post address).addHeader .authorization
      ("Bearer " ++ token)).values .contentType = [] := by
    rw [values, hheaders, List.filter_map, List.map_eq_nil_iff, List.map_eq_nil_iff]
    exact List.filter_eq_nil_iff.mpr fun value _ => by simp
  rw [withJson, defaultHeader, hnone, bearing, ← hheaders]
  rfl

/-- A message with a content type is complete as it is. -/
theorem Http.Message.eq_of_complete_of_typed {message after : Message}
    (h : message.complete = .ok after) (htyped : message.values .contentType ≠ []) :
    after = message := by
  have hdefault := eq_of_complete h
  rwa [defaultHeader, if_neg (mt List.isEmpty_iff.mp htyped)] at hdefault

namespace Order

variable {order : Order}

/-- **A token with a control is never sent**: the message of its order cannot be built. -/
theorem message_of_control (h : HasControl order.token) :
    ∃ cause, order.message = .error cause := by
  unfold Order.message
  cases hstart : Message.start .post order.url with
  | error cause => exact ⟨cause, rfl⟩
  | ok started =>
    refine ⟨.unbuildable, ?_⟩
    simp only [bind, Except.bind, started.bearer_of_control h]

/-- **What the far end reads has the headers that take the token to its address.** -/
theorem headers_of_sent {reply : Http.Reply} {message : Message}
    (h : (Http.exchange order.message reply).message = some message) :
    ∃ address, Url.ofText? order.url = some address ∧ ¬HasControl order.token ∧
      message.method = .post ∧ message.headers = Http.bearing address order.token := by
  obtain ⟨bare, hbuilt, hready⟩ := Http.complete_of_exchange h
  obtain ⟨address, haddress, rfl⟩ := eq_of_message hbuilt
  have hheaders := Message.headers_withJson address order.token order.body
  have htyped : (((Message.addressed .post address).addHeader .authorization
      ("Bearer " ++ order.token)).withJson order.body).values .contentType ≠ [] := by
    rw [Message.values, hheaders, Http.bearing]
    simp
  obtain rfl := Message.eq_of_complete_of_typed hready htyped
  refine ⟨address, haddress, fun hcontrol => ?_, ?_, hheaders⟩
  · obtain ⟨cause, hcause⟩ := message_of_control hcontrol
    rw [hcause] at hbuilt
    cases hbuilt
  · simp [Message.withJson]

end Order

/-- No header that takes a token without a control to an address has a control. -/
theorem Http.not_hasControl_of_bearing {address : Url} {token : String} (h : ¬HasControl token) :
    ∀ header ∈ bearing address token, ¬HasControl header.value := by
  have htype : ¬HasControl Message.jsonType := Message.isHeaderValue_iff.mp (by decide)
  have htoken : ¬HasControl ("Bearer " ++ token) := mt Message.hasControl_bearer.mp h
  have hbasic : ∀ value ∈ Message.basic? address, ¬HasControl value := by
    intro value hvalue
    obtain ⟨credentials, -, rfl⟩ := Option.map_eq_some_iff.mp hvalue
    exact Message.not_hasControl_basicValue _ _
  intro header hmem
  simp only [bearing, List.mem_append, List.mem_map, Option.mem_toList, List.mem_singleton] at hmem
  rcases hmem with ⟨value, hvalue | rfl, rfl⟩ | rfl
  · exact hbasic value hvalue
  · exact htoken
  · exact htype

end Relay
