import Mathlib.Data.List.DropRight
import Relay.Proofs.Json.Proper
import Relay.Request

/-!
# What the steps of building a request come to

Every step of building replaces one part of the request and keeps the others. So the stream flag and
the token are those of the last step that sets them, and a parameter has the value of the last step
that sets it behind the last replacement of all parameters, or else the one it has in that
replacement (`last_of_build`). Steps on different parts may change places.
-/

namespace Relay

namespace Request

/-! ## 1. What a step sets -/

/-- The stream flag that a step sets. -/
def Change.stream? : Change → Option Bool
  | .stream on => some on
  | _ => none

/-- The token that a step of building sets. -/
def Change.token? : Change → Option String
  | .token text => some text
  | _ => none

/-- The stream flag that the last of the steps sets which sets one. -/
def lastStream? (changes : List Change) : Option Bool :=
  (changes.filterMap Change.stream?).getLast?

/-- The token that the last of the steps sets which sets one. -/
def lastToken? (changes : List Change) : Option String :=
  (changes.filterMap Change.token?).getLast?

/-- The parameters by which a step replaces all others. -/
def Change.object? : Change → Option Json.Object
  | .parameters object => some object
  | _ => none

/-- The value that a step sets for one parameter. -/
def Change.value? (key : String) : Change → Option Json.Value
  | .parameter name value => if name = key then some value else none
  | _ => none

/-- Whether a step sets parameters, one or all of them. -/
def Change.setsParameters : Change → Bool
  | .parameters _ | .parameter _ _ => true
  | _ => false

/-- The parameters that were last given as a whole. -/
def lastObject (changes : List Change) : Json.Object :=
  (changes.filterMap Change.object?).getLast?.getD []

/-- The steps behind the last one that replaces all parameters. -/
def sinceObject (changes : List Change) : List Change :=
  changes.rtakeWhile (fun change => change.object?.isNone)

/-! ## 2. One step after the other -/

variable (model prompt : String)

theorem build_concat (earlier : List Change) (last : Change) :
    build model prompt (earlier ++ [last]) = (build model prompt earlier).change last :=
  List.foldl_concat ..

/-- A step leaves alone what it does not set. -/
theorem change_eq (request : Request) (change : Change) :
    request.change change =
      { request with
        stream := change.stream?.getD request.stream
        token := change.token?.or request.token
        parameters := (request.change change).parameters } := by
  cases change <;> rfl

theorem parameters_change_of_not {change : Change} (h : change.setsParameters = false)
    (request : Request) : (request.change change).parameters = request.parameters := by
  cases change with
  | parameters object => cases h
  | parameter key value => cases h
  | stream on => rfl
  | token text => rfl

/-- What a step makes of the parameters depends on them alone. -/
theorem parameters_change_congr {first second : Request}
    (h : first.parameters = second.parameters) (change : Change) :
    (first.change change).parameters = (second.change change).parameters := by
  cases change with
  | parameters object => rfl
  | parameter key value => exact congrArg (Json.Object.insert key value) h
  | stream on => exact h
  | token text => exact h

/-- **The model and the prompt stay, and the last flag and the last token win.** -/
theorem build_eq (changes : List Change) :
    build model prompt changes =
      { model, prompt
        parameters := (build model prompt changes).parameters
        stream := (lastStream? changes).getD false
        token := lastToken? changes } := by
  induction changes using List.reverseRecOn with
  | nil => rfl
  | append_singleton earlier last ih =>
    rw [build_concat, change_eq, ih]
    cases last <;> simp [lastStream?, lastToken?, Change.stream?, Change.token?]

theorem model_build (changes : List Change) : (build model prompt changes).model = model :=
  congrArg Request.model (build_eq model prompt changes)

theorem token_build (changes : List Change) :
    (build model prompt changes).token = lastToken? changes :=
  congrArg Request.token (build_eq model prompt changes)

/-- **The parameters depend on the steps that set parameters alone.** -/
theorem parameters_build_filter (changes : List Change) :
    (build model prompt changes).parameters =
      (build model prompt (changes.filter Change.setsParameters)).parameters := by
  induction changes using List.reverseRecOn with
  | nil => rfl
  | append_singleton earlier last ih =>
    rw [build_concat, List.filter_append]
    cases hlast : last.setsParameters with
    | true =>
      rw [List.filter_cons_of_pos hlast, List.filter_nil, build_concat]
      exact parameters_change_congr ih last
    | false =>
      rw [List.filter_cons_of_neg (by simp [hlast]), List.filter_nil, List.append_nil,
        parameters_change_of_not hlast, ih]

/-- **A parameter has the value that was set last**, behind the last replacement of all parameters,
or the one it has there. -/
theorem find?_parameters_build (changes : List Change) (key : String) :
    Json.Object.find? key (build model prompt changes).parameters =
      ((sinceObject changes).filterMap (Change.value? key)).getLast?.or
        (Json.Object.find? key (lastObject changes)) := by
  induction changes using List.reverseRecOn with
  | nil => rfl
  | append_singleton earlier last ih =>
    rw [build_concat]
    cases last with
    | parameters object =>
      simp [change, withParameters, sinceObject, lastObject, Change.object?]
    | parameter name value =>
      simp only [change, withParameter, Json.Object.find?_insert, ih]
      by_cases hname : key = name
      · simp [sinceObject, Change.object?, Change.value?, hname]
      · simp [sinceObject, lastObject, Change.object?, Change.value?, hname, Ne.symm hname]
    | stream on =>
      simpa [change, withStream, sinceObject, lastObject, Change.object?, Change.value?]
        using ih
    | token text =>
      simpa [change, withToken, sinceObject, lastObject, Change.object?, Change.value?]
        using ih

/-- The parameters stay in order when those are that are given as a whole. -/
theorem increases_parameters_build {changes : List Change}
    (h : ∀ object ∈ changes.filterMap Change.object?, Json.Object.Increases object) :
    Json.Object.Increases (build model prompt changes).parameters := by
  induction changes using List.reverseRecOn with
  | nil => exact List.Pairwise.nil
  | append_singleton earlier last ih =>
    rw [List.filterMap_append] at h
    have hearlier := ih fun object hobject => h object (List.mem_append_left _ hobject)
    rw [build_concat]
    cases last with
    | parameters object => exact h object (List.mem_append_right _ (List.mem_singleton_self _))
    | parameter key value => exact Json.Object.increases_insert hearlier
    | stream on => exact hearlier
    | token text => exact hearlier

/-! ## 3. All steps -/

/-- **The last step on a part wins, and steps on different parts do not meet.**

Whatever the steps and their order, the model and the prompt stay as they are; the stream flag is
the last one that was set, and is off when none was; the token is the last one that was set, unless
that is empty; and every parameter has the value that was last set for it behind the last
replacement of all parameters, or else the one it has in that replacement. The parameters stay in
order. So steps that set the same flags, the same tokens and the same parameters, each in their
order, make the same request. -/
theorem last_of_build (changes : List Change) :
    let request := build model prompt changes
    request.model = model ∧ request.prompt = prompt ∧
      request.stream = (lastStream? changes).getD false ∧
      (∀ token, request.credential? = some token ↔
        lastToken? changes = some token ∧ token ≠ "") ∧
      (∀ key, Json.Object.find? key request.parameters =
        ((sinceObject changes).filterMap (Change.value? key)).getLast?.or
          (Json.Object.find? key (lastObject changes))) ∧
      ((∀ object ∈ changes.filterMap Change.object?, Json.Object.Increases object) →
        Json.Object.Increases request.parameters) ∧
      ∀ others : List Change,
        others.filterMap Change.stream? = changes.filterMap Change.stream? →
        others.filterMap Change.token? = changes.filterMap Change.token? →
        others.filter Change.setsParameters = changes.filter Change.setsParameters →
          build model prompt others = request := by
  intro request
  have hrequest := build_eq model prompt changes
  have htoken : request.token = lastToken? changes := token_build model prompt changes
  refine ⟨model_build model prompt changes, congrArg Request.prompt hrequest,
    congrArg Request.stream hrequest, fun token => ?_, find?_parameters_build model prompt changes,
    increases_parameters_build model prompt, fun others hstream htokens hparameters => ?_⟩
  · rw [credential?, htoken]
    simp [Option.filter_eq_some_iff]
  · have hsame : (build model prompt others).parameters = request.parameters := by
      rw [parameters_build_filter, hparameters, ← parameters_build_filter]
    calc build model prompt others
      _ = { model, prompt
            parameters := request.parameters
            stream := (lastStream? changes).getD false
            token := lastToken? changes } := by
        rw [build_eq, hsame, lastStream?, lastToken?, hstream, htokens]
        rfl
      _ = request := hrequest.symm

/-- All parameters replaced between two values of one of them, and an empty token behind another. -/
theorem last_of_build_replaced :
    let earlier : List Change :=
      [.parameter "top_k" .null, .parameters [("stop", .null)], .stream false,
        .parameter "top_k" (.bool true), .token "t", .stream true, .token ""]
    let others : List Change :=
      [.stream false, .token "t", .stream true, .token "", .parameter "top_k" .null,
        .parameters [("stop", .null)], .parameter "top_k" (.bool true)]
    let request := build "gpt2" "p" earlier
    request.stream = true ∧ request.credential? = none ∧
      Json.Object.find? "top_k" request.parameters = some (.bool true) ∧
      Json.Object.find? "stop" request.parameters = some .null ∧
      Json.Object.Increases request.parameters ∧ build "gpt2" "p" others = request := by
  intro earlier others request
  obtain ⟨-, -, hstream, htoken, hfind, hincreases, hothers⟩ := last_of_build "gpt2" "p" earlier
  refine ⟨hstream, ?_, hfind "top_k", hfind "stop", hincreases ?_, hothers others rfl rfl rfl⟩
  · refine Option.eq_none_iff_forall_ne_some.mpr fun token h => ?_
    obtain ⟨hlast, hne⟩ := (htoken token).mp h
    exact hne (Option.some.inj hlast).symm
  · intro object hobject
    obtain rfl := List.mem_singleton.mp hobject
    exact List.pairwise_singleton _ _

end Request

end Relay
