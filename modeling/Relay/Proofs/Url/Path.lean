import Relay.Url.Path

/-!
# Dot segments

Resolving dot segments goes from one segment to the next (`resolve_append`): what stands in front of
the last segment leads to a stack of segments (`descend`). Segments that leave no more than they
have entered (`Stays`) do not touch what stands in front of them, so they may as well be resolved on
their own (`resolve_of_stays`).
-/

namespace Relay.Url

/-! ## 1. One segment after the other -/

/-- The segments so far, the last one first, behind one more with others to follow. -/
def enter (before : List (List Char)) (segment : List Char) : List (List Char) :=
  if isDot segment then before
  else if isDoubleDot segment then leave before
  else segment :: before

/-- The segments so far, the last one first, behind more of them with others to follow. -/
def descend (before segments : List (List Char)) : List (List Char) :=
  segments.foldl enter before

theorem resolve_singleton (before : List (List Char)) (last : List Char) :
    resolve before [last] =
      (if isDot last || isDoubleDot last then [] :: enter before last
        else enter before last).reverse := by
  rw [resolve, enter]
  cases isDot last with
  | true => rfl
  | false => cases isDoubleDot last <;> rfl

theorem resolve_cons (before : List (List Char)) (segment : List Char) {more : List (List Char)}
    (h : more ≠ []) : resolve before (segment :: more) = resolve (enter before segment) more := by
  rw [resolve, enter]
  · split
    · rfl
    · split <;> rfl
  · exact h

/-- **Segments lead to a stack, and those behind them are resolved from there.** -/
theorem resolve_append (before segments : List (List Char)) {more : List (List Char)}
    (h : more ≠ []) :
    resolve before (segments ++ more) = resolve (descend before segments) more := by
  induction segments generalizing before with
  | nil => rfl
  | cons segment rest ih =>
    have hne : rest ++ more ≠ [] := List.append_ne_nil_of_right_ne_nil _ h
    rw [List.cons_append, resolve_cons before segment hne, ih]
    rfl

/-- Nothing is resolved away altogether. -/
theorem resolve_ne_nil (before : List (List Char)) {segments : List (List Char)}
    (h : segments ≠ []) : resolve before segments ≠ [] := by
  fun_induction resolve before segments with
  | case1 => exact absurd rfl h
  | case2 before last hdot => simp
  | case3 before last hdot hdots => simp
  | case4 before last hdot hdots => simp
  | case5 before segment more hmore hdot ih => exact ih hmore
  | case6 before segment more hmore hdot hdots ih => exact ih hmore
  | case7 before segment more hmore hdot hdots ih => exact ih hmore

/-! ## 2. Segments that stay inside -/

/-- Whether segments leave no more than has been entered: what has been entered so far stands in the
list, the last one first. -/
def Stays : (entered segments : List (List Char)) → Prop
  | _, [] => True
  | entered, segment :: more =>
    (isDoubleDot segment = true → entered ≠ []) ∧ Stays (enter entered segment) more

/-- Segments without a double dot leave nothing. -/
theorem stays_of_forall {segments : List (List Char)}
    (h : ∀ segment ∈ segments, isDoubleDot segment = false) (entered : List (List Char)) :
    Stays entered segments := by
  induction segments generalizing entered with
  | nil => trivial
  | cons segment more ih =>
    obtain ⟨hsegment, hmore⟩ := List.forall_mem_cons.mp h
    refine ⟨fun hdots => ?_, ih hmore _⟩
    rw [hsegment] at hdots
    cases hdots

section Stays

variable {entered : List (List Char)} (before : List (List Char))

theorem leave_append (h : entered ≠ []) : leave (entered ++ before) = leave entered ++ before := by
  obtain ⟨last, rest, rfl⟩ := List.exists_cons_of_ne_nil h
  simp only [leave, List.cons_append]
  split <;> rfl

theorem enter_append {segment : List Char} (h : isDoubleDot segment = true → entered ≠ []) :
    enter (entered ++ before) segment = enter entered segment ++ before := by
  unfold enter
  split
  · rfl
  · split
    · rename_i hdots
      exact leave_append before (h hdots)
    · rfl

/-- **Segments that stay inside do not touch what stands in front of them.** -/
theorem resolve_of_stays {segments : List (List Char)} (hne : segments ≠ [])
    (h : Stays entered segments) :
    resolve (entered ++ before) segments = before.reverse ++ resolve entered segments := by
  induction segments generalizing entered with
  | nil => exact absurd rfl hne
  | cons segment more ih =>
    obtain ⟨hsegment, hmore⟩ := h
    cases more with
    | nil =>
      rw [resolve_singleton, resolve_singleton, enter_append before hsegment]
      split
      · rw [← List.cons_append, List.reverse_append]
      · rw [List.reverse_append]
    | cons next rest =>
      rw [resolve_cons _ _ (List.cons_ne_nil next rest), resolve_cons _ _ (List.cons_ne_nil next rest),
        enter_append before hsegment]
      exact ih (List.cons_ne_nil next rest) hmore

end Stays

/-! ## 3. The text of a path -/

namespace Path

theorem text_append (first more : List (List Char)) :
    (Path.segments (first ++ more)).text = (Path.segments first).text ++ (Path.segments more).text :=
  List.flatMap_append

/-- A path with a segment begins with a slash. -/
theorem text_of_ne_nil {segments : List (List Char)} (h : segments ≠ []) :
    ∃ rest, (Path.segments segments).text = '/' :: rest := by
  obtain ⟨first, more, rfl⟩ := List.exists_cons_of_ne_nil h
  exact ⟨first ++ (Path.segments more).text, rfl⟩

end Path

end Relay.Url
