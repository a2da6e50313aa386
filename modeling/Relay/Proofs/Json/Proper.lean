import Relay.Json.Parser
import Relay.Proofs.Entries.Order

/-!
# Values as they come out of a text

A value is *proper* when its integers fit 64 bits and the keys of its objects increase; it is
*integral* when all of its numbers are integers. What is read from a text is proper, and nests
no deeper than the reader allows (`fits_of_parse`).
-/

namespace Relay.Json

/-! ## 1. Proper values -/

/-- Whether an integer fits 64 bits, with a sign or without. -/
def fitsWord (n : Int) : Bool :=
  -twoTo 63 ≤ n && n < twoTo 64

mutual

/-- Whether the integers of a value fit 64 bits, and the keys of its objects increase. -/
def Value.isProper : Value → Bool
  | .number (.integer n) => fitsWord n
  | .array items => properItems items
  | .object members => properMembers members
  | _ => true

def properItems : List Value → Bool
  | [] => true
  | item :: more => item.isProper && properItems more

def properMembers : List (String × Value) → Bool
  | [] => true
  | (key, value) :: more =>
    more.all (fun member => key < member.1) && value.isProper && properMembers more

end

mutual

/-- Whether all numbers of a value are integers. -/
def Value.isIntegral : Value → Bool
  | .number (.real _) => false
  | .array items => integralItems items
  | .object members => integralMembers members
  | _ => true

def integralItems : List Value → Bool
  | [] => true
  | item :: more => item.isIntegral && integralItems more

def integralMembers : List (String × Value) → Bool
  | [] => true
  | (_, value) :: more => value.isIntegral && integralMembers more

end

theorem depthOfItems_le_iff {items : List Value} {bound : Nat} :
    depthOfItems items ≤ bound ↔ ∀ item ∈ items, item.depth ≤ bound := by
  induction items with
  | nil => simp [depthOfItems]
  | cons item more ih => simp [depthOfItems, ih]

theorem depthOfMembers_le_iff {members : List (String × Value)} {bound : Nat} :
    depthOfMembers members ≤ bound ↔ ∀ member ∈ members, member.2.depth ≤ bound := by
  induction members with
  | nil => simp [depthOfMembers]
  | cons member more ih => simp [depthOfMembers, ih]

theorem integralItems_iff {items : List Value} :
    integralItems items = true ↔ ∀ item ∈ items, item.isIntegral = true := by
  induction items with
  | nil => simp [integralItems]
  | cons item more ih => simp [integralItems, ih]

theorem integralMembers_iff {members : List (String × Value)} :
    integralMembers members = true ↔ ∀ member ∈ members, member.2.isIntegral = true := by
  induction members with
  | nil => simp [integralMembers]
  | cons member more ih => simp [integralMembers, ih]

theorem properItems_iff {items : List Value} :
    properItems items = true ↔ ∀ item ∈ items, item.isProper = true := by
  induction items with
  | nil => simp [properItems]
  | cons item more ih => simp [properItems, ih]

/-- Members in the order of their keys, none of which occurs twice. -/
abbrev Object.Increases (members : List (String × Value)) : Prop :=
  members.Pairwise (fun a b => a.1 < b.1)

theorem properMembers_iff {members : List (String × Value)} :
    properMembers members = true ↔
      Object.Increases members ∧ ∀ member ∈ members, member.2.isProper = true := by
  induction members with
  | nil => simp [properMembers]
  | cons member more ih =>
    simp only [properMembers, Bool.and_eq_true, List.all_eq_true, decide_eq_true_eq, ih,
      List.pairwise_cons, List.forall_mem_cons]
    constructor
    · rintro ⟨⟨hkey, hvalue⟩, hmore, hvalues⟩
      exact ⟨⟨hkey, hmore⟩, hvalue, hvalues⟩
    · rintro ⟨⟨hkey, hmore⟩, hvalue, hvalues⟩
      exact ⟨⟨hkey, hvalue⟩, hmore, hvalues⟩

/-! ## 2. Objects -/

namespace Object

variable {key : String} {value : Value} {object : Object}

theorem insert_eq_entered (key : String) (value : Value) (object : Object) :
    insert key value object = entered key value object := by
  induction object with
  | nil => rfl
  | cons member more ih => rw [insert, entered, ih]

theorem ofList_eq_enteredAll (members : List (String × Value)) :
    ofList members = enteredAll members := by
  simp only [ofList, enteredAll, insert_eq_entered]

/-- Inserting a member changes what is found under its key, and nothing else. -/
theorem find?_insert (key other : String) (value : Value) (object : Object) :
    find? other (insert key value object) =
      if other = key then some value else find? other object := by
  rw [insert_eq_entered]
  exact lookup_entered key other value object

theorem mem_insert {member : String × Value} (h : member ∈ insert key value object) :
    member = (key, value) ∨ member ∈ object := by
  rw [insert_eq_entered] at h
  exact mem_entered h

/-- **Inserting a member keeps the order.** -/
theorem increases_insert (h : Increases object) : Increases (insert key value object) := by
  rw [insert_eq_entered]
  exact Ordered.entered h

/-- What members result in is in order, and has no other members. -/
theorem increases_ofList (members : List (String × Value)) :
    Increases (ofList members) ∧ ∀ member ∈ ofList members, member ∈ members := by
  rw [ofList_eq_enteredAll]
  exact ordered_enteredAll members

/-- **Members that are in order already stay as they are.** -/
theorem ofList_of_increases {members : List (String × Value)} (h : Increases members) :
    ofList members = members := by
  rw [ofList_eq_enteredAll]
  exact enteredAll_of_perm (.refl _) h

end Object

/-! ## 3. What a reader answers -/

theorem takeSignificand_le {start : Nat} (digits : List Char) (h : start ≤ maxSignificand) :
    (takeSignificand start digits).1 ≤ maxSignificand := by
  induction digits generalizing start with
  | nil => exact h
  | cons c more ih =>
    simp only [takeSignificand]
    split
    · rename_i hfits
      exact ih hfits
    · exact h

/-- What `realValue` is. Where it is unfolded at its arguments, the arithmetic of binary64 numbers
that it rests on is computed with. -/
theorem realValue_def :
    realValue = fun negative significand exponent rest =>
      match scaleBy significand exponent with
      | some x => .ok (.real (x.withSign negative))
      | none => failAt .numberOutOfRange rest := by
  delta realValue
  rfl

theorem proper_of_realValue {negative : Bool} {significand : Nat} {exponent : Int}
    {rest : List Char} {number : Number}
    (h : realValue negative significand exponent rest = .ok number) :
    (Value.number number).isProper = true := by
  rw [realValue_def] at h
  simp only at h
  generalize scaleBy significand exponent = scaled at h
  cases scaled with
  | none => cases h
  | some x =>
    obtain rfl := Except.ok.inj h
    simp only [Value.isProper]

theorem proper_of_integerValue {negative : Bool} {n : Nat} {rest : List Char} {number : Number}
    (hn : n ≤ maxSignificand) (h : integerValue negative n rest = .ok number) :
    (Value.number number).isProper = true := by
  have hmax : maxSignificand = 2 ^ 64 - 1 := rfl
  unfold integerValue at h
  split_ifs at h with hpositive hwide
  · cases h
    simp [Value.isProper, fitsWord]
    omega
  · exact proper_of_realValue h
  · cases h
    simp [Value.isProper, fitsWord] at hwide ⊢
    omega

/-- **A number that is read fits 64 bits, or is no integer.** -/
theorem proper_of_value {numeral : Numeral} {negative : Bool} {rest : List Char} {number : Number}
    (h : numeral.value negative rest = .ok number) : (Value.number number).isProper = true := by
  have hwhole := takeSignificand_le numeral.integer (Nat.zero_le maxSignificand)
  simp only [Numeral.value] at h
  split at h
  · split at h
    · exact proper_of_realValue h
    · split_ifs at h
      · cases h
      · obtain rfl := Except.ok.inj h
        simp only [Value.isProper]
  · split_ifs at h
    · exact proper_of_integerValue hwhole h
    · exact proper_of_realValue h

theorem proper_of_readNumber {negative : Bool} {s rest : List Char} {number : Number}
    (h : readNumber negative s = .ok (number, rest)) : (Value.number number).isProper = true := by
  unfold readNumber at h
  cases hscan : scanNumeral s with
  | error fault => simp [hscan, bind, Except.bind] at h
  | ok scanned =>
    cases hvalue : scanned.1.value negative scanned.2 with
    | error fault => simp [hscan, hvalue, bind, Except.bind] at h
    | ok value =>
      simp only [hscan, hvalue, bind, Except.bind, Except.ok.injEq, Prod.mk.injEq] at h
      exact h.1 ▸ proper_of_value hvalue

/-- Whether a value is proper, and nests at most so deep. -/
def Value.FitsIn (depth : Nat) (value : Value) : Prop :=
  value.isProper = true ∧ value.depth ≤ depth

section Fits

variable {bound depth : Nat} {s rest : List Char} {value : Value}

theorem ok_of_map {α β : Type} {read : Except Fault α} {f : α → β} {b : β}
    (h : read.map f = .ok b) : ∃ a, read = .ok a ∧ f a = b := by
  cases read with
  | error fault => cases h
  | ok a => exact ⟨a, rfl, Except.ok.inj h⟩

theorem ok_of_bind {α β : Type} {read : Except Fault α} {f : α → Except Fault β} {b : β}
    (h : read >>= f = .ok b) : ∃ a, read = .ok a ∧ f a = .ok b := by
  cases read with
  | error fault => cases h
  | ok a => exact ⟨a, rfl, h⟩

theorem eq_of_withValue {v : Value} {read : Except Fault (List Char)}
    (h : withValue v read = .ok (value, rest)) : value = v := by
  obtain ⟨r, -, hr⟩ := ok_of_map h
  exact (congrArg Prod.fst hr).symm

theorem fitsIn_array_iff {items : List Value} :
    (Value.array items).FitsIn (depth + 1) ↔ ∀ item ∈ items, item.FitsIn depth := by
  simp only [Value.FitsIn, Value.isProper, Value.depth, Nat.add_le_add_iff_right, properItems_iff,
    depthOfItems_le_iff, forall_and]

theorem fitsIn_object_iff {members : List (String × Value)} :
    (Value.object members).FitsIn (depth + 1) ↔
      Object.Increases members ∧ ∀ member ∈ members, member.2.FitsIn depth := by
  simp only [Value.FitsIn, Value.isProper, Value.depth, Nat.add_le_add_iff_right,
    properMembers_iff, depthOfMembers_le_iff, forall_and, and_assoc]

/-- Whether all that is read within a bound fits. -/
structure ReadsFit (bound : Nat) : Prop where
  value : ∀ {depth s value rest}, readValue bound depth s = .ok (value, rest) → value.FitsIn depth
  items : ∀ {depth first s items rest}, readItems bound depth first s = .ok (items, rest) →
    ∀ item ∈ items, item.FitsIn depth
  members : ∀ {depth first s members rest}, readMembers bound depth first s = .ok (members, rest) →
    ∀ member ∈ members, member.2.FitsIn depth

theorem ReadsFit.readValue (hfit : ReadsFit bound)
    (h : readValue (bound + 1) depth s = .ok (value, rest)) : value.FitsIn depth := by
  have hplain {v : Value} (hproper : v.isProper = true) (hdepth : v.depth = 0) : v.FitsIn depth :=
    ⟨hproper, by omega⟩
  have hnumber {negative : Bool} {s : List Char}
      (h : (readNumber negative s).map (fun r => (Value.number r.1, r.2)) = .ok (value, rest)) :
      value.FitsIn depth := by
    obtain ⟨r, hr, heq⟩ := ok_of_map h
    obtain rfl := congrArg Prod.fst heq
    exact hplain (proper_of_readNumber hr) (by simp only [Value.depth])
  simp only [Json.readValue] at h
  cases hs : skipSpace s with
  | nil => simp [hs, failAt] at h
  | cons c more =>
    simp only [hs] at h
    split_ifs at h
    · exact eq_of_withValue h ▸ hplain (by simp only [Value.isProper]) (by simp only [Value.depth])
    · exact eq_of_withValue h ▸ hplain (by simp only [Value.isProper]) (by simp only [Value.depth])
    · exact eq_of_withValue h ▸ hplain (by simp only [Value.isProper]) (by simp only [Value.depth])
    · exact hnumber h
    · exact hnumber h
    · obtain ⟨r, -, heq⟩ := ok_of_map h
      obtain rfl := congrArg Prod.fst heq
      exact hplain (by simp only [Value.isProper]) (by simp only [Value.depth])
    · cases depth with
      | zero => cases h
      | succ depth =>
        obtain ⟨r, hr, heq⟩ := ok_of_map h
        obtain rfl := congrArg Prod.fst heq
        exact fitsIn_array_iff.mpr (hfit.items hr)
    · cases depth with
      | zero => cases h
      | succ depth =>
        obtain ⟨r, hr, heq⟩ := ok_of_map h
        obtain rfl := congrArg Prod.fst heq
        obtain ⟨hincreases, hmem⟩ := Object.increases_ofList r.1
        exact fitsIn_object_iff.mpr
          ⟨hincreases, fun member h => hfit.members hr member (hmem member h)⟩
    · cases h

theorem ReadsFit.readItems (hfit : ReadsFit bound) {first : Bool} {items : List Value}
    (h : readItems (bound + 1) depth first s = .ok (items, rest)) :
    ∀ item ∈ items, item.FitsIn depth := by
  simp only [Json.readItems] at h
  split at h
  · cases h
  · cases h
    simp
  · obtain ⟨⟨item, s₁⟩, hitem, h⟩ := ok_of_bind h
    obtain ⟨⟨more, s₂⟩, hmore, h⟩ := ok_of_bind h
    cases h
    exact List.forall_mem_cons.mpr ⟨hfit.value hitem, hfit.items hmore⟩

theorem ReadsFit.readMembers (hfit : ReadsFit bound) {first : Bool}
    {members : List (String × Value)}
    (h : readMembers (bound + 1) depth first s = .ok (members, rest)) :
    ∀ member ∈ members, member.2.FitsIn depth := by
  simp only [Json.readMembers] at h
  split at h
  · cases h
  · cases h
    simp
  · obtain ⟨⟨key, s₁⟩, -, h⟩ := ok_of_bind h
    obtain ⟨s₂, -, h⟩ := ok_of_bind h
    obtain ⟨⟨value, s₃⟩, hvalue, h⟩ := ok_of_bind h
    obtain ⟨⟨more, s₄⟩, hmore, h⟩ := ok_of_bind h
    cases h
    exact List.forall_mem_cons.mpr ⟨hfit.value hvalue, hfit.members hmore⟩

/-- **All that is read fits.** -/
theorem readsFit (bound : Nat) : ReadsFit bound := by
  induction bound with
  | zero =>
    refine ⟨fun h => ?_, fun h => ?_, fun h => ?_⟩
    · simp [Json.readValue, failAt] at h
    · simp [Json.readItems, failAt] at h
    · simp [Json.readMembers, failAt] at h
  | succ bound ih => exact ⟨ih.readValue, ih.readItems, ih.readMembers⟩

end Fits

/-- **What a text spells is proper, and nests as deep as it may.** -/
theorem fits_of_parse {text : List Char} {value : Value} (h : parse text = .ok value) :
    value.FitsIn maxDepth := by
  unfold parse readAll at h
  split at h
  · cases h
  · rename_i a rest hread
    split at h
    · cases h
    · obtain rfl := Except.ok.inj h
      exact (readsFit _).value hread

end Relay.Json
