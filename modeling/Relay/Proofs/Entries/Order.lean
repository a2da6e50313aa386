import Mathlib.Data.List.Induction
import Mathlib.Data.String.Basic

/-!
# Entries in the order of their names

Members of objects and models of capabilities are both kept in the order of their names, and an
entry takes the place of an earlier one of its name (`entered`). This file fixes what such entries
answer (`lookup_entered`), and that entries with different names come out in order, whatever the
order in which they are given (`enteredAll_of_perm`).
-/

namespace Relay

variable {α : Type}

/-! ## 1. One entry -/

/-- Entries with another one in its place, or in the place of the one that had its name. -/
def entered (name : String) (a : α) : List (String × α) → List (String × α)
  | [] => [(name, a)]
  | (n, b) :: more =>
    if name = n then (name, a) :: more
    else if name < n then (name, a) :: (n, b) :: more
    else (n, b) :: entered name a more

/-- Entries in the order of their names, none of which occurs twice. -/
abbrev Ordered (entries : List (String × α)) : Prop :=
  entries.Pairwise (fun a b => a.1 < b.1)

section Entered

variable {name other : String} {a : α} {entries : List (String × α)}

/-- An entry that is added is found under its name, and all others are found as before. -/
theorem lookup_entered (name other : String) (a : α) (entries : List (String × α)) :
    (entered name a entries).lookup other =
      if other = name then some a else entries.lookup other := by
  by_cases hother : other = name
  · subst hother
    rw [if_pos rfl]
    induction entries with
    | nil => simp [entered]
    | cons entry more ih =>
      obtain ⟨n, b⟩ := entry
      rw [entered]
      split_ifs with hsame hless
      · simp
      · simp
      · rw [List.lookup_cons, beq_eq_false_iff_ne.mpr hsame]
        exact ih
  · rw [if_neg hother]
    have hne : (other == name) = false := beq_eq_false_iff_ne.mpr hother
    induction entries with
    | nil => simp [entered, List.lookup_cons, hne]
    | cons entry more ih =>
      obtain ⟨n, b⟩ := entry
      rw [entered]
      split_ifs with hsame hless
      · subst hsame
        simp [List.lookup_cons, hne]
      · simp [List.lookup_cons, hne]
      · rw [List.lookup_cons, List.lookup_cons, ih]

theorem mem_entered {entry : String × α} (h : entry ∈ entered name a entries) :
    entry = (name, a) ∨ entry ∈ entries := by
  induction entries with
  | nil => exact .inl (List.mem_singleton.mp h)
  | cons first more ih =>
    simp only [entered] at h
    split_ifs at h with hsame hless
    · rcases List.mem_cons.mp h with h | h
      · exact .inl h
      · exact .inr (List.mem_cons_of_mem _ h)
    · exact List.mem_cons.mp h
    · rcases List.mem_cons.mp h with h | h
      · exact .inr (h ▸ List.mem_cons_self)
      · exact (ih h).imp_right (List.mem_cons_of_mem _)

/-- **An entry that is added keeps the order.** -/
theorem Ordered.entered (h : Ordered entries) : Ordered (entered name a entries) := by
  induction entries with
  | nil => exact List.pairwise_singleton _ _
  | cons first more ih =>
    obtain ⟨hfirst, hmore⟩ := List.pairwise_cons.mp h
    simp only [Relay.entered]
    split_ifs with hsame hless
    · exact List.pairwise_cons.mpr ⟨fun entry hmem => hsame ▸ hfirst entry hmem, hmore⟩
    · refine List.pairwise_cons.mpr ⟨fun entry hmem => ?_, h⟩
      rcases List.mem_cons.mp hmem with rfl | hmem
      · exact hless
      · exact hless.trans (hfirst entry hmem)
    · refine List.pairwise_cons.mpr ⟨fun entry hmem => ?_, ih hmore⟩
      rcases mem_entered hmem with rfl | hmem
      · exact lt_of_le_of_ne (not_lt.mp hless) (Ne.symm hsame)
      · exact hfirst entry hmem

/-- An entry with a new name comes in addition to the others. -/
theorem perm_entered (h : ∀ entry ∈ entries, entry.1 ≠ name) :
    (entered name a entries).Perm ((name, a) :: entries) := by
  induction entries with
  | nil => exact .refl _
  | cons first more ih =>
    obtain ⟨hfirst, hmore⟩ := List.forall_mem_cons.mp h
    rw [entered, if_neg (Ne.symm hfirst)]
    split_ifs with hless
    · exact .refl _
    · exact ((ih hmore).cons first).trans (.swap ..)

end Entered

/-! ## 2. All entries -/

/-- What entries come to that are added one after another. -/
def enteredAll (entries : List (String × α)) : List (String × α) :=
  entries.foldl (fun earlier entry => entered entry.1 entry.2 earlier) []

theorem enteredAll_concat (earlier : List (String × α)) (last : String × α) :
    enteredAll (earlier ++ [last]) = entered last.1 last.2 (enteredAll earlier) :=
  List.foldl_concat ..

/-- What entries come to is in order, and has no other entries. -/
theorem ordered_enteredAll (entries : List (String × α)) :
    Ordered (enteredAll entries) ∧ ∀ entry ∈ enteredAll entries, entry ∈ entries := by
  induction entries using List.reverseRecOn with
  | nil => exact ⟨.nil, fun _ h => h⟩
  | append_singleton earlier last ih =>
    rw [enteredAll_concat]
    refine ⟨ih.1.entered, fun entry h => ?_⟩
    rcases mem_entered h with rfl | h
    · exact List.mem_append_right _ (List.mem_singleton_self _)
    · exact List.mem_append_left _ (ih.2 entry h)

/-- Entries with different names are all kept. -/
theorem perm_enteredAll {entries : List (String × α)} (h : (entries.map Prod.fst).Nodup) :
    (enteredAll entries).Perm entries := by
  induction entries using List.reverseRecOn with
  | nil => exact .refl _
  | append_singleton earlier last ih =>
    rw [List.map_append, List.map_singleton, List.nodup_append] at h
    obtain ⟨hearlier, -, hlast⟩ := h
    have hperm := ih hearlier
    have hnew : ∀ entry ∈ enteredAll earlier, entry.1 ≠ last.1 := fun entry hentry =>
      hlast _ (List.mem_map_of_mem (hperm.subset hentry)) _ (List.mem_singleton_self _)
    rw [enteredAll_concat]
    exact (perm_entered hnew).trans ((hperm.cons last).trans (List.perm_append_singleton last earlier).symm)

/-- **Entries come out in order, whatever the order in which they are given.** -/
theorem enteredAll_of_perm {entries target : List (String × α)} (h : entries.Perm target)
    (htarget : Ordered target) : enteredAll entries = target := by
  have hnodup : (target.map Prod.fst).Nodup :=
    List.pairwise_map.mpr (htarget.imp fun hless => hless.ne)
  have hperm := (perm_enteredAll ((h.map Prod.fst).nodup_iff.mpr hnodup)).trans h
  refine hperm.eq_of_pairwise (fun a b _ _ hab hba => ?_) (ordered_enteredAll entries).1 htarget
  exact absurd hab (lt_asymm hba)

end Relay
