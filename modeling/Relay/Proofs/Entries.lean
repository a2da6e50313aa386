/-!
# Entries by name

Runs keep what has a name as a list of entries. An entry is given up by filtering out its name, and
nothing else is lost then.
-/

namespace Relay

variable {α : Type} {name other : String} (entries : List (String × α))

theorem lookup_erased_self (name : String) :
    (entries.filter (fun entry => entry.1 != name)).lookup name = none := by
  refine List.lookup_eq_none_iff.mpr fun entry hentry => ?_
  have hne : entry.1 ≠ name := by simpa using (List.mem_filter.mp hentry).2
  exact bne_iff_ne.mpr (Ne.symm hne)

theorem lookup_erased_of_ne (h : other ≠ name) :
    (entries.filter (fun entry => entry.1 != name)).lookup other = entries.lookup other := by
  induction entries with
  | nil => rfl
  | cons entry more ih =>
    obtain ⟨key, a⟩ := entry
    by_cases hn : key = name
    · subst hn
      have hne : (other == key) = false := beq_eq_false_iff_ne.mpr h
      simpa [List.filter_cons, List.lookup_cons, hne] using ih
    · simp [hn, List.lookup_cons, ih]

end Relay
