import Mathlib.Data.List.TakeDrop
import Mathlib.Data.List.TakeWhile
import Relay.Proofs.Url.Path
import Relay.Url

/-!
# Texts behind an address

What is put behind a web address and a slash belongs to its path, its query or its fragment: the
scheme and the authority are read from the address alone. An address that has itself neither a query
nor a fragment may go on in its path (`Opens`); then the segments of what is put behind it follow
those of its own path (`ofChars?_of_opens`).
-/

namespace Relay.Url

/-! ## 1. Blanks -/

/-- What is read of the beginning of an address. -/
def lead (text : List Char) : List Char :=
  (text.dropWhile isBlankAround).filter (fun c => !isBlankInside c)

/-- What is read of the end of an address. -/
def trail (text : List Char) : List Char :=
  ((text.reverse.dropWhile isBlankAround).reverse).filter (fun c => !isBlankInside c)

section Blanks

variable {c : Char}

theorem isBlankAround_of_inside (h : isBlankInside c = true) : isBlankAround c = true := by
  simp only [isBlankInside, Bool.or_eq_true, beq_iff_eq] at h
  rcases h with (rfl | rfl) | rfl <;> decide

theorem not_inside_of_not_around (h : isBlankAround c = false) : isBlankInside c = false :=
  Bool.eq_false_iff.mpr fun hinside => by
    rw [isBlankAround_of_inside hinside] at h
    cases h

/-- The marks of a query and of a fragment are no blanks. -/
theorem not_endsPath_of_blank (h : isBlankAround c = true) : endsPath c = false := by
  refine Bool.eq_false_iff.mpr fun hmark => ?_
  simp only [endsPath, Bool.or_eq_true, beq_iff_eq] at hmark
  rcases hmark with rfl | rfl <;> exact absurd h (by decide)

theorem dropWhile_append_cons {p : Char → Bool} (text more : List Char) (h : p c = false) :
    (text ++ c :: more).dropWhile p = text.dropWhile p ++ c :: more := by
  induction text with
  | nil => simp [h]
  | cons d rest ih =>
    rw [List.cons_append, List.dropWhile_cons, List.dropWhile_cons]
    split
    · exact ih
    · rfl

/-- **What stands in front of a character that is no blank is read apart from what stands behind
it.** -/
theorem strip_append_cons (text more : List Char) (h : isBlankAround c = false) :
    strip (text ++ c :: more) = lead text ++ c :: trail more := by
  have hinside := not_inside_of_not_around h
  have hreverse : (text.dropWhile isBlankAround ++ c :: more).reverse =
      more.reverse ++ c :: (text.dropWhile isBlankAround).reverse := by simp
  unfold strip lead trail
  rw [dropWhile_append_cons _ _ h, hreverse, dropWhile_append_cons _ _ h, List.reverse_append,
    List.reverse_cons, List.reverse_reverse, List.append_assoc, List.filter_append,
    List.singleton_append, List.filter_cons_of_pos (by simp [hinside])]

/-- What is read of a text is what is read of its beginning, but for blanks at its end. -/
theorem lead_eq_strip_append (text : List Char) :
    ∃ blanks, lead text = strip text ++ blanks ∧ ∀ c ∈ blanks, isBlankAround c = true := by
  let kept := text.dropWhile isBlankAround
  refine ⟨((kept.reverse.takeWhile isBlankAround).reverse).filter (fun c => !isBlankInside c), ?_,
    fun c hc => ?_⟩
  · rw [strip, ← List.filter_append, ← List.reverse_append, List.takeWhile_append_dropWhile,
      List.reverse_reverse]
    rfl
  · have hmem := List.mem_reverse.mp (List.mem_filter.mp hc).1
    exact List.mem_takeWhile_imp hmem

end Blanks

/-! ## 2. The scheme -/

/-- A scheme is a name of letters, digits and marks that begins with a letter, and ends at a
colon. -/
theorem readScheme_eq_some_iff {text scheme rest : List Char} :
    readScheme text = some (scheme, rest) ↔
      ∃ first name, text = first :: name ++ ':' :: rest ∧ first.isAlpha = true ∧
        (∀ c ∈ first :: name, isSchemeChar c = true) ∧ scheme = (first :: name).map Char.toLower := by
  have hcolon : isSchemeChar ':' = false := by decide
  constructor
  · intro h
    unfold readScheme at h
    rw [List.span_eq_takeWhile_dropWhile] at h
    have htext : text.takeWhile isSchemeChar ++ text.dropWhile isSchemeChar = text :=
      List.takeWhile_append_dropWhile
    simp only at h
    split at h
    · rename_i first name behind hname hrest
      split at h
      · rename_i halpha
        obtain ⟨rfl, rfl⟩ := Prod.mk.inj (Option.some.inj h)
        refine ⟨first, name, ?_, halpha, fun c hc => ?_, by rw [hname]⟩
        · rw [← hname, ← hrest, htext]
        · rw [← hname] at hc
          exact List.mem_takeWhile_imp hc
      · cases h
    · cases h
  · rintro ⟨first, name, rfl, halpha, hname, rfl⟩
    unfold readScheme
    rw [List.span_eq_takeWhile_dropWhile, List.takeWhile_append_of_pos hname,
      List.dropWhile_append_of_pos hname]
    simp [hcolon, halpha]

/-- What follows a text does not change its scheme. -/
theorem readScheme_append {text scheme rest : List Char} (more : List Char)
    (h : readScheme text = some (scheme, rest)) :
    readScheme (text ++ more) = some (scheme, rest ++ more) := by
  obtain ⟨first, name, rfl, halpha, hname, hscheme⟩ := readScheme_eq_some_iff.mp h
  exact readScheme_eq_some_iff.mpr ⟨first, name, by simp, halpha, hname, hscheme⟩

/-- The scheme in front of a slash is that of what stands in front of the slash. -/
theorem readScheme_of_slash {text more scheme rest : List Char}
    (h : readScheme (text ++ '/' :: more) = some (scheme, rest)) :
    ∃ before, readScheme text = some (scheme, before) ∧ rest = before ++ '/' :: more := by
  obtain ⟨first, name, htext, halpha, hname, hscheme⟩ := readScheme_eq_some_iff.mp h
  rcases List.append_eq_append_iff.mp htext with ⟨between, heq, hrest⟩ | ⟨between, heq, hrest⟩
  · -- the slash would stand in the scheme, or be its colon
    cases between with
    | nil => cases hrest
    | cons slash others =>
      obtain ⟨rfl, -⟩ := List.cons.inj hrest
      have hslash := hname '/' (heq ▸ List.mem_append_right text List.mem_cons_self)
      exact absurd hslash (by decide)
  · cases between with
    | nil => cases hrest
    | cons colon before =>
      obtain ⟨rfl, rfl⟩ := List.cons.inj hrest
      exact ⟨before, readScheme_eq_some_iff.mpr ⟨first, name, heq, halpha, hname, hscheme⟩, rfl⟩

/-! ## 3. What stands behind the scheme -/

/-- Whether a text behind the scheme of a web address holds slashes, an authority, and the beginning
of a path, if there is one; there are neither a query nor a fragment. -/
structure Opens (text slashes authority path : List Char) : Prop where
  eq : text = slashes ++ (authority ++ path)
  of_slashes : ∀ c ∈ slashes, isWebSlash c = true
  named : authority ≠ []
  of_authority : ∀ c ∈ authority, isWebSlash c = false ∧ endsPath c = false
  of_path : ∀ c ∈ path, endsPath c = false
  of_head : ∀ c ∈ path.head?, isWebSlash c = true

/-- The segments that stand in a path behind its first slash. -/
def openSegments : List Char → List (List Char)
  | [] => []
  | _ :: rest => (rest.splitOnP isWebSlash).map (escape inPath)

theorem head_dropWhile {p : Char → Bool} {text : List Char} :
    ∀ c ∈ (text.dropWhile p).head?, p c = false := by
  intro c hc
  have h := List.head?_dropWhile_not p text
  rw [hc] at h
  exact h

/-- A text opens an address when it has more than slashes, and neither a query nor a fragment. -/
theorem exists_opens {text : List Char} (hends : ∀ c ∈ text, endsPath c = false)
    (hnamed : ∃ c ∈ text, isWebSlash c = false) :
    ∃ slashes authority path, Opens text slashes authority path := by
  let behind := text.dropWhile isWebSlash
  have htext : text.takeWhile isWebSlash ++ behind = text := List.takeWhile_append_dropWhile
  have hbehind : behind.takeWhile (fun c => !isWebSlash c) ++
      behind.dropWhile (fun c => !isWebSlash c) = behind := List.takeWhile_append_dropWhile
  have hmem {c : Char} (h : c ∈ behind) : c ∈ text := (List.dropWhile_sublist _).subset h
  refine ⟨text.takeWhile isWebSlash, behind.takeWhile (fun c => !isWebSlash c),
    behind.dropWhile (fun c => !isWebSlash c), ?_, ?_, ?_, ?_, ?_, ?_⟩
  · rw [hbehind, htext]
  · exact fun c hc => List.mem_takeWhile_imp hc
  · obtain ⟨c, hc, hslash⟩ := hnamed
    cases hcases : behind with
    | nil =>
      have hall := List.dropWhile_eq_nil_iff.mp hcases c hc
      rw [hslash] at hall
      cases hall
    | cons first rest =>
      have hhead : first ∈ (text.dropWhile isWebSlash).head? := by
        rw [show text.dropWhile isWebSlash = _ from hcases]
        rfl
      simp [head_dropWhile first hhead]
  · intro c hc
    refine ⟨by simpa using List.mem_takeWhile_imp hc, hends c (hmem ?_)⟩
    exact (List.takeWhile_sublist _).subset hc
  · exact fun c hc => hends c (hmem ((List.dropWhile_sublist _).subset hc))
  · intro c hc
    simpa using head_dropWhile c hc

/-- The address that goes on behind an authority and a path that has been begun. -/
def goingOn (scheme : List Char) (read : Authority) (path more : List Char) : Url :=
  { scheme
    authority := some read
    path := .segments (resolve [] (openSegments path ++
      ((more.takeWhile (fun c => !endsPath c)).splitOnP isWebSlash).map (escape inPath)))
    query := (readTail inWebQuery (more.dropWhile (fun c => !endsPath c))).1
    fragment := (readTail inWebQuery (more.dropWhile (fun c => !endsPath c))).2 }

section Opens

variable {text slashes authority path : List Char} (h : Opens text slashes authority path)

include h

/-- The slashes in front of the authority are read apart. -/
theorem Opens.dropWhile (more : List Char) :
    (text ++ more).dropWhile isWebSlash = authority ++ (path ++ more) := by
  obtain ⟨first, rest, hauthority⟩ := List.exists_cons_of_ne_nil h.named
  have hfirst : isWebSlash first = false :=
    (h.of_authority first (hauthority ▸ List.mem_cons_self)).1
  rw [h.eq, List.append_assoc, List.dropWhile_append_of_pos h.of_slashes, hauthority]
  simp [hfirst]

/-- So is the authority, up to a slash behind it. -/
theorem Opens.span_authority {behind : List Char}
    (hbehind : ∀ c ∈ behind.head?, isWebSlash c = true) :
    (authority ++ behind).span (fun c => !isWebSlash c && !endsPath c) = (authority, behind) := by
  have hauthority : ∀ c ∈ authority, (!isWebSlash c && !endsPath c) = true := by
    intro c hc
    simp [h.of_authority c hc]
  rw [List.span_eq_takeWhile_dropWhile, List.takeWhile_append_of_pos hauthority,
    List.dropWhile_append_of_pos hauthority]
  cases behind with
  | nil => simp
  | cons first rest =>
    have hfirst : isWebSlash first = true := hbehind first rfl
    simp [hfirst]

/-- There is such a slash where the path goes on behind one. -/
theorem Opens.of_head_append (more : List Char) :
    ∀ c ∈ (path ++ '/' :: more).head?, isWebSlash c = true := by
  cases path with
  | nil =>
    intro c hc
    obtain rfl : '/' = c := Option.some.inj hc
    decide
  | cons first rest => exact h.of_head

/-- The path goes on behind the slash, up to a query or a fragment. -/
theorem Opens.span_path (more : List Char) :
    (path ++ '/' :: more).span (fun c => !endsPath c) =
      (path ++ '/' :: more.takeWhile (fun c => !endsPath c),
        more.dropWhile (fun c => !endsPath c)) := by
  have hpath : ∀ c ∈ path, (!endsPath c) = true := by
    intro c hc
    simp [h.of_path c hc]
  have hslash : endsPath '/' = false := by decide
  rw [List.span_eq_takeWhile_dropWhile, List.takeWhile_append_of_pos hpath,
    List.dropWhile_append_of_pos hpath]
  simp [hslash]

/-- **Its segments follow one another.** -/
theorem Opens.readWebSegments (more : List Char) :
    readWebSegments (path ++ '/' :: more) =
      resolve [] (openSegments path ++ (more.splitOnP isWebSlash).map (escape inPath)) := by
  have hslash : isWebSlash '/' = true := by decide
  cases path with
  | nil => simp [Url.readWebSegments, readSegments, openSegments, hslash]
  | cons first rest =>
    have hfirst : isWebSlash first = true := h.of_head first rfl
    simp only [Url.readWebSegments, List.cons_append, hfirst, if_true, readSegments, openSegments]
    rw [List.splitOnP_append_cons _ _ hslash, List.map_append]

/-- **A web address goes on in its path.** -/
theorem readWeb_of_opens (scheme more : List Char) :
    readWeb scheme (text ++ '/' :: more) =
      (readAuthority scheme authority true).map fun (read, _) =>
        goingOn scheme read path more := by
  have hopen : (!(path ++ '/' :: more).isEmpty) = true := by cases path <;> rfl
  simp only [readWeb, h.dropWhile, h.span_authority (h.of_head_append more), h.span_path, h.readWebSegments, hopen]
  cases readAuthority scheme authority true <;> rfl

end Opens

/-! ## 4. Addresses that others are built on -/

theorem eq_nil_of_readTail {escaped : Char → Bool} {tail : List Char}
    (hquery : (readTail escaped tail).1 = none) (hfragment : (readTail escaped tail).2 = none) :
    tail = [] := by
  cases tail with
  | nil => rfl
  | cons c more =>
    by_cases hc : c = '#'
    · subst hc
      simp [readTail, List.span_eq_takeWhile_dropWhile] at hfragment
    · simp [readTail, List.span_eq_takeWhile_dropWhile, hc] at hquery

/-- The host of a web address is not empty. -/
theorem readAuthority_nil {scheme : List Char} (hweb : isWeb scheme = true) (isFollowed : Bool) :
    readAuthority scheme [] isFollowed = none := by
  simp [readAuthority, splitUserinfo, readUserinfo, splitHost, readHost, hweb]

/-- A web address without a query and a fragment has no mark of either, and more than slashes. -/
theorem ends_of_readWeb {scheme text : List Char} {url : Url} (hweb : isWeb scheme = true)
    (h : readWeb scheme text = some url) (hquery : url.query = none)
    (hfragment : url.fragment = none) :
    (∀ c ∈ text, endsPath c = false) ∧ ∃ c ∈ text, isWebSlash c = false := by
  simp only [readWeb, List.span_eq_takeWhile_dropWhile, Option.bind_eq_bind,
    Option.bind_eq_some_iff] at h
  obtain ⟨⟨read, left⟩, hread, hurl⟩ := h
  obtain rfl := Option.some.inj hurl
  constructor
  · have htail := List.dropWhile_eq_nil_iff.mp (eq_nil_of_readTail hquery hfragment)
    intro c hc
    -- in front of the authority, in it, or behind it
    rw [← List.takeWhile_append_dropWhile (p := isWebSlash) (l := text), List.mem_append] at hc
    rcases hc with hc | hc
    · have hslash : isWebSlash c = true := List.mem_takeWhile_imp hc
      simp only [isWebSlash, Bool.or_eq_true, beq_iff_eq] at hslash
      rcases hslash with rfl | rfl <;> decide
    · rw [← List.takeWhile_append_dropWhile (p := fun c => !isWebSlash c && !endsPath c)
        (l := text.dropWhile isWebSlash), List.mem_append] at hc
      rcases hc with hc | hc
      · have hapart := List.mem_takeWhile_imp hc
        simp only [Bool.and_eq_true, Bool.not_eq_true'] at hapart
        exact hapart.2
      · simpa using htail c hc
  · refine Classical.byContradiction fun hno => ?_
    have hnone : text.dropWhile isWebSlash = [] :=
      List.dropWhile_eq_nil_iff.mpr fun c hc => by
        simpa using fun hslash => hno ⟨c, hc, hslash⟩
    rw [hnone, List.takeWhile_nil, readAuthority_nil hweb] at hread
    cases hread

theorem scheme_of_readWeb {scheme text : List Char} {url : Url}
    (h : readWeb scheme text = some url) : url.scheme = scheme := by
  simp only [readWeb, Option.bind_eq_bind, Option.bind_eq_some_iff] at h
  obtain ⟨read, -, hurl⟩ := h
  rw [← Option.some.inj hurl]

theorem scheme_of_readOther {scheme text : List Char} {url : Url}
    (h : readOther scheme text = some url) : url.scheme = scheme := by
  unfold readOther at h
  split at h
  · simp only [Option.bind_eq_bind, Option.bind_eq_some_iff] at h
    obtain ⟨read, -, hurl⟩ := h
    rw [← Option.some.inj hurl]
  · simp only at h
    split at h
    · rw [← Option.some.inj h]
    · rw [← Option.some.inj h]

theorem scheme_of_readFile {text : List Char} {url : Url} (h : readFile text = some url) :
    url.scheme = fileScheme := by
  have hscheme {found : Option (Option Host × Path)} {read : Option Host × Path → Url}
      (hread : ∀ place, (read place).scheme = fileScheme)
      (hfound : (found.bind fun place => some (read place)) = some url) :
      url.scheme = fileScheme := by
    obtain ⟨place, -, hurl⟩ := Option.bind_eq_some_iff.mp hfound
    rw [← Option.some.inj hurl]
    exact hread place
  simp only [readFile, Option.bind_eq_bind] at h
  split at h
  · split at h
    · exact hscheme (fun _ => rfl) h
    · exact hscheme (fun _ => rfl) h
  · exact hscheme (fun _ => rfl) h

/-- An address with a web scheme is read as one. -/
theorem readWeb_of_ofChars? {text : List Char} {url : Url} (h : ofChars? text = some url)
    (hweb : isWeb url.scheme = true) :
    ∃ rest, readScheme (strip text) = some (url.scheme, rest) ∧
      readWeb url.scheme rest = some url := by
  simp only [ofChars?, Option.bind_eq_bind, Option.bind_eq_some_iff] at h
  obtain ⟨⟨scheme, rest⟩, hscheme, hread⟩ := h
  simp only at hread
  split at hread
  · obtain rfl := scheme_of_readWeb hread
    exact ⟨rest, hscheme, hread⟩
  · rename_i hother
    split at hread
    · have hfile : isWeb fileScheme = false := by decide
      rw [scheme_of_readFile hread, hfile] at hweb
      cases hweb
    · rw [scheme_of_readOther hread] at hweb
      exact absurd hweb hother

/-- Slashes at the end of a text are read along with it. -/
theorem lead_append_slashes (text : List Char) (count : Nat) :
    lead (text ++ List.replicate count '/') = lead text ++ List.replicate count '/' := by
  cases count with
  | zero => rw [List.replicate_zero, List.append_nil, List.append_nil]
  | succ count =>
    have hslashes : (List.replicate count '/').filter (fun c => !isBlankInside c) =
        List.replicate count '/' := by
      refine List.filter_eq_self.mpr fun c hc => ?_
      rw [List.eq_of_mem_replicate hc]
      decide
    rw [List.replicate_succ, lead, dropWhile_append_cons _ _ (by decide), List.filter_append,
      List.filter_cons_of_pos (by decide), hslashes]
    rfl

/-- **A web address without a query and a fragment may go on in its path**, whatever slashes stand
at its end. -/
theorem opens_of_web {text : List Char} {count : Nat} {base : Url}
    (h : ofChars? (text ++ List.replicate count '/') = some base) (hweb : isWeb base.scheme = true)
    (hquery : base.query = none) (hfragment : base.fragment = none) :
    ∃ before slashes authority path, readScheme (lead text) = some (base.scheme, before) ∧
      Opens before slashes authority path := by
  obtain ⟨rest, hscheme, hread⟩ := readWeb_of_ofChars? h hweb
  obtain ⟨hends, c, hc, hslash⟩ := ends_of_readWeb hweb hread hquery hfragment
  obtain ⟨blanks, hlead, hblanks⟩ := lead_eq_strip_append (text ++ List.replicate count '/')
  have hwhole := readScheme_append blanks hscheme
  rw [← hlead, lead_append_slashes] at hwhole
  obtain ⟨before, hbefore, hrest⟩ : ∃ before, readScheme (lead text) = some (base.scheme, before) ∧
      rest ++ blanks = before ++ List.replicate count '/' := by
    cases count with
    | zero =>
      rw [List.replicate_zero, List.append_nil] at hwhole
      exact ⟨rest ++ blanks, hwhole, (List.append_nil _).symm⟩
    | succ count => exact readScheme_of_slash hwhole
  have hbeforeEnds : ∀ d ∈ before, endsPath d = false := by
    intro d hd
    have hmem : d ∈ rest ++ blanks := hrest ▸ List.mem_append_left _ hd
    rcases List.mem_append.mp hmem with hd | hd
    · exact hends d hd
    · exact not_endsPath_of_blank (hblanks d hd)
  have hbeforeNamed : ∃ d ∈ before, isWebSlash d = false := by
    have hmem : c ∈ before ++ List.replicate count '/' := hrest ▸ List.mem_append_left _ hc
    rcases List.mem_append.mp hmem with hc | hc
    · exact ⟨c, hc, hslash⟩
    · rw [List.eq_of_mem_replicate hc] at hslash
      cases hslash
  obtain ⟨slashes, authority, path, hopens⟩ := exists_opens hbeforeEnds hbeforeNamed
  exact ⟨before, slashes, authority, path, hbefore, hopens⟩

/-- **What is put behind a web address and a slash goes on in its path.** -/
theorem ofChars?_of_opens {text scheme before slashes authority path : List Char}
    (hscheme : readScheme (lead text) = some (scheme, before))
    (hopens : Opens before slashes authority path) (hweb : isWeb scheme = true)
    (more : List Char) :
    ofChars? (text ++ '/' :: more) =
      (readAuthority scheme authority true).map fun (read, _) =>
        goingOn scheme read path (trail more) := by
  have hread := readScheme_append ('/' :: trail more) hscheme
  rw [← strip_append_cons text more (by decide)] at hread
  rw [ofChars?, hread]
  simp only [Option.bind_eq_bind, Option.bind_some, hweb, if_true]
  exact readWeb_of_opens hopens scheme (trail more)

end Relay.Url
