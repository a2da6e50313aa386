import Relay.Proofs.Url.Below

/-!
# Paths that stay as they are written

A path of letters, digits and a few marks, without dot segments, is not changed by reading: nothing
in it is escaped and nothing resolved (`Plain`). An address of HTTP with such a path may go on with
another one, and the path that is read is the one that is written (`ofChars?_of_plain`).
-/

namespace Relay.Url

/-! ## 1. Plain paths -/

/-- The characters that stand for themselves in every part of an address: the letters and digits of
ASCII and four marks. -/
def isUnreserved (c : Char) : Bool :=
  c.isAlphanum || c == '-' || c == '_' || c == '.' || c == '~'

/-- A path that is written with unreserved characters and slashes, and has no dot segment. Its
segments may be empty. -/
structure Plain (path : List Char) : Prop where
  unreserved : ∀ c ∈ path, isUnreserved c = true ∨ c = '/'
  undotted : ∀ segment ∈ path.splitOn '/', segment ≠ ['.'] ∧ segment ≠ ['.', '.']

theorem plain_iff {path : List Char} : Plain path ↔
    (path.all (fun c => isUnreserved c || c == '/') &&
      (path.splitOn '/').all (fun segment => segment != ['.'] && segment != ['.', '.'])) = true := by
  simp only [Bool.and_eq_true, List.all_eq_true, Bool.or_eq_true, beq_iff_eq, bne_iff_ne]
  exact ⟨fun h => ⟨h.unreserved, h.undotted⟩, fun h => ⟨h.1, h.2⟩⟩

instance (path : List Char) : Decidable (Plain path) :=
  decidable_of_iff _ plain_iff.symm

/-- The number of an unreserved character. -/
theorem toNat_of_unreserved {c : Char} (h : isUnreserved c = true) :
    c.toNat = 0x2D ∨ c.toNat = 0x2E ∨ (0x30 ≤ c.toNat ∧ c.toNat ≤ 0x39) ∨
      (0x41 ≤ c.toNat ∧ c.toNat ≤ 0x5A) ∨ c.toNat = 0x5F ∨ (0x61 ≤ c.toNat ∧ c.toNat ≤ 0x7A) ∨
      c.toNat = 0x7E := by
  simp only [isUnreserved, Bool.or_eq_true, beq_iff_eq] at h
  obtain (((hword | rfl) | rfl) | rfl) | rfl := h
  · have hnumbers {low high : Char} (hlow : low.val ≤ c.val) (hhigh : c.val ≤ high.val) :
        low.toNat ≤ c.toNat ∧ c.toNat ≤ high.toNat :=
      ⟨UInt32.le_iff_toNat_le.mp hlow, UInt32.le_iff_toNat_le.mp hhigh⟩
    obtain hletter | hdigit := Bool.or_eq_true_iff.mp hword
    · obtain hupper | hlower := Bool.or_eq_true_iff.mp hletter
      · obtain ⟨hlow, hhigh⟩ : 'A'.val ≤ c.val ∧ c.val ≤ 'Z'.val := of_decide_eq_true hupper
        have hbounds := hnumbers hlow hhigh
        simp only [Char.reduceToNat] at hbounds
        omega
      · obtain ⟨hlow, hhigh⟩ := Bool.and_eq_true_iff.mp hlower
        have hbounds : 'a'.toNat ≤ c.toNat ∧ c.toNat ≤ 'z'.toNat :=
          hnumbers (of_decide_eq_true hlow) (of_decide_eq_true hhigh)
        simp only [Char.reduceToNat] at hbounds
        omega
    · have hbounds := Char.isDigit_iff_toNat.mp hdigit
      simp only [Char.reduceToNat] at hbounds
      omega
  all_goals simp

section Character

variable {c : Char} (h : isUnreserved c = true)

include h

theorem ne_of_unreserved {d : Char} (hd : isUnreserved d = false) : c ≠ d := by
  rintro rfl
  rw [h] at hd
  cases hd

/-- Unreserved characters are no blanks, end no part and divide none, and are not escaped. -/
theorem classes_of_unreserved :
    isBlankAround c = false ∧ endsPath c = false ∧ isWebSlash c = false ∧ inPath c = false := by
  have hne {d : Char} (hd : isUnreserved d = false) : c ≠ d := ne_of_unreserved h hd
  have hnumber := toNat_of_unreserved h
  refine ⟨?_, ?_, ?_, ?_⟩
  · rw [isBlankAround, decide_eq_false_iff_not, Char.le_def, UInt32.le_iff_toNat_le]
    show ¬c.toNat ≤ 0x20
    omega
  · simp [endsPath, hne (d := '?') (by decide), hne (d := '#') (by decide)]
  · simp [isWebSlash, hne (d := '/') (by decide), hne (d := '\\') (by decide)]
  · have hcontrol : inControls c = false := by
      simp only [inControls, Bool.or_eq_false_iff, decide_eq_false_iff_not]
      omega
    simp [inPath, inFragment, hcontrol, hne (d := ' ') (by decide), hne (d := '"') (by decide),
      hne (d := '<') (by decide), hne (d := '>') (by decide), hne (d := '\x60') (by decide),
      hne (d := '#') (by decide), hne (d := '?') (by decide), hne (d := '\x7b') (by decide),
      hne (d := '\x7d') (by decide)]

end Character

/-! ## 2. Segments -/

theorem splitOnP_congr {p q : Char → Bool} {text : List Char} (h : ∀ c ∈ text, p c = q c) :
    text.splitOnP p = text.splitOnP q := by
  induction text with
  | nil => rfl
  | cons c rest ih =>
    obtain ⟨hc, hrest⟩ := List.forall_mem_cons.mp h
    rw [List.splitOnP_cons_eq_if_modifyHead, List.splitOnP_cons_eq_if_modifyHead, hc, ih hrest]

/-- Each segment behind its slash: this is the text behind a slash. -/
theorem flatMap_slash {segments : List (List Char)} (h : segments ≠ []) :
    segments.flatMap (fun segment => '/' :: segment) = '/' :: ['/'].intercalate segments := by
  induction segments with
  | nil => exact absurd rfl h
  | cons first more ih =>
    cases more with
    | nil => simp
    | cons next rest =>
      rw [List.flatMap_cons, ih (List.cons_ne_nil _ _), List.intercalate_cons_cons]
      simp

theorem mem_of_mem_splitOn {text segment : List Char} (hsegment : segment ∈ text.splitOn '/')
    {c : Char} (hc : c ∈ segment) : c ∈ text ∧ c ≠ '/' := by
  rw [List.splitOn_eq_splitOnP] at hsegment
  induction text generalizing segment c with
  | nil =>
    obtain rfl := List.mem_singleton.mp hsegment
    cases hc
  | cons first rest ih =>
    rw [List.splitOnP_cons_eq_if_modifyHead] at hsegment
    split at hsegment
    · rcases List.mem_cons.mp hsegment with rfl | hsegment
      · cases hc
      · exact (ih hsegment hc).imp_left (List.mem_cons_of_mem _)
    · rename_i hfirst
      obtain ⟨head, others, hsplit⟩ :=
        List.exists_cons_of_ne_nil (List.splitOnP_ne_nil (· == '/') rest)
      rw [hsplit] at hsegment ih
      rcases List.mem_cons.mp hsegment with rfl | hsegment
      · rcases List.mem_cons.mp hc with rfl | hc
        · exact ⟨List.mem_cons_self, by simpa using hfirst⟩
        · exact (ih List.mem_cons_self hc).imp_left (List.mem_cons_of_mem _)
      · exact (ih (List.mem_cons_of_mem _ hsegment) hc).imp_left (List.mem_cons_of_mem _)

/-- Only a text with an escape is another one with its dots written as dots. -/
theorem plainDots_eq_self {segment : List Char} (h : '%' ∉ segment) : plainDots segment = segment := by
  fun_induction plainDots segment with
  | case1 e rest he ih => simp at h
  | case2 e rest he => simp at h
  | case3 rest ih => rw [ih (fun hmem => h (List.mem_cons_of_mem _ hmem))]
  | case4 => rfl

section Plain

variable {path : List Char} (h : Plain path)

include h

theorem Plain.segments {segment : List Char} (hsegment : segment ∈ path.splitOn '/') :
    escape inPath segment = segment ∧ isDot segment = false ∧ isDoubleDot segment = false := by
  have hunreserved : ∀ c ∈ segment, isUnreserved c = true := fun c hc =>
    have hmem := mem_of_mem_splitOn hsegment hc
    (h.unreserved c hmem.1).resolve_right hmem.2
  have hplain : plainDots segment = segment := by
    refine plainDots_eq_self fun hpercent => ?_
    exact absurd (hunreserved '%' hpercent) (by decide)
  obtain ⟨hdot, hdots⟩ := h.undotted segment hsegment
  refine ⟨escape_eq_self fun c hc => (classes_of_unreserved (hunreserved c hc)).2.2.2, ?_, ?_⟩
  · rwa [isDot, hplain, beq_eq_false_iff_ne]
  · rwa [isDoubleDot, hplain, beq_eq_false_iff_ne]

/-- Only slashes divide a plain path, and nothing in it is escaped. -/
theorem Plain.split : (path.splitOnP isWebSlash).map (escape inPath) = path.splitOn '/' := by
  have hsplit : path.splitOnP isWebSlash = path.splitOn '/' := by
    rw [List.splitOn_eq_splitOnP]
    refine splitOnP_congr fun c hc => ?_
    rcases h.unreserved c hc with hc | rfl
    · rw [(classes_of_unreserved hc).2.2.1]
      exact (beq_eq_false_iff_ne.mpr (ne_of_unreserved hc (by decide))).symm
    · rfl
  rw [hsplit, List.map_congr_left fun segment hsegment => (h.segments hsegment).1, List.map_id']

theorem Plain.visible : ∀ c ∈ path, isBlankAround c = false ∧ endsPath c = false := by
  intro c hc
  rcases h.unreserved c hc with hc | rfl
  · exact ⟨(classes_of_unreserved hc).1, (classes_of_unreserved hc).2.1⟩
  · decide

end Plain

/-- Two plain paths with a slash between them make one. -/
theorem Plain.append {path more : List Char} (hpath : Plain path) (hmore : Plain more) :
    Plain (path ++ '/' :: more) := by
  refine ⟨fun c hc => ?_, fun segment hsegment => ?_⟩
  · rcases List.mem_append.mp hc with hc | hc
    · exact hpath.unreserved c hc
    · rcases List.mem_cons.mp hc with rfl | hc
      · exact .inr rfl
      · exact hmore.unreserved c hc
  · rw [List.splitOn_append_cons_self] at hsegment
    rcases List.mem_append.mp hsegment with hsegment | hsegment
    · exact hpath.undotted segment hsegment
    · exact hmore.undotted segment hsegment

/-! ## 3. Going on with a plain path -/

theorem trail_of_visible {text : List Char} (h : ∀ c ∈ text, isBlankAround c = false) :
    trail text = text := by
  have hfilter : text.filter (fun c => !isBlankInside c) = text :=
    List.filter_eq_self.mpr fun c hc => by simp [not_inside_of_not_around (h c hc)]
  have hdrop : text.reverse.dropWhile isBlankAround = text.reverse := by
    rw [List.dropWhile_eq_self_iff]
    intro hlength hblank
    have hmem := List.mem_reverse.mp (List.getElem_mem hlength)
    rw [h _ hmem] at hblank
    cases hblank
  rw [trail, hdrop, List.reverse_reverse, hfilter]

theorem lead_of_visible {text : List Char} (h : ∀ c ∈ text, isBlankAround c = false) :
    lead text = text := by
  have hfilter : text.filter (fun c => !isBlankInside c) = text :=
    List.filter_eq_self.mpr fun c hc => by simp [not_inside_of_not_around (h c hc)]
  have hdrop : text.dropWhile isBlankAround = text := by
    rw [List.dropWhile_eq_self_iff]
    intro hlength hblank
    rw [h _ (List.getElem_mem hlength)] at hblank
    cases hblank
  rw [lead, hdrop, hfilter]

/-- The segments of a path that begins with a slash, or is empty. -/
theorem openSegments_of_plain {path : List Char} (h : Plain path)
    (hhead : ∀ c ∈ path.head?, c = '/') :
    openSegments path = (path.splitOn '/').drop 1 := by
  cases path with
  | nil => rfl
  | cons first rest =>
    obtain rfl := hhead first rfl
    have hsplit := h.split
    have hslash : isWebSlash '/' = true := by decide
    rw [List.splitOnP_cons_eq_if_modifyHead, if_pos hslash, List.map_cons] at hsplit
    rw [← hsplit]
    rfl

/-- **An address whose path is plain goes on with a plain path as it is written**, and has neither a
query nor a fragment. -/
theorem goingOn_of_plain (scheme : List Char) (read : Authority) {path more : List Char}
    (hpath : Plain path) (hhead : ∀ c ∈ path.head?, c = '/') (hmore : Plain more) :
    let url := goingOn scheme read path (trail more)
    url.target = path ++ '/' :: more ∧ url.query = none ∧ url.fragment = none := by
  have hends : ∀ c ∈ more, (!endsPath c) = true := fun c hc => by simp [(hmore.visible c hc).2]
  have htrail : trail more = more := trail_of_visible fun c hc => (hmore.visible c hc).1
  have htake : more.takeWhile (fun c => !endsPath c) = more := List.takeWhile_eq_self_iff.mpr hends
  have hdrop : more.dropWhile (fun c => !endsPath c) = [] := List.dropWhile_eq_nil_iff.mpr hends
  have hresolve : resolve [] ((path.splitOn '/').drop 1 ++ more.splitOn '/') =
      (path.splitOn '/').drop 1 ++ more.splitOn '/' := by
    refine resolve_eq_append fun segment hsegment => ?_
    rcases List.mem_append.mp hsegment with hsegment | hsegment
    · exact (hpath.segments (List.mem_of_mem_drop hsegment)).2
    · exact (hmore.segments hsegment).2
  have htext : (Path.segments ((path.splitOn '/').drop 1)).text = path := by
    cases path with
    | nil => rfl
    | cons first rest =>
      obtain rfl := hhead first rfl
      rw [List.splitOn_cons_eq_if_modifyHead, if_pos (by rfl), List.drop_one, List.tail_cons, Path.text,
        flatMap_slash (List.splitOn_ne_nil _ _), List.intercalate_splitOn]
  have htail : readTail inWebQuery [] = (none, none) := rfl
  simp only [goingOn, target, htrail, htake, hdrop, htail, hmore.split,
    openSegments_of_plain hpath hhead, hresolve, Path.text_append, htext]
  refine ⟨?_, trivial, trivial⟩
  rw [Path.text, flatMap_slash (List.splitOn_ne_nil _ _), List.intercalate_splitOn]
  exact List.append_nil _

/-! ## 4. Addresses with a plain path -/

/-- What stands in front of the authority of an address of HTTP. -/
def httpMark : List Char := "http://".toList

/-- A text that spells an address of HTTP: a host with or without a port, a plain path, and slashes
at the end. -/
structure PlainAddress (text : String) (authority path : List Char) (slashes : Nat) : Prop where
  spelled : text.toList = httpMark ++ authority ++ path ++ List.replicate slashes '/'
  named : authority ≠ []
  /-- A host and a port hold no blanks, and nothing that would end them. -/
  bare : ∀ c ∈ authority, isBlankAround c = false ∧ c ∉ ['/', '\\', '?', '#', '@']
  plain : Plain path
  /-- The path begins with a slash, or is empty. -/
  rooted : ∀ c ∈ path.head?, c = '/'
  /-- All slashes at the end are counted. -/
  trimmed : ∀ c ∈ path.getLast?, c ≠ '/'
  /-- The host and the port are such. -/
  valid : (ofText? text).isSome = true

namespace PlainAddress

variable {text : String} {authority path : List Char} {slashes : Nat}
  (h : PlainAddress text authority path slashes)

include h

/-- Whatever path follows, the authority is read apart. -/
theorem opens {behind : List Char} (hends : ∀ c ∈ behind, endsPath c = false)
    (hhead : ∀ c ∈ behind.head?, c = '/') :
    Opens (['/', '/'] ++ authority ++ behind) ['/', '/'] authority behind := by
  have hbare {c : Char} (hc : c ∈ authority) : isWebSlash c = false ∧ endsPath c = false := by
    have hmarks := (h.bare c hc).2
    simp only [List.mem_cons, List.not_mem_nil, or_false, not_or] at hmarks
    simp [isWebSlash, endsPath, hmarks]
  have hslashes : ∀ c ∈ ['/', '/'], isWebSlash c = true := by simp [isWebSlash]
  refine ⟨List.append_assoc .., hslashes, h.named, fun c hc => hbare hc, hends, fun c hc => ?_⟩
  rw [hhead c hc]
  decide

theorem visible : ∀ c ∈ httpMark ++ authority ++ path, isBlankAround c = false := by
  have hmark : ∀ c ∈ httpMark, isBlankAround c = false := by simp [httpMark, isBlankAround]
  intro c hc
  rcases List.mem_append.mp hc with hc | hc
  · rcases List.mem_append.mp hc with hc | hc
    · exact hmark c hc
    · exact (h.bare c hc).1
  · exact (h.plain.visible c hc).1

theorem readScheme_lead : readScheme (lead (httpMark ++ authority ++ path)) =
    some ("http".toList, ['/', '/'] ++ authority ++ path) := by
  rw [lead_of_visible h.visible]
  have hscheme : ∀ c ∈ 'h' :: "ttp".toList, isSchemeChar c = true :=
    List.all_eq_true.mp (by decide)
  refine readScheme_eq_some_iff.mpr ⟨'h', "ttp".toList, ?_, by decide, hscheme, by decide⟩
  simp [httpMark]

/-- The authority of the address can be read. -/
theorem readAuthority_isSome : ∃ read left, readAuthority "http".toList authority true =
    some (read, left) := by
  have hweb : isWeb "http".toList = true := by decide
  have hslash : isBlankAround '/' = false ∧ endsPath '/' = false := by decide
  let behind := path ++ List.replicate slashes '/'
  have hbehind : ∀ c ∈ behind, isBlankAround c = false ∧ endsPath c = false := by
    intro c hc
    rcases List.mem_append.mp hc with hc | hc
    · exact h.plain.visible c hc
    · rwa [List.eq_of_mem_replicate hc]
  have hhead : ∀ c ∈ behind.head?, c = '/' := by
    cases hpath : path with
    | nil =>
      intro c hc
      have hmem : c ∈ List.replicate slashes '/' := by
        simpa [behind, hpath] using List.mem_of_mem_head? hc
      exact List.eq_of_mem_replicate hmem
    | cons first rest =>
      intro c hc
      refine h.rooted c ?_
      rw [hpath]
      simpa [behind, hpath] using hc
  have hvisible : ∀ c ∈ text.toList, isBlankAround c = false := by
    rw [h.spelled]
    intro c hc
    rcases List.mem_append.mp hc with hc | hc
    · exact h.visible c hc
    · rw [List.eq_of_mem_replicate hc]
      exact hslash.1
  have hscheme : readScheme (strip text.toList) =
      some ("http".toList, ['/', '/'] ++ authority ++ behind) := by
    rw [strip_eq_lead fun c hc => hvisible c (List.mem_of_getLast? hc), lead_of_visible hvisible,
      h.spelled]
    have hread := readScheme_append (List.replicate slashes '/') h.readScheme_lead
    rw [lead_of_visible h.visible] at hread
    rw [hread]
    simp [behind]
  obtain ⟨url, hurl⟩ := Option.isSome_iff_exists.mp h.valid
  rw [ofText?, ofChars?, hscheme] at hurl
  simp only [Option.bind_eq_bind, Option.bind_some, hweb, if_true] at hurl
  have hopens := h.opens (fun c hc => (hbehind c hc).2) hhead
  obtain ⟨read, left, hread, -⟩ := readWeb_of_opens_nil hweb hopens hurl
  exact ⟨read, left, hread⟩

/-- **What is put behind the address, when it is plain, is read as it is written.** -/
theorem ofChars?_append {more : List Char} (hmore : Plain more) :
    ∃ read left url, readAuthority "http".toList authority true = some (read, left) ∧
      ofChars? (httpMark ++ authority ++ path ++ '/' :: more) = some url ∧
      url.scheme = "http".toList ∧ url.authority = some read ∧ url.target = path ++ '/' :: more := by
  obtain ⟨read, left, hread⟩ := h.readAuthority_isSome
  have hopens := h.opens (fun c hc => (h.plain.visible c hc).2) h.rooted
  refine ⟨read, left, goingOn "http".toList read path (trail more), hread, ?_, rfl, rfl,
    (goingOn_of_plain _ read h.plain h.rooted hmore).1⟩
  rw [ofChars?_of_opens h.readScheme_lead hopens (by decide), hread]
  rfl

end PlainAddress

/-! ## 5. The authority -/

/-- An authority without an `@` names nobody, and that of a web address has a host. -/
theorem readAuthority_anonymous {scheme text : List Char} {isFollowed : Bool} {read : Authority}
    {left : List Char} (hweb : isWeb scheme = true) (h : '@' ∉ text)
    (hread : readAuthority scheme text isFollowed = some (read, left)) :
    read.user = [] ∧ read.password = none ∧ read.host.isSome = true := by
  have hsplit : splitUserinfo text = none := by simp [splitUserinfo, h]
  have hinfo : readUserinfo [] = ([], none) := rfl
  have hat : text.contains '@' = false := by simpa using h
  simp only [readAuthority, hsplit, Option.getD_none, hinfo, hat, Bool.and_false, Bool.false_eq_true,
    if_false, readHost, hweb, if_true, List.isEmpty_nil, Bool.not_true, Option.isSome_none,
    Bool.or_self, Option.bind_eq_bind] at hread
  split at hread
  · cases hread
  · obtain ⟨host, hhost, hread⟩ := Option.bind_eq_some_iff.mp hread
    obtain ⟨port, -, hread⟩ := Option.bind_eq_some_iff.mp hread
    obtain ⟨rfl, -⟩ := Prod.mk.inj (Option.some.inj hread)
    refine ⟨rfl, rfl, ?_⟩
    split at hhost
    · cases hhost
    · obtain ⟨name, -, rfl⟩ := Option.map_eq_some_iff.mp hhost
      rfl

end Relay.Url
