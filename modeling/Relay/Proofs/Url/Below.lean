import Relay.Proofs.Url.Joined

/-!
# Names below an address

A name that is put behind a web address and the folder `models` goes on in the path of the address,
up to the first mark of a query or a fragment. Its path begins with that of the folder as long as
its segments stay inside (`below_of_stays`), and there is no query exactly when no `?` stands in the
name in front of a `#` (`query_eq_none_iff`).
-/

namespace Relay.Url

/-! ## 1. The query of a name -/

section Query

variable {text : List Char}

/-- What follows a path is a query exactly when its mark stands in front of that of a fragment. -/
theorem query_readTail_iff (escaped : Char → Bool) :
    (readTail escaped (text.dropWhile (fun c => !endsPath c))).1 = none ↔
      '?' ∉ text.takeWhile (· != '#') := by
  induction text with
  | nil => simp [readTail, List.span_eq_takeWhile_dropWhile]
  | cons c rest ih =>
    by_cases hquery : c = '?'
    · subst hquery
      simp [endsPath, readTail, List.span_eq_takeWhile_dropWhile]
    · by_cases hfragment : c = '#'
      · subst hfragment
        simp [endsPath, readTail, List.span_eq_takeWhile_dropWhile]
      · simpa [endsPath, hquery, hfragment, Ne.symm hquery] using ih

theorem mark_takeWhile_filter_iff {mark : Char} {p kept : Char → Bool} (hmark : kept mark = true)
    (hkept : ∀ c, p c = false → kept c = true) :
    mark ∈ (text.filter kept).takeWhile p ↔ mark ∈ text.takeWhile p := by
  induction text with
  | nil => rfl
  | cons c rest ih =>
    by_cases hc : kept c = true
    · rw [List.filter_cons_of_pos hc, List.takeWhile_cons, List.takeWhile_cons]
      split
      · rw [List.mem_cons, List.mem_cons, ih]
      · rfl
    · have hp : p c = true := by
        refine Classical.byContradiction fun hno => hc (hkept c (by simpa using hno))
      have hne : mark ≠ c := fun heq => hc (heq ▸ hmark)
      rw [List.filter_cons_of_neg hc, List.takeWhile_cons_of_pos hp, List.mem_cons, ih,
        or_iff_right hne]

theorem mark_takeWhile_append_iff {mark : Char} {p : Char → Bool} {more : List Char}
    (hmore : mark ∉ more) : mark ∈ (text ++ more).takeWhile p ↔ mark ∈ text.takeWhile p := by
  induction text with
  | nil =>
    refine iff_of_false (fun h => hmore ?_) List.not_mem_nil
    exact (List.takeWhile_sublist _).subset h
  | cons c rest ih =>
    rw [List.cons_append, List.takeWhile_cons, List.takeWhile_cons]
    split
    · rw [List.mem_cons, List.mem_cons, ih]
    · rfl

/-- **Blanks do not matter for the query of a name.** -/
theorem mark_trail_iff (name : List Char) :
    '?' ∈ (trail name).takeWhile (· != '#') ↔ '?' ∈ name.takeWhile (· != '#') := by
  have hname : (name.reverse.dropWhile isBlankAround).reverse ++
      (name.reverse.takeWhile isBlankAround).reverse = name := by
    rw [← List.reverse_append, List.takeWhile_append_dropWhile, List.reverse_reverse]
  have hblank : '?' ∉ (name.reverse.takeWhile isBlankAround).reverse := by
    intro hmem
    exact absurd (List.mem_takeWhile_imp (List.mem_reverse.mp hmem)) (by decide)
  rw [trail, mark_takeWhile_filter_iff (by decide) (fun c hc => ?_),
    ← mark_takeWhile_append_iff hblank, hname]
  obtain rfl : c = '#' := by simpa using hc
  decide

end Query

/-! ## 2. Slashes behind an address -/

/-- Slashes at the end of a path are empty segments. -/
theorem splitOnP_replicate (count : Nat) :
    (List.replicate count '/').splitOnP isWebSlash = List.replicate (count + 1) [] := by
  have hslash : isWebSlash '/' = true := by decide
  induction count with
  | zero => rfl
  | succ count ih =>
    have hsplit := List.splitOnP_append_cons [] (List.replicate count '/') hslash
    rw [List.nil_append, ← List.replicate_succ, ih] at hsplit
    exact hsplit

theorem text_goingOn_replicate (scheme : List Char) (read : Authority) (path : List Char)
    (count : Nat) :
    (goingOn scheme read path (trail (List.replicate count '/'))).path.text =
      (Path.segments (descend [] (openSegments path)).reverse).text ++
        List.replicate (count + 1) '/' := by
  have hblank : isBlankAround '/' = false := by decide
  have hinside : isBlankInside '/' = false := by decide
  have hends : endsPath '/' = false := by decide
  have htrail : trail (List.replicate count '/') = List.replicate count '/' := by
    simp [trail, hblank, hinside]
  have hpart : (List.replicate count '/').takeWhile (fun c => !endsPath c) =
      List.replicate count '/' := by
    simp [hends]
  have hescaped : escape inPath [] = [] := rfl
  have hempty (before : List (List Char)) :
      resolve before (List.replicate (count + 1) []) =
        before.reverse ++ List.replicate (count + 1) [] := by
    refine resolve_eq_append fun segment hsegment => ?_
    rw [List.eq_of_mem_replicate hsegment]
    decide
  have htext : (Path.segments (List.replicate (count + 1) [])).text =
      List.replicate (count + 1) '/' := by
    simp [Path.text, List.flatMap_replicate]
  rw [htrail, goingOn, hpart, splitOnP_replicate, List.map_replicate, hescaped,
    resolve_append _ _ (by simp), hempty, Path.text_append, htext]

/-! ## 3. The path of a name -/

/-- The segments of a name: what stands between its slashes, up to the first mark of a query or a
fragment. -/
def nameSegments (name : List Char) : List (List Char) :=
  (((trail name).takeWhile (fun c => !endsPath c)).splitOnP isWebSlash).map (escape inPath)

/-- The folder that names are put into. -/
def modelsFolder : List Char := "models".toList

theorem nameSegments_ne_nil (name : List Char) : nameSegments name ≠ [] := by
  simp [nameSegments]

theorem trail_models (name : List Char) :
    trail (modelsFolder ++ '/' :: name) = modelsFolder ++ '/' :: trail name := by
  have hreverse : (modelsFolder ++ '/' :: name).reverse =
      name.reverse ++ '/' :: modelsFolder.reverse := by simp
  unfold trail
  rw [hreverse, dropWhile_append_cons _ _ (by decide), List.reverse_append, List.reverse_cons,
    List.reverse_reverse, List.append_assoc, List.filter_append, List.singleton_append,
    List.filter_cons_of_pos (by decide)]
  rfl

section Below

variable (scheme : List Char) (read : Authority) (path name : List Char)

/-- The address of a name in the folder. -/
def below : Url :=
  goingOn scheme read path (trail (modelsFolder ++ '/' :: name))

/-- **There is no query exactly when no `?` stands in the name in front of a `#`.** -/
theorem query_below_iff :
    (below scheme read path name).query = none ↔ '?' ∉ name.takeWhile (· != '#') := by
  have hfolder : ∀ c ∈ modelsFolder ++ ['/'], (c != '#') = true :=
    List.all_eq_true.mp (by decide)
  have hname : modelsFolder ++ '/' :: name = (modelsFolder ++ ['/']) ++ name := by simp
  have hmark : '?' ∉ modelsFolder ++ ['/'] := by decide
  rw [below, goingOn, query_readTail_iff, mark_trail_iff, hname,
    List.takeWhile_append_of_pos hfolder, List.mem_append, or_iff_right hmark]

/-- The folder is a segment of its own, in front of those of the name. -/
theorem path_below : (below scheme read path name).path =
    .segments (resolve [] (openSegments path ++ modelsFolder :: nameSegments name)) := by
  have hends : ∀ c ∈ modelsFolder, (!endsPath c) = true := List.all_eq_true.mp (by decide)
  have hplain : modelsFolder.all (fun c => !isWebSlash c) = true := by decide
  have hslash : isWebSlash '/' = true := by decide
  have hpart : (trail (modelsFolder ++ '/' :: name)).takeWhile (fun c => !endsPath c) =
      modelsFolder ++ '/' :: (trail name).takeWhile (fun c => !endsPath c) := by
    rw [trail_models, List.takeWhile_append_of_pos hends,
      List.takeWhile_cons_of_pos (by decide)]
  have hescaped : escape inPath modelsFolder = modelsFolder := by decide
  simp only [below, goingOn, hpart, nameSegments]
  rw [List.splitOnP_append_cons _ _ hslash,
    List.splitOnP_eq_singleton (by simpa using hplain), List.singleton_append, List.map_cons,
    hescaped]

/-- **A name whose segments stay inside is put into the folder.** -/
theorem below_of_stays (h : Stays [] (nameSegments name)) :
    (below scheme read path name).path.text =
      (goingOn scheme read path (trail [])).path.text ++ modelsFolder ++
        (Path.segments (resolve [] (nameSegments name))).text := by
  have hne := nameSegments_ne_nil name
  have hentered : enter (descend [] (openSegments path)) modelsFolder =
      modelsFolder :: descend [] (openSegments path) := by
    have hdot : isDot modelsFolder = false := by decide
    have hdots : isDoubleDot modelsFolder = false := by decide
    simp [enter, hdot, hdots]
  have hresolved : resolve [] (openSegments path ++ modelsFolder :: nameSegments name) =
      (descend [] (openSegments path)).reverse ++ modelsFolder :: resolve [] (nameSegments name) := by
    rw [resolve_append _ _ (List.cons_ne_nil _ _), resolve_cons _ _ hne, hentered]
    have hstays := resolve_of_stays (modelsFolder :: descend [] (openSegments path)) hne h
    rw [List.nil_append] at hstays
    rw [hstays, List.reverse_cons, List.append_assoc]
    rfl
  have hroot := text_goingOn_replicate scheme read path 0
  rw [List.replicate_zero] at hroot
  rw [path_below, hresolved, hroot, Path.text_append]
  simp [Path.text]

end Below

/-! ## 4. The path of the address itself -/

/-- Whether anything follows does not matter for the authority of a web address. -/
theorem readAuthority_followed {scheme : List Char} (hweb : isWeb scheme = true)
    (text : List Char) (isFollowed : Bool) :
    readAuthority scheme text isFollowed = readAuthority scheme text true := by
  cases isFollowed with
  | true => rfl
  | false =>
    unfold readAuthority
    generalize (splitUserinfo text).getD ([], text) = parts
    obtain ⟨userinfo, behind⟩ := parts
    cases behind with
    | nil =>
      -- there is no host then
      have hhost : readHost scheme [] = none := by simp [readHost, hweb]
      have hempty : splitHost false [] = ([], []) := rfl
      simp only [hempty, hhost]
      cases userinfo.isEmpty <;> cases text.contains '@' <;> rfl
    | cons c rest => simp

/-- Where no blank stands at the end of a text, all of its beginning is read. -/
theorem strip_eq_lead {text : List Char}
    (h : ∀ c ∈ text.getLast?, isBlankAround c = false) : strip text = lead text := by
  cases hcases : text.getLast? with
  | none =>
    obtain rfl := List.getLast?_eq_none_iff.mp hcases
    rfl
  | some c =>
    obtain ⟨init, rfl⟩ := List.getLast?_eq_some_iff.mp hcases
    have hc := h c hcases
    have hinside := not_inside_of_not_around hc
    have hlead : lead (init ++ [c]) = lead init ++ [c] := by
      rw [lead, dropWhile_append_cons _ _ hc, List.filter_append,
        List.filter_cons_of_pos (by simp [hinside])]
      rfl
    rw [strip_append_cons init [] hc, hlead]
    rfl

/-- The path of a web address behind which nothing is put. -/
theorem readWeb_of_opens_nil {scheme text slashes authority path : List Char} {base : Url}
    (hweb : isWeb scheme = true) (h : Opens text slashes authority path)
    (hbase : readWeb scheme text = some base) :
    ∃ read left, readAuthority scheme authority true = some (read, left) ∧
      base.authority = some read ∧ base.path = .segments (readWebSegments path) := by
  have hstart : text.dropWhile isWebSlash = authority ++ path := by
    simpa using h.dropWhile []
  have hpath : path.takeWhile (fun c => !endsPath c) = path :=
    List.takeWhile_eq_self_iff.mpr fun c hc => by simp [h.of_path c hc]
  simp only [readWeb, hstart, h.span_authority h.of_head, Option.bind_eq_bind, Option.bind_eq_some_iff] at hbase
  obtain ⟨⟨read, left⟩, hread, hurl⟩ := hbase
  rw [readAuthority_followed hweb] at hread
  obtain rfl := Option.some.inj hurl
  refine ⟨read, left, hread, rfl, ?_⟩
  rw [List.span_eq_takeWhile_dropWhile, hpath]

/-- The last segment of a path is resolved as any other, but for a slash at the end. -/
theorem text_resolve (segments : List (List Char)) :
    ∃ ends, (Path.segments (resolve [] segments)).text =
      (Path.segments (descend [] segments).reverse).text ++ List.replicate ends '/' := by
  rcases List.eq_nil_or_concat segments with rfl | ⟨init, last, rfl⟩
  · exact ⟨0, rfl⟩
  · rw [List.concat_eq_append]
    have hdescend : descend [] (init ++ [last]) = enter (descend [] init) last := by
      simp [descend]
    rw [resolve_append _ _ (List.cons_ne_nil _ _), resolve_singleton, hdescend]
    split
    · exact ⟨1, by rw [List.reverse_cons, Path.text_append]; rfl⟩
    · exact ⟨0, (List.append_nil _).symm⟩

/-- **The path of an address is what names are put behind**, but for slashes at its end. -/
theorem path_of_web {text before slashes authority path : List Char} {count : Nat} {base : Url}
    (hbase : ofChars? (text ++ List.replicate count '/') = some base)
    (hweb : isWeb base.scheme = true)
    (hlast : ∀ c ∈ (text ++ List.replicate count '/').getLast?, isBlankAround c = false)
    (hscheme : readScheme (lead text) = some (base.scheme, before))
    (hopens : Opens before slashes authority path) :
    ∃ read left ends, readAuthority base.scheme authority true = some (read, left) ∧
      base.authority = some read ∧
      base.path.text =
        (Path.segments (descend [] (openSegments path)).reverse).text ++ List.replicate ends '/' := by
  cases count with
  | zero =>
    rw [List.replicate_zero, List.append_nil] at hbase hlast
    obtain ⟨rest, hrest, hread⟩ := readWeb_of_ofChars? hbase hweb
    rw [strip_eq_lead hlast, hscheme] at hrest
    obtain rfl := (Prod.mk.inj (Option.some.inj hrest)).2
    obtain ⟨read, left, hauthority, hbaseAuthority, hpath⟩ := readWeb_of_opens_nil hweb hopens hread
    rw [hpath]
    cases path with
    | nil => exact ⟨read, left, 1, hauthority, hbaseAuthority, rfl⟩
    | cons first rest =>
      have hfirst : isWebSlash first = true := hopens.of_head first rfl
      have hsegments : readWebSegments (first :: rest) =
          resolve [] (openSegments (first :: rest)) := by
        simp only [readWebSegments, hfirst, if_true, readSegments, openSegments]
      obtain ⟨ends, htext⟩ := text_resolve (openSegments (first :: rest))
      exact ⟨read, left, ends, hauthority, hbaseAuthority, hsegments ▸ htext⟩
  | succ count =>
    rw [List.replicate_succ, ofChars?_of_opens hscheme hopens hweb] at hbase
    obtain ⟨⟨read, left⟩, hauthority, hurl⟩ := Option.map_eq_some_iff.mp hbase
    refine ⟨read, left, count + 1, hauthority, ?_, ?_⟩
    · rw [← hurl]
      rfl
    · rw [← hurl]
      exact text_goingOn_replicate base.scheme read path count

/-! ## 5. Addresses with a name behind them -/

/-- **What is read behind a web address is the address itself, going on with the name.** Both have
the authority and the path of the address, but for slashes at its end, unless it ends in a blank. -/
theorem exists_below {text name : List Char} {count : Nat} {base address : Url}
    (hbase : ofChars? (text ++ List.replicate count '/') = some base)
    (hweb : isWeb base.scheme = true) (hquery : base.query = none) (hfragment : base.fragment = none)
    (haddress : ofChars? (text ++ '/' :: (modelsFolder ++ '/' :: name)) = some address) :
    ∃ read path, ofChars? (text ++ ['/']) = some (goingOn base.scheme read path (trail [])) ∧
      address = below base.scheme read path name ∧
      ((∀ c ∈ (text ++ List.replicate count '/').getLast?, isBlankAround c = false) →
        base.authority = some read ∧ ∃ ends, base.path.text =
          (Path.segments (descend [] (openSegments path)).reverse).text ++
            List.replicate ends '/') := by
  obtain ⟨before, slashes, authority, path, hscheme, hopens⟩ :=
    opens_of_web hbase hweb hquery hfragment
  rw [ofChars?_of_opens hscheme hopens hweb] at haddress
  obtain ⟨⟨read, left⟩, hread, rfl⟩ := Option.map_eq_some_iff.mp haddress
  refine ⟨read, path, ?_, rfl, fun hlast => ?_⟩
  · rw [ofChars?_of_opens hscheme hopens hweb, hread]
    rfl
  · obtain ⟨found, rest, ends, hfound, hauthority, hpath⟩ :=
      path_of_web hbase hweb hlast hscheme hopens
    obtain ⟨rfl, -⟩ := Prod.mk.inj (Option.some.inj (hfound.symm.trans hread))
    exact ⟨hauthority, ends, hpath⟩

end Relay.Url
