import ContainerBuild.Proofs.Url.Authority

/-!
# URLs are read back

A URL that has been read and has a host is read back from its scheme, two slashes and what is
written from its host on. Credentials that it can carry may stand between, and they are all that
changes; only a drive that is loose in the path of a file settles. Without a host, the two slashes
open an empty one in front of a path with segments, and a path without segments is lost.
-/

namespace ContainerBuild.Url

variable {s : List Char} {u v : Url} {host : Host} {l : List (List Char)}

/-! ## Files -/

/-- The host of a file: none, or one that is not the machine itself. -/
structure IsFileHost (host : Host) : Prop where
  readable : host = .name [] ∨ host.IsReadable .file
  ne_localhost : host ≠ .name "localhost".toList

/-- What is written for the host of a file is the written form of a host. -/
theorem IsFileHost.isHostText (h : IsFileHost host) : IsHostText host.render := by
  rcases h.readable with rfl | hhost
  · exact isHostText_of_forall (List.forall_mem_nil _)
  · exact hhost.text

private theorem isDrive_eq_false (h : IsHostText s) : isDrive s = false := by
  rw [Bool.eq_false_iff]
  intro hdrive
  rw [isDrive.eq_def] at hdrive
  split at hdrive
  · next a b =>
    simp only [Bool.and_eq_true, Bool.or_eq_true, decide_eq_true_eq] at hdrive
    obtain ⟨ha, rfl | rfl⟩ := hdrive
    · have hopen : a ≠ '[' := by
        rintro rfl
        cases ha
      have hclose : a ≠ ']' := by
        rintro rfl
        cases ha
      have hcolon : a ≠ ':' := by
        rintro rfl
        cases ha
      have hcut := h.cutHost [] (fun c hc ↦ by cases hc)
      simp [cutHost, hopen, hclose, hcolon] at hcut
    · exact h.not_delimiter '|' (by simp) (by decide)
  · cases hdrive

/-- A file that has been read: it has no credentials and no port, and its path does not open with
empty segments. -/
structure IsFile (u : Url) (host : Host) (l : List (List Char)) : Prop where
  isFileHost : IsFileHost host
  isPath : IsPath .file l
  dropEmpty_eq : dropEmpty l = l
  isEncoded : IsEncoded .file u.query u.fragment
  eq : u = ⟨"file", [], none, some host, none, .segments l, u.query, u.fragment⟩

private theorem isFile_ofFile (hhost : host = .name [] ∨ host.IsReadable .file)
    (path tail : List Char) :
    ∃ other l, (ofFile host (segments .file path) (queryAndFragment .file tail).1
      (queryAndFragment .file tail).2).IsFile other l := by
  refine ⟨_, _, ?_, isPath_dropEmpty (isPath_segments .file path), dropEmpty_dropEmpty _,
    isEncoded_queryAndFragment .file tail, rfl⟩
  split
  · exact ⟨.inl rfl, by decide⟩
  · next hlocal =>
    refine ⟨hhost, ?_⟩
    rintro rfl
    exact hlocal rfl

private theorem exists_of_file (h : file s = .ok u) : ∃ host l, u.IsFile host l := by
  simp only [file, bind, Except.bind, pure, Except.pure] at h
  split at h
  · obtain rfl := Except.ok.inj h
    exact isFile_ofFile (.inl rfl) _ _
  · split at h
    · cases h
    · next hne host hparse =>
      obtain rfl := Except.ok.inj h
      exact isFile_ofFile (.inr (Host.isReadable_of_parse hparse rfl)) _ _

-- a drive is written with a colon, is not left for the directory above, and drops a host
example : ["///C|/a", "///C:/../a", "//host/C:/a"].map (fun s ↦ (file s.toList).toOption) =
    List.replicate 3 (some ⟨"file", [], none, some (.name []), none,
      .segments [['C', ':'], ['a']], none, none⟩) := by
  decide +kernel

private theorem cutFileHost_append (h : IsHostText s) (hne : l ≠ []) :
    cutFileHost ('/' :: '/' :: (s ++ (Path.segments l).render)) =
      (s, (Path.segments l).render) := by
  have hslash : isSlash .file '/' = true := rfl
  obtain ⟨htake, hdrop⟩ := takeWhile_append_eq
    (p := fun c ↦ !isSlash .file c) (a := s) (b := (Path.segments l).render)
    (fun c hc ↦ by
      have hends := @endsAuthority_eq_false .file c (h.not_delimiter c hc)
      rw [endsAuthority, Bool.or_eq_false_iff, Bool.or_eq_false_iff] at hends
      rw [hends.1.1, Bool.not_false])
    (fun c hc ↦ by
      rw [render_segments hne, List.head?_cons] at hc
      obtain rfl := Option.some.inj hc
      rfl)
  simp only [cutFileHost, hslash, Bool.and_self, if_true, htake, hdrop, isDrive_eq_false h,
    Bool.false_eq_true, if_false]

/-- The parts of a file. -/
theorem IsFile.hasParts (h : u.IsFile host l) : u.HasParts .file host l where
  host_eq := by rw [h.eq]
  path_eq := by rw [h.eq]
  isHostText := h.isFileHost.isHostText
  isPort n hn := by
    rw [h.eq] at hn
    cases hn
  isPath := h.isPath
  isEncoded := h.isEncoded
  kept c hc := by
    rw [h.eq] at hc
    cases hc
  empty _ := by
    rw [h.eq]
    exact ⟨rfl, rfl, rfl⟩

private theorem IsFile.file_fromHost (h : u.IsFile host l) :
    file ('/' :: '/' :: u.fromHost) =
      .ok (ofFile host (settleFirst .file l) u.query u.fragment) := by
  have hne : l ≠ [] := by
    intro hnil
    cases h.isPath.isSpecial hnil
  have hbody : ∀ c ∈ '/' :: '/' :: (host.render ++ (Path.segments l).render),
      (!endsPath c) = true := by
    rw [List.forall_mem_cons, List.forall_mem_cons, List.forall_mem_append]
    refine ⟨rfl, rfl, fun c hc ↦ ?_, fun c hc ↦ ?_⟩
    · have hnot := h.isFileHost.isHostText.not_delimiter c hc
      simp only [hostDelimiters, List.mem_cons, List.not_mem_nil, or_false, not_or] at hnot
      simp [endsPath, hnot]
    · rw [endsPath_of_mem_render h.isPath.segment c hc, Bool.not_false]
  obtain ⟨htake, htail⟩ := takeWhile_append_eq hbody
    (b := queryText u.query ++ fragmentText u.fragment)
    fun c hc ↦ by rw [endsPath_head_queryText c hc, Bool.not_true]
  have hport : u.port = none := by rw [h.eq]
  have htext : '/' :: '/' :: u.fromHost =
      ('/' :: '/' :: (host.render ++ (Path.segments l).render)) ++
        (queryText u.query ++ fragmentText u.fragment) := by
    rw [h.hasParts.fromHost_eq, hport]
    simp [portText]
  rw [htext]
  simp only [file, htake, htail, cutFileHost_append h.isFileHost.isHostText hne,
    queryAndFragment_append h.isEncoded, segments_dropSlash_render h.isPath.segment hne]
  rcases h.isFileHost.readable with rfl | hreadable
  · rfl
  · have hrender := hreadable.render_ne_nil rfl
    have hparse := hreadable.read
    rw [Host.read_eq_parse rfl hrender] at hparse
    rw [if_neg (by simpa using hrender), hparse]
    rfl

/-! ## Drives -/

/-- A drive at the front of the path of a file that would be read in another way: it is written with
a bar, or a host stands in front of it. -/
def HasLooseDrive (u : Url) : Prop :=
  u.scheme = "file" ∧ ∃ letter mark rest, u.path = .segments ([letter, mark] :: rest) ∧
    letter.isAlpha = true ∧ (mark = '|' ∨ mark = ':' ∧ u.host ≠ some (.name []))

/-- A text that names a drive is a letter and a colon or a bar. -/
theorem isDrive_eq_true_iff : isDrive s = true ↔
    ∃ letter mark, s = [letter, mark] ∧ letter.isAlpha = true ∧ (mark = ':' ∨ mark = '|') := by
  rw [isDrive.eq_def]
  split
  · next letter mark => simp
  · next hother =>
    refine iff_of_false Bool.false_ne_true ?_
    rintro ⟨letter, mark, rfl, -⟩
    exact hother letter mark rfl

private theorem IsFile.ofFile_eq (h : u.IsFile host l) (hloose : ¬u.HasLooseDrive) :
    ofFile host (settleFirst .file l) u.query u.fragment = u := by
  have hpath : u.path = .segments l := by rw [h.eq]
  have hhost : u.host = some host := by rw [h.eq]
  have hscheme : u.scheme = "file" := by rw [h.eq]
  have hlocal : decide (host = .name "localhost".toList) = false :=
    decide_eq_false h.isFileHost.ne_localhost
  suffices hsettled : settleFirst .file l = l ∧
      (l.head?.any isDrive = true → host = .name []) by
    have hname : (if isLocal host l then .name [] else host) = host := by
      rw [isLocal, hlocal, Bool.false_or]
      split
      · next hdrive => exact (hsettled.2 hdrive).symm
      · rfl
    rw [hsettled.1, ofFile, h.dropEmpty_eq, hname, ← h.eq]
  cases l with
  | nil => exact ⟨rfl, fun hdrive ↦ by cases hdrive⟩
  | cons first rest =>
    have hkept := encode_eq_self (h.isPath.segment first List.mem_cons_self).kept
    cases hdrive : isDrive first with
    | false =>
      refine ⟨?_, fun hany ↦ ?_⟩
      · rw [settleFirst, settle, hdrive, Bool.and_false, if_neg Bool.false_ne_true, hkept]
      · rw [List.head?_cons, Option.any_some, hdrive] at hany
        cases hany
    | true =>
      obtain ⟨letter, mark, rfl, hletter, hmark⟩ := isDrive_eq_true_iff.mp hdrive
      have hnot : ¬(mark = '|' ∨ mark = ':' ∧ u.host ≠ some (.name [])) := fun hmark ↦
        hloose ⟨hscheme, letter, mark, rest, hpath, hletter, hmark⟩
      rw [not_or, not_and, not_not, hhost] at hnot
      obtain rfl := hmark.resolve_right hnot.1
      refine ⟨?_, fun _ ↦ Option.some.inj (hnot.2 rfl)⟩
      rw [settleFirst, settle, hdrive]
      rfl

/-- What a URL with a host is that has been read. -/
inductive IsHosted (u : Url) : Prop where
  | file (host : Host) (l : List (List Char)) (isFile : u.IsFile host l)
  | authority (k : SchemeKind) (host : Host) (l : List (List Char))
      (kind : SchemeKind.ofScheme u.scheme = k) (ne_file : k ≠ .file)
      (isReadable : host.IsReadable k) (hasParts : u.HasParts k host l)

/-- The kind of a scheme is that of files for files only. -/
theorem ofScheme_eq_file_iff {scheme : String} :
    SchemeKind.ofScheme scheme = .file ↔ scheme = "file" := by
  rw [SchemeKind.ofScheme]
  split
  · next h => simp [h]
  · next h => split <;> simp [h]

/-- What a URL without a host is that has been read. Its path has segments, or it is a text that
opens with no slash. -/
structure IsBare (u : Url) : Prop where
  eq : u = ⟨u.scheme, [], none, none, none, u.path, u.query, u.fragment⟩
  path : (∃ l, IsPath .other l ∧ l ≠ [] ∧ u.path = .segments l) ∨
    ∃ t, u.path = .opaqueText t ∧ t.head? ≠ some '/'
  isEncoded : IsEncoded .other u.query u.fragment

private theorem head?_encode_ne (kept : Kept) (h : s.head? ≠ some '/') :
    (encode kept s).head? ≠ some '/' := by
  cases s with
  | nil => simp [encode]
  | cons c rest =>
    rw [encode, List.flatMap_cons, encodeChar]
    split
    · simpa using h
    · obtain ⟨byte, bytes, hcode⟩ :=
        List.exists_cons_of_ne_nil (String.utf8EncodeChar_ne_nil (c := c))
      simp [hcode, encodeByte]

private theorem isBare_of_nonSpecial {scheme : String} (hopen : ∀ rest, s ≠ '/' :: '/' :: rest)
    (h : nonSpecial scheme s = .ok u) : u.scheme = scheme ∧ u.IsBare := by
  rw [nonSpecial.eq_def] at h
  split at h
  · next rest => exact absurd rfl (hopen rest)
  · obtain rfl := Except.ok.inj h
    refine ⟨rfl, rfl, ?_, isEncoded_queryAndFragment .other _⟩
    dsimp only
    split
    · next rest _ =>
      have hpieces := List.splitOnP_ne_nil (isSlash .other) rest
      exact .inl ⟨_, isPath_segments .other rest, normalize_ne_nil hpieces, rfl⟩
    · next hslash =>
      refine .inr ⟨_, rfl, head?_encode_ne keptOpaque fun hhead ↦ ?_⟩
      obtain ⟨rest, hrest⟩ := List.head?_eq_some_iff.mp hhead
      exact hslash rest hrest

/-- What has been read has a scheme, and only a URL of an unknown scheme has no host. -/
theorem isHosted_of_parse {text : String} (h : parse text = .ok u) :
    IsScheme u.scheme ∧
      (u.IsHosted ∨ u.IsBare ∧ SchemeKind.ofScheme u.scheme = .other) := by
  have mk {k : SchemeKind} {scheme : String} {s : List Char} (hscheme : IsScheme scheme)
      (hkind : SchemeKind.ofScheme scheme = k) (hne : k ≠ .file)
      (hu : withAuthority scheme k s = .ok u) : IsScheme u.scheme ∧ u.IsHosted := by
    obtain ⟨rfl, host, l, hhost, hparts⟩ := exists_of_withAuthority hu
    exact ⟨hscheme, .authority k host l hkind hne hhost hparts⟩
  rw [parse] at h
  split at h
  · cases h
  · next scheme rest hread =>
    have hscheme := isScheme_of_scheme? hread
    split at h
    · next hkind =>
      obtain ⟨host, l, hfile⟩ := exists_of_file h
      have hsame : u.scheme = scheme := by rw [ofScheme_eq_file_iff.mp hkind, hfile.eq]
      exact ⟨hsame ▸ hscheme, .inl (.file host l hfile)⟩
    · next hkind => exact (mk hscheme hkind (by decide) h).imp_right .inl
    · next hkind =>
      by_cases hopen : ∃ behind, rest = '/' :: '/' :: behind
      · obtain ⟨behind, rfl⟩ := hopen
        exact (mk hscheme hkind (by decide) h).imp_right .inl
      · obtain ⟨rfl, hbare⟩ := isBare_of_nonSpecial (fun behind hs ↦ hopen ⟨behind, hs⟩) h
        exact ⟨hscheme, .inr ⟨hbare, hkind⟩⟩

/-! ## Whole URLs -/

/-- A URL with a host has parts. -/
theorem IsHosted.exists_hasParts (h : u.IsHosted) : ∃ k host l, u.HasParts k host l := by
  cases h with
  | file host l hfile => exact ⟨.file, host, l, hfile.hasParts⟩
  | authority k host l _ _ _ hparts => exact ⟨k, host, l, hparts⟩

/-- A URL from its scheme, credentials and what is written from its host on. -/
def written (u : Url) (text : Option (List Char)) : String :=
  String.ofList (u.scheme.toList ++ ':' :: '/' :: '/' :: (credentialText text ++ u.fromHost))

private theorem isVisible_credentialText {text : Option (List Char)} (h : IsCredentials text) :
    IsVisible (credentialText text) := by
  cases text with
  | none => exact List.forall_mem_nil _
  | some t =>
    refine List.forall_mem_append.mpr ⟨?_, List.forall_mem_singleton.mpr (by decide)⟩
    refine isVisible_of_isPrintable (fun c hc ↦ ?_) fun hc ↦ ?_
    · rcases h t rfl c hc with hkept | rfl
      · exact keptOpaque_of_keptUserinfo hkept
      · rfl
    · rcases h t rfl ' ' hc with hkept | hcolon
      · cases hkept
      · cases hcolon

/-- What is written from the host on is visible. -/
theorem HasParts.isVisible_fromHost {k : SchemeKind} (h : u.HasParts k host l)
    (hprintable : u.Printable) : IsVisible u.fromHost := by
  rw [h.fromHost_eq]
  have hfront := hprintable.hostAndPort
  rw [h.hostAndPort_eq] at hfront
  exact List.forall_mem_append.mpr
    ⟨isVisible_of_isPrintable hfront fun hc ↦ h.not_mem_hostDelimiters ' ' hc (by decide),
      List.forall_mem_append.mpr ⟨isVisible_render h.isPath.segment, h.isEncoded.isVisible⟩⟩

/-- Behind a scheme and two slashes, a visible text is read as that of an authority or a file. -/
theorem parse_slashes {scheme : String} (hscheme : IsScheme scheme) {t : List Char}
    (ht : IsVisible t) :
    parse (String.ofList (scheme.toList ++ ':' :: '/' :: '/' :: t)) =
      match SchemeKind.ofScheme scheme with
      | .file => file ('/' :: '/' :: t)
      | .special => withAuthority scheme .special (('/' :: '/' :: t).dropWhile (isSlash .special))
      | .other => withAuthority scheme .other t := by
  have hclean : clean (scheme.toList ++ ':' :: '/' :: '/' :: t) =
      scheme.toList ++ ':' :: '/' :: '/' :: t := by
    refine clean_eq_self ?_ (by simp)
    simp only [IsVisible, List.forall_mem_append, List.forall_mem_cons]
    exact ⟨fun c hc ↦ (toNat_of_isSchemeChar (hscheme.isSchemeChar c hc)).1, by decide,
      by decide, by decide, ht⟩
  rw [parse, String.toList_ofList, hclean, scheme?_append hscheme]
  rfl

/-- A file that has been read is read back with a drive that has settled. -/
theorem IsFile.parse_written {text : String} (hfile : u.IsFile host l) (h : parse text = .ok u) :
    parse (u.written none) = .ok (ofFile host (settleFirst .file l) u.query u.fragment) := by
  have hscheme : u.scheme = "file" := by rw [hfile.eq]
  have hvisible := hfile.hasParts.isVisible_fromHost (printable_parse h)
  rw [written, credentialText, List.nil_append, parse_slashes (isHosted_of_parse h).1 hvisible,
    ofScheme_eq_file_iff.mpr hscheme]
  exact hfile.file_fromHost

/-- A URL that has been read and has a host is read back, with other credentials in front of it. -/
theorem parse_written {text : String} (h : parse text = .ok u) (hhost : u.host ≠ none)
    (hloose : ¬u.HasLooseDrive) {credentials : Option (List Char)}
    (hcredentials : IsCredentials credentials)
    (hcan : credentials ≠ none → u.canCarryCredentials = true) :
    parse (u.written credentials) =
      .ok { u with
        username := (credentialParts credentials).1
        password := (credentialParts credentials).2 } := by
  obtain ⟨hscheme, hhosted | ⟨hbare, -⟩⟩ := isHosted_of_parse h
  · cases hhosted with
    | file host l hfile =>
      obtain rfl : credentials = none := by
        by_contra hne
        have hscheme : u.scheme = "file" := by rw [hfile.eq]
        simpa [canCarryCredentials, hscheme] using hcan hne
      have hnone : u.username = [] ∧ u.password = none := by
        rw [hfile.eq]
        exact ⟨rfl, rfl⟩
      rw [hfile.parse_written h, hfile.ofFile_eq hloose, credentialParts, ← hnone.1, ← hnone.2]
    | authority k host l hkind hne hreadable hparts =>
      have hempty : host.isEmpty = true → credentials = none := by
        intro hempty
        by_contra hsome
        have := hcan hsome
        simp [canCarryCredentials, hparts.host_eq, hempty] at this
      have hread := hparts.withAuthority_append hne hreadable hcredentials hempty
      have hvisible : IsVisible (credentialText credentials ++ u.fromHost) :=
        List.forall_mem_append.mpr ⟨isVisible_credentialText hcredentials,
          hparts.isVisible_fromHost (printable_parse h)⟩
      rw [written, parse_slashes hscheme hvisible, hkind]
      cases k with
      | file => exact absurd rfl hne
      | special =>
        dsimp only
        rw [hparts.dropWhile_slashes hreadable hcredentials, hread]
      | other => exact hread
  · exact absurd (by rw [hbare.eq]) hhost

private theorem pathBehindHost_pathText (hhost : u.host = none) (hpath : u.path = .segments l)
    (hl : IsPath .other l) : pathBehindHost .other u.pathText = .segments l := by
  rw [pathText, hhost, hpath]
  split
  · next rest _ hrender =>
    have hne : l ≠ [] := by
      rintro rfl
      cases hrender
    have hslash : isSlash .other '/' = true := rfl
    have htext : '/' :: rest = ['/'].intercalate l := by
      rw [render_segments hne] at hrender
      exact (List.cons.inj hrender).2.symm
    have hdot : ('.' :: '/' :: '/' :: rest).splitOnP (isSlash .other) =
        ['.'] :: ('/' :: rest).splitOnP (isSlash .other) :=
      List.splitOnP_append_cons_of_forall_mem (List.forall_mem_singleton.mpr (by decide))
        '/' hslash ('/' :: rest)
    have hsegments := segments_intercalate hl.segment hne
    rw [settleFirst_of_ne_file (by decide) hl.segment, ← htext, segments] at hsegments
    rw [pathBehindHost, if_neg (by simp), dropSlash, if_pos hslash, segments, hdot, normalize,
      if_neg (by decide), if_pos (by decide),
      if_neg (by simp [List.splitOnP_ne_nil]), List.nil_append, hsegments]
  · exact pathBehindHost_render (by decide) hl

/-- A URL that has been read and has no host is read back with an empty one, unless its path is a
text. -/
theorem IsBare.parse_written (hbare : u.IsBare) (hscheme : IsScheme u.scheme)
    (hother : SchemeKind.ofScheme u.scheme = .other)
    (hblank : ∀ t, u.path = .opaqueText t → t = []) :
    ∃ l, (Path.segments l).render = u.path.render ∧
      parse (u.written none) =
        .ok ⟨u.scheme, [], none, some (.name []), none, .segments l, u.query, u.fragment⟩ := by
  have hhost : u.host = none := by rw [hbare.eq]
  have hport : u.port = none := by rw [hbare.eq]
  have hfrom : u.fromHost = u.pathText ++ (queryText u.query ++ fragmentText u.fragment) := by
    rw [fromHost, hostAndPort, hhost, hport, List.append_assoc]
    rfl
  suffices hread : ∃ l, (Path.segments l).render = u.path.render ∧
      pathBehindHost .other u.pathText = .segments l ∧ (∀ c ∈ u.pathText.head?, c = '/') ∧
      IsVisible u.pathText ∧ ∀ c ∈ u.pathText, endsPath c = false by
    obtain ⟨l, hrender, hbehind, hopen, hvisible, hends⟩ := hread
    have htext : IsVisible u.fromHost :=
      hfrom ▸ List.forall_mem_append.mpr ⟨hvisible, hbare.isEncoded.isVisible⟩
    refine ⟨l, hrender, ?_⟩
    rw [written, credentialText, List.nil_append, parse_slashes hscheme htext, hother, hfrom,
      ← hbehind]
    exact withAuthority_of_path hopen hends hbare.isEncoded
  rcases hbare.path with ⟨l, hl, hne, hpath⟩ | ⟨t, hpath, -⟩
  · have hdot : u.pathText = '/' :: '.' :: (Path.segments l).render ∨
        u.pathText = (Path.segments l).render := by
      rw [pathText, hhost, hpath]
      split
      · next hrender => exact .inl (by rw [hrender])
      · exact .inr rfl
    have hslash := render_segments hne
    have hvisible := isVisible_render hl.segment
    have hends := endsPath_of_mem_render hl.segment
    refine ⟨l, by rw [hpath], pathBehindHost_pathText hhost hpath hl, ?_⟩
    rcases hdot with hdot | hdot
    · rw [hdot]
      refine ⟨by simp, ?_, ?_⟩
      · exact List.forall_mem_cons.mpr ⟨by decide, List.forall_mem_cons.mpr ⟨by decide, hvisible⟩⟩
      · exact List.forall_mem_cons.mpr ⟨rfl, List.forall_mem_cons.mpr ⟨rfl, hends⟩⟩
    · rw [hdot]
      exact ⟨by simp [hslash], hvisible, hends⟩
  · obtain rfl := hblank t hpath
    have htext : u.pathText = [] := by
      rw [pathText, hhost, hpath]
      rfl
    rw [htext, hpath]
    exact ⟨[], rfl, rfl, by simp, List.forall_mem_nil _, List.forall_mem_nil _⟩

end ContainerBuild.Url
