import ContainerBuild.Proofs.Text.Decimal
import ContainerBuild.Proofs.Text.Words
import ContainerBuild.Proofs.Url.Domain
import ContainerBuild.Proofs.Url.Encoding
import ContainerBuild.Url.Basic

/-!
# The characters of URLs

Whatever a URL is read from, it is written in printable ASCII characters: each part has its own
percent encoding, and none of them lets another character through.
-/

namespace ContainerBuild.Url

/-- All characters of a text are printable. -/
def IsPrintable (s : List Char) : Prop := ∀ c ∈ s, keptOpaque c = true

instance (s : List Char) : Decidable (IsPrintable s) :=
  decidable_of_iff (s.all keptOpaque = true) List.all_eq_true

variable {s t : List Char}

/-- Nothing is printable. -/
theorem IsPrintable.nil : IsPrintable [] := fun _ h ↦ by cases h

/-- A printable character is put in front of printable ones. -/
theorem IsPrintable.cons {c : Char} (hc : keptOpaque c = true) (h : IsPrintable s) :
    IsPrintable (c :: s) :=
  List.forall_mem_cons.mpr ⟨hc, h⟩

/-- Printable texts are put together. -/
theorem IsPrintable.append (hs : IsPrintable s) (ht : IsPrintable t) : IsPrintable (s ++ t) :=
  List.forall_mem_append.mpr ⟨hs, ht⟩

private theorem IsPrintable.flatMap {α : Type} {xs : List α} {f : α → List Char}
    (h : ∀ x ∈ xs, IsPrintable (f x)) : IsPrintable (xs.flatMap f) := by
  intro c hc
  obtain ⟨x, hx, hc⟩ := List.mem_flatMap.mp hc
  exact h x hx c hc

/-! ## Numbers -/

/-- The digits of a number in a base up to sixteen are printable. -/
theorem isPrintable_toDigits {base : Nat} (hlow : 2 ≤ base) (hhigh : base ≤ 16) (n : Nat) :
    IsPrintable (Nat.toDigits base n) := by
  have hdigit : ∀ d < 16, keptOpaque (Nat.digitChar d) = true := by decide
  exact Text.forall_mem_toDigits hlow (fun d hd ↦ hdigit d (by omega)) n

/-- Texts with printable ones between them are printable. -/
theorem isPrintable_intercalate {sep : String} {texts : List String}
    (hsep : IsPrintable sep.toList) (h : ∀ text ∈ texts, IsPrintable text.toList) :
    IsPrintable (sep.intercalate texts).toList := by
  intro c hc
  rw [String.toList_intercalate] at hc
  rcases Text.mem_intercalate hc with hc | ⟨piece, hpiece, hc⟩
  · exact hsep c hc
  · obtain ⟨text, htext, rfl⟩ := List.mem_map.mp hpiece
    exact h text htext c hc

/-- A number in decimal is printable. -/
theorem isPrintable_decimal (n : Nat) : IsPrintable (Text.decimal n).toList := by
  rw [Text.decimal, String.toList_ofList]
  exact isPrintable_toDigits (by omega) (by omega) n

private theorem isPrintable_ipv4 (a : Ipv4) : IsPrintable a.render.toList := by
  refine isPrintable_intercalate (by decide) fun text htext ↦ ?_
  obtain ⟨place, -, rfl⟩ := List.mem_map.mp htext
  exact isPrintable_decimal _

private theorem isPrintable_ipv6 (a : Ipv6) : IsPrintable a.render.toList := by
  have hpieces (pieces : List Nat) : IsPrintable (renderPieces pieces).toList := by
    refine isPrintable_intercalate (by decide) fun text htext ↦ ?_
    obtain ⟨n, -, rfl⟩ := List.mem_map.mp htext
    rw [String.toList_ofList]
    exact isPrintable_toDigits (by omega) (by omega) n
  rw [Ipv6.render]
  split
  · exact hpieces _
  · rw [String.toList_append, String.toList_append]
    exact ((hpieces _).append (by decide)).append (hpieces _)

/-! ## Encodings -/

/-- What is encoded is printable, when all that stays is. -/
theorem isPrintable_encode {kept : Kept} (h : ∀ c, kept c = true → keptOpaque c = true)
    (s : List Char) : IsPrintable (encode kept s) := by
  have hescape : IsPrintable escapeChars := by decide
  intro c hc
  rcases mem_encode hc with ⟨-, hkept⟩ | hmem
  · exact h c hkept
  · exact hescape c hmem

/-- What stays in a query is printable. -/
theorem keptOpaque_of_keptQuery {c : Char} (h : keptQuery c = true) : keptOpaque c = true := by
  rw [keptQuery, Bool.and_eq_true] at h
  exact h.1

/-- What stays in the query of a special scheme is printable. -/
theorem keptOpaque_of_keptSpecialQuery {c : Char} (h : keptSpecialQuery c = true) :
    keptOpaque c = true := by
  rw [keptSpecialQuery, Bool.and_eq_true] at h
  exact keptOpaque_of_keptQuery h.1

/-- What stays in a fragment is printable. -/
theorem keptOpaque_of_keptFragment {c : Char} (h : keptFragment c = true) :
    keptOpaque c = true := by
  rw [keptFragment, Bool.and_eq_true] at h
  exact h.1

/-- What stays in a path is printable. -/
theorem keptOpaque_of_keptPath {c : Char} (h : keptPath c = true) : keptOpaque c = true := by
  rw [keptPath, Bool.and_eq_true] at h
  exact keptOpaque_of_keptFragment h.1

/-- What stays in a user name is printable. -/
theorem keptOpaque_of_keptUserinfo {c : Char} (h : keptUserinfo c = true) :
    keptOpaque c = true := by
  rw [keptUserinfo, Bool.and_eq_true] at h
  exact keptOpaque_of_keptPath h.1

/-- A letter or a digit is visible. -/
theorem toNat_of_isAlphanum {c : Char} (h : c.isAlphanum = true) :
    0x20 < c.toNat ∧ c.toNat < 0x7F := by
  rcases Text.isAlphanum_iff.mp h with hletter | hdigit
  · simp only [Char.le_def, UInt32.le_iff_toNat_le] at hletter
    change (65 ≤ c.toNat ∧ c.toNat ≤ 90) ∨ 97 ≤ c.toNat ∧ c.toNat ≤ 122 at hletter
    omega
  · have := Text.toNat_of_isDigit hdigit
    omega

/-- A letter or a digit is printable. -/
theorem keptOpaque_of_isAlphanum {c : Char} (h : c.isAlphanum = true) : keptOpaque c = true := by
  have := toNat_of_isAlphanum h
  simp only [keptOpaque, Bool.and_eq_true, decide_eq_true_eq]
  omega

/-! ## Parts -/

private theorem isPrintable_domainToAscii? {d : List Char} (h : domainToAscii? s = some d) :
    IsPrintable d := by
  intro c hc
  have := isDomainChar_of_domainToAscii? h c hc
  simp only [isDomainChar, Bool.and_eq_true, decide_eq_true_eq] at this
  simp only [keptOpaque, Bool.and_eq_true, decide_eq_true_eq]
  omega

/-- A host between brackets is printable. -/
theorem isPrintable_bracketed {h : Host} (hh : bracketed s = .ok h) : IsPrintable h.render := by
  rw [bracketed] at hh
  split at hh
  · split at hh
    · cases hh
      exact .cons (by decide) ((isPrintable_ipv6 _).append (.cons (by decide) .nil))
    · cases hh
  · cases hh

/-- The host of a special scheme is printable. -/
theorem isPrintable_host {h : Host} (hh : Host.parse s = .ok h) : IsPrintable h.render := by
  rw [Host.parse.eq_def] at hh
  split at hh
  · exact isPrintable_bracketed hh
  · split at hh
    · cases hh
    · next domain hdomain =>
      split at hh
      · cases hh
      · split at hh
        · split at hh
          · cases hh
            exact isPrintable_ipv4 _
          · cases hh
        · cases hh
          obtain ⟨text, -, htext⟩ := Option.bind_eq_some_iff.mp hdomain
          exact isPrintable_domainToAscii? htext

private theorem isPrintable_opaqueHost {h : Host} (hh : Host.parseOpaque s = .ok h) :
    IsPrintable h.render := by
  rw [Host.parseOpaque.eq_def] at hh
  split at hh
  · exact isPrintable_bracketed hh
  · split at hh
    · cases hh
    · cases hh
      exact isPrintable_encode (fun _ hc ↦ hc) _

/-- The segments of the directory above are among those that it is above of. -/
theorem mem_of_mem_above {done : List (List Char)} (h : s ∈ above done) : s ∈ done := by
  rw [above] at h
  split at h
  · exact h
  · exact List.mem_of_mem_drop h

/-- A segment is encoded, unless it is the drive of a file. -/
theorem settle_cases (k : SchemeKind) (done : List (List Char)) (piece : List Char) :
    settle k done piece = encode keptPath piece ∨
      ∃ letter mark, piece = [letter, mark] ∧ letter.isAlpha = true ∧
        settle k done piece = [letter, ':'] := by
  rw [settle]
  split
  · next h =>
    rw [Bool.and_eq_true, isDrive.eq_def] at h
    split at h
    · next letter mark =>
      exact .inr ⟨letter, mark, rfl, (Bool.and_eq_true _ _ ▸ h.2).1, rfl⟩
    · cases h.2
  · exact .inl rfl

private theorem isPrintable_settle (k : SchemeKind) (done : List (List Char)) (piece : List Char) :
    IsPrintable (settle k done piece) := by
  rcases settle_cases k done piece with h | ⟨letter, mark, -, hletter, h⟩
  · rw [h]
    exact isPrintable_encode (fun _ hc ↦ keptOpaque_of_keptPath hc) piece
  · rw [h]
    refine .cons ?_ (.cons rfl .nil)
    exact keptOpaque_of_isAlphanum (by simp [Char.isAlphanum, hletter])

/-- The segments of a path are printable when those before it are. -/
theorem isPrintable_normalize {k : SchemeKind} {pieces done : List (List Char)}
    (h : ∀ segment ∈ done, IsPrintable segment) :
    ∀ segment ∈ normalize k done pieces, IsPrintable segment := by
  induction pieces generalizing done with
  | nil => simpa [normalize] using h
  | cons piece rest ih =>
    have hlast : ∀ segment ∈ (if rest.isEmpty then [[]] else []), IsPrintable segment := by
      split
      · exact List.forall_mem_singleton.mpr .nil
      · exact fun segment hs ↦ by cases hs
    rw [normalize]
    split
    · refine ih (List.forall_mem_append.mpr ⟨hlast, fun segment hs ↦ ?_⟩)
      exact h segment (mem_of_mem_above hs)
    · split
      · exact ih (List.forall_mem_append.mpr ⟨hlast, h⟩)
      · exact ih (List.forall_mem_cons.mpr ⟨isPrintable_settle k done piece, h⟩)

/-- Segments that are printable make a printable path. -/
theorem isPrintable_segments {l : List (List Char)} (h : ∀ segment ∈ l, IsPrintable segment) :
    IsPrintable (Path.segments l).render :=
  .flatMap fun segment hs ↦ .cons (by decide) (h segment hs)

private theorem isPrintable_pathBehindHost (k : SchemeKind) (s : List Char) :
    IsPrintable (pathBehindHost k s).render := by
  rw [pathBehindHost]
  split
  · exact .nil
  · exact isPrintable_segments (isPrintable_normalize fun segment hs ↦ by cases hs)

private theorem isPrintable_dropEmpty {l : List (List Char)}
    (h : ∀ segment ∈ l, IsPrintable segment) :
    ∀ segment ∈ dropEmpty l, IsPrintable segment := by
  fun_induction dropEmpty l with
  | case1 s rest ih => exact ih fun segment hs ↦ h segment (List.mem_cons_of_mem _ hs)
  | case2 l => exact h

/-- A query and a fragment are printable. -/
theorem isPrintable_queryAndFragment (k : SchemeKind) (s : List Char) :
    (∀ query ∈ (queryAndFragment k s).1, IsPrintable query) ∧
      ∀ fragment ∈ (queryAndFragment k s).2, IsPrintable fragment := by
  have hquery (text : List Char) :
      IsPrintable (encode (if k.isSpecial then keptSpecialQuery else keptQuery) text) := by
    refine isPrintable_encode (fun c hc ↦ ?_) text
    split at hc
    · exact keptOpaque_of_keptSpecialQuery hc
    · exact keptOpaque_of_keptQuery hc
  have hfragment (text : List Char) : IsPrintable (encode keptFragment text) :=
    isPrintable_encode (fun _ hc ↦ keptOpaque_of_keptFragment hc) text
  simp only [queryAndFragment]
  constructor
  · intro query h
    split at h
    · next text _ =>
      cases h
      exact hquery text
    · cases h
  · intro fragment h
    cases hcut : Text.cutAt '#' s with
    | none =>
      simp only [hcut] at h
      split at h <;> cases h
    | some cut =>
      simp only [hcut] at h
      split at h <;>
      · cases h
        exact hfragment cut.2

private theorem keptOpaque_toLower {c : Char} (h : keptOpaque c = true) :
    keptOpaque c.toLower = true := by
  have hall := Text.forall_ascii (p := fun c ↦ keptOpaque c = true → keptOpaque c.toLower = true)
    (by decide +kernel)
  have hlt : c.toNat < 0x7F := by
    simp only [keptOpaque, Bool.and_eq_true, decide_eq_true_eq] at h
    exact h.2
  exact hall c (hlt.trans (by decide)) h

private theorem isPrintable_scheme {scheme : String} {rest : List Char}
    (h : scheme? s = some (scheme, rest)) : IsPrintable scheme.toList := by
  have hrest (acc s : List Char) (hacc : IsPrintable acc)
      (h : schemeRest? acc s = some (scheme, rest)) : IsPrintable scheme.toList := by
    induction s generalizing acc with
    | nil => cases h
    | cons c s ih =>
      rw [schemeRest?] at h
      split at h
      · cases h
        rw [String.toList_ofList]
        exact fun x hx ↦ hacc x (List.mem_reverse.mp hx)
      · split at h
        · next hc =>
          refine ih _ (.cons (keptOpaque_toLower ?_) hacc) h
          simp only [Bool.or_eq_true, decide_eq_true_eq] at hc
          rcases hc with ((hc | rfl) | rfl) | rfl
          · exact keptOpaque_of_isAlphanum hc
          all_goals rfl
        · cases h
  cases s with
  | nil => cases h
  | cons c s =>
    rw [scheme?] at h
    split at h
    · exact hrest [] (c :: s) .nil h
    · cases h

private theorem isPrintable_userinfo (s : List Char) :
    IsPrintable (userinfo s).1 ∧ ∀ password ∈ (userinfo s).2, IsPrintable password := by
  have hencode (text : List Char) : IsPrintable (encode keptUserinfo text) :=
    isPrintable_encode (fun _ hc ↦ keptOpaque_of_keptUserinfo hc) text
  rw [userinfo]
  split
  · exact ⟨hencode _, fun password h ↦ by cases h⟩
  · refine ⟨hencode _, fun password h ↦ ?_⟩
    split at h
    · cases h
    · cases h
      exact hencode _

/-! ## The whole URL -/

/-- All parts of a URL are printable. -/
structure Printable (u : Url) : Prop where
  scheme : IsPrintable u.scheme.toList
  username : IsPrintable u.username
  password : ∀ password ∈ u.password, IsPrintable password
  host : ∀ host ∈ u.host, IsPrintable host.render
  path : IsPrintable u.path.render
  query : ∀ query ∈ u.query, IsPrintable query
  fragment : ∀ fragment ∈ u.fragment, IsPrintable fragment

variable {u v : Url} {scheme : String} {k : SchemeKind}

/-- A URL behind the slashes that open its authority is printable. -/
theorem printable_withAuthority (hscheme : IsPrintable scheme.toList)
    (h : withAuthority scheme k s = .ok u) : u.Printable := by
  have mk {name : List Char} {password : Option (List Char)} {host : Host} {port : Option Nat}
      {path tail : List Char} (hname : IsPrintable name)
      (hpassword : ∀ text ∈ password, IsPrintable text) (hhost : IsPrintable host.render) :
      Printable ⟨scheme, name, password, some host, port, pathBehindHost k path,
        (queryAndFragment k tail).1, (queryAndFragment k tail).2⟩ :=
    ⟨hscheme, hname, hpassword, fun _ h ↦ Option.some.inj h ▸ hhost,
      isPrintable_pathBehindHost k path, (isPrintable_queryAndFragment k tail).1,
      (isPrintable_queryAndFragment k tail).2⟩
  have hnone : ∀ text ∈ (none : Option (List Char)), IsPrintable text := fun _ h ↦ by cases h
  simp only [withAuthority, bind, Except.bind, pure, Except.pure, throw, throwThe,
    MonadExceptOf.throw] at h
  -- the checks on the way decide whether there is a URL, but not what its parts are
  cases hcut : cutLastAt (s.takeWhile fun c ↦ !endsAuthority k c) with
  | none =>
    simp only [hcut] at h
    repeat' split at h
    all_goals cases h
    all_goals first
      | exact mk .nil hnone (isPrintable_host ‹Host.parse _ = .ok _›)
      | exact mk .nil hnone (isPrintable_opaqueHost ‹Host.parseOpaque _ = .ok _›)
  | some cut =>
    have huser := isPrintable_userinfo cut.1
    simp only [hcut] at h
    repeat' split at h
    all_goals cases h
    all_goals first
      | exact mk huser.1 huser.2 (isPrintable_host ‹Host.parse _ = .ok _›)
      | exact mk huser.1 huser.2 (isPrintable_opaqueHost ‹Host.parseOpaque _ = .ok _›)

private theorem printable_file (h : file s = .ok u) : u.Printable := by
  have hscheme : IsPrintable "file".toList := by decide
  have mk {host : Host} {path tail : List Char} (hhost : IsPrintable host.render) :
      (ofFile host (segments .file path) (queryAndFragment .file tail).1
        (queryAndFragment .file tail).2).Printable := by
    refine ⟨hscheme, .nil, (fun _ h ↦ by cases h), ?_,
      isPrintable_segments (isPrintable_dropEmpty (isPrintable_normalize fun _ h ↦ by cases h)),
      (isPrintable_queryAndFragment _ tail).1, (isPrintable_queryAndFragment _ tail).2⟩
    intro host hhost
    cases hhost
    split
    · exact .nil
    · assumption
  simp only [file, bind, Except.bind, pure, Except.pure] at h
  split at h
  · cases h
    exact mk .nil
  · split at h
    · cases h
    · cases h
      exact mk (isPrintable_host ‹Host.parse _ = .ok _›)

private theorem printable_nonSpecial (hscheme : IsPrintable scheme.toList)
    (h : nonSpecial scheme s = .ok u) : u.Printable := by
  rw [nonSpecial.eq_def] at h
  split at h
  · exact printable_withAuthority hscheme h
  · cases h
    refine ⟨hscheme, .nil, (fun _ h ↦ by cases h), (fun _ h ↦ by cases h), ?_,
      (isPrintable_queryAndFragment _ _).1, (isPrintable_queryAndFragment _ _).2⟩
    split
    · exact isPrintable_segments (isPrintable_normalize fun _ h ↦ by cases h)
    · exact isPrintable_encode (fun _ hc ↦ hc) _

/-- Every URL that is read is printable. -/
theorem printable_parse {text : String} (h : parse text = .ok u) : u.Printable := by
  rw [parse] at h
  split at h
  · cases h
  · next scheme rest hscheme =>
    split at h
    · exact printable_file h
    · exact printable_withAuthority (isPrintable_scheme hscheme) h
    · exact printable_nonSpecial (isPrintable_scheme hscheme) h

/-- With another user name, a URL stays printable. -/
theorem Printable.withUsername? (h : u.Printable) {name : String}
    (hv : u.withUsername? name = some v) : v.Printable := by
  rw [Url.withUsername?] at hv
  split at hv
  · cases hv
  · split at hv
    · cases hv
      exact h
    · cases hv
      exact { h with username := isPrintable_encode (fun _ hc ↦ keptOpaque_of_keptUserinfo hc) _ }

/-- With another password, a URL stays printable. -/
theorem Printable.withPassword? (h : u.Printable) {password : String}
    (hv : u.withPassword? password = some v) : v.Printable := by
  rw [Url.withPassword?] at hv
  split at hv
  · cases hv
  · split at hv
    · cases hv
      exact { h with password := fun _ h ↦ by cases h }
    · cases hv
      refine { h with password := fun text htext ↦ ?_ }
      cases htext
      exact isPrintable_encode (fun _ hc ↦ keptOpaque_of_keptUserinfo hc) _

/-- The host and the port of a printable URL are printable. -/
theorem Printable.hostAndPort (h : u.Printable) : IsPrintable u.hostAndPort := by
  rw [Url.hostAndPort]
  refine .append ?_ ?_
  · cases hhost : u.host with
    | none => exact .nil
    | some host => exact h.host host hhost
  · split
    · exact .nil
    · exact .cons (by decide) (isPrintable_decimal _)

/-- What stands behind the host of a printable URL is printable. -/
theorem Printable.fromHost (h : u.Printable) : IsPrintable u.fromHost := by
  have hpath : IsPrintable u.pathText := by
    have := h.path
    rw [pathText]
    split
    · next hp =>
      rw [hp] at this
      exact .cons (by decide) (.cons (by decide) this)
    · exact this
  rw [Url.fromHost]
  refine .append (.append (.append h.hostAndPort hpath) ?_) ?_
  · cases hq : u.query with
    | none => exact .nil
    | some query => exact .cons (by decide) (h.query query hq)
  · cases hf : u.fragment with
    | none => exact .nil
    | some fragment => exact .cons (by decide) (h.fragment fragment hf)

end ContainerBuild.Url
