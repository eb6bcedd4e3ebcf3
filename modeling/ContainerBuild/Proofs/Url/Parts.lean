import ContainerBuild.Proofs.Text.Numeral
import ContainerBuild.Proofs.Url.Host
import ContainerBuild.Proofs.Url.Path

/-!
# Written parts of URLs are read back

The scheme, the port, the query and the fragment of a URL that has been read are read back from
their written forms, and in a visible text nothing is dropped before it is read.
-/

namespace ContainerBuild.Url

variable {k : SchemeKind} {s rest : List Char} {scheme : String}

/-! ## Visible texts -/

/-- The characters of a text are neither controls nor spaces. -/
def IsVisible (s : List Char) : Prop := ∀ c ∈ s, 0x20 < c.toNat

/-- Whether a character is dropped at the ends of a text. -/
def isEdge (c : Char) : Bool := c.toNat ≤ 0x20

/-- Whether a character is dropped everywhere. -/
def isDropped (c : Char) : Bool := c = '\t' || c = '\n' || c = '\r'

/-- Of a visible text and what follows it, only characters behind it are dropped. -/
theorem clean_append (h : IsVisible s) (hne : s ≠ []) (t : List Char) :
    clean (s ++ t) = s ++ (Text.dropEndWhile isEdge t).filter (!isDropped ·) := by
  have hedge : ∀ c ∈ s, isEdge c = false := fun c hc ↦ by
    have := h c hc
    simpa [isEdge] using this
  have hfront (r : List Char) : (s ++ r).dropWhile isEdge = s ++ r := by
    obtain ⟨c, tail, rfl⟩ := List.exists_cons_of_ne_nil hne
    exact List.dropWhile_cons_of_neg (by simp [hedge c List.mem_cons_self])
  have hback : s.reverse.dropWhile isEdge = s.reverse := by
    rw [List.dropWhile_eq_self_iff]
    intro hpos
    rw [hedge _ (List.mem_reverse.mp (List.getElem_mem hpos))]
    exact Bool.false_ne_true
  have hend : Text.dropEndWhile isEdge (s ++ t) = s ++ Text.dropEndWhile isEdge t := by
    rw [Text.dropEndWhile, Text.dropEndWhile, List.reverse_append, List.dropWhile_append, hback]
    split
    · next hnil => simp [List.isEmpty_iff.mp hnil]
    · simp
  have hkept : s.filter (!isDropped ·) = s := by
    rw [List.filter_eq_self]
    intro c hc
    have := hedge c hc
    simp only [isDropped, Bool.not_eq_true', Bool.or_eq_false_iff, decide_eq_false_iff_not]
    refine ⟨⟨?_, ?_⟩, ?_⟩ <;>
    · rintro rfl
      cases this
  change (Text.dropEndWhile isEdge ((s ++ t).dropWhile isEdge)).filter (!isDropped ·) = _
  rw [hfront, hend, List.filter_append, hkept]

/-- A visible text is read as it is. -/
theorem clean_eq_self (h : IsVisible s) (hne : s ≠ []) : clean s = s := by
  have hself := clean_append h hne []
  rwa [Text.dropEndWhile, List.reverse_nil, List.dropWhile_nil, List.reverse_nil, List.filter_nil,
    List.append_nil] at hself

/-- A printable text without spaces is visible. -/
theorem isVisible_of_isPrintable (h : IsPrintable s) (hspace : ' ' ∉ s) : IsVisible s := by
  intro c hc
  have hkept := h c hc
  rw [keptOpaque, Bool.and_eq_true, decide_eq_true_eq] at hkept
  refine lt_of_le_of_ne hkept.1 fun he ↦ ?_
  obtain rfl : ' ' = c := Char.toNat_inj.mp he
  exact hspace hc

/-- The path of a URL is visible. -/
theorem isVisible_render {l : List (List Char)} (h : ∀ segment ∈ l, IsSegment k segment) :
    IsVisible (Path.segments l).render := by
  intro c hc
  obtain ⟨segment, hsegment, hc⟩ := List.mem_flatMap.mp hc
  rcases List.mem_cons.mp hc with rfl | hc
  · decide
  · have hkept := (h segment hsegment).kept
    exact isVisible_of_isPrintable (fun c hc ↦ keptOpaque_of_keptPath (hkept c hc))
      (fun hc ↦ by cases hkept ' ' hc) c hc

/-! ## Schemes -/

/-- Whether a character may stand in a scheme. -/
def isSchemeChar (c : Char) : Bool := c.isAlphanum || c = '+' || c = '-' || c = '.'

/-- A scheme in lower case, which opens with a letter. -/
structure IsScheme (scheme : String) : Prop where
  ne_nil : scheme.toList ≠ []
  head : (scheme.toList.head ne_nil).isAlpha = true
  isSchemeChar : ∀ c ∈ scheme.toList, isSchemeChar c = true
  toLower : ∀ c ∈ scheme.toList, c.toLower = c

/-- A character of a scheme is in ASCII. -/
theorem toNat_of_isSchemeChar {c : Char} (h : isSchemeChar c = true) :
    0x20 < c.toNat ∧ c.toNat < 0x7F := by
  simp only [isSchemeChar, Bool.or_eq_true, decide_eq_true_eq] at h
  rcases h with ((h | rfl) | rfl) | rfl
  · exact toNat_of_isAlphanum h
  all_goals decide

private theorem isSchemeChar_toLower {c : Char} (h : isSchemeChar c = true) :
    isSchemeChar c.toLower = true ∧ c.toLower.toLower = c.toLower ∧
      (c.isAlpha = true → c.toLower.isAlpha = true) := by
  have hall := Text.forall_ascii (p := fun c ↦ isSchemeChar c = true →
    isSchemeChar c.toLower = true ∧ c.toLower.toLower = c.toLower ∧
      (c.isAlpha = true → c.toLower.isAlpha = true)) (by decide +kernel)
  exact hall c ((toNat_of_isSchemeChar h).2.trans (by decide)) h

private theorem schemeRest?_append {acc p : List Char} (h : ∀ c ∈ p, isSchemeChar c = true)
    (rest : List Char) :
    schemeRest? acc (p ++ ':' :: rest) =
      some (String.ofList (acc.reverse ++ p.map Char.toLower), rest) := by
  induction p generalizing acc with
  | nil => simp [schemeRest?]
  | cons c p ih =>
    obtain ⟨hc, hp⟩ := List.forall_mem_cons.mp h
    have hcolon : c ≠ ':' := by
      rintro rfl
      cases hc
    have hread : schemeRest? acc (c :: (p ++ ':' :: rest)) =
        schemeRest? (c.toLower :: acc) (p ++ ':' :: rest) := by
      rw [schemeRest?, if_neg hcolon]
      exact if_pos hc
    rw [List.cons_append, hread, ih hp]
    simp

private theorem exists_of_schemeRest? {acc : List Char}
    (h : schemeRest? acc s = some (scheme, rest)) :
    ∃ p, (∀ c ∈ p, isSchemeChar c = true) ∧ s = p ++ ':' :: rest ∧
      scheme.toList = acc.reverse ++ p.map Char.toLower := by
  induction s generalizing acc with
  | nil => cases h
  | cons c s ih =>
    rw [schemeRest?] at h
    split at h
    · next hc =>
      obtain ⟨rfl, rfl⟩ := Prod.mk.inj (Option.some.inj h)
      exact ⟨[], List.forall_mem_nil _, by simp [hc], by simp⟩
    · split at h
      · next hc =>
        obtain ⟨p, hp, rfl, hscheme⟩ := ih h
        exact ⟨c :: p, List.forall_mem_cons.mpr ⟨hc, hp⟩, rfl, by simpa using hscheme⟩
      · cases h

/-- What is read as a scheme is one. -/
theorem isScheme_of_scheme? (h : scheme? s = some (scheme, rest)) : IsScheme scheme := by
  cases s with
  | nil => cases h
  | cons c s =>
    rw [scheme?] at h
    split at h
    · next hc =>
      obtain ⟨p, hp, hs, hscheme⟩ := exists_of_schemeRest? h
      rw [List.reverse_nil, List.nil_append] at hscheme
      have hne : p ≠ [] := by
        rintro rfl
        obtain rfl := (List.cons.inj hs).1
        cases hc
      obtain ⟨first, p, rfl⟩ := List.exists_cons_of_ne_nil hne
      obtain rfl : c = first := (List.cons.inj hs).1
      have hlower : ∀ x ∈ scheme.toList, isSchemeChar x = true ∧ x.toLower = x := by
        rw [hscheme, List.forall_mem_map]
        exact fun x hx ↦ ⟨(isSchemeChar_toLower (hp x hx)).1, (isSchemeChar_toLower (hp x hx)).2.1⟩
      refine ⟨by simp [hscheme], ?_, fun x hx ↦ (hlower x hx).1, fun x hx ↦ (hlower x hx).2⟩
      simp only [hscheme, List.map_cons, List.head_cons]
      exact (isSchemeChar_toLower (hp c List.mem_cons_self)).2.2 hc
    · cases h

/-- A scheme is read back up to its colon. -/
theorem scheme?_append (h : IsScheme scheme) (rest : List Char) :
    scheme? (scheme.toList ++ ':' :: rest) = some (scheme, rest) := by
  have hlower : scheme.toList.map Char.toLower = scheme.toList := by
    conv_rhs => rw [← List.map_id scheme.toList]
    exact List.map_congr_left h.toLower
  have hread := @schemeRest?_append [] _ h.isSchemeChar rest
  rw [hlower, List.reverse_nil, List.nil_append, String.ofList_toList] at hread
  have hhead := h.head
  obtain ⟨c, tail, hc⟩ := List.exists_cons_of_ne_nil h.ne_nil
  simp only [hc, List.head_cons] at hhead
  rw [hc, List.cons_append] at hread ⊢
  rw [scheme?, if_pos hhead, hread]

/-! ## Ports -/

/-- A port that is not the one of the scheme. -/
structure IsPort (scheme : String) (n : Nat) : Prop where
  le_limit : n ≤ portLimit
  defaultPort : defaultPort scheme ≠ some n

/-- What is read as a port is one, and nothing but a path can follow. -/
theorem isPort_of_readPort {port : Option Nat} (h : readPort scheme s = .ok (port, rest)) :
    ∀ n ∈ port, IsPort scheme n := by
  simp only [readPort] at h
  split at h
  · cases h
  · next hle =>
    split at h
    · cases h
    · obtain ⟨rfl, rfl⟩ := Prod.mk.inj (Except.ok.inj h)
      intro n hn
      rw [Option.mem_def, Option.ite_none_left_eq_some] at hn
      obtain ⟨hnot, hn⟩ := hn
      obtain rfl := Option.some.inj hn
      refine ⟨by omega, fun he ↦ hnot ?_⟩
      simp [he]

/-- A port is read back. -/
theorem readPort_decimal {n : Nat} (h : IsPort scheme n) :
    readPort scheme (Text.decimal n).toList = .ok (some n, []) := by
  have hdigits : ∀ c ∈ Nat.toDigits 10 n, Text.isDigit c = true :=
    fun c hc ↦ Text.isDigit_of_mem_toDigits hc
  have hvalue : Text.digitsValue (Nat.toDigits 10 n) = n := Nat.ofDigitChars_ten_toDigits
  have hle := h.le_limit
  rw [Text.decimal, String.toList_ofList, readPort, List.takeWhile_eq_self_iff.mpr hdigits,
    List.dropWhile_eq_nil_iff.mpr hdigits, hvalue]
  simp [h.defaultPort, Nat.not_lt.mpr hle, Nat.toDigits_ne_nil]

/-! ## Queries and fragments -/

/-- The written form of a query. -/
def queryText (query : Option (List Char)) : List Char :=
  match query with
  | none => []
  | some q => '?' :: q

/-- The written form of a fragment. -/
def fragmentText (fragment : Option (List Char)) : List Char :=
  match fragment with
  | none => []
  | some f => '#' :: f

/-- What stays in a query. -/
def keptInQuery (k : SchemeKind) : Kept := if k.isSpecial then keptSpecialQuery else keptQuery

/-- A query and a fragment that have been read. -/
structure IsEncoded (k : SchemeKind) (query fragment : Option (List Char)) : Prop where
  query : ∀ q ∈ query, ∀ c ∈ q, keptInQuery k c = true
  fragment : ∀ f ∈ fragment, ∀ c ∈ f, keptFragment c = true

private theorem keepsEscapes_keptInQuery (k : SchemeKind) : Kept.KeepsEscapes (keptInQuery k) := by
  cases k <;> decide

private theorem keptInQuery_hash (k : SchemeKind) : keptInQuery k '#' = false := by
  cases k <;> rfl

/-- A query and a fragment are visible. -/
theorem IsEncoded.isVisible {query fragment : Option (List Char)} (h : IsEncoded k query fragment) :
    IsVisible (queryText query ++ fragmentText fragment) := by
  refine List.forall_mem_append.mpr ⟨?_, ?_⟩
  · cases query with
    | none => exact List.forall_mem_nil _
    | some q =>
      have hkept := h.query q rfl
      have hspace : ' ' ∉ q := fun hc ↦ by
        have := hkept ' ' hc
        cases k <;> cases this
      have hprintable : IsPrintable q := fun c hc ↦ by
        have hc := hkept c hc
        cases k with
        | other => exact keptOpaque_of_keptQuery hc
        | file => exact keptOpaque_of_keptSpecialQuery hc
        | special => exact keptOpaque_of_keptSpecialQuery hc
      exact List.forall_mem_cons.mpr ⟨by decide, isVisible_of_isPrintable hprintable hspace⟩
  · cases fragment with
    | none => exact List.forall_mem_nil _
    | some f =>
      have hkept := h.fragment f rfl
      exact List.forall_mem_cons.mpr ⟨by decide,
        isVisible_of_isPrintable (fun c hc ↦ keptOpaque_of_keptFragment (hkept c hc))
          fun hc ↦ by cases hkept ' ' hc⟩

/-- What is read as a query and a fragment is encoded. -/
theorem isEncoded_queryAndFragment (k : SchemeKind) (s : List Char) :
    IsEncoded k (queryAndFragment k s).1 (queryAndFragment k s).2 := by
  have hfragment (t : List Char) : ∀ c ∈ encode keptFragment t, keptFragment c = true :=
    fun c hc ↦ kept_of_mem_encode (by decide) hc
  have hquery (t : List Char) : ∀ c ∈ encode (keptInQuery k) t, keptInQuery k c = true :=
    fun c hc ↦ kept_of_mem_encode (keepsEscapes_keptInQuery k) hc
  constructor
  · intro q hq
    simp only [queryAndFragment] at hq
    split at hq
    · cases hq
      exact hquery _
    · cases hq
  · intro f hf
    simp only [queryAndFragment] at hf
    cases hcut : Text.cutAt '#' s with
    | none =>
      simp only [hcut] at hf
      split at hf <;> cases hf
    | some cut =>
      simp only [hcut] at hf
      split at hf <;>
      · cases hf
        exact hfragment _

/-- A query and a fragment are read back. -/
theorem queryAndFragment_append {query fragment : Option (List Char)}
    (h : IsEncoded k query fragment) :
    queryAndFragment k (queryText query ++ fragmentText fragment) = (query, fragment) := by
  have hhash : '#' ∉ queryText query := by
    cases query with
    | none => exact List.not_mem_nil
    | some q =>
      rw [queryText, List.mem_cons, not_or]
      refine ⟨by decide, fun hc ↦ ?_⟩
      have := h.query q rfl '#' hc
      rw [keptInQuery_hash] at this
      cases this
  have hcut : Text.cutAt '#' (queryText query ++ fragmentText fragment) =
      fragment.map (queryText query, ·) := by
    cases fragment with
    | none => simpa [fragmentText, Text.cutAt_eq_none_iff] using hhash
    | some f => exact Text.cutAt_append hhash f
  have hquery : ∀ q ∈ query, encode (if k.isSpecial then keptSpecialQuery else keptQuery) q = q :=
    fun q hq ↦ encode_eq_self (h.query q hq)
  have hfragment : ∀ f ∈ fragment, encode keptFragment f = f :=
    fun f hf ↦ encode_eq_self (h.fragment f hf)
  simp only [queryAndFragment, hcut]
  cases fragment with
  | none =>
    cases query with
    | none => rfl
    | some q => simp [queryText, fragmentText, hquery]
  | some f =>
    cases query with
    | none => simp [queryText, hfragment]
    | some q => simp [queryText, hquery, hfragment]

end ContainerBuild.Url
