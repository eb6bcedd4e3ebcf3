import ContainerBuild.Proofs.Url.Address
import ContainerBuild.Proofs.Url.Decoding
import ContainerBuild.Proofs.Url.Domain
import ContainerBuild.Proofs.Url.Printable

/-!
# Written hosts are read back

A host that has been read is read back from its written form. The ASCII form of a domain is its own
ASCII form, an address is written in a form that is no other domain, and the encoding of an opaque
name is its own encoding. Where a host ends can be seen in its written form.
-/

namespace ContainerBuild.Url

open Text (isDigit)

/-! ## Names -/

private theorem decode?_eq_self {s : List Char} (h : '%' ∉ s) : decode? s = some s :=
  decode?_eq_self_iff.mpr (not_hasEscape_of_not_mem h)

/-- The characters of addresses of version 4. -/
def decimalChars : List Char := ['0', '1', '2', '3', '4', '5', '6', '7', '8', '9', '.']

/-- An address of version 4 is written in its characters. -/
theorem Ipv4.mem_decimalChars {a : Ipv4} : ∀ c ∈ a.render.toList, c ∈ decimalChars := by
  intro c hc
  have hdigit : ∀ d < 10, Nat.digitChar d ∈ decimalChars := by decide
  rw [Ipv4.toList_render] at hc
  rcases Text.mem_intercalate hc with hc | ⟨part, hpart, hc⟩
  · rw [List.mem_singleton.mp hc]
    decide
  · obtain ⟨n, -, rfl⟩ := List.mem_map.mp hpart
    exact Text.forall_mem_toDigits (p := (· ∈ decimalChars)) (by decide) hdigit n c hc

/-- The characters of addresses stay in a domain name. -/
theorem staysInDomain_of_mem_decimalChars {c : Char} (h : c ∈ decimalChars) : StaysInDomain c := by
  have hall : ∀ c ∈ decimalChars, isDomainChar c = true ∧
      (BidiClass.ofChar c).isRightward = false ∧ c ≠ 'x' :=
    Text.forall_mem_of_all (by decide)
  obtain ⟨hdomain, hdirection, hmark⟩ := hall c h
  exact ⟨hdomain, hdirection, hmark⟩

/-! ## Hosts -/

/-- The host that the text between an authority's slashes is read as. -/
def Host.read (k : SchemeKind) (s : List Char) : Except UrlError Host :=
  if k.isSpecial then
    if s.isEmpty then .error .emptyHost else Host.parse s
  else Host.parseOpaque s

/-- The host of a special scheme is read as a domain or an address. -/
theorem Host.read_eq_parse {k : SchemeKind} (hk : k.isSpecial = true) {s : List Char}
    (hne : s ≠ []) : Host.read k s = Host.parse s := by
  rw [Host.read, if_pos hk, if_neg (by simpa using hne)]

/-- The characters that a host has nowhere. -/
def hostDelimiters : List Char := [' ', '/', '\\', '?', '#', '@', '|']

/-- The written form of a host: where it ends can be seen. -/
structure IsHostText (s : List Char) : Prop where
  /-- It has none of the characters around a host. -/
  not_delimiter : ∀ c ∈ s, c ∉ hostDelimiters
  /-- It ends where the authority does, or in front of a colon. -/
  cutHost : ∀ rest, (∀ c ∈ rest.head?, c = ':') → cutHost false (s ++ rest) = (s, rest)

/-- A text is cut behind characters that are no colons and no brackets. -/
theorem cutHost_append {inBrackets : Bool} {a : List Char}
    (h : ∀ c ∈ a, c ≠ '[' ∧ c ≠ ']' ∧ (c = ':' → inBrackets = true)) (s : List Char) :
    cutHost inBrackets (a ++ s) =
      (a ++ (cutHost inBrackets s).1, (cutHost inBrackets s).2) := by
  induction a with
  | nil => rfl
  | cons c a ih =>
    obtain ⟨⟨hopen, hclose, hcolon⟩, ha⟩ := List.forall_mem_cons.mp h
    have hc : ¬(c = ':' && !inBrackets) = true := by
      simpa using hcolon
    rw [List.cons_append, cutHost, if_neg hc, if_neg hopen, if_neg hclose]
    simp only [ih ha, List.cons_append]

/-- A host ends where the authority does, or in front of a colon. -/
theorem cutHost_end {rest : List Char} (h : ∀ c ∈ rest.head?, c = ':') :
    cutHost false rest = ([], rest) := by
  cases rest with
  | nil => rfl
  | cons c rest =>
    obtain rfl := h c rfl
    rfl

/-- Behind a host that is no address between brackets, the authority ends or a colon stands. -/
theorem isHostText_of_forall {s : List Char}
    (h : ∀ c ∈ s, c ∉ hostDelimiters ∧ c ≠ '[' ∧ c ≠ ']' ∧ c ≠ ':') : IsHostText s where
  not_delimiter c hc := (h c hc).1
  cutHost rest hrest := by
    have hplain : ∀ c ∈ s, c ≠ '[' ∧ c ≠ ']' ∧ (c = ':' → false = true) := fun c hc ↦
      ⟨(h c hc).2.1, (h c hc).2.2.1, fun he ↦ absurd he (h c hc).2.2.2⟩
    rw [cutHost_append hplain, cutHost_end hrest, List.append_nil]

/-- Behind an address between brackets, the authority ends or a colon stands. -/
theorem isHostText_brackets {s : List Char}
    (h : ∀ c ∈ s, c ∉ hostDelimiters ∧ c ≠ '[' ∧ c ≠ ']') : IsHostText ('[' :: s ++ [']']) where
  not_delimiter := by
    rw [List.cons_append, List.forall_mem_cons, List.forall_mem_append]
    exact ⟨by decide, fun c hc ↦ (h c hc).1, List.forall_mem_singleton.mpr (by decide)⟩
  cutHost rest hrest := by
    have hinside := @cutHost_append true s (fun c hc ↦ ⟨(h c hc).2.1, (h c hc).2.2, fun _ ↦ rfl⟩)
      (']' :: rest)
    simp [Url.cutHost, cutHost_end hrest, hinside]

/-- An address between brackets that is read is whole. -/
theorem exists_eq_of_bracketed {s : List Char} {h : Host} (hh : bracketed s = .ok h) :
    ∃ a : Ipv6, a.IsWhole ∧ h = .ipv6 a := by
  rw [bracketed] at hh
  split at hh
  · split at hh
    · next a ha =>
      exact ⟨a, Ipv6.isWhole_of_parse ha, (Except.ok.inj hh).symm⟩
    · cases hh
  · cases hh

/-- A whole address between brackets is read back. -/
theorem bracketed_render {a : Ipv6} (h : a.IsWhole) :
    bracketed (a.render.toList ++ [']']) = .ok (.ipv6 a) := by
  rw [bracketed, List.reverse_append]
  simp [Ipv6.parse?_render h]

/-- The characters of addresses of version 6. -/
theorem Ipv6.mem_render {a : Ipv6} :
    ∀ c ∈ a.render.toList, c ∉ hostDelimiters ∧ c ≠ '[' ∧ c ≠ ']' := by
  have hdigit : ∀ d < 16, Nat.digitChar d ∉ hostDelimiters ∧ Nat.digitChar d ≠ '[' ∧
      Nat.digitChar d ≠ ']' := by decide
  have hpieces (pieces : List Nat) : ∀ c ∈ (renderPieces pieces).toList,
      c ∉ hostDelimiters ∧ c ≠ '[' ∧ c ≠ ']' := by
    intro c hc
    rw [toList_renderPieces] at hc
    rcases Text.mem_intercalate hc with hc | ⟨part, hpart, hc⟩
    · rw [List.mem_singleton.mp hc]
      decide
    · obtain ⟨n, -, rfl⟩ := List.mem_map.mp hpart
      exact Text.forall_mem_toDigits
        (p := fun c ↦ c ∉ hostDelimiters ∧ c ≠ '[' ∧ c ≠ ']') (by decide) hdigit n c hc
  rw [Ipv6.render]
  split
  · exact hpieces _
  · simp only [String.toList_append, List.forall_mem_append]
    exact ⟨⟨hpieces _, Text.forall_mem_of_all (by decide)⟩, hpieces _⟩

/-- What stands in a domain ends no host and is no escape. -/
theorem ne_of_isDomainChar {c : Char} (h : isDomainChar c = true) :
    c ∉ hostDelimiters ∧ c ≠ '[' ∧ c ≠ ']' ∧ c ≠ ':' ∧ c ≠ '%' := by
  refine ⟨fun hc ↦ ?_, ?_, ?_, ?_, ?_⟩
  · have hall : ∀ c ∈ hostDelimiters, isDomainChar c = false :=
      Text.forall_mem_of_all (by decide)
    rw [hall c hc] at h
    cases h
  all_goals
    rintro rfl
    cases h

private theorem isHostText_of_isDomainChar {s : List Char} (h : ∀ c ∈ s, isDomainChar c = true) :
    IsHostText s :=
  isHostText_of_forall fun c hc ↦
    have hne := ne_of_isDomainChar (h c hc)
    ⟨hne.1, hne.2.1, hne.2.2.1, hne.2.2.2.1⟩

/-- A domain in ASCII form is read as itself, or as an address. -/
theorem Host.parse_of_domainToAscii? {d : List Char} (h : domainToAscii? d = some d)
    (hne : d ≠ []) :
    Host.parse d =
      if endsInNumber d then
        match Ipv4.parse? d with
        | some a => .ok (.ipv4 a)
        | none => .error .invalidIpv4
      else .ok (.name d) := by
  have hchars := fun c hc ↦ ne_of_isDomainChar (isDomainChar_of_domainToAscii? h c hc)
  rw [Host.parse.eq_def]
  split
  · exact absurd rfl (hchars '[' List.mem_cons_self).2.1
  · rw [decode?_eq_self fun hc ↦ (hchars _ hc).2.2.2.2 rfl, Option.bind_some, h]
    exact if_neg (by simpa using hne)

private theorem Ipv4.endsInNumber_render (a : Ipv4) : endsInNumber a.render.toList = true := by
  have hlast : (a.octets.map (Nat.toDigits 10)).getLast? =
      some (Nat.toDigits 10 (a.value / 1 % 256)) := rfl
  have hdigits : (Nat.toDigits 10 (a.value / 1 % 256)).all isDigit = true :=
    List.all_eq_true.mpr fun c hc ↦ Text.isDigit_of_mem_toDigits hc
  rw [endsInNumber, Ipv4.dottedParts_render, hlast]
  split
  · next hnone => cases hnone
  · next hnil => exact absurd (Option.some.inj hnil) Nat.toDigits_ne_nil
  · next last _ he =>
    obtain rfl := Option.some.inj he
    rw [hdigits, Bool.true_or]

/-- A written address of version 4 is not empty. -/
theorem Ipv4.render_ne_nil (a : Ipv4) : a.render.toList ≠ [] := by
  intro hnil
  have hparts := congrArg List.length a.dottedParts_render
  rw [hnil] at hparts
  cases hparts

/-- An address of version 4 that is read is read back from its written form. -/
theorem Host.parse_ipv4_render {a : Ipv4} (h : a.value < 256 ^ 4) :
    Host.parse (Host.ipv4 a).render = .ok (.ipv4 a) := by
  have hstays : ∀ c ∈ a.render.toList, StaysInDomain c :=
    fun c hc ↦ staysInDomain_of_mem_decimalChars (Ipv4.mem_decimalChars c hc)
  have hstable := domainToAscii?_of_forall_staysInDomain hstays
  rw [Host.render, Host.parse_of_domainToAscii? hstable a.render_ne_nil,
    if_pos a.endsInNumber_render, Ipv4.parse?_render h]

/-- A host that can be read from its written form, where its end can be seen. -/
structure Host.IsReadable (k : SchemeKind) (h : Host) : Prop where
  read : Host.read k h.render = .ok h
  text : IsHostText h.render

/-- The host of a special scheme is not empty. -/
theorem Host.IsReadable.render_ne_nil {k : SchemeKind} (hk : k.isSpecial = true) {h : Host}
    (hh : h.IsReadable k) : h.render ≠ [] := by
  intro hnil
  have := hh.read
  rw [hnil, Host.read, if_pos hk] at this
  cases this

/-- The host of a special scheme is read back. -/
theorem Host.isReadable_of_parse {s : List Char} {h : Host} (hh : Host.parse s = .ok h)
    {k : SchemeKind} (hk : k.isSpecial = true) : h.IsReadable k := by
  have hread (hne : h.render ≠ []) (hparse : Host.parse h.render = .ok h) :
      Host.read k h.render = .ok h := (Host.read_eq_parse hk hne).trans hparse
  rw [Host.parse.eq_def] at hh
  split at hh
  · obtain ⟨a, ha, rfl⟩ := exists_eq_of_bracketed hh
    refine ⟨hread (by simp [Host.render]) ?_, isHostText_brackets Ipv6.mem_render⟩
    exact bracketed_render ha
  · split at hh
    · cases hh
    · next domain hdomain =>
      obtain ⟨text, -, htext⟩ := Option.bind_eq_some_iff.mp hdomain
      split at hh
      · cases hh
      · next hne =>
        split at hh
        · next hnumber =>
          split at hh
          · next a ha =>
            obtain rfl := Except.ok.inj hh
            have hchars : ∀ c ∈ a.render.toList, isDomainChar c = true := fun c hc ↦
              (staysInDomain_of_mem_decimalChars (a.mem_decimalChars c hc)).domain
            exact ⟨hread a.render_ne_nil (Host.parse_ipv4_render (Ipv4.value_lt ha)),
              isHostText_of_isDomainChar hchars⟩
          · cases hh
        · next hnumber =>
          obtain rfl := Except.ok.inj hh
          have hstable := domainToAscii?_idem htext
          have hdomain : domain ≠ [] := by simpa using hne
          refine ⟨hread hdomain ?_,
            isHostText_of_isDomainChar (isDomainChar_of_domainToAscii? htext)⟩
          rw [Host.render, Host.parse_of_domainToAscii? hstable hdomain, if_neg hnumber]

private theorem ne_of_isForbiddenInHost {c : Char} (h : isForbiddenInHost c = false) :
    c ∉ hostDelimiters ∧ c ≠ '[' ∧ c ≠ ']' ∧ c ≠ ':' := by
  refine ⟨fun hc ↦ ?_, ?_, ?_, ?_⟩
  · have hall : ∀ c ∈ hostDelimiters, isForbiddenInHost c = true :=
      Text.forall_mem_of_all (by decide)
    rw [hall c hc] at h
    cases h
  all_goals
    rintro rfl
    cases h

/-- An opaque host is read back. -/
theorem Host.isReadable_of_parseOpaque {s : List Char} {h : Host} (hh : Host.parseOpaque s = .ok h)
    {k : SchemeKind} (hk : k.isSpecial = false) : h.IsReadable k := by
  have hread : Host.parseOpaque h.render = .ok h → Host.read k h.render = .ok h := by
    intro hparse
    rw [Host.read, if_neg (by simp [hk]), hparse]
  rw [Host.parseOpaque.eq_def] at hh
  split at hh
  · obtain ⟨a, ha, rfl⟩ := exists_eq_of_bracketed hh
    exact ⟨hread (bracketed_render ha), isHostText_brackets Ipv6.mem_render⟩
  · split at hh
    · cases hh
    · next hforbidden =>
      obtain rfl := Except.ok.inj hh
      have hchars : ∀ c ∈ encode keptOpaque s, isForbiddenInHost c = false := by
        have hescape : ∀ c ∈ escapeChars, isForbiddenInHost c = false :=
          Text.forall_mem_of_all (by decide)
        intro c hc
        rcases mem_encode hc with ⟨hmem, -⟩ | hmem
        · simpa using List.any_eq_false.mp (Bool.not_eq_true _ ▸ hforbidden) c hmem
        · exact hescape c hmem
      have hplain := fun c hc ↦ ne_of_isForbiddenInHost (hchars c hc)
      refine ⟨hread ?_, isHostText_of_forall hplain⟩
      rw [Host.render, Host.parseOpaque.eq_def]
      split
      · next rest hrest => exact absurd rfl (hplain '[' (hrest ▸ List.mem_cons_self)).2.1
      · rw [if_neg, encode_encode (by decide)]
        rw [List.any_eq_true]
        rintro ⟨c, hc, hforbidden⟩
        rw [hchars c hc] at hforbidden
        cases hforbidden

/-- A host that is read is read back from its written form. -/
theorem Host.isReadable_of_read {k : SchemeKind} {s : List Char} {h : Host}
    (hh : Host.read k s = .ok h) : h.IsReadable k := by
  rw [Host.read] at hh
  split at hh
  · next hk =>
    split at hh
    · cases hh
    · exact isReadable_of_parse hh hk
  · next hk => exact isReadable_of_parseOpaque hh (by simpa using hk)

end ContainerBuild.Url
