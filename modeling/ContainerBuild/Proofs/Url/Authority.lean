import ContainerBuild.Proofs.Url.Parts

/-!
# Written authorities are read back

A URL with a host is written as its authority, its path, its query and its fragment. An authority
ends at the first slash, its credentials end at the last `@`, and its host is as long as it can be
seen to be; none of these stands inside a part that has been read. What is written from the host on
is therefore read back, behind whatever credentials it stands.
-/

namespace ContainerBuild.Url

variable {k : SchemeKind} {s authority tail hostText behind rest : List Char} {scheme : String}
  {parts user : List Char × Option (List Char)} {host : Host} {u : Url} {l : List (List Char)}

/-! ## How an authority is read -/

/-- The credentials, and the host with its port. -/
def authorityParts (authority : List Char) : (List Char × Option (List Char)) × List Char :=
  match cutLastAt authority with
  | none => (([], none), authority)
  | some (user, rest) => (userinfo user, rest)

/-- The port behind a host, and what follows it. -/
def portBehind (scheme : String) : List Char → Except UrlError (Option Nat × List Char)
  | ':' :: rest => readPort scheme rest
  | rest => .ok (none, rest)

/-- The URL of the parts of an authority, what follows the port in it, and what stands behind
it. -/
def ofAuthority (scheme : String) (k : SchemeKind) (user : List Char × Option (List Char))
    (host : Host) (tail : List Char) (port : Option Nat × List Char) : Url :=
  ⟨scheme, user.1, user.2, some host, port.1,
    pathBehindHost k (port.2 ++ tail.takeWhile (fun c ↦ !endsPath c)),
    (queryAndFragment k (tail.dropWhile (fun c ↦ !endsPath c))).1,
    (queryAndFragment k (tail.dropWhile (fun c ↦ !endsPath c))).2⟩

/-- The URL of a host and what stands around it; nothing stands around an empty one. -/
def behindHost (scheme : String) (k : SchemeKind) (user : List Char × Option (List Char))
    (behind tail : List Char) (host : Host) : Except UrlError Url :=
  let finish (port : Option Nat × List Char) : Except UrlError Url :=
    if host.isEmpty && (!user.1.isEmpty || user.2.isSome) then .error .emptyHost
    else .ok (ofAuthority scheme k user host tail port)
  if host.isEmpty && !behind.isEmpty then .error .emptyHost
  else
    match behind with
    | ':' :: rest => (readPort scheme rest).bind finish
    | rest => finish (none, rest)

private theorem portBehind_bind (f : Option Nat × List Char → Except UrlError Url) :
    (match behind with
      | ':' :: rest => (readPort scheme rest).bind f
      | rest => f (none, rest)) = (portBehind scheme behind).bind f := by
  rw [portBehind.eq_def]
  split <;> rfl

/-- A URL has a port that can be read, and nothing stands around its host when that is empty. -/
theorem behindHost_eq_ok_iff :
    behindHost scheme k user behind tail host = .ok u ↔
      ∃ port, portBehind scheme behind = .ok port ∧
        (host.isEmpty = true → behind = [] ∧ user = ([], none)) ∧
        ofAuthority scheme k user host tail port = u := by
  obtain ⟨name, password⟩ := user
  rw [behindHost.eq_def]
  dsimp only
  rw [portBehind_bind]
  cases hport : portBehind scheme behind with
  | error e =>
    refine iff_of_false ?_ (by simp)
    split <;> exact fun h ↦ by cases h
  | ok port =>
    cases host.isEmpty with
    | false => simp [Except.bind]
    | true =>
      cases behind <;> cases name <;> cases password <;> simp [Except.bind]

private theorem withAuthority_eq (ha : s.takeWhile (fun c ↦ !endsAuthority k c) = authority)
    (ht : s.dropWhile (fun c ↦ !endsAuthority k c) = tail)
    (hparts : authorityParts authority = (user, rest))
    (hcut : cutHost false rest = (hostText, behind)) :
    withAuthority scheme k s =
      if (cutLastAt authority).any (·.1.isEmpty) && rest.isEmpty && !tail.isEmpty then
        .error .emptyHost
      else (Host.read k hostText).bind (behindHost scheme k user behind tail) := by
  rw [authorityParts] at hparts
  simp only [withAuthority, ha, ht, bind, Except.bind, pure, Except.pure, throw, throwThe,
    MonadExceptOf.throw, Host.read]
  cases hlast : cutLastAt authority
  all_goals
    rw [hlast] at hparts
    obtain ⟨rfl, rfl⟩ := Prod.mk.inj hparts
    simp only [hcut]
    split
    · rfl
    · split
      · split
        · rfl
        · cases Host.parse hostText <;> rfl
      · cases Host.parseOpaque hostText <;> rfl

/-- What is read from an authority and what stands behind it. -/
theorem withAuthority_eq_ok_iff (ha : s.takeWhile (fun c ↦ !endsAuthority k c) = authority)
    (ht : s.dropWhile (fun c ↦ !endsAuthority k c) = tail)
    (hparts : authorityParts authority = (user, rest))
    (hcut : cutHost false rest = (hostText, behind)) :
    withAuthority scheme k s = .ok u ↔
      ((cutLastAt authority).any (·.1.isEmpty) && rest.isEmpty && !tail.isEmpty) = false ∧
      ∃ host port, Host.read k hostText = .ok host ∧ portBehind scheme behind = .ok port ∧
        (host.isEmpty = true → behind = [] ∧ user = ([], none)) ∧
        ofAuthority scheme k user host tail port = u := by
  rw [withAuthority_eq ha ht hparts hcut]
  split
  · next hcheck => simp [hcheck]
  · next hcheck =>
    rw [Bool.not_eq_true] at hcheck
    cases Host.read k hostText with
    | error e => simp [Except.bind]
    | ok host => simp [Except.bind, hcheck, behindHost_eq_ok_iff]

/-! ## URLs with a host -/

/-- The written form of a port. -/
def portText (port : Option Nat) : List Char :=
  match port with
  | none => []
  | some n => ':' :: (Text.decimal n).toList

/-- The parts of a URL that has been read, among them its host and the segments of its path. -/
structure HasParts (u : Url) (k : SchemeKind) (host : Host) (l : List (List Char)) : Prop where
  host_eq : u.host = some host
  path_eq : u.path = .segments l
  isHostText : IsHostText host.render
  isPort : ∀ n ∈ u.port, IsPort u.scheme n
  isPath : IsPath k l
  isEncoded : IsEncoded k u.query u.fragment
  kept : ∀ c ∈ u.username, keptUserinfo c = true
  empty : host.isEmpty = true → u.username = [] ∧ u.password = none ∧ u.port = none

/-- What is written for the host and the port. -/
theorem HasParts.hostAndPort_eq (h : u.HasParts k host l) :
    u.hostAndPort = host.render ++ portText u.port := by
  rw [hostAndPort, h.host_eq]
  rfl

/-- What is written from the host on. -/
theorem HasParts.fromHost_eq (h : u.HasParts k host l) :
    u.fromHost = (host.render ++ portText u.port) ++
      ((Path.segments l).render ++ (queryText u.query ++ fragmentText u.fragment)) := by
  have hpath : u.pathText = (Path.segments l).render := by
    rw [pathText, h.host_eq, h.path_eq]
  rw [fromHost, h.hostAndPort_eq, hpath]
  simp only [List.append_assoc]
  rfl

private theorem isPort_of_portBehind {port : Option Nat × List Char}
    (h : portBehind scheme behind = .ok port) : ∀ n ∈ port.1, IsPort scheme n := by
  rw [portBehind.eq_def] at h
  split at h
  · exact isPort_of_readPort h
  · obtain rfl := Except.ok.inj h
    exact fun n hn ↦ by cases hn

private theorem kept_of_authorityParts (h : authorityParts authority = (user, rest)) :
    ∀ c ∈ user.1, keptUserinfo c = true := by
  have hencode (text : List Char) : ∀ c ∈ encode keptUserinfo text, keptUserinfo c = true :=
    fun c hc ↦ kept_of_mem_encode (by decide) hc
  rw [authorityParts] at h
  split at h
  · obtain rfl := (Prod.mk.inj h).1
    exact List.forall_mem_nil _
  · obtain rfl := (Prod.mk.inj h).1
    rw [userinfo]
    split <;> exact hencode _

/-- What is read behind the slashes that open an authority has a host that is read back. -/
theorem exists_of_withAuthority (h : withAuthority scheme k s = .ok u) :
    u.scheme = scheme ∧ ∃ host l, host.IsReadable k ∧ u.HasParts k host l := by
  obtain ⟨user, rest, hparts⟩ :
      ∃ user rest, authorityParts (s.takeWhile fun c ↦ !endsAuthority k c) = (user, rest) :=
    ⟨_, _, rfl⟩
  obtain ⟨hostText, behind, hcut⟩ :
      ∃ hostText behind, cutHost false rest = (hostText, behind) := ⟨_, _, rfl⟩
  obtain ⟨-, host, port, hread, hport, hempty, rfl⟩ :=
    (withAuthority_eq_ok_iff rfl rfl hparts hcut).mp h
  have hhost := Host.isReadable_of_read hread
  obtain ⟨l, hl, hpath⟩ := exists_pathBehindHost k
    (port.2 ++ (s.dropWhile fun c ↦ !endsAuthority k c).takeWhile fun c ↦ !endsPath c)
  refine ⟨rfl, host, l, hhost, rfl, hpath, hhost.text, isPort_of_portBehind hport, hl,
    isEncoded_queryAndFragment k _, kept_of_authorityParts hparts, fun hnil ↦ ?_⟩
  obtain ⟨rfl, rfl⟩ := hempty hnil
  obtain rfl := Except.ok.inj hport
  exact ⟨rfl, rfl, rfl⟩

/-! ## Authorities are read back -/

/-- The written form of credentials before a host. -/
def credentialText (text : Option (List Char)) : List Char :=
  match text with
  | none => []
  | some t => t ++ ['@']

/-- The user name and the password in credentials before a host. -/
def credentialParts (text : Option (List Char)) : List Char × Option (List Char) :=
  match text with
  | none => ([], none)
  | some t => userinfo t

/-- The characters of credentials are encoded, with a colon between them. -/
def IsCredentials (text : Option (List Char)) : Prop :=
  ∀ t ∈ text, ∀ c ∈ t, keptUserinfo c = true ∨ c = ':'

/-- What stands nowhere in a host does not end an authority elsewhere. -/
theorem endsAuthority_eq_false {c : Char} (h : c ∉ hostDelimiters) : endsAuthority k c = false := by
  simp only [hostDelimiters, List.mem_cons, List.not_mem_nil, or_false, not_or] at h
  obtain ⟨-, hslash, hback, hquestion, hhash, -, -⟩ := h
  simp [endsAuthority, isSlash, hslash, hback, hquestion, hhash]

private theorem not_mem_hostDelimiters {c : Char} (h : keptUserinfo c = true ∨ c = ':') :
    c ∉ hostDelimiters := by
  have hall : ∀ c ∈ hostDelimiters, keptUserinfo c = false ∧ c ≠ ':' :=
    Text.forall_mem_of_all (by decide)
  intro hc
  obtain ⟨hkept, hcolon⟩ := hall c hc
  rcases h with h | h
  · rw [h] at hkept
    cases hkept
  · exact hcolon h

private theorem not_mem_hostDelimiters_of_mem_portText {port : Option Nat} :
    ∀ c ∈ portText port, c ∉ hostDelimiters := by
  cases port with
  | none => exact List.forall_mem_nil _
  | some n =>
    have hdigit : ∀ d < 10, Nat.digitChar d ∉ hostDelimiters := by decide
    rw [portText, Text.decimal, String.toList_ofList, List.forall_mem_cons]
    exact ⟨by decide,
      Text.forall_mem_toDigits (p := (· ∉ hostDelimiters)) (by decide) hdigit n⟩

private theorem Host.render_ne_nil (h : host.isEmpty = false) : host.render ≠ [] := by
  cases host with
  | name s =>
    rintro rfl
    cases h
  | ipv4 a => exact a.render_ne_nil
  | ipv6 a => exact List.cons_ne_nil _ _

private theorem authorityParts_append {text : Option (List Char)} (h : '@' ∉ rest) :
    authorityParts (credentialText text ++ rest) = (credentialParts text, rest) := by
  rw [authorityParts, cutLastAt]
  cases text with
  | none =>
    have hcut : Text.cutAt '@' (credentialText none ++ rest).reverse = none := by
      rw [Text.cutAt_eq_none_iff]
      simpa [credentialText] using h
    rw [hcut]
    rfl
  | some t =>
    have hcut : Text.cutAt '@' (credentialText (some t) ++ rest).reverse =
        some (rest.reverse, t.reverse) := by
      have hrest : '@' ∉ rest.reverse := by simpa using h
      simpa [credentialText] using Text.cutAt_append hrest t.reverse
    rw [hcut]
    simp [credentialParts]

/-- A written port is read back. -/
theorem portBehind_portText {port : Option Nat} (h : ∀ n ∈ port, IsPort scheme n) :
    portBehind scheme (portText port) = .ok (port, []) := by
  cases port with
  | none => rfl
  | some n => exact readPort_decimal (h n rfl)

/-- A text is cut where its characters stop to have a property. -/
theorem takeWhile_append_eq {p : Char → Bool} {a b : List Char} (ha : ∀ c ∈ a, p c = true)
    (hb : ∀ c ∈ b.head?, p c = false) :
    (a ++ b).takeWhile p = a ∧ (a ++ b).dropWhile p = b := by
  rw [List.takeWhile_append_of_pos ha, List.dropWhile_append_of_pos ha]
  cases b with
  | nil => simp
  | cons c b => simp [hb c rfl]

/-- What stands behind a path ends it. -/
theorem endsPath_head_queryText {query fragment : Option (List Char)} :
    ∀ c ∈ (queryText query ++ fragmentText fragment).head?, endsPath c = true := by
  cases query <;> cases fragment <;> simp [queryText, fragmentText, endsPath]

private theorem endsAuthority_head_render {query fragment : Option (List Char)} :
    ∀ c ∈ ((Path.segments l).render ++ (queryText query ++ fragmentText fragment)).head?,
      endsAuthority k c = true := by
  cases l with
  | nil =>
    intro c hc
    have hends := endsPath_head_queryText c hc
    rw [endsPath, Bool.or_eq_true] at hends
    rcases hends with hends | hends <;> simp [endsAuthority, hends]
  | cons s l =>
    intro c hc
    obtain rfl : '/' = c := Option.some.inj hc
    simp [endsAuthority, isSlash]

/-- The host and the port have none of the characters around a host. -/
theorem HasParts.not_mem_hostDelimiters (h : u.HasParts k host l) :
    ∀ c ∈ host.render ++ portText u.port, c ∉ hostDelimiters :=
  List.forall_mem_append.mpr ⟨h.isHostText.not_delimiter, not_mem_hostDelimiters_of_mem_portText⟩

/-- No character of an authority ends it. -/
theorem HasParts.endsAuthority_authority {text : Option (List Char)} (h : u.HasParts k host l)
    (htext : IsCredentials text) :
    ∀ c ∈ credentialText text ++ (host.render ++ portText u.port), endsAuthority k c = false := by
  rw [List.forall_mem_append]
  refine ⟨?_, fun c hc ↦ endsAuthority_eq_false (h.not_mem_hostDelimiters c hc)⟩
  cases text with
  | none => exact List.forall_mem_nil _
  | some t =>
    rw [credentialText, List.forall_mem_append]
    exact ⟨fun c hc ↦ endsAuthority_eq_false (Url.not_mem_hostDelimiters (htext t rfl c hc)),
      List.forall_mem_singleton.mpr (by cases k <;> decide)⟩

/-- Only the two slashes in front of an authority are dropped from it. -/
theorem HasParts.dropWhile_slashes {text : Option (List Char)} (h : u.HasParts .special host l)
    (hhost : host.IsReadable .special) (htext : IsCredentials text) :
    ('/' :: '/' :: (credentialText text ++ u.fromHost)).dropWhile (isSlash .special) =
      credentialText text ++ u.fromHost := by
  have hne : credentialText text ++ (host.render ++ portText u.port) ≠ [] := by
    simp [hhost.render_ne_nil rfl]
  have hends := h.endsAuthority_authority htext
  rw [h.fromHost_eq, ← List.append_assoc]
  obtain ⟨c, rest, hc⟩ := List.exists_cons_of_ne_nil hne
  have hslash := hends c (hc ▸ List.mem_cons_self)
  rw [endsAuthority, Bool.or_eq_false_iff, Bool.or_eq_false_iff] at hslash
  have hopen : isSlash .special '/' = true := rfl
  rw [hc, List.cons_append, List.dropWhile_cons_of_pos hopen, List.dropWhile_cons_of_pos hopen,
    List.dropWhile_cons_of_neg (by simp [hslash.1.1])]

/-- What is written from the host on is read back, behind credentials that it can carry. -/
theorem HasParts.withAuthority_append {text : Option (List Char)} (hk : k ≠ .file)
    (h : u.HasParts k host l) (hhost : host.IsReadable k) (htext : IsCredentials text)
    (hempty : host.isEmpty = true → text = none) :
    withAuthority u.scheme k (credentialText text ++ u.fromHost) =
      .ok { u with
        username := (credentialParts text).1
        password := (credentialParts text).2 } := by
  obtain ⟨ha, ht⟩ := takeWhile_append_eq
    (a := credentialText text ++ (host.render ++ portText u.port))
    (b := (Path.segments l).render ++ (queryText u.query ++ fragmentText u.fragment))
    (p := fun c ↦ !endsAuthority k c)
    (fun c hc ↦ by rw [h.endsAuthority_authority htext c hc, Bool.not_false])
    fun c hc ↦ by rw [endsAuthority_head_render c hc, Bool.not_true]
  have hparts := @authorityParts_append (host.render ++ portText u.port) text
    fun hc ↦ h.not_mem_hostDelimiters '@' hc (by decide)
  have hcut := h.isHostText.cutHost (portText u.port) (by cases u.port <;> simp [portText])
  obtain ⟨hpath, hquery⟩ := takeWhile_append_eq
    (a := (Path.segments l).render) (b := queryText u.query ++ fragmentText u.fragment)
    (p := fun c ↦ !endsPath c)
    (fun c hc ↦ by rw [endsPath_of_mem_render h.isPath.segment c hc, Bool.not_false])
    fun c hc ↦ by rw [endsPath_head_queryText c hc, Bool.not_true]
  rw [h.fromHost_eq, ← List.append_assoc, withAuthority_eq_ok_iff ha ht hparts hcut]
  refine ⟨?_, host, (u.port, []), hhost.read, portBehind_portText h.isPort, ?_, ?_⟩
  · cases hnil : host.isEmpty with
    | false => simp [Host.render_ne_nil hnil]
    | true =>
      obtain ⟨rfl, hport⟩ := And.intro (hempty hnil) (h.empty hnil).2.2
      rw [hport, of_decide_eq_true hnil]
      rfl
  · intro hnil
    rw [hempty hnil, (h.empty hnil).2.2]
    exact ⟨rfl, rfl⟩
  · rw [ofAuthority, List.nil_append, hpath, hquery, pathBehindHost_render hk h.isPath,
      queryAndFragment_append h.isEncoded, ← h.host_eq, ← h.path_eq]

/-- Where an authority would stand, a path or nothing has an empty host in front of it. -/
theorem withAuthority_of_path {p : List Char} {query fragment : Option (List Char)}
    (hopen : ∀ c ∈ p.head?, c = '/') (hends : ∀ c ∈ p, endsPath c = false)
    (hencoded : IsEncoded .other query fragment) :
    withAuthority scheme .other (p ++ (queryText query ++ fragmentText fragment)) =
      .ok ⟨scheme, [], none, some (.name []), none, pathBehindHost .other p, query, fragment⟩ := by
  have hfirst : ∀ c ∈ (p ++ (queryText query ++ fragmentText fragment)).head?,
      endsAuthority .other c = true := by
    intro c hc
    cases p with
    | nil =>
      have hquery := endsPath_head_queryText c hc
      rw [endsPath, Bool.or_eq_true] at hquery
      rcases hquery with hquery | hquery <;> simp [endsAuthority, hquery]
    | cons first p =>
      obtain rfl : first = c := Option.some.inj hc
      rw [hopen first rfl]
      rfl
  obtain ⟨ha, ht⟩ := takeWhile_append_eq (a := []) (p := fun c ↦ !endsAuthority .other c)
    (List.forall_mem_nil _) fun c hc ↦ by rw [hfirst c hc, Bool.not_true]
  rw [List.nil_append] at ha ht
  obtain ⟨hpath, hquery⟩ := takeWhile_append_eq (a := p)
    (b := queryText query ++ fragmentText fragment) (p := fun c ↦ !endsPath c)
    (fun c hc ↦ by rw [hends c hc, Bool.not_false])
    fun c hc ↦ by rw [endsPath_head_queryText c hc, Bool.not_true]
  have hparts : authorityParts [] = (([], none), []) := rfl
  rw [withAuthority_eq_ok_iff ha ht hparts rfl]
  refine ⟨rfl, .name [], (none, []), rfl, rfl, fun _ ↦ ⟨rfl, rfl⟩, ?_⟩
  rw [ofAuthority, List.nil_append, hpath, hquery, queryAndFragment_append hencoded]

end ContainerBuild.Url
