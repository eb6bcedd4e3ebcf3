import ContainerBuild.Proofs.Template.Reading
import ContainerBuild.Proofs.Text.Words

/-!
# The first fault of a template

A template is refused for the first dollar with a brace behind it that is no reference: in front of
it the template is well formed, and it is not escaped. Its braces are never closed, or what stands
in them has no valid name. The position that is reported is that of the dollar.
-/

namespace ContainerBuild.Template

open Text (byteLength)

/-- The name in braces: what stands before the first colon with a hyphen behind it, or everything
when there is none. -/
inductive IsNamePart : List Char → List Char → Prop where
  | whole {body : List Char} (h : ¬ [':', '-'] <:+: body) : IsNamePart body body
  | cut {name fallback : List Char} (h : ¬ [':', '-'] <:+: name ++ [':']) :
    IsNamePart (name ++ [':', '-'] ++ fallback) name

/-- What is wrong behind a brace that a dollar at a position opens. -/
inductive IsFault (position : Nat) : List Char → TemplateError → Prop where
  | unclosed {rest : List Char} (h : '}' ∉ rest) : IsFault position rest (.unclosed position)
  | invalidName {body behind name : List Char} (hbody : '}' ∉ body) (hpart : IsNamePart body name)
    (hname : isName name = false) :
    IsFault position (body ++ '}' :: behind) (.invalidName (String.ofList name))

/-- At a position of a template, which is given in bytes, stands a dollar with a brace behind it and
then the given rest. The dollar is not escaped, and what stands before it is well formed. -/
def OpensAt (template : String) (params : Dict String) (position : Nat) (rest : String) : Prop :=
  ∃ front text, template = front ++ "$\x7b" ++ rest ∧ front.utf8ByteSize = position ∧
    front.toList.getLast? ≠ some '\\' ∧ expand front params = .ok text

variable {token : Token} {ts : List Token} {s front rest behind body name : List Char}
  {position : Nat} {e : TemplateError}

/-! ## Faults -/

/-- The name in braces is the one that is read. -/
theorem isNamePart_iff : IsNamePart body name ↔ (bracedParts body).1 = name := by
  have hsep : [':', '-'] ≠ [] := List.cons_ne_nil _ _
  constructor
  · rintro (h | ⟨h⟩)
    · rw [bracedParts, (Text.cutAtText_eq_none_iff hsep).mpr h]
    · rw [bracedParts, (Text.cutAtText_eq_some_iff hsep).mpr ⟨rfl, h⟩]
  · rintro rfl
    rw [bracedParts]
    split
    · next hcut =>
      obtain ⟨rfl, h⟩ := (Text.cutAtText_eq_some_iff hsep).mp hcut
      exact .cut h
    · next hcut => exact .whole ((Text.cutAtText_eq_none_iff hsep).mp hcut)

private theorem isFault_unclosed_iff {reported : Nat} :
    IsFault position rest (.unclosed reported) ↔ position = reported ∧ '}' ∉ rest := by
  constructor
  · rintro ⟨h⟩
    exact ⟨rfl, h⟩
  · rintro ⟨rfl, h⟩
    exact .unclosed h

private theorem isFault_invalidName_iff {name : String} :
    IsFault position rest (.invalidName name) ↔
      ∃ body behind, rest = body ++ '}' :: behind ∧ '}' ∉ body ∧ IsNamePart body name.toList ∧
        isName name.toList = false := by
  constructor
  · generalize he : TemplateError.invalidName name = e
    rintro (_ | ⟨hbody, hpart, hname⟩)
    · cases he
    · cases he
      exact ⟨_, _, rfl, hbody, by rwa [String.toList_ofList], by rwa [String.toList_ofList]⟩
  · rintro ⟨body, behind, rfl, hbody, hpart, hname⟩
    rw [← String.ofList_toList (s := name)]
    exact .invalidName hbody hpart hname

/-- A fault is an error. -/
theorem tokens_of_isFault (h : IsFault position rest e) :
    tokens position ('$' :: '\x7b' :: rest) = .error e := by
  cases h with
  | unclosed h => exact tokens_unclosed (Text.cutAt_eq_none_iff.mpr h)
  | invalidName hbody hpart hname =>
    rw [tokens_braced (Text.cutAt_append hbody _), isNamePart_iff.mp hpart, hname,
      if_neg Bool.false_ne_true]

private theorem exists_isFault
    (h : ∀ token, IsReference token → ¬ token.written <+: '$' :: '\x7b' :: rest)
    (position : Nat) : ∃ e, IsFault position rest e := by
  cases hcut : cutBrace rest with
  | none => exact ⟨_, .unclosed (Text.cutAt_eq_none_iff.mp hcut)⟩
  | some parts =>
    obtain ⟨body, behind⟩ := parts
    obtain rfl := Text.eq_append_of_cutAt hcut
    have hbody := Text.not_mem_of_cutAt hcut
    refine ⟨_, .invalidName hbody (isNamePart_iff.mpr rfl) (Bool.eq_false_iff.mpr fun hname ↦ ?_)⟩
    refine h _ (isReference_bracedParts hbody hname) ⟨behind, ?_⟩
    rw [written_bracedParts]
    simp

/-! ## What may stand behind a token -/

/-- A token may stand before a character, or at the end. -/
inductive Fits : Token → Option Char → Prop where
  | plain {c : Char} {next : Option Char} (hdollar : c ≠ '$') (hbackslash : c ≠ '\\') :
    Fits (.literal c) next
  | escapedDollar {next : Option Char} : Fits .escapedDollar next
  | backslash {next : Option Char} (hnext : next ≠ some '$') : Fits (.literal '\\') next
  | dollar {next : Option Char} (hnext : ∀ c ∈ next, c ≠ '\x7b' ∧ isNameStart c = false) :
    Fits (.literal '$') next
  | bare {name : List Char} {next : Option Char} (h : IsReference (.bare name))
    (hnext : ∀ c ∈ next, ¬ContinuesName c) : Fits (.bare name) next
  | braced {name : List Char} {fallback : Option (List Char)} {next : Option Char}
    (h : IsReference (.braced name fallback)) : Fits (.braced name fallback) next

private theorem exists_isFault_or_fits (c : Char) (s : List Char) :
    (∃ rest, c :: s = '$' :: '\x7b' :: rest ∧ ∀ position, ∃ e, IsFault position rest e) ∨
      ∃ token rest, c :: s = token.written ++ rest ∧ Fits token rest.head? := by
  obtain ⟨token, rest, ho, hs⟩ := exists_opens c s
  cases ho with
  | plain hdollar hbackslash => exact .inr ⟨_, rest, hs, .plain hdollar hbackslash⟩
  | escapedDollar => exact .inr ⟨_, rest, hs, .escapedDollar⟩
  | backslash hrest => exact .inr ⟨_, rest, hs, .backslash hrest⟩
  | bare h hrest => exact .inr ⟨_, rest, hs, .bare h hrest⟩
  | braced h => exact .inr ⟨_, rest, hs, .braced h⟩
  | dollar h =>
    by_cases hbrace : rest.head? = some '\x7b'
    · obtain ⟨rest, rfl⟩ := List.head?_eq_some_iff.mp hbrace
      exact .inl ⟨rest, hs, exists_isFault h⟩
    · refine .inr ⟨_, rest, hs, .dollar fun d hd ↦ ⟨?_, isNameStart_of_dollar h d hd⟩⟩
      rintro rfl
      exact hbrace hd

/-- A token that fits what follows is read first. -/
theorem tokens_of_fits (h : Fits token rest.head?) (position : Nat) :
    tokens position (token.written ++ rest) =
      (tokens (position + byteLength token.written) rest).map (token :: ·) := by
  cases h with
  | plain hdollar hbackslash =>
    exact tokens_plain (isMarker_eq_false_iff.mpr ⟨hdollar, hbackslash⟩)
  | escapedDollar => exact tokens_escaped
  | backslash hnext => exact tokens_backslash hnext
  | dollar hnext => exact tokens_dollar hnext
  | bare href hnext => exact (Opens.bare href hnext).tokens_eq (fun h ↦ nomatch h.1) position
  | braced href => exact (Opens.braced href).tokens_eq (fun h ↦ nomatch h.1) position

/-- What fits before a character fits at the end. -/
theorem Fits.at_end {next : Option Char} (h : Fits token next) : Fits token none := by
  cases h with
  | plain hdollar hbackslash => exact .plain hdollar hbackslash
  | escapedDollar => exact .escapedDollar
  | backslash => exact .backslash (by simp)
  | dollar => exact .dollar (by simp)
  | bare href => exact .bare href (by simp)
  | braced href => exact .braced href

/-- Before a dollar a token fits that fits at the end and is no backslash. -/
theorem fits_dollar_iff :
    Fits token (some '$') ↔ Fits token none ∧ token ≠ .literal '\\' := by
  constructor
  · intro h
    refine ⟨h.at_end, ?_⟩
    rintro rfl
    cases h with
    | plain _ hbackslash => exact hbackslash rfl
    | backslash hnext => exact hnext rfl
  · rintro ⟨h, hne⟩
    cases h with
    | plain hdollar hbackslash => exact .plain hdollar hbackslash
    | escapedDollar => exact .escapedDollar
    | backslash => exact absurd rfl hne
    | dollar => exact .dollar fun c hc ↦ Option.some.inj hc ▸ ⟨by decide, by decide⟩
    | bare href => exact .bare href fun c hc ↦ Option.some.inj hc ▸ by decide
    | braced href => exact .braced href

private theorem Fits.getLast_written_iff {next : Option Char} (h : Fits token next) :
    token.written.getLast? = some '\\' ↔ token = .literal '\\' := by
  cases h with
  | plain => simp [Token.written]
  | escapedDollar => simp [Token.written]
  | backslash => simp [Token.written]
  | dollar => simp [Token.written]
  | bare href =>
    refine iff_of_false (fun hlast ↦ ?_) (fun heq ↦ by cases heq)
    cases href with
    | bare hname =>
    rcases List.mem_cons.mp (List.mem_of_getLast? hlast) with heq | hmem
    · cases heq
    · exact not_mem_name hname rfl hmem
  | braced href =>
    refine iff_of_false (fun hlast ↦ ?_) (fun heq ↦ by cases heq)
    obtain ⟨body, -, -, hwritten⟩ := href.exists_body
    rw [hwritten, List.getLast?_concat] at hlast
    cases hlast

/-- A text is taken apart from its front, token by token, up to its end or to a fault. -/
theorem fits_induction {motive : List Char → Prop} (nil : motive [])
    (fault : ∀ rest, (∀ position, ∃ e, IsFault position rest e) → motive ('$' :: '\x7b' :: rest))
    (cons : ∀ token rest, Fits token rest.head? → motive rest → motive (token.written ++ rest))
    (s : List Char) : motive s := by
  cases s with
  | nil => exact nil
  | cons c tail =>
    obtain ⟨rest, hs, hfault⟩ | ⟨token, rest, hs, hfits⟩ := exists_isFault_or_fits c tail
    · exact hs ▸ fault rest hfault
    · have hlt : rest.length < (c :: tail).length := by
        have hpos := List.length_pos_iff.mpr token.written_ne_nil
        rw [hs, List.length_append]
        omega
      exact hs ▸ cons token rest hfits (fits_induction nil fault cons rest)
termination_by s.length
decreasing_by exact hlt

/-! ## Reading up to a dollar -/

private theorem tokens_append_dollar (hesc : front.getLast? ≠ some '\\')
    (h : tokens position front = .ok ts) (s : List Char) :
    tokens position (front ++ '$' :: s) =
      (tokens (position + byteLength front) ('$' :: s)).map (ts ++ ·) := by
  induction front using fits_induction generalizing position ts with
  | nil =>
    rw [tokens_nil] at h
    cases h
    change tokens position ('$' :: s) = (tokens position ('$' :: s)).map id
    cases tokens position ('$' :: s) <;> rfl
  | fault rest hfault =>
    obtain ⟨e, he⟩ := hfault position
    rw [tokens_of_isFault he] at h
    cases h
  | cons token rest hfits ih =>
    rw [tokens_of_fits hfits] at h
    rw [List.getLast?_append] at hesc
    cases hread : tokens (position + byteLength token.written) rest with
    | error e =>
      rw [hread] at h
      cases h
    | ok us =>
      rw [hread] at h
      cases h
      -- the last token comes to stand before the dollar, where only a backslash does not fit
      have hnext : Fits token (rest ++ '$' :: s).head? := by
        cases rest with
        | nil => exact fits_dollar_iff.mpr ⟨hfits, fun heq ↦ hesc (by simp [heq, Token.written])⟩
        | cons d rest => exact hfits
      have hrest : rest.getLast? ≠ some '\\' := fun hlast ↦ hesc (by simp [hlast])
      rw [List.append_assoc, tokens_of_fits hnext, ih hrest hread, Text.byteLength_append,
        Nat.add_assoc]
      cases tokens (position + (byteLength token.written + byteLength rest)) ('$' :: s) <;> rfl

private theorem exists_isFault_of_tokens (h : tokens position s = .error e) :
    ∃ front rest ts, s = front ++ '$' :: '\x7b' :: rest ∧ front.getLast? ≠ some '\\' ∧
      tokens position front = .ok ts ∧ IsFault (position + byteLength front) rest e := by
  induction s using fits_induction generalizing position with
  | nil =>
    rw [tokens_nil] at h
    cases h
  | fault rest hfault =>
    obtain ⟨e', he⟩ := hfault position
    rw [tokens_of_isFault he] at h
    cases h
    exact ⟨[], rest, [], rfl, by simp, tokens_nil _, he⟩
  | cons token rest hfits ih =>
    rw [tokens_of_fits hfits] at h
    cases hread : tokens (position + byteLength token.written) rest with
    | ok us =>
      rw [hread] at h
      cases h
    | error e' =>
      rw [hread] at h
      cases h
      obtain ⟨front, behind, ts, rfl, hesc, hok, hfault⟩ := ih hread
      -- in front of the fault the token is read as before, since the fault begins with a dollar
      have hnext : Fits token front.head? := by
        cases front with
        | nil => exact hfits.at_end
        | cons d front => exact hfits
      have hlast : (token.written ++ front).getLast? ≠ some '\\' := by
        rw [List.getLast?_append]
        cases front with
        | nil => simpa [hfits.getLast_written_iff] using (fits_dollar_iff.mp hfits).2
        | cons d front => simpa [List.getLast?_cons] using hesc
      refine ⟨token.written ++ front, behind, token :: ts, by rw [List.append_assoc], hlast, ?_, ?_⟩
      · rw [tokens_of_fits hnext, hok]
        rfl
      · rwa [Text.byteLength_append, ← Nat.add_assoc]

/-! ## The first fault -/

variable {template : String} {params : Dict String}

/-- A template stands for a text when it has tokens. -/
theorem exists_expand_eq_ok_iff :
    (∃ text, expand template params = .ok text) ↔ ∃ ts, tokens 0 template.toList = .ok ts := by
  rw [expand_eq]
  cases tokens 0 template.toList <;> simp [Except.map]

/-- A template has an error when its tokens have. -/
theorem expand_eq_error_iff :
    expand template params = .error e ↔ tokens 0 template.toList = .error e := by
  rw [expand_eq]
  cases tokens 0 template.toList <;> simp [Except.map]

private theorem expand_eq_error_iff_isFault :
    expand template params = .error e ↔
      ∃ position rest, OpensAt template params position rest ∧
        IsFault position rest.toList e := by
  rw [expand_eq_error_iff]
  constructor
  · intro h
    obtain ⟨front, rest, ts, hs, hesc, hok, hfault⟩ := exists_isFault_of_tokens h
    have hfront : ∃ ts, tokens 0 (String.ofList front).toList = .ok ts :=
      ⟨ts, by rwa [String.toList_ofList]⟩
    obtain ⟨text, htext⟩ := (@exists_expand_eq_ok_iff _ params).mpr hfront
    refine ⟨_, String.ofList rest, ⟨String.ofList front, text, ?_, rfl, ?_, htext⟩, ?_⟩
    · apply String.toList_inj.mp
      simp [hs]
    · rwa [String.toList_ofList]
    · rwa [Text.utf8ByteSize_ofList, String.toList_ofList, ← Nat.zero_add (byteLength front)]
  · rintro ⟨position, rest, ⟨front, text, rfl, rfl, hesc, htext⟩, hfault⟩
    obtain ⟨ts, hok⟩ := exists_expand_eq_ok_iff.mp ⟨text, htext⟩
    have hsize := Text.utf8ByteSize_ofList front.toList
    rw [String.ofList_toList] at hsize
    have hread := tokens_append_dollar hesc hok ('\x7b' :: rest.toList)
    rw [Nat.zero_add, ← hsize, tokens_of_isFault hfault] at hread
    simpa [Except.map] using hread

/-- A template is refused for its first fault. The position that is reported is that of a dollar
with a brace behind it, which is not escaped, before which the template is well formed and behind
which no brace closes. The name that is reported stands, up to the first colon with a hyphen behind
it, in the braces of such a dollar and is not valid. A template stands for a text exactly when each
such dollar has its braces closed behind a valid name. -/
theorem expand_first_fault (template : String) (params : Dict String) :
    (∀ position, expand template params = .error (.unclosed position) ↔
      ∃ rest, OpensAt template params position rest ∧ '}' ∉ rest.toList) ∧
    (∀ name, expand template params = .error (.invalidName name) ↔
      ∃ position rest body behind, OpensAt template params position rest ∧
        rest.toList = body ++ '}' :: behind ∧ '}' ∉ body ∧ IsNamePart body name.toList ∧
        isName name.toList = false) ∧
    ((∃ text, expand template params = .ok text) ↔
      ∀ position rest, OpensAt template params position rest → '}' ∈ rest.toList ∧
        ∀ body behind name, rest.toList = body ++ '}' :: behind → '}' ∉ body →
          IsNamePart body name → isName name = true) := by
  refine ⟨fun position ↦ ?unclosed, fun name ↦ ?invalidName, ?ok⟩
  case unclosed =>
    simp only [expand_eq_error_iff_isFault, isFault_unclosed_iff]
    constructor
    · rintro ⟨_, rest, hopens, rfl, h⟩
      exact ⟨rest, hopens, h⟩
    · rintro ⟨rest, hopens, h⟩
      exact ⟨position, rest, hopens, rfl, h⟩
  case invalidName =>
    simp only [expand_eq_error_iff_isFault, isFault_invalidName_iff]
    constructor
    · rintro ⟨position, rest, hopens, body, behind, h⟩
      exact ⟨position, rest, body, behind, hopens, h⟩
    · rintro ⟨position, rest, body, behind, hopens, h⟩
      exact ⟨position, rest, hopens, body, behind, h⟩
  case ok =>
    have hfail : (∃ text, expand template params = .ok text) ↔
        ¬ ∃ e, expand template params = .error e := by
      cases expand template params <;> simp
    rw [hfail, not_exists]
    simp only [expand_eq_error_iff_isFault]
    constructor
    · intro h position rest hopens
      have hnone := fun e hfault ↦ h e ⟨position, rest, hopens, hfault⟩
      refine ⟨by_contra fun hopen ↦ hnone _ (.unclosed hopen), ?_⟩
      intro body behind name hrest hbody hpart
      by_contra hname
      exact hnone _ (hrest ▸ IsFault.invalidName hbody hpart (Bool.eq_false_iff.mpr hname))
    · rintro h e ⟨position, rest, hopens, hfault⟩
      obtain ⟨hclosed, hvalid⟩ := h position rest hopens
      generalize hrest : rest.toList = s at hfault
      obtain hopen | ⟨hbody, hpart, hname⟩ := hfault
      · exact hopen (hrest ▸ hclosed)
      · exact Bool.false_ne_true (hname ▸ hvalid _ _ _ hrest hbody hpart)

/-- Behind an escaped dollar, braces that are never closed, and a name that begins with a digit. -/
theorem expand_first_fault_escaped :
    expand "é\\$\x7ba\x7d-$\x7bb" .empty = .error (.unclosed 8) ∧
      expand "é\\$\x7ba\x7d-$\x7b1b:-c\x7d$\x7bd" .empty = .error (.invalidName "1b") := by
  have hfront : expand "é\\$\x7ba\x7d-" .empty = .ok "é\\$\x7ba\x7d-" := by decide +kernel
  have hopens (rest : String) : OpensAt ("é\\$\x7ba\x7d-" ++ "$\x7b" ++ rest) .empty 8 rest :=
    ⟨_, _, rfl, by decide, by decide, hfront⟩
  have hpart : IsNamePart (['1', 'b'] ++ [':', '-'] ++ ['c']) ['1', 'b'] := .cut (by decide)
  exact ⟨((expand_first_fault _ _).1 8).mpr ⟨"b", hopens "b", by decide⟩,
    ((expand_first_fault _ _).2.1 "1b").mpr
      ⟨8, "1b:-c\x7d$\x7bd", _, ['$', '\x7b', 'd'], hopens "1b:-c\x7d$\x7bd", by decide, by decide,
        hpart, by decide⟩⟩

end ContainerBuild.Template
