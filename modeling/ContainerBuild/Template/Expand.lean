import ContainerBuild.Template

/-!
# Putting in parameters

One pass from the front of a template to its end. A turn of the pass looks for the next dollar
or backslash, copies what stands before it, and writes what the escape or the reference there
stands for. The pass cuts the template at byte positions that each turn computes in its own way.
`pass_eq` says that it never cuts inside of a character, and that it writes the tokens of the
template one after the other.
-/

namespace ContainerBuild.Template

open Text (byteLength cutAtByte? findByte?)

/-- Why a pass ends early. -/
inductive Halt where
  | malformed (e : TemplateError)
  /-- There is no place to cut at a byte position. -/
  | badCut
deriving DecidableEq, Repr

/-- What stands before a byte position. -/
def textBefore (position : Nat) (s : List Char) : Except Halt (List Char) :=
  match cutAtByte? position s with
  | some (front, _) => .ok front
  | none => .error .badCut

/-- What stands behind a byte position. -/
def textBehind (position : Nat) (s : List Char) : Except Halt (List Char) :=
  match cutAtByte? position s with
  | some (_, rest) => .ok rest
  | none => .error .badCut

/-- What a turn makes of the text from a dollar or a backslash on. -/
structure Turn where
  /-- What is written. -/
  written : List Char
  /-- The number of bytes that are read. -/
  length : Nat
  length_pos : 0 < length

/-- The number of bytes of a name that has some bytes already and goes on in a text. -/
def nameLength (length : Nat) : List Char → Nat
  | [] => length
  | c :: rest =>
    if isNameStart c || (0 < length && Text.isDigit c) then
      nameLength (length + c.utf8Size) rest
    else length

/-- The turn for a reference in braces. -/
def bracedTurn (params : Dict String) (position : Nat) (text body : List Char) :
    Except Halt Turn :=
  match findByte? (· = '}') body with
  | none => .error (.malformed (.unclosed position))
  | some close => do
    let (name, fallback) := bracedParts (← textBefore close body)
    if isName name then
      let written ←
        match value? params name, fallback with
        | some value, _ => pure value
        | none, some fallback => pure fallback
        | none, none => textBefore (close + 3) text
      return ⟨written, close + 3, by omega⟩
    else .error (.malformed (.invalidName (String.ofList name)))

/-- The turn for a reference without braces, or for a dollar that opens none. -/
def bareTurn (params : Dict String) (text : List Char) : Except Halt Turn := do
  let rest ← textBehind 1 text
  let length := nameLength 0 rest
  if length = 0 then return ⟨['$'], 1, Nat.one_pos⟩
  else
    let written ←
      match value? params (← textBefore length rest) with
      | some value => pure value
      | none => textBefore (1 + length) text
    return ⟨written, 1 + length, Nat.add_pos_left Nat.one_pos length⟩

/-- The turn for a text that begins with a dollar or a backslash, at a byte position. -/
def turn (params : Dict String) (position : Nat) (text : List Char) : Except Halt Turn :=
  match text with
  | '\\' :: '$' :: _ => .ok ⟨['\\', '$'], 2, by omega⟩
  | '\\' :: _ => .ok ⟨['\\'], 1, by omega⟩
  | '$' :: '{' :: body => bracedTurn params position text body
  | _ => bareTurn params text

/-- The pass over the rest of a template, which begins at a byte position. -/
def pass (params : Dict String) (position : Nat) (rest : List Char) : Except Halt (List Char) :=
  match findByte? isMarker rest with
  | none => .ok rest
  | some start =>
    match cutAtByte? start rest with
    | none => .error .badCut
    | some (copied, text) =>
      match turn params (position + start) text with
      | .error halt => .error halt
      | .ok t =>
        match h : cutAtByte? (start + t.length) rest with
        | none => .error .badCut
        | some (_, next) =>
          have := Text.length_lt_of_cutAtByte? (Nat.add_pos_right start t.length_pos) h
          (pass params (position + start + t.length) next).map (copied ++ t.written ++ ·)
termination_by rest.length

/-! ### A pass writes tokens -/

variable {params : Dict String} {position n : Nat} {c : Char}
  {s text body rest front behind name : List Char}

/-- A text is cut behind a first part of it. -/
theorem textBefore_eq (hs : s = front ++ behind) (hn : byteLength front = n) :
    textBefore n s = .ok front := by
  rw [textBefore, Text.cutAtByte?_eq_some_iff.mpr ⟨hs, hn⟩]

/-- A text is cut before a last part of it. -/
theorem textBehind_eq (hs : s = front ++ behind) (hn : byteLength front = n) :
    textBehind n s = .ok behind := by
  rw [textBehind, Text.cutAtByte?_eq_some_iff.mpr ⟨hs, hn⟩]

/-- A name that has been begun goes on with letters, digits and underscores. -/
theorem nameLength_of_pos (hn : 0 < n) (s : List Char) :
    nameLength n s = n + byteLength (s.takeWhile isNameChar) := by
  induction s generalizing n with
  | nil => rfl
  | cons c s ih =>
    rw [nameLength, List.takeWhile_cons, isNameChar, decide_eq_true hn, Bool.true_and]
    split
    · rw [ih (Nat.add_pos_left hn _), Text.byteLength_cons, Nat.add_assoc]
    · rfl

/-- A name begins with a letter or an underscore. -/
theorem nameLength_cons (c : Char) (rest : List Char) :
    nameLength 0 (c :: rest) =
      if isNameStart c then byteLength (c :: rest.takeWhile isNameChar) else 0 := by
  rw [nameLength, Text.byteLength_cons]
  split
  · next h =>
    rw [if_pos (by simpa using h), Nat.zero_add, nameLength_of_pos c.utf8Size_pos]
  · next h => rw [if_neg (by simpa using h)]

/-- A turn reads the first token of a text and writes what stands for it. -/
structure Turn.Takes (params : Dict String) (position : Nat) (text : List Char) (t : Turn)
    (token : Token) (behind : List Char) : Prop where
  text_eq : text = token.written ++ behind
  length_eq : t.length = byteLength token.written
  written_eq : t.written = token.fill params
  tokens_eq : tokens position text = (tokens (position + t.length) behind).map (token :: ·)

/-- What becomes of a turn: it takes the first token, or it fails for the same reason as the
reading of tokens. -/
inductive Turn.Agrees (params : Dict String) (position : Nat) (text : List Char) :
    Except Halt Turn → Prop where
  | takes (t : Turn) (token : Token) (behind : List Char)
    (h : t.Takes params position text token behind) : Agrees params position text (.ok t)
  | fails (e : TemplateError) (h : tokens position text = .error e) :
    Agrees params position text (.error (.malformed e))

/-- A reference in braces is taken up to the first closing one. -/
theorem agrees_bracedTurn (params : Dict String) (position : Nat) (body : List Char) :
    Turn.Agrees params position ('$' :: '{' :: body)
      (bracedTurn params position ('$' :: '{' :: body) body) := by
  rw [bracedTurn]
  cases hfind : findByte? (· = '}') body with
  | none =>
    have hnone : '}' ∉ body := fun hmem ↦ by
      have := Text.findByte?_eq_none_iff.mp hfind _ hmem
      simp at this
    exact .fails _ (tokens_unclosed (Text.cutAt_eq_none_iff.mpr hnone))
  | some close =>
    obtain ⟨inner, c, behind, rfl, hinner, hc, rfl⟩ := Text.findByte?_eq_some_iff.mp hfind
    obtain rfl : c = '}' := of_decide_eq_true hc
    have hnone : '}' ∉ inner := fun hmem ↦ by
      have := hinner _ hmem
      simp at this
    have hcut : cutBrace (inner ++ '}' :: behind) = some (inner, behind) :=
      Text.cutAt_append hnone behind
    have htokens := @tokens_braced position _ _ _ hcut
    have hwritten := written_bracedParts inner
    simp only [textBefore_eq rfl rfl, bind, Except.bind]
    cases hparts : bracedParts inner with
    | mk name fallback =>
      rw [hparts] at htokens hwritten
      simp only at htokens hwritten ⊢
      split
      · next hname =>
        rw [if_pos hname] at htokens
        have htext : '$' :: '{' :: (inner ++ '}' :: behind) =
            (Token.braced name fallback).written ++ behind := by
          rw [hwritten]
          simp
        have hlength : byteLength (Token.braced name fallback).written =
            byteLength inner + 3 := by
          rw [hwritten, List.cons_append, List.cons_append, Text.byteLength_cons,
            Text.byteLength_cons, Text.byteLength_append]
          change 1 + (1 + (byteLength inner + 1)) = _
          omega
        have hbefore := textBefore_eq htext hlength
        have htake (written : List Char) (h : written = Token.fill params (.braced name fallback)) :
            Turn.Agrees params position ('$' :: '{' :: (inner ++ '}' :: behind))
              (.ok ⟨written, byteLength inner + 3, by omega⟩) :=
          .takes _ (.braced name fallback) behind ⟨htext, hlength.symm, h, htokens⟩
        cases hvalue : value? params name <;> cases fallback
        · simp only [hbefore]
          exact htake _ (by simp [Token.fill, hvalue])
        · exact htake _ (by simp [Token.fill, hvalue])
        · exact htake _ (by simp [Token.fill, hvalue])
        · exact htake _ (by simp [Token.fill, hvalue])
      · next hname =>
        rw [if_neg hname] at htokens
        exact .fails _ htokens

/-- Behind a dollar, a name is taken as far as it goes; without one the dollar is taken alone. -/
theorem agrees_bareTurn (params : Dict String) (position : Nat) {rest : List Char}
    (h : rest.head? ≠ some '\x7b') :
    Turn.Agrees params position ('$' :: rest) (bareTurn params ('$' :: rest)) := by
  have hbehind : textBehind 1 (['$'] ++ rest) = .ok rest := textBehind_eq rfl rfl
  rw [List.singleton_append] at hbehind
  simp only [bareTurn, hbehind, bind, Except.bind]
  have hdollar (hname : ∀ c ∈ rest.head?, isNameStart c = false) :
      Turn.Agrees params position ('$' :: rest) (.ok ⟨['$'], 1, Nat.one_pos⟩) :=
    .takes _ (.literal '$') rest ⟨rfl, rfl, rfl, tokens_dollar fun c hc ↦
      ⟨fun he ↦ h (he ▸ hc), hname c hc⟩⟩
  cases rest with
  | nil => exact hdollar fun c hc ↦ by cases hc
  | cons c rest =>
    have hlength := nameLength_cons c rest
    cases hc : isNameStart c with
    | false =>
      rw [hc, if_neg Bool.false_ne_true] at hlength
      rw [if_pos hlength]
      exact hdollar fun d hd ↦ Option.some.inj hd ▸ hc
    | true =>
      have htokens := @tokens_bare position c rest hc
      have hsplit : c :: rest = (c :: rest.takeWhile isNameChar) ++ rest.dropWhile isNameChar := by
        rw [List.cons_append, List.takeWhile_append_dropWhile]
      rw [hc, if_pos rfl] at hlength
      have hpos : ¬ nameLength 0 (c :: rest) = 0 := by
        have := c.utf8Size_pos
        rw [hlength, Text.byteLength_cons]
        omega
      rw [if_neg hpos]
      generalize c :: rest.takeWhile isNameChar = name at hlength htokens hsplit
      have htext : '$' :: c :: rest = (Token.bare name).written ++ rest.dropWhile isNameChar := by
        rw [hsplit]
        rfl
      have hbefore : textBefore (1 + byteLength name) ('$' :: c :: rest) =
          .ok (Token.bare name).written := textBefore_eq htext rfl
      have htake (written : List Char) (h : written = Token.fill params (.bare name)) :
          Turn.Agrees params position ('$' :: c :: rest)
            (.ok ⟨written, 1 + byteLength name, by omega⟩) :=
        .takes _ (.bare name) (rest.dropWhile isNameChar)
          ⟨htext, rfl, h, by rw [htokens, Nat.add_assoc]⟩
      simp only [hlength, textBefore_eq hsplit rfl, hbefore]
      cases hvalue : value? params name <;> exact htake _ (by simp [Token.fill, hvalue])

/-- A turn agrees with the first token of a text that begins with a marker. -/
theorem agrees_turn (params : Dict String) (position : Nat) (hc : isMarker c = true)
    (rest : List Char) :
    Turn.Agrees params position (c :: rest) (turn params position (c :: rest)) := by
  simp only [isMarker, Bool.or_eq_true, decide_eq_true_eq] at hc
  rw [turn.eq_def]
  split
  · next behind hs =>
    rw [hs]
    exact .takes _ .escapedDollar behind ⟨rfl, rfl, rfl, tokens_escaped⟩
  · next behind hdollar hs =>
    rw [hs]
    have hhead : behind.head? ≠ some '$' := by
      intro hb
      obtain ⟨behind, rfl⟩ := List.head?_eq_some_iff.mp hb
      exact hdollar behind rfl
    exact .takes _ (.literal '\\') behind ⟨rfl, rfl, rfl, tokens_backslash hhead⟩
  · next body hs =>
    rw [hs]
    exact agrees_bracedTurn params position body
  · next hbackslash hbraced =>
    rcases hc with rfl | rfl
    · refine agrees_bareTurn params position fun hb ↦ ?_
      obtain ⟨body, rfl⟩ := List.head?_eq_some_iff.mp hb
      exact hbraced body rfl
    · exact absurd rfl (hbackslash rest)

/-- Text in front of a marker is read character by character. -/
theorem tokens_append (h : ∀ x ∈ front, isMarker x = false) (position : Nat) (s : List Char) :
    tokens position (front ++ s) =
      (tokens (position + byteLength front) s).map (front.map .literal ++ ·) := by
  induction front generalizing position with
  | nil =>
    change tokens position s = (tokens position s).map id
    cases tokens position s <;> rfl
  | cons c front ih =>
    rw [List.forall_mem_cons] at h
    rw [List.cons_append, tokens_plain h.1, ih h.2, Text.byteLength_cons, Nat.add_assoc]
    cases tokens (position + (c.utf8Size + byteLength front)) s <;> rfl

/-- A pass writes the tokens of a template one after the other, and fails where there are none.
It never cuts inside of a character. -/
theorem pass_eq (params : Dict String) (position : Nat) (s : List Char) :
    pass params position s =
      match tokens position s with
      | .ok ts => .ok (ts.flatMap (Token.fill params))
      | .error e => .error (.malformed e) := by
  rw [pass]
  cases hfind : findByte? isMarker s with
  | none =>
    have hread := tokens_append (Text.findByte?_eq_none_iff.mp hfind) position []
    rw [List.append_nil, tokens_nil] at hread
    rw [hread]
    simp [Except.map, List.flatMap_map, Token.fill, Token.written]
  | some start =>
    obtain ⟨copied, c, rest, rfl, hcopied, hc, rfl⟩ := Text.findByte?_eq_some_iff.mp hfind
    have hturn := agrees_turn params (position + byteLength copied) hc rest
    dsimp only
    rw [Text.cutAtByte?_append, tokens_append hcopied]
    dsimp only
    generalize turn params (position + byteLength copied) (c :: rest) = outcome at hturn ⊢
    cases hturn with
    | fails e h =>
      rw [h]
      rfl
    | takes t token behind h =>
      have hcut : cutAtByte? (byteLength copied + t.length) (copied ++ c :: rest) =
          some (copied ++ token.written, behind) := by
        rw [Text.cutAtByte?_eq_some_iff, h.text_eq, h.length_eq, List.append_assoc]
        exact ⟨rfl, Text.byteLength_append _ _⟩
      have hshorter : behind.length < (copied ++ c :: rest).length :=
        Text.length_lt_of_cutAtByte? (Nat.add_pos_right _ t.length_pos) hcut
      dsimp only
      split
      · next hnone =>
        rw [hcut] at hnone
        cases hnone
      · next hsome =>
        rw [hcut] at hsome
        cases hsome
        rw [pass_eq params _ behind, h.tokens_eq, h.written_eq]
        cases tokens (position + byteLength copied + t.length) behind with
        | error e => rfl
        | ok ts => simp [Except.map, List.flatMap_map, Token.fill, Token.written]
termination_by s.length

/-- Every cut of a pass falls between two characters. -/
theorem pass_ne_badCut (params : Dict String) (position : Nat) (s : List Char) :
    pass params position s ≠ .error .badCut := by
  rw [pass_eq]
  split
  · simp
  · simp

/-- The text of a template with the parameters put in. -/
def expand (template : String) (params : Dict String) : Except TemplateError String :=
  match h : pass params 0 template.toList with
  | .ok text => .ok (String.ofList text)
  | .error (.malformed e) => .error e
  | .error .badCut => (pass_ne_badCut _ _ _ h).elim

/-- A template stands for its tokens with the parameters put in. -/
theorem expand_eq (template : String) (params : Dict String) :
    expand template params =
      (tokens 0 template.toList).map fun ts ↦ String.ofList (ts.flatMap (Token.fill params)) := by
  have hpass := pass_eq params 0 template.toList
  rw [expand]
  split
  · next text h =>
    rw [h] at hpass
    cases htokens : tokens 0 template.toList with
    | error e =>
      rw [htokens] at hpass
      cases hpass
    | ok ts =>
      rw [htokens] at hpass
      rw [Except.ok.inj hpass]
      rfl
  · next e h =>
    rw [h] at hpass
    cases htokens : tokens 0 template.toList with
    | error e' =>
      rw [htokens] at hpass
      cases hpass
      rfl
    | ok ts =>
      rw [htokens] at hpass
      cases hpass
  · next h => exact absurd h (pass_ne_badCut _ _ _)

end ContainerBuild.Template
