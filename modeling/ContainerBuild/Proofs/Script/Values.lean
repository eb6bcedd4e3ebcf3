import ContainerBuild.Proofs.Quote.Reading
import ContainerBuild.Proofs.Script.Layout
import ContainerBuild.Proofs.Template.Reading

/-!
# The values of the environment and of the labels

A value of the image is written from a template in two passes: parameters are put in, and what comes
out is quoted. The second pass does not know where a parameter begins and ends. What is read in the
quoted value is nevertheless what the tokens of the template mean, one after the other, unless a
backslash that belongs to one of them comes to stand before a dollar: the two are then read as an
escaped dollar, and the backslash is lost.
-/

namespace ContainerBuild

namespace Template

open Quote (Glyph)

variable {params : Dict String} {token : Token} {ts : List Token}

/-- The value of the parameter that a token refers to. -/
def Token.parameter? (params : Dict String) : Token → Option (List Char)
  | .bare name => value? params name
  | .braced name _ => value? params name
  | _ => none

/-- What a token means when no parameter is put in. A backslash before a dollar escapes it, in a
default too; a reference stays one. -/
def Token.own : Token → List Glyph
  | .escapedDollar => [.char '$']
  | .braced _ (some fallback) => Quote.meant fallback
  | token => token.written.map .plain

/-- What a token means, where the characters of a parameter are shown in a given way. -/
def Token.meaning (shown : Char → Glyph) (params : Dict String) (token : Token) : List Glyph :=
  match token.parameter? params with
  | some value => value.map shown
  | none => token.own

private theorem flatMap_written_map_plain (s : List Char) :
    (s.map Glyph.plain).flatMap Glyph.written = s := by
  simp [List.flatMap_map]

private theorem flatMap_written_meaning (params : Dict String) (token : Token) :
    (token.meaning .plain params).flatMap Glyph.written = token.fill params := by
  cases token with
  | literal c => exact flatMap_written_map_plain [c]
  | escapedDollar => rfl
  | bare name =>
    rw [Token.meaning, Token.parameter?, Token.fill]
    cases value? params name <;> exact flatMap_written_map_plain _
  | braced name fallback =>
    rw [Token.meaning, Token.parameter?]
    cases fallback with
    | none =>
      rw [Token.fill]
      cases value? params name <;> exact flatMap_written_map_plain _
    | some fallback =>
      rw [Token.fill]
      cases value? params name with
      | none => exact Quote.flatMap_written_meant fallback
      | some value => exact flatMap_written_map_plain value

private theorem length_meaning (shown shown' : Char → Glyph) (params : Dict String)
    (token : Token) :
    (token.meaning shown params).length = (token.meaning shown' params).length := by
  rw [Token.meaning, Token.meaning]
  split
  · rw [List.length_map, List.length_map]
  · rfl

private theorem meaning_eq_iff : token.meaning .plain params = token.meaning .char params ↔
    ∀ value ∈ token.parameter? params, '$' ∉ value := by
  have hshown (c : Char) : Glyph.plain c = .char c ↔ c ≠ '$' := by
    rw [Glyph.plain]
    split
    · next h => simp [h]
    · next h => simp [h]
  rw [Token.meaning, Token.meaning]
  cases token.parameter? params with
  | none => simp
  | some value =>
    simp only [List.map_inj_left, hshown, Option.mem_some_iff, forall_eq']
    exact ⟨fun h hmem ↦ h '$' hmem rfl, fun h c hc he ↦ h (he ▸ hc)⟩

private theorem flatMap_eq_iff {f g : Token → List Glyph}
    (h : ∀ token, (f token).length = (g token).length) :
    ts.flatMap f = ts.flatMap g ↔ ∀ token ∈ ts, f token = g token := by
  induction ts with
  | nil => simp
  | cons token ts ih =>
    rw [List.flatMap_cons, List.flatMap_cons, List.forall_mem_cons, ← ih]
    exact ⟨fun heq ↦ List.append_inj heq (h token), fun ⟨hfirst, hrest⟩ ↦ by rw [hfirst, hrest]⟩

end Template

namespace Script

open Quote (Glyph)

variable {c : Config} {params : Dict String} {script : Script} {keyword : Keyword}
  {key template : String}

/-- The templates of the runtime stage, each with the keyword of its instruction and its key. -/
def runtimeTemplates (c : Config) : List (Keyword × String × String) :=
  c.env.entries.map (.env, ·) ++ (defaultLabels.merge c.labels).entries.map (.label, ·)

private theorem exists_assignment_mem (h : compileStage c params .runtime = .ok script)
    (hentry : (keyword, key, template) ∈ runtimeTemplates c) :
    ∃ text, Template.expand template params = .ok text ∧
      ⟨.runtime, keyword, key ++ "=" ++ Quote.value text⟩ ∈ script := by
  obtain ⟨env, labels, henv, hlabels, rfl⟩ := compileStage_runtime_eq_ok_iff.mp h
  rw [envSteps, assignments_eq_ok_iff] at henv
  rw [labelSteps, assignments_eq_ok_iff] at hlabels
  have hlayout : ∀ step ∈ env ++ labels, step ∈ runtimeLayout c env labels := by
    intro step hstep
    rw [runtimeLayout, List.append_assoc _ env labels]
    exact List.mem_append_left _ (List.mem_append_right _ hstep)
  have hstep : ∃ text, Template.expand template params = .ok text ∧
      (keyword, assignment key text) ∈ env ++ labels := by
    rcases List.mem_append.mp hentry with hentry | hentry
    · obtain ⟨entry, hmem, heq⟩ := List.mem_map.mp hentry
      cases heq
      obtain ⟨text, hexpand, hstep⟩ := exists_mem_of_isAssigned henv hmem
      exact ⟨text, hexpand, List.mem_append_left _ hstep⟩
    · obtain ⟨entry, hmem, heq⟩ := List.mem_map.mp hentry
      cases heq
      obtain ⟨text, hexpand, hstep⟩ := exists_mem_of_isAssigned hlabels hmem
      exact ⟨text, hexpand, List.mem_append_right _ hstep⟩
  obtain ⟨text, hexpand, hstep⟩ := hstep
  exact ⟨text, hexpand, List.mem_map_of_mem (hlayout _ hstep)⟩

private theorem meant_flatMap_fill_iff (params : Dict String) (ts : List Template.Token) :
    (Quote.meant (ts.flatMap (Template.Token.fill params)) =
        ts.flatMap (Template.Token.meaning .plain params) ↔
      ¬ Quote.Collides (ts.flatMap (Template.Token.meaning .plain params))) ∧
    (Quote.meant (ts.flatMap (Template.Token.fill params)) =
        ts.flatMap (Template.Token.meaning .char params) ↔
      ¬ Quote.Collides (ts.flatMap (Template.Token.meaning .plain params)) ∧
        ∀ token ∈ ts, ∀ value ∈ token.parameter? params, '$' ∉ value) := by
  have hfill : ts.flatMap (Template.Token.fill params) =
      (ts.flatMap (Template.Token.meaning .plain params)).flatMap Glyph.written := by
    rw [List.flatMap_assoc]
    exact List.flatMap_congr fun token _ ↦ (Template.flatMap_written_meaning params token).symm
  have hshown := @Template.flatMap_eq_iff ts _ _ (Template.length_meaning .plain .char params)
  have hlength : (ts.flatMap (Template.Token.meaning .char params)).length =
      (ts.flatMap (Template.Token.meaning .plain params)).length := by
    rw [List.length_flatMap, List.length_flatMap]
    simp only [Template.length_meaning .char .plain]
  simp only [Template.meaning_eq_iff] at hshown
  rw [hfill, ← hshown]
  generalize ts.flatMap (Template.Token.meaning .plain params) = gs at hlength ⊢
  obtain ⟨hsame, hfewer⟩ := Quote.meant_flatMap_written gs
  constructor
  · refine ⟨fun heq hcollides ↦ ?_, hsame⟩
    have := hfewer hcollides
    rw [heq] at this
    omega
  · constructor
    · intro heq
      have hnot : ¬ Quote.Collides gs := by
        intro hcollides
        have := hfewer hcollides
        rw [heq] at this
        omega
      exact ⟨hnot, (hsame hnot).symm.trans heq⟩
    · rintro ⟨hnot, heq⟩
      rw [hsame hnot, heq]

/-- A template of the runtime stage is written by an instruction as its key and a quoted value. In
it is read the text of the template with the parameters put in, where a backslash right before a
dollar escapes it and is gone. That is what the tokens of the template mean, one after the other,
with each backslash and dollar an escaped dollar, each parameter as its value and each reference
that is left still one, exactly when nothing in this sequence collides: no backslash comes to stand
right before a dollar that is not escaped. The dollars of parameters are escaped too exactly when
there are none. -/
theorem read_assignment_iff (h : compileStage c params .runtime = .ok script)
    (hentry : (keyword, key, template) ∈ runtimeTemplates c) :
    ∃ ts text, Template.Reads template.toList ts ∧ Template.expand template params = .ok text ∧
      ⟨.runtime, keyword, key ++ "=" ++ Quote.value text⟩ ∈ script ∧
      Quote.read? (Quote.value text).toList = some (Quote.meant text.toList) ∧
      (Quote.meant text.toList = ts.flatMap (Template.Token.meaning .plain params) ↔
        ¬ Quote.Collides (ts.flatMap (Template.Token.meaning .plain params))) ∧
      (Quote.meant text.toList = ts.flatMap (Template.Token.meaning .char params) ↔
        ¬ Quote.Collides (ts.flatMap (Template.Token.meaning .plain params)) ∧
          ∀ token ∈ ts, ∀ value ∈ token.parameter? params, '$' ∉ value) := by
  obtain ⟨text, hexpand, hmem⟩ := exists_assignment_mem h hentry
  obtain ⟨ts, hreads⟩ := Template.exists_reads template.toList
  refine ⟨ts, text, hreads, hexpand, hmem, Quote.read?_value text, ?_⟩
  rw [hreads.toList_expand hexpand]
  exact meant_flatMap_fill_iff params ts

/-- An escaped dollar, a parameter with quotes and a backslash, a default with an escaped dollar,
and a reference that is left. -/
theorem read_assignment_iff_mixed :
    let template := "\\$5 $A$\x7bB:-c\\$d\x7d $HOME"
    let c : Config := { name := "app", pythonVersion := "3.12", env := .ofList [("V", template)] }
    let params : Dict String := .ofList [("A", "say \"hi\" \\ ")]
    (.env, "V", template) ∈ runtimeTemplates c ∧
      ∃ script, compileStage c params .runtime = .ok script ∧
      ∃ text, ⟨.runtime, .env, "V=" ++ Quote.value text⟩ ∈ script ∧
        Quote.read? (Quote.value text).toList =
          some ([.char '$', .char '5', .char ' '] ++ "say \"hi\" \\ ".toList.map .char ++
            [.char 'c', .char '$', .char 'd', .char ' ', .dollar] ++ "HOME".toList.map .char) := by
  intro template c params
  have hentry : (.env, "V", template) ∈ runtimeTemplates c := by decide +kernel
  have hsome : (compileStage c params .runtime).toOption.isSome = true := by decide +kernel
  have htokens : Template.tokens 0 template.toList =
      .ok [.escapedDollar, .literal '5', .literal ' ', .bare ['A'],
        .braced ['B'] (some "c\\$d".toList), .literal ' ', .bare "HOME".toList] := by
    decide +kernel
  obtain ⟨script, hs⟩ := exists_eq_ok_of_isSome hsome
  obtain ⟨ts, text, hreads, -, hmem, hread, -, hiff⟩ := read_assignment_iff hs hentry
  rw [hreads.eq_of_tokens htokens] at hiff
  refine ⟨hentry, script, hs, text, hmem, ?_⟩
  rw [hread, hiff.mpr (by decide +kernel)]
  decide +kernel

/-- A backslash at the end of a parameter makes a dollar of the reference behind it. -/
theorem meant_ne_of_collides :
    let template := "$DIR$HOME"
    let c : Config := { name := "a", pythonVersion := "3.13", env := .ofList [("V", template)] }
    let params : Dict String := .ofList [("DIR", "C:\\")]
    (.env, "V", template) ∈ runtimeTemplates c ∧
      Template.tokens 0 template.toList = .ok [.bare "DIR".toList, .bare "HOME".toList] ∧
      Template.expand template params = .ok "C:\\$HOME" ∧
      (compileStage c params .runtime).toOption.any
        (⟨.runtime, .env, "V=\"C:\\$HOME\""⟩ ∈ ·) = true ∧
      Quote.read? "\"C:\\$HOME\"".toList = some ("C:$HOME".toList.map .char) ∧
      [Template.Token.bare "DIR".toList, .bare "HOME".toList].flatMap
          (Template.Token.meaning .plain params) =
        "C:\\".toList.map .char ++ .dollar :: "HOME".toList.map .char ∧
      "C:$HOME".toList.map Glyph.char ≠
        "C:\\".toList.map .char ++ .dollar :: "HOME".toList.map .char := by
  decide +kernel

end Script

end ContainerBuild
