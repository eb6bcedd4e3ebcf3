import ContainerBuild.Proofs.Script.Lines
import ContainerBuild.Proofs.Text.Hex

/-!
# What the text of a script keeps

An instruction whose arguments stay on one line is a line that is never empty, and its keyword ends
at the first space. Empty lines stand only where the stage changes. So all of a script can be read
in its text but which of the two stages its first instruction is in: `render_eq_iff` says that
only the script with its stages exchanged has the same text.
-/

namespace ContainerBuild

/-- Two sequences of bytes are different and have the same hash. -/
structure Blake3.IsCollision (a b : List UInt8) : Prop where
  ne : a ≠ b
  hash_eq : Blake3.hash a = Blake3.hash b

/-! ## Stages and instructions -/

/-- The stage that is not this one. -/
def Stage.other : Stage → Stage
  | .builder => .runtime
  | .runtime => .builder

/-- There are two stages. -/
theorem Stage.eq_other_iff {a b : Stage} : b = a.other ↔ b ≠ a := by
  cases a <;> cases b <;> decide

/-- Exchanging the stages keeps them apart. -/
theorem Stage.other_inj {a b : Stage} : a.other = b.other ↔ a = b := by
  cases a <;> cases b <;> decide

/-- Reads a keyword. -/
def Keyword.ofName? (name : String) : Option Keyword :=
  [Keyword.from, .run, .env, .copy, .add, .user, .entrypoint, .cmd, .label].find? (·.name = name)

/-- A keyword is read from its name. -/
theorem Keyword.ofName?_name (k : Keyword) : ofName? k.name = some k := by
  cases k <;> decide

private theorem Keyword.space_not_mem_name (k : Keyword) : ' ' ∉ k.name.toList := by
  cases k <;> decide

namespace Instruction

variable {i j : Instruction}

/-- The line of an instruction is divided at its first space. -/
theorem splitOnce_render (i : Instruction) :
    Text.splitOnce ' ' i.render = some (i.keyword.name, i.args) := by
  refine Text.splitOnce_eq_some_iff.mpr ⟨i.keyword.space_not_mem_name, ?_⟩
  rw [render, String.toList_append, String.toList_append, List.append_assoc]
  rfl

private theorem render_ne_empty (i : Instruction) : i.render ≠ "" := by
  intro h
  have hsplit := i.splitOnce_render
  rw [h] at hsplit
  cases hsplit

/-- The line of an instruction gives back its keyword and its arguments. -/
theorem eq_of_render_eq (h : i.render = j.render) : i.keyword = j.keyword ∧ i.args = j.args := by
  have hsplit := i.splitOnce_render
  rw [h, j.splitOnce_render, Option.some.injEq, Prod.mk.injEq] at hsplit
  have hkeyword := congrArg Keyword.ofName? hsplit.1
  rw [Keyword.ofName?_name, Keyword.ofName?_name] at hkeyword
  exact ⟨(Option.some.inj hkeyword).symm, hsplit.2.symm⟩

/-- The line and the stage of an instruction are all of it. -/
theorem eq_of_render_eq_of_stage_eq (h : i.render = j.render) (hstage : i.stage = j.stage) :
    i = j := by
  obtain ⟨stage, keyword, args⟩ := i
  obtain ⟨hkeyword, hargs⟩ := eq_of_render_eq h
  subst hstage hkeyword hargs
  rfl

end Instruction

namespace Script

open Text (IsOneLine)

variable {s t : Script}

/-- The stage of the first instruction. -/
def firstStage? (s : Script) : Option Stage := s.head?.map (·.stage)

/-- Whether the stage changes behind the instruction at a place. -/
def ChangesStage (s : Script) (n : Nat) : Prop :=
  ∃ i j, s[n]? = some i ∧ s[n + 1]? = some j ∧ i.stage ≠ j.stage

/-- Two scripts are the same but for the names of their stages. -/
structure AgreesUpToStages (s t : Script) : Prop where
  length_eq : s.length = t.length
  step_eq : ∀ n (hs : n < s.length) (ht : n < t.length),
    s[n].keyword = t[n].keyword ∧ s[n].args = t[n].args
  changesStage_iff : ∀ n, s.ChangesStage n ↔ t.ChangesStage n

/-- A script with its stages exchanged. -/
def swapStages (s : Script) : Script := s.map fun i ↦ { i with stage := i.stage.other }

/-! ## Lines -/

private theorem eq_of_linesAfter_cons {a : Stage} {i j : Instruction}
    (h : linesAfter (some a) (i :: s) = linesAfter (some a) (j :: t)) :
    i = j ∧ linesAfter (some i.stage) s = linesAfter (some j.stage) t := by
  simp only [linesAfter, Option.any_some, decide_eq_true_eq] at h
  -- no line of an instruction is empty, so an empty line shows that the stage changes
  by_cases hi : a ≠ i.stage <;> by_cases hj : a ≠ j.stage
  · rw [if_pos hi, if_pos hj, List.cons.injEq, List.cons.injEq] at h
    have hstage : i.stage = j.stage :=
      (Stage.eq_other_iff.mpr hi.symm).trans (Stage.eq_other_iff.mpr hj.symm).symm
    exact ⟨Instruction.eq_of_render_eq_of_stage_eq h.2.1 hstage, h.2.2⟩
  · rw [if_pos hi, if_neg hj, List.cons.injEq] at h
    exact absurd h.1.symm j.render_ne_empty
  · rw [if_neg hi, if_pos hj, List.cons.injEq] at h
    exact absurd h.1 i.render_ne_empty
  · rw [if_neg hi, if_neg hj, List.cons.injEq] at h
    have hstage : i.stage = j.stage := (not_not.mp hi).symm.trans (not_not.mp hj)
    exact ⟨Instruction.eq_of_render_eq_of_stage_eq h.1 hstage, h.2⟩

private theorem eq_of_linesAfter {a : Stage} (h : linesAfter (some a) s = linesAfter (some a) t) :
    s = t := by
  have hne (b : Stage) (i : Instruction) (rest : Script) :
      linesAfter (some b) (i :: rest) ≠ [] := by
    rw [linesAfter]
    split <;> exact List.cons_ne_nil _ _
  induction s generalizing a t with
  | nil =>
    cases t with
    | nil => rfl
    | cons j t => exact absurd h.symm (hne a j t)
  | cons i s ih =>
    cases t with
    | nil => exact absurd h (hne a i s)
    | cons j t =>
      obtain ⟨rfl, hrest⟩ := eq_of_linesAfter_cons h
      rw [ih hrest]

private theorem linesAfter_swapStages (s : Script) (previous : Option Stage) :
    linesAfter (previous.map Stage.other) (swapStages s) = linesAfter previous s := by
  induction s generalizing previous with
  | nil => rfl
  | cons i s ih =>
    have hrest : linesAfter (some i.stage.other) (swapStages s) = linesAfter (some i.stage) s :=
      ih (some i.stage)
    have hbreak : (previous.map Stage.other).any (· ≠ i.stage.other) =
        previous.any (· ≠ i.stage) := by
      cases previous <;> simp [Stage.other_inj]
    have hcons : swapStages (i :: s) = { i with stage := i.stage.other } :: swapStages s := rfl
    rw [hcons, linesAfter, linesAfter, hrest, hbreak]
    rfl

private theorem lines_cons (i : Instruction) (s : Script) :
    lines (i :: s) = i.render :: linesAfter (some i.stage) s := rfl

/-- The scripts with the lines of a script are the script itself and the one with its stages
exchanged. -/
theorem lines_eq_iff : s.lines = t.lines ↔ t = s ∨ t = swapStages s := by
  constructor
  · intro h
    cases s with
    | nil =>
      cases t with
      | nil => exact .inl rfl
      | cons j t => cases h
    | cons i s =>
      cases t with
      | nil => cases h
      | cons j t =>
        rw [lines_cons, lines_cons, List.cons.injEq] at h
        by_cases hstage : j.stage = i.stage
        · rw [hstage] at h
          rw [Instruction.eq_of_render_eq_of_stage_eq h.1 hstage.symm, eq_of_linesAfter h.2]
          exact .inl rfl
        · obtain ⟨stage, keyword, args⟩ := j
          obtain ⟨hkeyword, hargs⟩ := Instruction.eq_of_render_eq h.1
          obtain rfl : stage = i.stage.other := Stage.eq_other_iff.mpr hstage
          have hswapped := linesAfter_swapStages s (some i.stage)
          obtain rfl : t = swapStages s := eq_of_linesAfter (h.2.symm.trans hswapped.symm)
          subst hkeyword hargs
          exact .inr rfl
  · rintro (rfl | rfl)
    · rfl
    · exact (linesAfter_swapStages s none).symm

/-! ## Texts -/

private theorem of_mem_linesAfter {previous : Option Stage} {line : String}
    (h : line ∈ linesAfter previous s) : line = "" ∨ ∃ i ∈ s, line = i.render := by
  induction s generalizing previous with
  | nil => cases h
  | cons i s ih =>
    have hrest (h : line ∈ i.render :: linesAfter (some i.stage) s) :
        line = "" ∨ ∃ j ∈ i :: s, line = j.render := by
      rcases List.mem_cons.mp h with h | h
      · exact .inr ⟨i, List.mem_cons_self, h⟩
      · exact (ih h).imp_right fun ⟨j, hj, hline⟩ ↦ ⟨j, List.mem_cons_of_mem _ hj, hline⟩
    rw [linesAfter] at h
    split at h
    · exact (List.mem_cons.mp h).elim .inl hrest
    · exact hrest h

private theorem isOneLine_of_mem_lines (hs : ∀ i ∈ s, IsOneLine i.args) :
    ∀ line ∈ s.lines, IsOneLine line := by
  intro line hline
  rcases of_mem_linesAfter hline with rfl | ⟨i, hi, rfl⟩
  · decide
  · exact (isOneLine_render i).mpr (hs i hi)

/-- The scripts with the text of a script are the script itself and the one with its stages
exchanged, as long as every instruction stays on one line. -/
theorem render_eq_iff (hs : ∀ i ∈ s, IsOneLine i.args) (ht : ∀ i ∈ t, IsOneLine i.args) :
    s.render = t.render ↔ t = s ∨ t = swapStages s := by
  have hlines {s : Script} (h : ∀ i ∈ s, IsOneLine i.args) :
      Text.splitOn '\n' s.render = s.lines ++ [""] :=
    Text.splitOn_join_iff.mpr (isOneLine_of_mem_lines h)
  rw [← lines_eq_iff]
  constructor
  · intro h
    have hsplit := hlines hs
    rw [h, hlines ht] at hsplit
    exact (List.append_cancel_right hsplit).symm
  · intro h
    rw [render, h, render]

/-! ## What is kept -/

/-- A script agrees with itself. -/
theorem AgreesUpToStages.refl (s : Script) : s.AgreesUpToStages s :=
  ⟨rfl, fun _ _ _ ↦ ⟨rfl, rfl⟩, fun _ ↦ Iff.rfl⟩

private theorem changesStage_swapStages {n : Nat} :
    ChangesStage (swapStages s) n ↔ ChangesStage s n := by
  simp only [ChangesStage, swapStages, List.getElem?_map, Option.map_eq_some_iff]
  constructor
  · rintro ⟨_, _, ⟨i, hi, rfl⟩, ⟨j, hj, rfl⟩, hne⟩
    exact ⟨i, j, hi, hj, fun h ↦ hne (Stage.other_inj.mpr h)⟩
  · rintro ⟨i, j, hi, hj, hne⟩
    exact ⟨_, _, ⟨i, hi, rfl⟩, ⟨j, hj, rfl⟩, fun h ↦ hne (Stage.other_inj.mp h)⟩

private theorem agreesUpToStages_swapStages (s : Script) : s.AgreesUpToStages (swapStages s) where
  length_eq := (List.length_map _).symm
  step_eq n _ _ := by simp [swapStages]
  changesStage_iff _ := changesStage_swapStages.symm

private theorem swapStages_eq_self (h : firstStage? (swapStages s) = firstStage? s) :
    swapStages s = s := by
  cases s with
  | nil => rfl
  | cons i s => exact absurd (Option.some.inj h).symm (Stage.eq_other_iff.mp rfl).symm

/-- Scripts have the same digest when they have the same text or their texts are a collision. -/
theorem digest_eq_iff : s.digest = t.digest ↔
    s.render = t.render ∨ Blake3.IsCollision (Text.utf8 s.render) (Text.utf8 t.render) := by
  have hdigest : s.digest = t.digest ↔
      Blake3.hash (Text.utf8 s.render) = Blake3.hash (Text.utf8 t.render) := by
    rw [digest, digest, String.append_right_inj, Text.hexBytes_injective.eq_iff,
      Text.toList_toUTF8, Text.toList_toUTF8]
  rw [hdigest]
  constructor
  · intro h
    by_cases htext : s.render = t.render
    · exact .inl htext
    · exact .inr ⟨fun hbytes ↦ htext (Text.utf8_injective hbytes), h⟩
  · rintro (h | h)
    · rw [h]
    · exact h.hash_eq

/-- Two scripts with the same text, whose instructions all stay on one line, have as many
instructions, with the same keyword and arguments at every place, and their stage changes at the
same places; when they start in the same stage, they are the same script. Of the digest this holds
up to a collision of the hash. -/
theorem agreesUpToStages_of_render_eq (hs : ∀ i ∈ s, '\n' ∉ i.args.toList)
    (ht : ∀ i ∈ t, '\n' ∉ i.args.toList) :
    (s.render = t.render → s.AgreesUpToStages t) ∧
      (s.render = t.render → s.firstStage? = t.firstStage? → s = t) ∧
      (s.digest = t.digest → s.AgreesUpToStages t ∨
        Blake3.IsCollision (Text.utf8 s.render) (Text.utf8 t.render)) ∧
      (s.digest = t.digest → s.firstStage? = t.firstStage? → s = t ∨
        Blake3.IsCollision (Text.utf8 s.render) (Text.utf8 t.render)) := by
  have hagrees (h : s.render = t.render) : s.AgreesUpToStages t := by
    rcases (render_eq_iff hs ht).mp h with rfl | rfl
    · exact .refl t
    · exact agreesUpToStages_swapStages s
  have hsame (h : s.render = t.render) (hfirst : s.firstStage? = t.firstStage?) : s = t := by
    rcases (render_eq_iff hs ht).mp h with rfl | rfl
    · rfl
    · exact (swapStages_eq_self hfirst.symm).symm
  refine ⟨hagrees, hsame, fun h ↦ ?_, fun h hfirst ↦ ?_⟩
  · exact (digest_eq_iff.mp h).imp_left hagrees
  · exact (digest_eq_iff.mp h).imp_left fun htext ↦ hsame htext hfirst

/-- An instruction without arguments, one whose arguments look like another instruction, and a
stage that is entered twice. -/
theorem agreesUpToStages_of_render_eq_exchanged :
    let s : Script := [⟨.builder, .run, ""⟩, ⟨.builder, .run, "RUN "⟩, ⟨.runtime, .env, "A=1"⟩,
      ⟨.builder, .run, ""⟩]
    let t : Script := [⟨.runtime, .run, ""⟩, ⟨.runtime, .run, "RUN "⟩, ⟨.builder, .env, "A=1"⟩,
      ⟨.runtime, .run, ""⟩]
    s.render = "RUN \nRUN RUN \n\nENV A=1\n\nRUN \n" ∧ s.render = t.render ∧ s ≠ t ∧
      s.AgreesUpToStages t := by
  intro s t
  have hrender : s.render = t.render := by decide
  refine ⟨by decide, hrender, by decide, ?_⟩
  exact (agreesUpToStages_of_render_eq (s := s) (t := t) (by decide) (by decide)).1 hrender

end Script

end ContainerBuild
