import ContainerBuild.Proofs.Version.Choice
import ContainerBuild.Proofs.Version.Layout
import ContainerBuild.Version.Shorthand

/-!
# Releases within their bounds

A range ends where a release is cut and its last number is raised. Here each step of this is
guarded: it has no result where a length would be negative, where a place is not in the release, or
where a number has no room to be raised. A release that has been read has enough numbers for every
step. So a guarded computation gives what the plain one gives, whatever the text is, and only the
largest number can stop it.
-/

namespace ContainerBuild

open Text (trimChars)

/-- Why a guarded computation has no result. -/
inductive Fault where
  /-- A length would be negative. -/
  | underflow
  /-- A place is not in the release. -/
  | outOfBounds
  /-- A number has no room to be raised. -/
  | overflow
deriving DecidableEq, Repr

/-! ## What has been read -/

namespace Clause

private theorem isWellFormed_of_parse {token : List Char} {c : Clause} (h : parse token = .ok c) :
    c.IsWellFormed := by
  simp only [parse] at h
  split at h
  · cases h
  · split at h
    · cases h
    · split at h
      · cases h
      · next r hr =>
        split at h
        · cases h
        · next hwildcard =>
          split at h
          · cases h
          · next hlength =>
            cases h
            refine ⟨Release.isWritable_of_parse hr, by simpa using hwildcard, fun hc ↦ ?_⟩
            by_contra hlt
            exact hlength ⟨hc, Nat.lt_of_not_le hlt⟩

end Clause

namespace Constraint

/-- No number of a constraint is the largest one. -/
def HasRoom (c : Constraint) : Prop := ∀ clause ∈ c.clauses, clause.release.HasRoom

private theorem isWellFormed_of_mem_clausesOf {tokens : List (List Char)} {clauses : List Clause}
    (h : clausesOf tokens = .ok clauses) : ∀ clause ∈ clauses, clause.IsWellFormed := by
  induction tokens generalizing clauses with
  | nil =>
    cases h
    exact List.forall_mem_nil _
  | cons token rest ih =>
    by_cases hstar : token = ['*']
    · rw [clausesOf, if_pos hstar] at h
      exact ih h
    · obtain ⟨clause, tail, hclause, htail, rfl⟩ := (clausesOf_cons_eq_ok_iff hstar).mp h
      exact List.forall_mem_cons.mpr ⟨Clause.isWellFormed_of_parse hclause, ih htail⟩

/-- The clauses of a constraint that has been read are well formed. -/
theorem isWellFormed_of_mem_clauses {text : String} {c : Constraint} (h : parse text = .ok c) :
    ∀ clause ∈ c.clauses, clause.IsWellFormed := by
  simp only [parse] at h
  split at h
  · next clauses hclauses =>
    cases h
    exact isWellFormed_of_mem_clausesOf hclauses
  · cases h

end Constraint

namespace Guarded

/-! ## Guarded computations -/

/-- A length without a part of it. -/
def subtract (length part : Nat) : Except Fault Nat :=
  if part ≤ length then .ok (length - part) else .error .underflow

/-- The first numbers of a release. -/
def front (count : Nat) (r : Release) : Except Fault Release :=
  if count ≤ r.length then .ok (r.take count) else .error .outOfBounds

/-- The number after another. -/
def successor (n : Nat) : Except Fault Nat :=
  if n < Release.componentLimit then .ok (n + 1) else .error .overflow

/-- The release with the number at a place raised. -/
def raise (i : Nat) (r : Release) : Except Fault Release :=
  match r[i]? with
  | none => .error .outOfBounds
  | some n => do return r.set i (← successor n)

/-- The end of a caret range. -/
def caretUpper (r : Release) : Except Fault Release := do
  -- the last place is computed even if another number is raised
  let last ← subtract r.length 1
  let i := (r.findIdx? (· ≠ 0)).getD last
  let upper ← raise i (← front (i + 1) r)
  return if upper.length < 2 then upper ++ [0] else upper

/-- The end of a tilde range. -/
def tildeUpper : Release → Except Fault Release
  | [] => return [0, 1]
  | [major] => do return [← successor major, 0]
  | major :: minor :: _ => do return [major, ← successor minor]

/-- Whether a version meets a clause. -/
def allows (c : Clause) (v : Version) : Except Fault Bool :=
  let bound := c.release.toVersion
  match c.comparison with
  | .compatible =>
    if bound ≤ v then do
      let count ← subtract c.release.length 1
      return Release.opens (← front count c.release) v
    else return false
  | .caret =>
    if bound ≤ v then do return decide (v < (← caretUpper c.release).toVersion) else return false
  | .tilde =>
    if bound ≤ v then do return decide (v < (← tildeUpper c.release).toVersion) else return false
  -- the other comparisons neither cut a release nor raise a number
  | _ => return c.allows v

/-- The range from a release up to a bound, or the piece itself if no release is written in it. -/
def range (upper : Release → Except Fault Release) (piece written : List Char) :
    Except Fault (List Char) :=
  match Release.parse (trimChars written) with
  | .ok release => do
    let bound ← upper release
    return ">=".toList ++ release.render.toList ++ ",<".toList ++ bound.render.toList
  | .error _ => return piece

/-- Expands one piece between commas. -/
def expandPiece : List Char → Except Fault (List Char)
  | '^' :: rest => range caretUpper ('^' :: rest) rest
  | '~' :: '=' :: rest => return '~' :: '=' :: rest
  | '~' :: rest => range tildeUpper ('~' :: rest) rest
  -- without a sign there is no range
  | piece => return Version.Shorthand.expandPiece piece

/-- The constraint without shorthand. -/
def expand (constraint : String) : Except Fault String := do
  let expanded ← (Version.Shorthand.pieces constraint.toList).mapM expandPiece
  return String.ofList ([','].intercalate expanded)

/-- Whether a version meets every clause of a constraint. -/
def meets (c : Constraint) (v : Version) : Except Fault Bool := c.clauses.allM (allows · v)

/-- Whether a written version can be read and is allowed. -/
def isAllowed (c : Constraint) (text : String) : Except Fault Bool :=
  match Version.parse text with
  | .ok v => meets c v
  | .error _ => return false

/-- What a readable constraint comes to: the first preferred version without a candidate, and else
the candidate. -/
def chosen (c : Constraint) (candidate : String) : Except Fault (Except VersionError String) :=
  if candidate = "" then do
    match ← Version.preferred.findM? (isAllowed c) with
    | some text => return .ok text
    | none => return .error (.unsatisfiable c.render)
  else
    match Version.parse candidate with
    | .error e => return .error e
    | .ok v => do
      if ← meets c v then return .ok candidate else return .error (.mismatch candidate c.render)

/-- The version text that a constraint and perhaps an explicit version lead to. -/
def choose (constraint : String) (explicit : Option String) :
    Except Fault (Except VersionError String) :=
  match Constraint.parse constraint with
  | .error e => return .error e
  | .ok c => chosen c (explicit.elim "" Text.firstLine)

/-- What cannot be read leaves its bounds. The largest number is not raised, and does not begin
again at zero. -/
example : caretUpper [] = .error .underflow ∧
    allows ⟨.compatible, [], false⟩ ⟨3, 9, 0⟩ = .error .underflow ∧
    caretUpper [0, Release.componentLimit] = .error .overflow ∧
    Release.caretUpper [0, Release.componentLimit] = [0, 0] := by
  decide

/-! ## Agreement with the plain computations -/

/-- How a guarded computation agrees with the plain one: it has the same result, and where there is
no room a number may be too large for it. -/
inductive Agrees {α : Type} (room : Prop) : Except Fault α → α → Prop where
  | same (plain : α) : Agrees room (.ok plain) plain
  | overflow (plain : α) (h : ¬room) : Agrees room (.error .overflow) plain

namespace Agrees

variable {α β : Type} {room room' : Prop} {x : Except Fault α} {a : α}

/-- With room the result is the plain one. -/
theorem eq_ok (h : Agrees room x a) (hroom : room) : x = .ok a := by
  cases h with
  | same => rfl
  | overflow _ hnone => exact absurd hroom hnone

/-- The only fault is that there is no room. -/
theorem eq_overflow (h : Agrees room x a) {fault : Fault} (hx : x = .error fault) :
    fault = .overflow := by
  cases h with
  | same => cases hx
  | overflow => exact (Except.error.inj hx).symm

/-- A stronger condition gives room as well. -/
theorem mono (hroom : room' → room) (h : Agrees room x a) : Agrees room' x a := by
  cases h with
  | same => exact .same a
  | overflow _ hnone => exact .overflow a fun h ↦ hnone (hroom h)

/-- Computations that agree one after the other agree together. -/
theorem bind {f : α → Except Fault β} {b : β} (hx : Agrees room x a) (hf : Agrees room (f a) b) :
    Agrees room (x >>= f) b := by
  cases hx with
  | same => exact hf
  | overflow _ hnone => exact .overflow b hnone

/-- Computations that agree for each item of a list agree for the list. -/
theorem mapM {f : α → Except Fault β} {g : α → β} {items : List α}
    (h : ∀ item ∈ items, Agrees room (f item) (g item)) :
    Agrees room (items.mapM f) (items.map g) := by
  induction items with
  | nil => exact .same []
  | cons item items ih =>
    obtain ⟨hitem, hrest⟩ := List.forall_mem_cons.mp h
    rw [List.mapM_cons, List.map_cons]
    exact hitem.bind ((ih hrest).bind (.same _))

private theorem allM {p : α → Except Fault Bool} {q : α → Bool} {items : List α}
    (h : ∀ item ∈ items, Agrees room (p item) (q item)) :
    Agrees room (items.allM p) (items.all q) := by
  induction items with
  | nil => exact .same true
  | cons item items ih =>
    obtain ⟨hitem, hrest⟩ := List.forall_mem_cons.mp h
    rw [List.allM, List.all_cons]
    refine hitem.bind ?_
    cases q item with
    | true => exact ih hrest
    | false => exact .same false

private theorem findM? {p : α → Except Fault Bool} {q : α → Bool} {items : List α}
    (h : ∀ item ∈ items, Agrees room (p item) (q item)) :
    Agrees room (items.findM? p) (items.find? q) := by
  induction items with
  | nil => exact .same none
  | cons item items ih =>
    obtain ⟨hitem, hrest⟩ := List.forall_mem_cons.mp h
    rw [List.findM?, List.find?_cons]
    refine hitem.bind ?_
    cases q item with
    | true => exact .same (some item)
    | false => exact ih hrest

end Agrees

variable {r : Release} {i n : Nat} {v : Version} {c : Clause} {piece written : List Char}

/-- A length has a shorter part. -/
theorem agrees_subtract {room : Prop} {length part : Nat} (h : part ≤ length) :
    Agrees room (subtract length part) (length - part) := by
  rw [subtract, if_pos h]
  exact .same _

/-- A release has its first numbers. -/
theorem agrees_front {room : Prop} {count : Nat} (h : count ≤ r.length) :
    Agrees room (front count r) (r.take count) := by
  rw [front, if_pos h]
  exact .same _

/-- A number of a release is raised when the release has room. -/
theorem agrees_successor (hn : n ∈ r) :
    Agrees r.HasRoom (successor n) (Release.successor n) := by
  rw [successor]
  by_cases h : n < Release.componentLimit
  · rw [if_pos h, Release.successor_eq h]
    exact .same _
  · rw [if_neg h]
    exact .overflow _ fun hroom ↦ h (hroom n hn)

/-- The number at a place of a release is raised when the release has room. -/
theorem agrees_raise (hi : i < r.length) :
    Agrees r.HasRoom (raise i r) (r.modify i Release.successor) := by
  rw [raise, List.getElem?_eq_getElem hi, List.modify_eq_set_get _ hi]
  exact (agrees_successor (List.getElem_mem hi)).bind (.same _)

private theorem caretIndex_lt (hne : r ≠ []) : r.caretIndex < r.length := by
  have hpos : 0 < r.length := List.length_pos_iff.mpr hne
  rw [Release.caretIndex]
  cases h : r.findIdx? (· ≠ 0) with
  | none =>
    rw [Option.getD_none]
    omega
  | some i =>
    obtain ⟨hi, -⟩ := List.findIdx?_eq_some_iff_getElem.mp h
    exact hi

/-- The end of a caret range needs a number, and room to raise it. -/
theorem agrees_caretUpper (hne : r ≠ []) : Agrees r.HasRoom (caretUpper r) r.caretUpper := by
  have hi := caretIndex_lt hne
  have hcut : r.caretIndex < (r.take (r.caretIndex + 1)).length := by
    rw [List.length_take]
    omega
  have hlast : Agrees r.HasRoom (subtract r.length 1) (r.length - 1) :=
    agrees_subtract (List.length_pos_iff.mpr hne)
  have hfront : Agrees r.HasRoom (front (r.caretIndex + 1) r) (r.take (r.caretIndex + 1)) :=
    agrees_front hi
  have hraise := (agrees_raise hcut).mono fun h : r.HasRoom ↦
    fun n hn ↦ h n (List.mem_of_mem_take hn)
  exact hlast.bind (hfront.bind (hraise.bind (.same _)))

/-- The end of a tilde range needs room to raise a number. -/
theorem agrees_tildeUpper (r : Release) : Agrees r.HasRoom (tildeUpper r) r.tildeUpper := by
  match r with
  | [] => exact .same _
  | [major] => exact (agrees_successor List.mem_cons_self).bind (.same _)
  | major :: minor :: rest =>
    have hmem : minor ∈ major :: minor :: rest := List.mem_cons_of_mem _ List.mem_cons_self
    exact (agrees_successor hmem).bind (.same _)

/-- What is asked of the versions from a release on needs what the question needs. -/
theorem agrees_from {room : Prop} {x : Except Fault Bool} {b : Bool} (h : Agrees room x b) :
    Agrees room (if r.toVersion ≤ v then x else return false)
      (decide (r.toVersion ≤ v) && b) := by
  by_cases hle : r.toVersion ≤ v
  · rw [if_pos hle, decide_eq_true hle, Bool.true_and]
    exact h
  · rw [if_neg hle, decide_eq_false hle, Bool.false_and]
    exact .same _

/-- A well-formed clause has the numbers that its comparison needs. -/
theorem agrees_allows (h : c.IsWellFormed) (v : Version) :
    Agrees c.release.HasRoom (allows c v) (c.allows v) := by
  obtain ⟨comparison, r, wildcard⟩ := c
  have hne : r ≠ [] := h.isWritable.ne_nil
  cases comparison with
  | compatible =>
    have htwo : 2 ≤ r.length := h.two_le_length rfl
    have hcount : Agrees r.HasRoom (subtract r.length 1) (r.length - 1) :=
      agrees_subtract (by omega)
    have hfront : Agrees r.HasRoom (front (r.length - 1) r) r.dropLast := by
      rw [List.dropLast_eq_take]
      exact agrees_front (Nat.sub_le _ _)
    exact agrees_from (hcount.bind (hfront.bind (.same _)))
  | caret => exact agrees_from ((agrees_caretUpper hne).bind (.same _))
  | tilde => exact agrees_from ((agrees_tildeUpper r).bind (.same _))
  | _ => exact .same _

/-! ## The choice of a version -/

/-- Whether a version meets a constraint that has been read is computed when it has room. -/
theorem agrees_meets {constraint : Constraint} (h : Constraint.parse text = .ok constraint)
    (v : Version) : Agrees constraint.HasRoom (meets constraint v) (constraint.allows v) := by
  apply Agrees.allM
  intro clause hclause
  have hform := Constraint.isWellFormed_of_mem_clauses h clause hclause
  exact (agrees_allows hform v).mono fun hroom ↦ hroom clause hclause

/-- Under a constraint with room a version is chosen. -/
theorem agrees_choose {constraint : Constraint} (h : Constraint.parse text = .ok constraint)
    (explicit : Option String) :
    Agrees constraint.HasRoom (choose text explicit) (Version.choose text explicit) := by
  have hallowed (known : String) : Agrees constraint.HasRoom (isAllowed constraint known)
      (Version.isAllowed constraint known) := by
    rw [isAllowed, Version.isAllowed]
    cases Version.parse known with
    | ok v => exact agrees_meets h v
    | error e => exact .same false
  have hchoose : choose text explicit = chosen constraint (explicit.elim "" Text.firstLine) := by
    rw [choose, h]
  rw [hchoose, chosen]
  split
  · next hline =>
    have hblank : ∀ asked ∈ explicit, Text.firstLine asked = "" := by
      rintro asked rfl
      exact hline
    rw [Version.choose_of_blank h hblank]
    refine (Agrees.findM? fun known _ ↦ hallowed known).bind ?_
    cases Version.preferred.find? (Version.isAllowed constraint) with
    | none => exact .same _
    | some known => exact .same _
  · next hline =>
    obtain ⟨asked, rfl⟩ : ∃ asked, explicit = some asked := by
      cases explicit with
      | none => exact absurd rfl hline
      | some asked => exact ⟨asked, rfl⟩
    rw [Version.choose_of_firstLine h hline]
    dsimp only [Option.elim]
    cases Version.parse (Text.firstLine asked) with
    | error e => exact .same _
    | ok v =>
      dsimp only
      refine (agrees_meets h v).bind ?_
      cases constraint.allows v with
      | true => exact .same _
      | false => exact .same _

/-! ## The expansion of shorthand -/

/-- The releases that the ranges of a constraint begin with. -/
def rangeReleases (s : List Char) : List Release :=
  (Version.Shorthand.pieces s).filterMap fun
    | '^' :: rest | '~' :: rest => (Release.parse (trimChars rest)).toOption
    | _ => none

/-- The text of a range needs what its end needs. -/
theorem agrees_range {upper : Release → Except Fault Release} {plain : Release → Release}
    {room : Prop} (h : ∀ r, Release.parse (trimChars written) = .ok r →
      Agrees room (upper r) (plain r)) :
    Agrees room (range upper piece written) (Version.Shorthand.range plain piece written) := by
  rw [range, Version.Shorthand.range]
  cases hr : Release.parse (trimChars written) with
  | ok r => exact (h r hr).bind (.same _)
  | error e => exact .same _

/-- A piece is expanded when the release of its range has room. -/
theorem agrees_expandPiece {s : List Char} (h : piece ∈ Version.Shorthand.pieces s) :
    Agrees (∀ r ∈ rangeReleases s, r.HasRoom) (expandPiece piece)
      (Version.Shorthand.expandPiece piece) := by
  have hrange {upper : Release → Except Fault Release} {plain : Release → Release}
      {sign : Char} {rest : List Char} (hsign : sign = '^' ∨ sign = '~')
      (hpiece : sign :: rest ∈ Version.Shorthand.pieces s)
      (hupper : ∀ r : Release, r ≠ [] → Agrees r.HasRoom (upper r) (plain r)) :
      Agrees (∀ r ∈ rangeReleases s, r.HasRoom) (range upper (sign :: rest) rest)
        (Version.Shorthand.range plain (sign :: rest) rest) := by
    apply agrees_range
    intro r hr
    apply (hupper r (Release.isWritable_of_parse hr).ne_nil).mono
    intro hroom
    apply hroom
    rw [rangeReleases, List.mem_filterMap]
    refine ⟨_, hpiece, ?_⟩
    rcases hsign with rfl | rfl <;> simp [hr, Except.toOption]
  unfold expandPiece
  split
  · next rest => exact hrange (.inl rfl) h fun _ hne ↦ agrees_caretUpper hne
  · exact .same _
  · next rest hrest =>
    rw [Version.Shorthand.expandPiece]
    · exact hrange (.inr rfl) h fun r _ ↦ agrees_tildeUpper r
    · exact hrest
  · exact .same _

/-- A constraint is expanded when the releases of its ranges have room. -/
theorem agrees_expand (text : String) :
    Agrees (∀ r ∈ rangeReleases text.toList, r.HasRoom) (expand text)
      (Version.Shorthand.expand text) :=
  (Agrees.mapM fun _ hpiece ↦ agrees_expandPiece hpiece).bind (.same _)

/-- For every text that is read as a constraint, each clause has one to three numbers, at least two
of them for a compatible release, and a wildcard only behind an equality or inequality sign. So
whether a version meets it is computed within the bounds of the release. The shorthand of every
text, whether it is read as a constraint or not, is expanded within the bounds of its releases as
well. Only the largest number cannot be raised, and where it does not occur the guarded results are
the plain ones. -/
theorem within_bounds (text : String) :
    (∀ c, Constraint.parse text = .ok c → ∀ clause ∈ c.clauses,
      (1 ≤ clause.release.length ∧ clause.release.length ≤ 3) ∧
      (clause.wildcard = true → clause.comparison = .equal ∨ clause.comparison = .unequal) ∧
      (clause.comparison = .compatible → 2 ≤ clause.release.length) ∧
      ∀ v, (∀ fault, allows clause v = .error fault → fault = .overflow) ∧
        (clause.release.HasRoom → allows clause v = .ok (clause.allows v))) ∧
    (∀ fault, expand text = .error fault → fault = .overflow) ∧
    ((∀ r ∈ rangeReleases text.toList, r.HasRoom) →
      expand text = .ok (Version.Shorthand.expand text)) := by
  have hexpand := agrees_expand text
  refine ⟨fun c hc clause hclause ↦ ?_, fun _ ↦ hexpand.eq_overflow, hexpand.eq_ok⟩
  have hform := Constraint.isWellFormed_of_mem_clauses hc clause hclause
  have hlength := hform.isWritable.length_le
  refine ⟨⟨List.length_pos_iff.mpr hform.isWritable.ne_nil, hlength⟩, fun hwildcard ↦ ?_,
    hform.two_le_length, fun v ↦ ?_⟩
  · have hallows := hform.allowsWildcard hwildcard
    generalize clause.comparison = comparison at hallows
    cases comparison <;> simp [Comparison.allowsWildcard] at hallows ⊢
  · have hagrees := agrees_allows hform v
    exact ⟨fun _ ↦ hagrees.eq_overflow, hagrees.eq_ok⟩

/-- Clauses of every kind, of which two expand. -/
theorem within_bounds_mixed :
    let text := "^0.0.4, ~=3.8.1 !=3.9.*,~ 3"
    let c : Constraint := ⟨"^0.0.4, ~=3.8.1 !=3.9.*,~ 3",
      [⟨.caret, [0, 0, 4], false⟩, ⟨.compatible, [3, 8, 1], false⟩, ⟨.unequal, [3, 9], true⟩,
        ⟨.tilde, [3], false⟩]⟩
    (Constraint.parse text = .ok c ∧ (∀ clause ∈ c.clauses, clause.release.HasRoom) ∧
        ∀ r ∈ rangeReleases text.toList, r.HasRoom) ∧
      (∀ clause ∈ c.clauses, ∀ v, allows clause v = .ok (clause.allows v)) ∧
      expand text = .ok ">=0.0.4,<0.0.5,~=3.8.1 !=3.9.*,>=3,<4.0" := by
  intro text c
  have hc : Constraint.parse text = .ok c := by
    rw [Constraint.parse_eq_ok_iff (by decide)]
    exact ⟨by decide, by decide⟩
  have hclauses : ∀ clause ∈ c.clauses, ∀ n ∈ clause.release, n < Release.componentLimit := by
    decide
  have hranges : ∀ r ∈ rangeReleases text.toList, ∀ n ∈ r, n < Release.componentLimit := by
    decide
  obtain ⟨hallows, -, hexpand⟩ := within_bounds text
  refine ⟨⟨hc, hclauses, hranges⟩, fun clause hclause v ↦ ?_, ?_⟩
  · exact ((hallows c hc clause hclause).2.2.2 v).2 (hclauses clause hclause)
  · rw [hexpand hranges]
    decide

end Guarded

end ContainerBuild
