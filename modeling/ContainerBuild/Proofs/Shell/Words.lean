import ContainerBuild.Proofs.Shell.Reader
import Mathlib.Data.List.Forall2

/-!
# How quoted texts are read

Texts are put together from pieces, and so is what a shell reads in them. Inside a word, a piece
fills the word with parts; outside of words, a text reads as tokens. Every way of quoting fills a
word with the quoted characters alone, whatever they are, and a substituted command adds the
tokens of the command in one part.
-/

namespace ContainerBuild.Shell

/-! ## Frames -/

namespace Frame

variable {f : Frame} {p q : List Part} {m n : Mode}

/-- Putting parts keeps the mode. -/
@[simp] theorem mode_add : (f.add p).mode = f.mode := by
  simp only [add]
  split <;> rfl

/-- A mode that is set is the mode. -/
@[simp] theorem mode_setMode : (f.setMode m).mode = m := rfl

/-- The mode that is set last stays. -/
@[simp] theorem setMode_setMode : (f.setMode m).setMode n = f.setMode n := rfl

/-- Setting the mode that a frame has changes nothing. -/
theorem setMode_eq_self (h : f.mode = m) : f.setMode m = f := by
  rw [← h, setMode]

/-- Setting a mode and putting parts can change places. -/
@[simp] theorem add_setMode : (f.setMode m).add p = (f.add p).setMode m := by
  obtain ⟨complete, begun, mode⟩ := f
  cases begun with
  | none => rfl
  | some token => cases token <;> rfl

/-- Parts that are put one after the other are put together. -/
@[simp] theorem add_add : (f.add p).add q = f.add (p ++ q) := by
  obtain ⟨complete, begun, mode⟩ := f
  cases begun with
  | none => rfl
  | some token =>
    cases token with
    | word parts => simp only [add, List.append_assoc]
    | operator text => rfl

/-- Putting parts leaves a word begun. -/
@[simp] theorem inWord_add : (f.add p).inWord = true := by
  simp only [add]
  split <;> rfl

/-- Inside a word, putting no parts changes nothing. -/
theorem add_nil (h : f.inWord = true) : f.add [] = f := by
  obtain ⟨complete, begun, mode⟩ := f
  cases begun with
  | none => cases h
  | some token =>
    cases token with
    | word parts => simp [add]
    | operator text => cases h

/-- Setting a mode keeps a word begun. -/
@[simp] theorem inWord_setMode : (f.setMode m).inWord = f.inWord := rfl

private theorem close_add (h : f.begun = none) :
    (f.add p).close = { f with complete := f.complete ++ [.word p] } := by
  obtain ⟨complete, begun, mode⟩ := f
  obtain rfl : begun = none := h
  simp [add, close]

private theorem step?_escaped {c : Char} (h : f.mode = .escaped) (hc : c ≠ '\n') :
    f.step? c = some ((f.add [.quoted c]).setMode .bare) := by
  rw [step?, h]
  exact if_neg hc

/-- A single quote opens single quotes. -/
theorem step?_open_single (h : f.mode = .bare) :
    f.step? '\'' = some ((f.add []).setMode .single) := by
  rw [step?, h]
  rfl

/-- A single quote closes single quotes. -/
theorem step?_close_single (h : f.mode = .single) : f.step? '\'' = some (f.setMode .bare) := by
  rw [step?, h]
  rfl

private theorem step?_open_double (h : f.mode = .bare) :
    f.step? '"' = some ((f.add []).setMode .double) := by
  rw [step?, h]
  rfl

private theorem step?_backslash (h : f.mode = .double) :
    f.step? '\\' = some (f.setMode .doubleEscaped) := by
  rw [step?, h]
  rfl

private theorem step?_doubleEscaped {c : Char} (h : f.mode = .doubleEscaped)
    (hc : isEscapable c = true) : f.step? c = some ((f.add [.quoted c]).setMode .double) := by
  have hline : c ≠ '\n' := by
    rintro rfl
    cases hc
  rw [step?, h]
  simp only [hline, hc, ite_true, ite_false]

private theorem step?_double {c : Char} (h : f.mode = .double) (hc : isEscapable c = false) :
    f.step? c = some (f.add [.quoted c]) := by
  simp only [isEscapable, Bool.or_eq_false_iff, decide_eq_false_iff_not] at hc
  rw [step?, h]
  simp only [doubleStep?, hc, ite_false]

private theorem step?_close_double (h : f.mode = .double) :
    f.step? '"' = some (f.setMode .bare) := by
  rw [step?, h]
  rfl

end Frame

/-! ## Steps and runs -/

namespace Reader

variable {f g : Frame} {outer : List Frame}

private theorem step?_of_frame {c : Char} (h : f.step? c = some g) :
    step? ⟨f, outer⟩ c = some ⟨g, outer⟩ := by
  have hleave : ¬ (f.mode = .bare ∧ c = ')') := by
    rintro ⟨hm, rfl⟩
    rw [Frame.step?, hm] at h
    cases h
  have henter : ¬ (f.mode = .dollar ∧ c = '(') := by
    rintro ⟨hm, rfl⟩
    rw [Frame.step?, hm] at h
    cases h
  simp [step?, hleave, henter, h]

/-- A text is taken piece by piece. -/
theorem run?_append (r : Reader) (a b : List Char) :
    r.run? (a ++ b) = (r.run? a).bind (·.run? b) := List.foldlM_append

/-- The first character is taken first. -/
theorem run?_cons (r : Reader) (c : Char) (s : List Char) :
    r.run? (c :: s) = (r.step? c).bind (·.run? s) := List.foldlM_cons

/-- A step of the innermost command comes before the rest of the text. -/
theorem run?_cons_of_frame {c : Char} {s : List Char} (h : f.step? c = some g) :
    run? ⟨f, outer⟩ (c :: s) = run? ⟨g, outer⟩ s := by
  rw [run?_cons, step?_of_frame h, Option.bind_some]

end Reader

/-! ## Pieces of words -/

/-- Inside a word and in the given mode, a text adds exactly the given parts. -/
def Fills (m : Mode) (text : List Char) (parts : List Part) : Prop :=
  ∀ (f : Frame) (outer : List Frame), f.mode = m → f.inWord = true →
    Reader.run? ⟨f, outer⟩ text = some ⟨f.add parts, outer⟩

/-- Outside of quotes, a text puts exactly the given parts into a word. -/
def Begins (text : List Char) (parts : List Part) : Prop :=
  ∀ (f : Frame) (outer : List Frame), f.mode = .bare →
    Reader.run? ⟨f, outer⟩ text = some ⟨f.add parts, outer⟩

/-- Where no token has been begun, a text adds exactly the given tokens. -/
def Reads (text : List Char) (tokens : List Token) : Prop :=
  ∀ (f : Frame) (outer : List Frame), f.mode = .bare → f.begun = none →
    ∃ g : Frame, Reader.run? ⟨f, outer⟩ text = some ⟨g, outer⟩ ∧
      g.close = { f with complete := f.complete ++ tokens }

variable {m : Mode} {a b : List Char} {p q : List Part} {ts us : List Token}

/-- No text adds no parts. -/
theorem Fills.nil : Fills m [] [] := by
  intro f outer hm hw
  rw [Frame.add_nil hw]
  rfl

/-- Pieces of a word add their parts one after the other. -/
theorem Fills.append (ha : Fills m a p) (hb : Fills m b q) : Fills m (a ++ b) (p ++ q) := by
  intro f outer hm hw
  rw [Reader.run?_append, ha f outer hm hw, Option.bind_some,
    hb _ outer (Frame.mode_add.trans hm) Frame.inWord_add, Frame.add_add]

/-- A text that is put together from pieces of a word adds the parts of all of them. -/
theorem Fills.flatMap {α : Type} {xs : List α} {text : α → List Char} {parts : α → List Part}
    (h : ∀ x ∈ xs, Fills m (text x) (parts x)) : Fills m (xs.flatMap text) (xs.flatMap parts) := by
  induction xs with
  | nil => exact .nil
  | cons x xs ih =>
    rw [List.flatMap_cons, List.flatMap_cons]
    exact (h x List.mem_cons_self).append (ih fun y hy ↦ h y (List.mem_cons_of_mem _ hy))

/-- What begins a word is followed by what fills it. -/
theorem Begins.append (ha : Begins a p) (hb : Fills .bare b q) : Begins (a ++ b) (p ++ q) := by
  intro f outer hm
  rw [Reader.run?_append, ha f outer hm, Option.bind_some,
    hb _ outer (Frame.mode_add.trans hm) Frame.inWord_add, Frame.add_add]

/-- What begins a word also fills one. -/
theorem Begins.fills (h : Begins a p) : Fills .bare a p := fun f outer hm _ ↦ h f outer hm

/-- A class of characters without those of a list stays away from the list. -/
theorem contains_eq_false {chars : List Char} {p : Char → Bool} (h : chars.any p = false)
    {c : Char} (hc : p c = true) : chars.contains c = false := by
  rw [List.contains_eq_mem, decide_eq_false_iff_not]
  intro hmem
  rw [List.any_eq_true.mpr ⟨c, hmem, hc⟩] at h
  cases h

/-- Plain characters stand for themselves. -/
theorem begins_plain (hne : a ≠ []) (h : ∀ c ∈ a, isPlain c = true) :
    Begins a (a.map .bare) := by
  have step {c : Char} (hc : isPlain c = true) : Begins [c] [.bare c] := by
    intro f outer hm
    have hstep : f.step? c = some (f.add [.bare c]) := by
      rw [Frame.step?, hm]
      exact if_pos hc
    rw [Reader.run?_cons_of_frame hstep]
    rfl
  have fills : Fills .bare a.tail (a.tail.map .bare) := by
    have htail : ∀ c ∈ a.tail, isPlain c = true := fun c hc ↦ h c (List.mem_of_mem_tail hc)
    generalize a.tail = s at htail
    induction s with
    | nil => exact .nil
    | cons c s ih =>
      exact (step (htail c List.mem_cons_self)).fills.append
        (ih fun x hx ↦ htail x (List.mem_cons_of_mem _ hx))
  cases a with
  | nil => exact absurd rfl hne
  | cons c s => exact (step (h c List.mem_cons_self)).append fills

/-! ## Quotes -/

private theorem fills_shellChars (s : List Char) :
    Fills .single (Quote.shellChars s) (s.map .quoted) := by
  induction s with
  | nil => exact .nil
  | cons c s ih =>
    intro f outer hm hw
    rw [Quote.shellChars]
    split
    · next hc =>
      -- the quotes are closed, the escaped one is taken, and they are opened again
      subst hc
      have hescape : (f.setMode .bare).step? '\\' = some (f.setMode .escaped) := rfl
      have htake : (f.setMode .escaped).step? '\'' =
          some ((f.add [.quoted '\'']).setMode .bare) := by
        rw [Frame.step?_escaped Frame.mode_setMode (by decide), Frame.add_setMode,
          Frame.setMode_setMode]
      have hopen : ((f.add [.quoted '\'']).setMode .bare).step? '\'' =
          some (f.add [.quoted '\'']) := by
        rw [Frame.step?_open_single Frame.mode_setMode, Frame.add_setMode, Frame.setMode_setMode,
          Frame.add_nil Frame.inWord_add, Frame.setMode_eq_self (Frame.mode_add.trans hm)]
      rw [Reader.run?_cons_of_frame (Frame.step?_close_single hm),
        Reader.run?_cons_of_frame hescape, Reader.run?_cons_of_frame htake,
        Reader.run?_cons_of_frame hopen, ih _ outer (Frame.mode_add.trans hm) Frame.inWord_add,
        Frame.add_add]
      rfl
    · next hc =>
      have hstep : f.step? c = some (f.add [.quoted c]) := by
        rw [Frame.step?, hm]
        exact if_neg hc
      rw [Reader.run?_cons_of_frame hstep, ih _ outer (Frame.mode_add.trans hm) Frame.inWord_add,
        Frame.add_add]
      rfl

/-- Between double quotes, the characters of a literal text are quoted. -/
theorem fills_literalChars (s : List Char) :
    Fills .double (Quote.literalChars s) (s.map .quoted) := by
  induction s with
  | nil => exact .nil
  | cons c s ih =>
    intro f outer hm hw
    rw [Quote.literalChars]
    split
    · next hc =>
      have htake : (f.setMode .doubleEscaped).step? c = some (f.add [.quoted c]) := by
        rw [Frame.step?_doubleEscaped Frame.mode_setMode hc, Frame.add_setMode,
          Frame.setMode_setMode, Frame.setMode_eq_self (Frame.mode_add.trans hm)]
      rw [Reader.run?_cons_of_frame (Frame.step?_backslash hm), Reader.run?_cons_of_frame htake,
        ih _ outer (Frame.mode_add.trans hm) Frame.inWord_add, Frame.add_add]
      rfl
    · next hc =>
      rw [Reader.run?_cons_of_frame (Frame.step?_double hm (Bool.eq_false_iff.mpr hc)),
        ih _ outer (Frame.mode_add.trans hm) Frame.inWord_add, Frame.add_add]
      rfl

/-- Between double quotes, a command in parentheses behind a dollar stands for what it prints. -/
theorem fills_command (h : Reads a ts) : Fills .double ('$' :: '(' :: a ++ [')']) [.output ts] := by
  intro f outer hm hw
  have hdollar : f.step? '$' = some (f.setMode .dollar) := by
    rw [Frame.step?, hm]
    rfl
  have henter : Reader.step? ⟨f.setMode .dollar, outer⟩ '(' = some ⟨{}, f :: outer⟩ := by
    have hself : (f.setMode .dollar).setMode .double = f := by
      rw [Frame.setMode_setMode, Frame.setMode_eq_self hm]
    simp [Reader.step?, Reader.enter, hself]
  obtain ⟨g, hrun, hg⟩ := h {} (f :: outer) rfl rfl
  have hmode : g.mode = .bare := congrArg Frame.mode hg
  have htokens : g.close.complete = ts := congrArg Frame.complete hg
  have hleave : Reader.step? ⟨g, f :: outer⟩ ')' = some ⟨f.add [.output ts], outer⟩ := by
    simp [Reader.step?, Reader.leave?, hmode, htokens]
  rw [List.cons_append, List.cons_append, Reader.run?_cons_of_frame hdollar, Reader.run?_cons,
    henter, Option.bind_some, Reader.run?_append, hrun, Option.bind_some, Reader.run?_cons,
    hleave]
  rfl

private theorem begins_between {quote : Char}
    (hopen : ∀ f : Frame, f.mode = .bare → f.step? quote = some ((f.add []).setMode m))
    (hclose : ∀ f : Frame, f.mode = m → f.step? quote = some (f.setMode .bare))
    (h : Fills m a p) : Begins (quote :: a ++ [quote]) p := by
  intro f outer hm
  have hin : ((f.add []).setMode m).add p = (f.add p).setMode m := by
    rw [Frame.add_setMode, Frame.add_add, List.nil_append]
  have hend : ((f.add p).setMode m).setMode .bare = f.add p := by
    rw [Frame.setMode_setMode, Frame.setMode_eq_self (Frame.mode_add.trans hm)]
  rw [List.cons_append, Reader.run?_cons_of_frame (hopen f hm), Reader.run?_append,
    h _ outer Frame.mode_setMode (by simp), Option.bind_some, hin,
    Reader.run?_cons_of_frame (hclose _ Frame.mode_setMode), hend]
  rfl

private theorem begins_single (h : Fills .single a p) : Begins ('\'' :: a ++ ['\'']) p :=
  begins_between (fun _ hf ↦ Frame.step?_open_single hf) (fun _ hf ↦ Frame.step?_close_single hf) h

/-- What stands between double quotes is put into a word. -/
theorem begins_double (h : Fills .double a p) : Begins ('"' :: a ++ ['"']) p :=
  begins_between (fun _ hf ↦ Frame.step?_open_double hf) (fun _ hf ↦ Frame.step?_close_double hf) h

/-- A shell word puts the characters of its text into a word, all of them quoted. -/
theorem begins_shellWord (s : String) :
    Begins (Quote.shellWord s).toList (s.toList.map .quoted) := by
  rw [Quote.shellWord, String.toList_ofList]
  exact begins_single (fills_shellChars s.toList)

/-! ## Tokens -/

/-- What is put into a word reads as that word. -/
theorem Begins.reads (h : Begins a p) : Reads a [.word p] := by
  intro f outer hm hn
  exact ⟨f.add p, h f outer hm, Frame.close_add hn⟩

/-- A shell word reads as one word, which is its text. -/
theorem reads_shellWord (s : String) : Reads (Quote.shellWord s).toList [.quoted s] :=
  (begins_shellWord s).reads

/-- A plain word reads as it is written. -/
theorem reads_plain {s : String} (h : isPlainWord s = true) : Reads s.toList [.bare s] := by
  simp only [isPlainWord, Bool.and_eq_true, Bool.not_eq_true', List.isEmpty_eq_false_iff,
    List.all_eq_true] at h
  exact (begins_plain h.1 h.2).reads

/-- An operator of one character reads as that operator. -/
theorem reads_operator {c : Char} (h : isOperatorChar c = true) : Reads [c] [.operator [c]] := by
  intro f outer hm hn
  have hstep : f.step? c = some (f.begin c) := by
    have hc : c ∈ operatorChars := List.contains_iff_mem.mp h
    have hplain : isPlain c = false := by
      simp [isPlain, specialChars, hc]
    have hblank : ¬ (c = ' ' ∨ c = '\t') := by
      rintro (rfl | rfl) <;> cases h
    rw [Frame.step?, hm]
    simp [Frame.bareStep?, hplain, hblank, h, Frame.operate?, hn]
  refine ⟨f.begin c, ?_, ?_⟩
  · rw [Reader.run?_cons_of_frame hstep]
    rfl
  · simp [Frame.begin, Frame.close, hn]

/-- Two ampersands read as one operator. -/
theorem reads_conjunction : Reads ['&', '&'] [.operator ['&', '&']] := by
  intro f outer hm hn
  have hfirst : f.step? '&' = some (f.begin '&') := by
    rw [Frame.step?, hm]
    simp [Frame.bareStep?, Frame.operate?, hn, show isPlain '&' = false from rfl,
      show isOperatorChar '&' = true from rfl]
  have hsecond : (f.begin '&').step? '&' =
      some { f.begin '&' with begun := some (.operator ['&', '&']) } := by
    have hmode : (f.begin '&').mode = .bare := hm
    rw [Frame.step?, hmode]
    rfl
  refine ⟨{ f.begin '&' with begun := some (.operator ['&', '&']) }, ?_, ?_⟩
  · rw [Reader.run?_cons_of_frame hfirst, Reader.run?_cons_of_frame hsecond]
    rfl
  · simp [Frame.begin, Frame.close, hn]

/-- Texts with a space between them read as their tokens, one after the other. -/
theorem Reads.append (ha : Reads a ts) (hb : Reads b us) : Reads (a ++ ' ' :: b) (ts ++ us) := by
  intro f outer hm hn
  obtain ⟨g, hrun, hg⟩ := ha f outer hm hn
  have hmode : g.mode = .bare := (congrArg Frame.mode hg).trans hm
  have hblank : g.step? ' ' = some g.close := by
    rw [Frame.step?, hmode]
    rfl
  obtain ⟨k, hrun', hk⟩ := hb g.close outer hmode rfl
  refine ⟨k, ?_, ?_⟩
  · rw [Reader.run?_append, hrun, Option.bind_some, Reader.run?_cons_of_frame hblank, hrun']
  · rw [hk, hg]
    simp [List.append_assoc]

/-- No text reads as no tokens. -/
theorem Reads.nil : Reads [] [] := by
  intro f outer hm hn
  refine ⟨f, rfl, ?_⟩
  simp [Frame.close, hn]

/-- Texts with spaces between them read as their tokens, one after the other. -/
theorem Reads.intercalate {texts : List (List Char)} {tokens : List (List Token)}
    (h : List.Forall₂ Reads texts tokens) : Reads ([' '].intercalate texts) tokens.flatten := by
  induction h with
  | nil => exact .nil
  | @cons a ts rest others ha hrest ih =>
    cases hrest with
    | nil => simpa using ha
    | cons hb hrest =>
      rw [List.intercalate_cons_cons, List.flatten_cons, List.append_assoc]
      exact ha.append ih

/-- Texts of one word each, with spaces between them, read as these words. -/
theorem reads_words {α : Type} {xs : List α} {text : α → String} {token : α → Token}
    (h : ∀ x ∈ xs, Reads (text x).toList [token x]) :
    Reads (" ".intercalate (xs.map text)).toList (xs.map token) := by
  have hall : List.Forall₂ Reads ((xs.map text).map String.toList) (xs.map ([token ·])) := by
    rw [List.map_map, List.forall₂_map_left_iff, List.forall₂_map_right_iff, List.forall₂_same]
    exact h
  have hread := Reads.intercalate hall
  rw [← List.flatMap_def, ← List.map_eq_flatMap] at hread
  rw [String.toList_intercalate]
  exact hread

/-- Plain words with spaces between them read as they are written. -/
theorem reads_plains {words : List String} (h : words.all isPlainWord = true) :
    Reads (" ".intercalate words).toList (words.map .bare) := by
  have hread := @reads_words _ words id .bare fun w hw ↦ reads_plain (List.all_eq_true.mp h w hw)
  rwa [List.map_id] at hread

/-- Shell words read as one word for each text. -/
theorem reads_shellWords (texts : List String) :
    Reads (Quote.shellWords texts).toList (texts.map .quoted) :=
  reads_words fun text _ ↦ reads_shellWord text

/-! ## Tokens in which nothing is expanded -/

variable {commands : List (List Token)}

/-- A word without quotes is fixed when no character makes a pattern of it. -/
theorem isFixed_bare {s : String} (h : s.toList.all isInert = true) :
    (Token.bare s).IsFixed commands := by
  intro part hpart
  obtain ⟨c, hc, rfl⟩ := List.mem_map.mp hpart
  exact List.all_eq_true.mp h c hc

/-- A quoted word is fixed. -/
theorem isFixed_quoted (s : String) : (Token.quoted s).IsFixed commands := by
  intro part hpart
  obtain ⟨c, -, rfl⟩ := List.mem_map.mp hpart
  trivial

/-- An operator is fixed. -/
theorem isFixed_operator (text : List Char) : (Token.operator text).IsFixed commands := by
  intro part hpart
  cases hpart

/-- A text that reads as tokens is a command of these tokens. -/
theorem Reads.read? (h : Reads a ts) : read? a = some ts := by
  obtain ⟨g, hrun, hg⟩ := h {} [] rfl rfl
  have hmode : g.mode = .bare := congrArg Frame.mode hg
  have htokens : g.close.complete = ts := congrArg Frame.complete hg
  rw [Shell.read?, hrun, Option.bind_some]
  simp [Reader.tokens?, hmode, htokens]

end ContainerBuild.Shell
