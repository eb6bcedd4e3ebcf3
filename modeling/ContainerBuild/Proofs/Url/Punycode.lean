import ContainerBuild.Proofs.List.FirstOccurrences
import ContainerBuild.Url.Punycode
import Mathlib.Data.List.Sort
import Mathlib.Data.List.TakeWhile
import Mathlib.Tactic.Ring

/-!
# Written Punycode is read back

A reader follows the writer: where the writer has come to a place of the text, in its passage for a
code point, the reader has the characters that came before in this order, and the number that is
still to be written leads from its last insertion to this place. Each character keeps the two
together, and so the text that was written is the text that is read.
-/

namespace ContainerBuild.Url.Punycode

variable {code next asciiCount : Nat} {before after s : List Char} {c : Char}
  {w w₁ w₂ w₃ : Writer} {k k₁ k₂ k₃ : Cursor}

/-! ## Numbers -/

private theorem digitValue?_digit {n : Nat} (h : n < base) : digitValue? (digit n) = some n := by
  have hall : ∀ n ∈ List.range base, digitValue? (digit n) = some n := by decide
  exact hall n (List.mem_range.mpr h)

private theorem digit_ne {n : Nat} (h : n < base) : digit n ≠ '-' ∧ digit n ≠ '.' := by
  have hall : ∀ n ∈ List.range base, digit n ≠ '-' ∧ digit n ≠ '.' := by decide
  exact hall n (List.mem_range.mpr h)

private theorem ne_of_mem_digits (place bias n : Nat) :
    ∀ c ∈ digits place bias n, c ≠ '-' ∧ c ≠ '.' := by
  fun_induction digits place bias n with
  | case1 place n t hlt =>
    have hle := threshold_le place bias
    exact List.forall_mem_singleton.mpr (digit_ne (hlt.trans_le (hle.trans (by decide))))
  | case2 place n t hge ih =>
    have hle := threshold_le place bias
    have hmod : (n - t) % (base - t) < base - t := Nat.mod_lt _ (by simp only [t, base]; omega)
    exact List.forall_mem_cons.mpr ⟨digit_ne (by omega), ih⟩

private theorem threshold_add_mod_add_div {t n : Nat} (h : t ≤ n) :
    t + (n - t) % (base - t) + (n - t) / (base - t) * (base - t) = n := by
  have := Nat.mod_add_div' (n - t) (base - t)
  omega

/-- The digits of a number are read as this number, counted in the weight of the first of them, and
then a character is inserted. -/
theorem readDigits?_digits (k : Cursor) (n : Nat) (rest : List Char) :
    readDigits? k (digits k.place k.bias n ++ rest) =
      ({ k with delta := k.delta + n * k.weight }.insert?).bind (readDigits? · rest) := by
  -- the digits behind the first are those of a smaller number, at a later place and of more weight
  induction n using Nat.strongRecOn generalizing k with
  | _ n ih =>
    have hone := one_le_threshold k.place k.bias
    have hle := threshold_le k.place k.bias
    rw [digits]
    split
    · next hlt =>
      rw [List.singleton_append, readDigits?,
        digitValue?_digit (hlt.trans_le (hle.trans (by decide)))]
      simp only [if_pos hlt]
      cases { k with delta := k.delta + n * k.weight }.insert? <;> rfl
    · next hge =>
      generalize htdef : threshold k.place k.bias = t at *
      have hbase : 0 < base - t := by simp only [base]; omega
      have hmod := Nat.mod_lt (n - t) hbase
      have hdigit : t + (n - t) % (base - t) < base := by omega
      have hlt : (n - t) / (base - t) < n :=
        (Nat.div_le_self _ _).trans_lt (by omega)
      rw [List.cons_append, readDigits?, digitValue?_digit hdigit]
      simp only [htdef, if_neg (by omega : ¬t + (n - t) % (base - t) < t)]
      have hread := ih _ hlt { k with
        delta := k.delta + (t + (n - t) % (base - t)) * k.weight
        weight := k.weight * (base - t)
        place := k.place + base }
      rw [hread]
      have hdelta : k.delta + (t + (n - t) % (base - t)) * k.weight +
          (n - t) / (base - t) * (k.weight * (base - t)) = k.delta + n * k.weight := by
        conv_rhs => rw [← threshold_add_mod_add_div (Nat.not_lt.mp hge)]
        ring
      rw [hdelta]
      rfl

/-! ## The reader behind the writer -/

/-- The writer has come to a place between the characters `before` and `after`, in its passage for a
code point, and the reader has read what is written so far. -/
structure Follows (code : Nat) (before after : List Char) (w : Writer) (k : Cursor) : Prop where
  text : k.text = before.filter (·.toNat ≤ code) ++ after.filter (·.toNat < code)
  count : w.count = k.text.length
  bias : w.bias = k.bias
  code_le : k.code ≤ code
  /-- The number still to be written leads from the last insertion to this place. -/
  delta : k.index + w.delta =
    (code - k.code) * (w.count + 1) + (before.filter (·.toNat ≤ code)).length
  start : k.delta = 0 ∧ k.weight = 1 ∧ k.place = base

/-- Between two states a writer writes what takes a reader from the first to the second. -/
def Leads (w₁ : Writer) (k₁ : Cursor) (w₂ : Writer) (k₂ : Cursor) : Prop :=
  ∃ written, w₂.output = w₁.output ++ written ∧ (∀ c ∈ written, c ≠ '-' ∧ c ≠ '.') ∧
    ∀ rest, readDigits? k₁ (written ++ rest) = readDigits? k₂ rest

private theorem Leads.of_output_eq (h : w₂.output = w₁.output) : Leads w₁ k w₂ k :=
  ⟨[], by rw [h, List.append_nil], by simp, fun _ ↦ rfl⟩

private theorem Leads.trans (h₁ : Leads w₁ k₁ w₂ k₂) (h₂ : Leads w₂ k₂ w₃ k₃) :
    Leads w₁ k₁ w₃ k₃ := by
  obtain ⟨first, houtput₁, hne₁, hread₁⟩ := h₁
  obtain ⟨second, houtput₂, hne₂, hread₂⟩ := h₂
  refine ⟨first ++ second, by rw [houtput₂, houtput₁, List.append_assoc],
    List.forall_mem_append.mpr ⟨hne₁, hne₂⟩, fun rest ↦ ?_⟩
  rw [List.append_assoc, hread₁, hread₂]

private theorem filter_append_cons_filter {p q : Char → Bool} (h : p c = q c) :
    (before ++ [c]).filter p ++ after.filter q = before.filter p ++ (c :: after).filter q := by
  rw [List.filter_append, List.append_assoc, List.filter_singleton, List.filter_cons, h]
  cases q c <;> rfl

private theorem Follows.isFirst (h : Follows code before after w k) (hcode : firstCode ≤ code)
    (hascii : asciiCount = ((before ++ after).filter (·.toNat < firstCode)).length) :
    decide (w.count = asciiCount) = k.text.all (·.toNat < firstCode) := by
  -- ASCII comes before every code point that is inserted, so the reader has all of it
  have hkept : k.text.filter (·.toNat < firstCode) =
      (before ++ after).filter (·.toNat < firstCode) := by
    rw [h.text, List.filter_append, List.filter_append, List.filter_filter, List.filter_filter]
    congr 1 <;> refine List.filter_congr fun c _ ↦ ?_
    all_goals simp only [← Bool.decide_and, decide_eq_decide]; omega
  rw [h.count, hascii, ← hkept, eq_comm, Bool.eq_iff_iff, decide_eq_true_iff, List.all_eq_true,
    eq_comm (b := (_ : Nat)), List.length_filter_eq_length_iff]

private theorem Follows.insert? (h : Follows c.toNat before (c :: after) w k) (output : List Char) :
    ∃ k', { k with delta := k.delta + w.delta * k.weight }.insert? = some k' ∧
      Follows c.toNat (before ++ [c]) after
        { output
          delta := 0
          bias := adapt w.delta (w.count + 1) (k.text.all (·.toNat < firstCode))
          count := w.count + 1 } k' := by
  obtain ⟨htext, hcount, -, hcode, hdelta, hstart, hweight, -⟩ := h
  have hbefore : (before ++ [c]).filter (·.toNat ≤ c.toNat) =
      before.filter (·.toNat ≤ c.toNat) ++ [c] := by
    rw [List.filter_append, List.filter_singleton, decide_eq_true (Nat.le_refl _), cond_true]
  rw [List.filter_cons_of_neg (by simp)] at htext
  generalize before.filter (·.toNat ≤ c.toNat) = place at *
  generalize hrest : after.filter (·.toNat < c.toNat) = rest at *
  refine ⟨⟨place ++ c :: rest, c.toNat, place.length + 1, _, 0, 1, base⟩, ?_,
    ⟨?_, ?_, rfl, Nat.le_refl _, ?_, rfl, rfl, rfl⟩⟩
  · -- a passage counts one place more than the text has characters, so the quotient counts passages
    have hplace : place.length < k.text.length + 1 := by
      rw [htext, List.length_append]
      omega
    rw [hcount] at hdelta
    have hdiv : (k.index + w.delta) / (k.text.length + 1) = c.toNat - k.code := by
      rw [hdelta, Nat.mul_comm, Nat.mul_add_div (by omega), Nat.div_eq_of_lt hplace, Nat.add_zero]
    have hmod : (k.index + w.delta) % (k.text.length + 1) = place.length := by
      rw [hdelta, Nat.mul_comm, Nat.mul_add_mod, Nat.mod_eq_of_lt hplace]
    have hto : k.code + (c.toNat - k.code) = c.toNat := Nat.add_sub_cancel' hcode
    simp only [Cursor.insert?, hstart, hweight, Nat.mul_one, Nat.zero_add, hdiv, hmod, hto,
      Char.ofNat_toNat, hcount]
    rw [if_pos (show c.toNat.isValidChar from c.valid)]
    simp only [htext, List.take_left, List.drop_left]
  · rw [hbefore, hrest, List.append_assoc, List.singleton_append]
  · simp only [hcount, htext, List.length_append, List.length_cons, Nat.add_assoc]
  · rw [hbefore, Nat.sub_self, Nat.zero_mul, Nat.zero_add, Nat.add_zero, List.length_append,
      List.length_singleton]

/-- The writer passes over a character, or writes it and the reader inserts it. -/
theorem Follows.pass (h : Follows code before (c :: after) w k) (hcode : firstCode ≤ code)
    (hascii : asciiCount = ((before ++ c :: after).filter (·.toNat < firstCode)).length) :
    ∃ k', Follows code (before ++ [c]) after (w.pass asciiCount code c) k' ∧
      Leads w k (w.pass asciiCount code c) k' := by
  rw [Writer.pass]
  obtain hlt | rfl | hgt := Nat.lt_trichotomy c.toNat code
  · -- the reader has the character already
    rw [if_pos hlt]
    refine ⟨k, { h with text := ?_, delta := ?_ }, .of_output_eq rfl⟩
    · rw [h.text, filter_append_cons_filter (by simp only [hlt, hlt.le])]
    · rw [List.filter_append, List.filter_singleton, decide_eq_true hlt.le, List.length_append]
      exact congrArg (· + 1) h.delta
  · rw [if_neg (Nat.lt_irrefl _), if_pos rfl, h.isFirst hcode hascii]
    obtain ⟨k', hinsert, hk'⟩ := h.insert? (w.output ++ digits base w.bias w.delta)
    refine ⟨k', hk', _, rfl, ne_of_mem_digits _ _ _, fun rest ↦ ?_⟩
    rw [← h.start.2.2, h.bias, readDigits?_digits, hinsert, Option.bind_some]
  · -- a later passage writes the character
    rw [if_neg hgt.not_gt, if_neg hgt.ne']
    refine ⟨k, { h with text := ?_, delta := ?_ }, .of_output_eq rfl⟩
    · rw [h.text, filter_append_cons_filter]
      simp only [hgt.not_ge, hgt.not_gt]
    · rw [List.filter_append, List.filter_singleton, decide_eq_false hgt.not_ge, cond_false,
        List.append_nil]
      exact h.delta

private theorem Follows.passage (h : Follows code before after w k) (hcode : firstCode ≤ code)
    (hascii : asciiCount = ((before ++ after).filter (·.toNat < firstCode)).length) :
    ∃ k', Follows code (before ++ after) [] (after.foldl (Writer.pass asciiCount code) w) k' ∧
      Leads w k (after.foldl (Writer.pass asciiCount code) w) k' := by
  induction after generalizing before w k with
  | nil => exact ⟨k, by rwa [List.append_nil], .of_output_eq rfl⟩
  | cons c after ih =>
    obtain ⟨k₁, hk₁, hleads₁⟩ := h.pass hcode hascii
    obtain ⟨k₂, hk₂, hleads₂⟩ := ih hk₁ (by rwa [← List.append_cons])
    exact ⟨k₂, by rwa [List.append_cons], hleads₁.trans hleads₂⟩

-- between two code points of the text, each passage would count all places and change nothing
private theorem Follows.skip (h : Follows next [] s w k) (hle : next ≤ code)
    (hnone : ∀ c ∈ s, next ≤ c.toNat → code ≤ c.toNat) :
    Follows code [] s { w with delta := w.delta + (code - next) * (w.count + 1) } k := by
  have hcode := h.code_le
  refine { h with text := ?_, code_le := hcode.trans hle, delta := ?_ }
  · rw [h.text]
    refine congrArg (_ ++ ·) (List.filter_congr fun c hc ↦ ?_)
    have := hnone c hc
    rw [decide_eq_decide]
    omega
  · have hsteps : code - k.code = next - k.code + (code - next) := by omega
    have hdelta := h.delta
    simp only [List.filter_nil, List.length_nil, Nat.add_zero] at hdelta ⊢
    rw [hsteps, Nat.add_mul, ← hdelta, Nat.add_assoc]

private theorem Follows.succ (h : Follows code s [] w k) :
    Follows (code + 1) [] s { w with delta := w.delta + 1 } k := by
  have hcode := h.code_le
  have htext := h.text
  rw [List.filter_nil, List.append_nil] at htext
  refine { h with text := ?_, code_le := Nat.le_succ_of_le hcode, delta := ?_ }
  · simp only [htext, List.filter_nil, List.nil_append, Nat.lt_succ_iff]
  · have hsteps : code + 1 - k.code = code - k.code + 1 := by omega
    have hdelta := h.delta
    rw [← htext, ← h.count] at hdelta
    simp only [List.filter_nil, List.length_nil, Nat.add_zero]
    rw [← Nat.add_assoc, hdelta, hsteps, Nat.add_mul, Nat.one_mul, Nat.add_assoc]

/-- When the writer has written all characters, the reader has read the text. -/
theorem Follows.writeCodes {codes : List Nat} (h : Follows next [] s w k)
    (hnext : firstCode ≤ next) (hascii : asciiCount = (s.filter (·.toNat < firstCode)).length)
    (hcodes : codes.Pairwise (· < ·)) (hge : ∀ code ∈ codes, next ≤ code)
    (hmem : ∀ c ∈ s, next ≤ c.toNat → c.toNat ∈ codes) :
    ∃ k', (k'.text = s ∧ k'.place = base) ∧
      Leads w k (writeCodes s asciiCount next w codes) k' := by
  induction codes generalizing next w k with
  | nil =>
    refine ⟨k, ⟨?_, h.start.2.2⟩, .of_output_eq rfl⟩
    rw [h.text, List.filter_nil, List.nil_append, List.filter_eq_self]
    intro c hc
    rw [decide_eq_true_iff, ← Nat.not_le]
    exact fun hle ↦ List.not_mem_nil (hmem c hc hle)
  | cons code rest ih =>
    rw [List.pairwise_cons] at hcodes
    rw [List.forall_mem_cons] at hge
    have hskip := h.skip hge.1 fun c hc hle ↦ by
      obtain heq | hrest := List.mem_cons.mp (hmem c hc hle)
      · exact heq.ge
      · exact (hcodes.1 _ hrest).le
    obtain ⟨k₁, hk₁, hleads₁⟩ := hskip.passage (hnext.trans hge.1) hascii
    obtain ⟨k₂, hk₂, hleads₂⟩ := ih hk₁.succ (by omega) hcodes.2 hcodes.1 fun c hc hle ↦
      (List.mem_cons.mp (hmem c hc (by omega))).resolve_left (by omega)
    exact ⟨k₂, hk₂, hleads₁.trans hleads₂⟩

/-! ## The whole text -/

private theorem pairwise_codes (s : List Char) : (codes s).Pairwise (· < ·) := by
  rw [codes]
  generalize hl : ((s.map Char.toNat).filter (firstCode ≤ ·)).mergeSort (· ≤ ·) = l
  have hsorted : l.Pairwise (· ≤ ·) := hl ▸ List.pairwise_mergeSort' (· ≤ ·) _
  refine (isFirstOccurrences_eraseDups l).ascending.imp_of_mem fun {a b} ha hb hlt ↦ ?_
  rw [List.mem_eraseDups, ← List.idxOf_lt_length_iff] at ha hb
  have hle := List.pairwise_iff_getElem.mp hsorted _ _ ha hb hlt
  rw [List.getElem_idxOf, List.getElem_idxOf] at hle
  exact lt_of_le_of_ne hle fun heq ↦ hlt.ne (congrArg l.idxOf heq)

private theorem mem_codes {n : Nat} : n ∈ codes s ↔ firstCode ≤ n ∧ ∃ c ∈ s, c.toNat = n := by
  rw [codes, List.mem_eraseDups, List.mem_mergeSort, List.mem_filter, List.mem_map,
    decide_eq_true_iff, and_comm]

/-- What is written behind the ASCII characters of a text takes a reader from them to the text. -/
theorem exists_encode_eq (s : List Char) :
    ∃ written, encode s =
        (if (s.filter (·.toNat < firstCode)).isEmpty then []
          else s.filter (·.toNat < firstCode) ++ ['-']) ++ written ∧
      (∀ c ∈ written, c ≠ '-' ∧ c ≠ '.') ∧
      readDigits? ⟨s.filter (·.toNat < firstCode), firstCode, 0, firstBias, 0, 1, base⟩ written =
        some s := by
  let ascii := s.filter (·.toNat < firstCode)
  have hstart : Follows firstCode [] s ⟨[], 0, firstBias, ascii.length⟩
      ⟨ascii, firstCode, 0, firstBias, 0, 1, base⟩ :=
    ⟨rfl, rfl, rfl, Nat.le_refl _, by simp, rfl, rfl, rfl⟩
  obtain ⟨k, ⟨htext, hplace⟩, written, houtput, hne, hread⟩ :=
    hstart.writeCodes (Nat.le_refl _) rfl (pairwise_codes s) (fun n hn ↦ (mem_codes.mp hn).1)
      fun c hc hle ↦ mem_codes.mpr ⟨hle, c, hc, rfl⟩
  refine ⟨written, ?_, hne, ?_⟩
  · rw [encode, houtput]
    rfl
  · have hend := hread []
    rwa [List.append_nil, readDigits?, if_pos hplace, htext] at hend

private theorem ne_of_mem_reverse {written : List Char} (h : '-' ∉ written) :
    ∀ c ∈ written.reverse, decide (c ≠ '-') = true := by
  intro c hc
  rw [decide_eq_true_iff]
  rintro rfl
  exact h (List.mem_reverse.mp hc)

private theorem cutAscii_of_not_mem {written : List Char} (h : '-' ∉ written) :
    cutAscii written = ([], written) := by
  rw [cutAscii, List.dropWhile_eq_nil_iff.mpr (ne_of_mem_reverse h)]

private theorem cutAscii_append {ascii written : List Char} (hne : ascii ≠ [])
    (h : '-' ∉ written) : cutAscii (ascii ++ '-' :: written) = (ascii, written) := by
  have hreverse : (ascii ++ '-' :: written).reverse =
      written.reverse ++ '-' :: ascii.reverse := by
    rw [List.reverse_append, List.reverse_cons, List.append_assoc, List.singleton_append]
  rw [cutAscii, hreverse, List.dropWhile_append_of_pos (ne_of_mem_reverse h),
    List.takeWhile_append_of_pos (ne_of_mem_reverse h), List.dropWhile_cons_of_neg (by simp),
    List.takeWhile_cons_of_neg (by simp), List.append_nil, List.reverse_reverse]
  cases hascii : ascii.reverse with
  | nil => exact absurd (List.reverse_eq_nil_iff.mp hascii) hne
  | cons c rest =>
    have hback : (c :: rest).reverse = ascii := by rw [← hascii, List.reverse_reverse]
    simp only [hback]

/-- A text is read back from its written form. -/
theorem decode?_encode (s : List Char) : decode? (encode s) = some s := by
  obtain ⟨written, hencode, hne, hread⟩ := exists_encode_eq s
  have hhyphen : '-' ∉ written := fun hmem ↦ (hne _ hmem).1 rfl
  generalize s.filter (·.toNat < firstCode) = ascii at *
  rw [decode?, hencode]
  cases ascii with
  | nil => rwa [List.isEmpty_nil, if_pos rfl, List.nil_append, cutAscii_of_not_mem hhyphen]
  | cons c rest =>
    rwa [List.isEmpty_cons, if_neg Bool.false_ne_true, ← List.append_cons,
      cutAscii_append (List.cons_ne_nil c rest) hhyphen]

/-- A text without dots has a written form without dots. -/
theorem dot_not_mem_encode (h : '.' ∉ s) : '.' ∉ encode s := by
  obtain ⟨written, hencode, hne, -⟩ := exists_encode_eq s
  have hascii : '.' ∉ s.filter (·.toNat < firstCode) := fun hmem ↦ h (List.mem_filter.mp hmem).1
  have hwritten : '.' ∉ written := fun hmem ↦ (hne _ hmem).2 rfl
  rw [hencode]
  split
  · exact hwritten
  · simp [hascii, hwritten]

private theorem Cursor.of_insert? {k' : Cursor} (hcode : firstCode ≤ k.code)
    (h : k.insert? = some k') :
    firstCode ≤ k'.code ∧ ∀ c ∈ k'.text, c ∈ k.text ∨ firstCode ≤ c.toNat := by
  simp only [Cursor.insert?] at h
  split at h
  · next hvalid =>
    cases h
    refine ⟨Nat.le_add_right_of_le hcode, fun c hc ↦ ?_⟩
    simp only [List.mem_append, List.mem_cons] at hc
    obtain hc | rfl | hc := hc
    · exact .inl (List.mem_of_mem_take hc)
    · right
      rw [Char.ofNat, dif_pos hvalid]
      exact Nat.le_add_right_of_le hcode
    · exact .inl (List.mem_of_mem_drop hc)
  · cases h

private theorem mem_of_readDigits? {written : List Char} (hcode : firstCode ≤ k.code)
    (h : readDigits? k written = some s) : ∀ c ∈ s, c ∈ k.text ∨ firstCode ≤ c.toNat := by
  induction written generalizing k with
  | nil =>
    rw [readDigits?] at h
    split at h
    · cases h
      exact fun c hc ↦ .inl hc
    · cases h
  | cons d rest ih =>
    rw [readDigits?] at h
    split at h
    · cases h
    simp only at h
    split at h
    · split at h
      · cases h
      · next hinsert =>
        obtain ⟨hcode', htext⟩ := Cursor.of_insert? (by exact hcode) hinsert
        intro c hc
        obtain hc | hc := ih hcode' h c hc
        · exact htext c hc
        · exact .inr hc
    · have hrest := ih (by exact hcode) h
      exact hrest

/-- A text that is read from a written form without dots has no dots. -/
theorem dot_not_mem_of_decode? {written : List Char} (h : '.' ∉ written)
    (hread : decode? written = some s) : '.' ∉ s := by
  intro hmem
  have hascii : '.' ∉ (cutAscii written).1 := by
    rw [cutAscii]
    split
    · next c rest heq =>
      intro hmem
      have hback := (List.dropWhile_sublist (· ≠ '-')).mem (heq ▸ List.mem_cons_of_mem _ <|
        List.mem_reverse.mp hmem)
      exact h (List.mem_reverse.mp hback)
    · exact List.not_mem_nil
  obtain hc | hc := mem_of_readDigits? (Nat.le_refl _) hread '.' hmem
  · exact hascii hc
  · exact absurd hc (by decide)

end ContainerBuild.Url.Punycode
