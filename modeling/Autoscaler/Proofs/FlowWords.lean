import Autoscaler.Proofs.CursorPasses

/-!
# Words as plain scalars

In a flow a word is read as a plain scalar. The scalar takes the gap behind the word too, since more
words might follow; the indicator that closes a value ends it.
-/

namespace Autoscaler.Yaml.Scan

variable {c : Cursor}

/-- The characters that end a plain scalar in a flow and that JSON has behind a value. -/
def closesValue (c : Char) : Bool := c == ',' || c == ']' || c == '\x7d'

lemma isGap_of_closesValue {x : Char} (h : closesValue x = true) : isGap x = false := by
  simp only [closesValue, Bool.or_eq_true, beq_iff_eq] at h
  rcases h with (rfl | rfl) | rfl <;> decide

lemma ne_of_isWordChar {x y : Char} (hx : isWordChar x = true) (hy : isWordChar y = false) :
    x ≠ y := by
  rintro rfl
  exact absurd (hx.symm.trans hy) (by decide)

lemma isGap_of_isWordChar {x : Char} (h : isWordChar x = true) : isGap x = false := by
  by_contra hgap
  simp only [isGap, isSpace, isBreakOrEnd, isBreak, isEnd, Bool.not_eq_false, Bool.or_eq_true,
    beq_iff_eq] at hgap
  rcases hgap with (rfl | rfl) | ((((rfl | rfl) | rfl) | rfl) | rfl) | rfl <;>
    exact absurd h (by decide)

lemma readPlainRun_stop {run : List Char} (fuel : Nat)
    (h : isGap (c.charAt 0) = true ∨ closesValue (c.charAt 0) = true) :
    readPlainRun true (fuel + 1) run c = some (run.reverse, c) := by
  rcases h with h | h
  · simp [readPlainRun, h]
  · have hgap := isGap_of_closesValue h
    simp only [closesValue, Bool.or_eq_true, beq_iff_eq] at h
    rcases h with (h | h) | h <;> rw [h] at hgap <;> simp [readPlainRun, h, hgap]

lemma readPlainRun_word {run : List Char} (fuel : Nat) (h : isWordChar (c.charAt 0) = true) :
    readPlainRun true (fuel + 1) run c =
      readPlainRun true fuel (c.charAt 0 :: run) (c.skip.require 2) := by
  have hne : ∀ y, isWordChar y = false → c.charAt 0 ≠ y := fun y => ne_of_isWordChar h
  simp [readPlainRun, isGap_of_isWordChar h, hne ':' (by decide), hne ',' (by decide),
    hne '[' (by decide), hne ']' (by decide), hne '\x7b' (by decide), hne '\x7d' (by decide)]

lemma readPlainRun_passes {word more : List Char} {fuel : Nat} (run : List Char)
    (hword : ∀ x ∈ word, isWordChar x = true) (hrest : c.rest = word ++ more)
    (hmore : isGap (more.headD endChar) = true ∨ closesValue (more.headD endChar) = true)
    (hfuel : word.length < fuel) :
    ∃ c', readPlainRun true fuel run c = some (run.reverse ++ word, c') ∧ c.Passes word c' := by
  induction word generalizing c run fuel with
  | nil =>
    obtain ⟨fuel, rfl⟩ := Nat.exists_eq_succ_of_ne_zero (Nat.ne_of_gt hfuel)
    rw [List.nil_append] at hrest
    rw [← hrest, ← Cursor.charAt_zero_eq_headD] at hmore
    exact ⟨c, by rw [readPlainRun_stop fuel hmore, List.append_nil], .refl c⟩
  | cons x word ih =>
    obtain ⟨fuel, rfl⟩ := Nat.exists_eq_succ_of_ne_zero (Nat.ne_zero_of_lt hfuel)
    obtain ⟨hx, hword⟩ := List.forall_mem_cons.mp hword
    have hskip := (Cursor.passes_skip hrest (isBreak_eq_false (isGap_of_isWordChar hx))).require 2
    have hnext : (c.skip.require 2).rest = word ++ more := by simp [Cursor.skip, hrest]
    obtain ⟨c', hread, hpasses⟩ := ih (x :: run) hword hnext (Nat.lt_of_succ_lt_succ hfuel)
    refine ⟨c', ?_, hskip.trans hpasses⟩
    have hhead : c.charAt 0 = x := Cursor.charAt_zero hrest
    rw [readPlainRun_word fuel (by rw [hhead, hx]), hhead, hread, List.reverse_cons,
      List.append_assoc, List.singleton_append]

lemma atDocumentIndicator_eq_false (hdot : c.charAt 0 ≠ '.')
    (hdash : c.charAt 0 = '-' → c.charAt 1 ≠ '-') : atDocumentIndicator c = some (false, c) := by
  by_cases h : c.charAt 0 = '-'
  · have hne : ('-' == c.charAt 1) = false := by
      rw [beq_eq_false_iff_ne]
      exact (hdash h).symm
    simp [atDocumentIndicator, h, hne]
  · simp [atDocumentIndicator, h, hdot]

section Steps

variable {indent : Int} {run : List Char} {c' c'' : Cursor} {g : Gap}

lemma readPlainText_word (indent : Int) (fuel : Nat) (p : PlainText)
    (hdoc : atDocumentIndicator (c.require 4) = some (false, c.require 4))
    (hcomment : c.charAt 0 ≠ '#')
    (hrun : readPlainRun true (c.left + 1) [] (c.require 4) = some (run, c'))
    (hspace : isSpace (c'.charAt 0) = false) (hbreak : isBreak (c'.charAt 0) = false) :
    readPlainText true indent (fuel + 1) p c = some
      (if run.isEmpty then p
        else { text := p.text ++ p.gap.fold ++ run, stop := c'.mark }, c') := by
  simp [readPlainText, hdoc, hcomment, hrun, hspace, hbreak]

lemma readPlainText_gap (indent : Int) (fuel : Nat) (p : PlainText)
    (hdoc : atDocumentIndicator (c.require 4) = some (false, c.require 4))
    (hcomment : c.charAt 0 ≠ '#')
    (hrun : readPlainRun true (c.left + 1) [] (c.require 4) = some (run, c'))
    (hne : run ≠ [])
    (hgap : (isSpace (c'.charAt 0) || isBreak (c'.charAt 0)) = true)
    (hread : readGap
      (fun broken x m => !(broken && x == '\t' && decide ((m.column : Int) < indent)))
      (c'.left + 1) {} (c'.require 1) = some (g, c'')) :
    readPlainText true indent (fuel + 1) p c = readPlainText true indent fuel
      { text := p.text ++ p.gap.fold ++ run, stop := c'.mark, gap := g } c'' := by
  have hnil : run.isEmpty = false := by simpa using hne
  have hcomment' : (c.charAt 0 == '#') = false := by simpa using hcomment
  simp only [readPlainText, bind_apply, need_apply, peek_apply, bound_apply, mark_apply,
    Option.bind_some, hdoc, hcomment', hrun, hnil, hgap, hread, Bool.false_eq_true, if_false,
    Cursor.require_charAt, Bool.not_true, Bool.false_and, Cursor.require_left]

lemma readPlain_of_text {p : PlainText}
    (h : readPlainText true indent (c.left + 1) { stop := c.mark } c = some (p, c')) :
    readPlain true indent c =
      some ((⟨.scalar (String.ofList p.text) .plain, c.mark, p.stop⟩, p.gap.broken), c') := by
  simp only [readPlain, bind_apply, mark_apply, bound_apply, Option.bind_some, h, pure_apply]

end Steps

/-- Behind the gap no more text is found if a value is closed there. -/
lemma readPlainText_end (indent : Int) (fuel : Nat) (p : PlainText)
    (hclosed : closesValue (c.charAt 0) = true) :
    readPlainText true indent (fuel + 1) p c = some (p, c.require 4) := by
  have hne : ∀ z, closesValue z = false → c.charAt 0 ≠ z := by
    rintro z hz rfl
    exact absurd (hclosed.symm.trans hz) (by decide)
  have hdoc : atDocumentIndicator (c.require 4) = some (false, c.require 4) :=
    atDocumentIndicator_eq_false (hne _ (by decide)) fun h => absurd h (hne _ (by decide))
  have hgap := isGap_eq_false_iff.mp (isGap_of_closesValue hclosed)
  rw [readPlainText_word indent fuel p hdoc (hne _ (by decide))
    (readPlainRun_stop c.left (.inr hclosed)) hgap.1 hgap.2.1, List.reverse_nil, List.isEmpty_nil,
    if_pos rfl]

/-- A word is no indicator of a document. -/
lemma atDocumentIndicator_word {word after : List Char} (hword : ∀ x ∈ word, isWordChar x = true)
    (hdash : ∀ x ∈ word.tail, x ≠ '-') (hne : word ≠ []) (hrest : c.rest = word ++ after)
    (hafter : isGap (after.headD endChar) = true ∨ closesValue (after.headD endChar) = true) :
    atDocumentIndicator c = some (false, c) := by
  obtain ⟨y, word, rfl⟩ := List.exists_cons_of_ne_nil hne
  refine atDocumentIndicator_eq_false ?_ fun _ => ?_
  · rw [Cursor.charAt_zero hrest]
    exact ne_of_isWordChar (hword y List.mem_cons_self) (by decide)
  · have hone : c.charAt 1 = (word ++ after).headD endChar := Cursor.charAt_one hrest
    rw [hone]
    cases word with
    | nil =>
      rw [List.nil_append]
      rcases hafter with h | h <;> intro heq <;> rw [heq] at h <;> exact absurd h (by decide)
    | cons z word => exact hdash z List.mem_cons_self

/-- A word in a flow is read with the gap behind it. -/
lemma readPlain_word {word gap more : List Char} {indent : Int} (hindent : indent ≤ 0)
    (hword : ∀ x ∈ word, isWordChar x = true) (hdash : ∀ x ∈ word.tail, x ≠ '-') (hne : word ≠ [])
    (hgap : ∀ x ∈ gap, (isSpace x || isBreak x) = true)
    (hmore : closesValue (more.headD endChar) = true) (hrest : c.rest = word ++ (gap ++ more))
    (hleft : c.left = c.rest.length) :
    ∃ stop broken c', readPlain true indent c =
        some ((⟨.scalar (String.ofList word) .plain, c.mark, stop⟩, broken), c') ∧
      c.Passes (word ++ gap) c' := by
  have hclose := isGap_eq_false_iff.mp (isGap_of_closesValue hmore)
  have hstop : isGap ((gap ++ more).headD endChar) = true ∨
      closesValue ((gap ++ more).headD endChar) = true := by
    cases gap with
    | nil => exact .inr hmore
    | cons x gap =>
      have hx := (List.forall_mem_cons.mp hgap).1
      refine .inl ?_
      simp only [Bool.or_eq_true] at hx
      simp only [List.cons_append, List.headD_cons, isGap, isBreakOrEnd, Bool.or_eq_true]
      tauto
  have hlength : word.length < c.left + 1 := by
    rw [hleft, hrest, List.length_append]
    omega
  obtain ⟨c₁, hrun, hpasses⟩ :=
    readPlainRun_passes (c := c.require 4) [] hword hrest hstop hlength
  have hnext : c₁.rest = gap ++ more :=
    List.append_cancel_left (hpasses.rest.symm.trans hrest)
  have hdoc : atDocumentIndicator (c.require 4) = some (false, c.require 4) :=
    atDocumentIndicator_word hword hdash hne hrest hstop
  have hcomment : c.charAt 0 ≠ '#' := by
    obtain ⟨y, word, rfl⟩ := List.exists_cons_of_ne_nil hne
    rw [Cursor.charAt_zero hrest]
    exact ne_of_isWordChar (hword y List.mem_cons_self) (by decide)
  cases gap with
  | nil =>
    have hhead₁ : c₁.charAt 0 = more.headD endChar := by
      rw [Cursor.charAt_zero_eq_headD, hnext, List.nil_append]
    have hread := readPlainText_word indent c.left { stop := c.mark } hdoc hcomment hrun
      (by rw [hhead₁, hclose.1]) (by rw [hhead₁, hclose.2.1])
    rw [List.reverse_nil, List.nil_append, List.isEmpty_eq_false_iff.mpr hne,
      if_neg Bool.false_ne_true] at hread
    exact ⟨c₁.mark, false, c₁, readPlain_of_text hread,
      by rw [List.append_nil]; exact hpasses.of_require⟩
  | cons x gap =>
    have hx := (List.forall_mem_cons.mp hgap).1
    have hhead₁ : c₁.charAt 0 = x := Cursor.charAt_zero hnext
    have hlength₁ : (x :: gap).length < c₁.left + 1 := by
      rw [hpasses.left hleft, hnext]
      simp only [List.length_append]
      omega
    have hcolumn : ∀ broken x (m : Mark),
        (!(broken && x == '\t' && decide ((m.column : Int) < indent))) = true := by
      intro broken x m
      have hm : ¬(m.column : Int) < indent := by omega
      simp [hm]
    obtain ⟨c₂, hread₁, hpasses₁⟩ := readGap_passes (c := c₁.require 1) (g := {}) hcolumn
      hnext (fun z hz => by simpa using hgap z hz) hclose.1 hclose.2.1 hlength₁
    have hread := readPlainText_gap indent c.left { stop := c.mark } hdoc hcomment hrun
      (by simpa using hne) (by rw [hhead₁, hx]) hread₁
    have hclosed : closesValue (c₂.charAt 0) = true := by
      rw [Cursor.charAt_zero_eq_headD,
        List.append_cancel_left (hpasses₁.rest.symm.trans hnext), hmore]
    obtain ⟨n, hn⟩ : ∃ n, c.left = n + 1 := by
      refine Nat.exists_eq_succ_of_ne_zero ?_
      rw [hleft, hrest]
      simp
    rw [hn, readPlainText_end indent n _ hclosed, ← hn] at hread
    exact ⟨_, _, c₂.require 4, readPlain_of_text hread,
      (hpasses.of_require.trans hpasses₁.of_require).require 4⟩

end Autoscaler.Yaml.Scan
