import Autoscaler.Proofs.CursorPasses
import Autoscaler.Proofs.JsonText

/-!
# Strings of JSON as quoted scalars

A string of JSON in its quotes is read as a double-quoted scalar, and what the scalar gives is what
is heard of the string. It is read run by run and gap by gap; escapes only stand in runs.
-/

namespace Autoscaler.Yaml.Scan

open Json (IsEscaped SpellsChar Spells)

variable {c : Cursor}

/-! ### Escapes -/

lemma readEscape_short {letter x : Char} {more : List Char} (h : (letter, x) ∈ Json.shortEscapes)
    (hrest : c.rest = letter :: more) :
    readEscape c = some (x, c.skip) ∧ isBreak letter = false := by
  have hletter : shortEscape? letter = some x ∧ isBreak letter = false := by
    simp only [Json.shortEscapes, List.mem_cons, Prod.mk.injEq, List.not_mem_nil, or_false] at h
    rcases h with ⟨rfl, rfl⟩ | ⟨rfl, rfl⟩ | ⟨rfl, rfl⟩ | ⟨rfl, rfl⟩ | ⟨rfl, rfl⟩ | ⟨rfl, rfl⟩ |
      ⟨rfl, rfl⟩ <;> exact ⟨rfl, rfl⟩
  refine ⟨?_, hletter.2⟩
  simp [readEscape, Cursor.charAt_zero hrest, hletter.1]

lemma hexDigit_of_lt {d : Char} (h : Text.digitValue d < 16) : isHexDigit d = true ∧
    (if d ≤ '9' then d.toNat - '0'.toNat
      else if d ≤ 'F' then d.toNat - 'A'.toNat + 10
      else d.toNat - 'a'.toNat + 10) = Text.digitValue d := by
  have hle : ∀ a b : Char, a ≤ b ↔ a.toNat ≤ b.toNat := fun a b => by
    rw [Char.le_def, UInt32.le_iff_toNat_le]
    rfl
  have h0 : '0'.toNat = 48 := rfl
  have h9 : '9'.toNat = 57 := rfl
  have hA : 'A'.toNat = 65 := rfl
  have hF : 'F'.toNat = 70 := rfl
  have hZ : 'Z'.toNat = 90 := rfl
  have ha : 'a'.toNat = 97 := rfl
  have hf : 'f'.toNat = 102 := rfl
  have hz : 'z'.toNat = 122 := rfl
  simp only [Text.digitValue, hle, isHexDigit, Bool.or_eq_true, Bool.and_eq_true,
    decide_eq_true_eq] at h ⊢
  rw [h0, h9, hA, hZ, ha, hz] at h
  rw [h0, h9, hA, hF, hZ, ha, hf, hz]
  split_ifs at h ⊢ <;> omega

lemma isBreak_of_hexDigit {d : Char} (h : isHexDigit d = true) : isBreak d = false := by
  by_contra hbreak
  simp only [isBreak, Bool.not_eq_false, Bool.or_eq_true, beq_iff_eq] at hbreak
  rcases hbreak with (((rfl | rfl) | rfl) | rfl) | rfl <;> exact absurd h (by decide)

lemma readHex_passes {digits more : List Char} {value n : Nat} (hrest : c.rest = digits ++ more)
    (hvalue : Text.readDigits 16 value digits = some n) :
    ∃ c', readHex digits.length value c = some (n, c') ∧ c.Passes digits c' := by
  induction digits generalizing c value with
  | nil =>
    cases hvalue
    exact ⟨c, rfl, .refl c⟩
  | cons d digits ih =>
    rw [Text.readDigits] at hvalue
    split at hvalue
    next hd =>
      obtain ⟨hhex, hdigit⟩ := hexDigit_of_lt hd
      have hskip := Cursor.passes_skip hrest (isBreak_of_hexDigit hhex)
      have hnext : c.skip.rest = digits ++ more := by simp [Cursor.skip, hrest]
      obtain ⟨c', hread, hpasses⟩ := ih hnext hvalue
      refine ⟨c', ?_, hskip.trans hpasses⟩
      rw [List.length_cons, readHex]
      simp only [bind_apply, read_apply, Option.bind_some, Cursor.charAt_zero hrest, hhex,
        Bool.not_true, Bool.false_eq_true, if_false, hdigit]
      exact hread
    next => cases hvalue

lemma readEscape_code {x : Char} {digits more : List Char} (hlength : digits.length = 4)
    (hvalue : Text.readNat 16 digits = some x.toNat) (hrest : c.rest = 'u' :: (digits ++ more)) :
    ∃ c', readEscape c = some (x, c') ∧ c.Passes ('u' :: digits) c' := by
  have hskip := (Cursor.passes_skip hrest (by decide)).require 4
  have hnext : (c.skip.require 4).rest = digits ++ more := by simp [Cursor.skip, hrest]
  have hdigits : Text.readDigits 16 0 digits = some x.toNat := by
    cases digits with
    | nil => cases hlength
    | cons d digits => exact hvalue
  obtain ⟨c', hread, hpasses⟩ := readHex_passes hnext hdigits
  refine ⟨c', ?_, hskip.trans hpasses⟩
  have hvalid : ¬¬x.toNat.isValidChar := not_not.mpr x.valid
  rw [hlength] at hread
  have hshort : shortEscape? 'u' = none := rfl
  have hlong : escapeLength? 'u' = some 4 := rfl
  simp only [readEscape, bind_apply, read_apply, Option.bind_some, Cursor.charAt_zero hrest, hshort,
    hlong, need_apply, hread, if_neg hvalid, pure_apply, Char.ofNat_toNat]

/-! ### Runs of quoted text -/

lemma readQuotedRun_stop {run : List Char} (fuel : Nat)
    (h : isGap (c.charAt 0) = true ∨ c.charAt 0 = '"') :
    readQuotedRun '"' (fuel + 1) run c = some ((run.reverse, false), c) := by
  have hquote : isGap '"' = false := by decide
  rcases h with h | h <;> simp [readQuotedRun, h, hquote]

lemma readQuotedRun_asIs {run : List Char} (fuel : Nat) (hgap : isGap (c.charAt 0) = false)
    (hquote : c.charAt 0 ≠ '"') (hbackslash : c.charAt 0 ≠ '\\') :
    readQuotedRun '"' (fuel + 1) run c =
      readQuotedRun '"' fuel (c.charAt 0 :: run) (c.skip.require 2) := by
  simp [readQuotedRun, hgap, hquote, hbackslash]

lemma readQuotedRun_escape {run : List Char} {x : Char} {c' : Cursor} (fuel : Nat)
    (hhead : c.charAt 0 = '\\') (hbreak : isBreak (c.charAt 1) = false)
    (hread : readEscape c.skip = some (x, c')) :
    readQuotedRun '"' (fuel + 1) run c = readQuotedRun '"' fuel (x :: run) (c'.require 2) := by
  have hgap : isGap '\\' = false := by decide
  simp [readQuotedRun, hhead, hbreak, hread, hgap]

/-- Of the characters that stand as they are in a string, the gaps are those that are folded. -/
lemma isGap_eq_isFolded {x : Char} (h : ¬IsEscaped x) : isGap x = isFolded x := by
  rw [Bool.eq_iff_iff]
  have hne : x ≠ '\t' ∧ x ≠ '\r' ∧ x ≠ '\n' ∧ x ≠ endChar := by
    refine ⟨?_, ?_, ?_, ?_⟩ <;> rintro rfl <;> exact h (.inr (.inr (by decide)))
  simp [isGap, isSpace, isBreakOrEnd, isBreak, isEnd, isFolded, hne, or_assoc]

lemma ne_of_not_isEscaped {x : Char} (h : ¬IsEscaped x) : x ≠ '"' ∧ x ≠ '\\' :=
  ⟨fun hx => h (.inl hx), fun hx => h (.inr (.inl hx))⟩

/-- One character of a string is read, however it is written. -/
lemma readQuotedRun_cons {x : Char} {piece more : List Char} (fuel : Nat) (run : List Char)
    (hx : SpellsChar x piece) (hfolded : isFolded x = false) (hrest : c.rest = piece ++ more) :
    ∃ c', readQuotedRun '"' (fuel + 1) run c = readQuotedRun '"' fuel (x :: run) c' ∧
      c.Passes piece c' := by
  cases hx with
  | asIs h =>
    have hgap : isGap x = false := by rw [isGap_eq_isFolded h, hfolded]
    obtain ⟨hquote, hbackslash⟩ := ne_of_not_isEscaped h
    have hhead : c.charAt 0 = x := Cursor.charAt_zero hrest
    rw [← hhead] at hgap hquote hbackslash ⊢
    refine ⟨_, readQuotedRun_asIs fuel hgap hquote hbackslash, ?_⟩
    rw [hhead] at hgap ⊢
    exact (Cursor.passes_skip hrest (isBreak_eq_false hgap)).require 2
  | @short letter _ h =>
    have hskip := Cursor.passes_skip hrest (by decide)
    have hnext : c.skip.rest = letter :: more := by simp [Cursor.skip, hrest]
    obtain ⟨hread, hbreak⟩ := readEscape_short h hnext
    have hone : c.charAt 1 = letter := by simp [Cursor.charAt, hrest]
    have hplain : isBreak (c.charAt 1) = false := by rw [hone, hbreak]
    refine ⟨_, readQuotedRun_escape fuel (Cursor.charAt_zero hrest) hplain hread, ?_⟩
    exact (hskip.trans (Cursor.passes_skip hnext hbreak)).require 2
  | @code _ digits h hlength hvalue =>
    have hskip := Cursor.passes_skip hrest (by decide)
    have hnext : c.skip.rest = 'u' :: (digits ++ more) := by simp [Cursor.skip, hrest]
    obtain ⟨c', hread, hpasses⟩ := readEscape_code hlength hvalue hnext
    have hone : c.charAt 1 = 'u' := by simp [Cursor.charAt, hrest]
    have hplain : isBreak (c.charAt 1) = false := by rw [hone]; decide
    refine ⟨_, readQuotedRun_escape fuel (Cursor.charAt_zero hrest) hplain hread, ?_⟩
    exact (hskip.trans hpasses).require 2

lemma readQuotedRun_passes {s body more : List Char} {fuel : Nat} (run : List Char)
    (hs : Spells s body)
    (hfolded : ∀ x ∈ s, isFolded x = false) (hrest : c.rest = body ++ more)
    (hmore : isGap (more.headD endChar) = true ∨ more.headD endChar = '"')
    (hfuel : s.length < fuel) :
    ∃ c', readQuotedRun '"' fuel run c = some ((run.reverse ++ s, false), c') ∧
      c.Passes body c' := by
  induction hs generalizing c run fuel with
  | nil =>
    obtain ⟨fuel, rfl⟩ := Nat.exists_eq_succ_of_ne_zero (Nat.ne_of_gt hfuel)
    rw [List.nil_append] at hrest
    rw [← hrest, ← Cursor.charAt_zero_eq_headD] at hmore
    exact ⟨c, by rw [readQuotedRun_stop fuel hmore, List.append_nil], .refl c⟩
  | @cons x piece s body hx _ ih =>
    obtain ⟨fuel, rfl⟩ := Nat.exists_eq_succ_of_ne_zero (Nat.ne_zero_of_lt hfuel)
    obtain ⟨hxfolded, hfolded⟩ := List.forall_mem_cons.mp hfolded
    rw [List.append_assoc] at hrest
    obtain ⟨c', hread, hpasses⟩ := readQuotedRun_cons fuel run hx hxfolded hrest
    have hnext : c'.rest = body ++ more := List.append_cancel_left (hpasses.rest.symm.trans hrest)
    obtain ⟨c'', hread', hpasses'⟩ :=
      ih (x :: run) hfolded hnext (Nat.lt_of_succ_lt_succ hfuel)
    refine ⟨c'', ?_, hpasses.trans hpasses'⟩
    rw [hread, hread', List.reverse_cons, List.append_assoc, List.singleton_append]

/-! ### Quoted text -/

/-- A text is a run of characters that are not folded, a gap, and a text that starts with none. -/
lemma exists_run_gap (s : List Char) : ∃ run w t, s = run ++ (w ++ t) ∧
    (∀ x ∈ run, isFolded x = false) ∧ (∀ x ∈ w, isFolded x = true) ∧
    t.head?.any isFolded = false ∧ (w = [] → t = []) := by
  induction s with
  | nil => exact ⟨[], [], [], rfl, by simp, by simp, rfl, fun _ => rfl⟩
  | cons x s ih =>
    obtain ⟨run, w, t, rfl, hrun, hw, ht, hnil⟩ := ih
    cases hx : isFolded x with
    | false =>
      exact ⟨x :: run, w, t, rfl, List.forall_mem_cons.mpr ⟨hx, hrun⟩, hw, ht, hnil⟩
    | true =>
      cases run with
      | nil => exact ⟨[], x :: w, t, rfl, by simp, List.forall_mem_cons.mpr ⟨hx, hw⟩, ht, nofun⟩
      | cons y run =>
        obtain ⟨hy, -⟩ := List.forall_mem_cons.mp hrun
        exact ⟨[], [x], y :: run ++ (w ++ t), rfl, by simp, by simpa using hx, by simpa using hy,
          nofun⟩

/-- After a gap, a text goes on as it would at the start, behind what the gap folds to. -/
lemma heardFrom_eq_map {g : Gap} {atStart : Bool} {t : List Char}
    (ht : t.head?.any isFolded = false) :
    heardFrom g atStart t = (heardFrom {} atStart t).map (g.fold ++ ·) := by
  have hfold : Gap.fold {} = [] := rfl
  cases t with
  | nil => simp [heardFrom, hfold]
  | cons x t =>
    have hx : isFolded x = false := by simpa using ht
    simp only [heardFrom, hx, Bool.false_eq_true, if_false, hfold, List.nil_append]
    split
    · rfl
    · rw [Option.map_map]
      rfl

lemma heardFrom_run {atStart : Bool} {run t : List Char} (hrun : ∀ x ∈ run, isFolded x = false)
    (ht : t.head?.all isFolded = true) :
    heardFrom {} atStart (run ++ t) =
      if atStart && startsIndicator (run ++ t) then none
      else (heardFrom {} false t).map (run ++ ·) := by
  induction run generalizing atStart with
  | nil =>
    cases t with
    | nil => simp [startsIndicator, heardFrom]
    | cons x t =>
      have hx : isFolded x = true := by simpa using ht
      simp [startsIndicator_of_folded hx, heardFrom, hx]
  | cons x run ih =>
    obtain ⟨hx, hrun⟩ := List.forall_mem_cons.mp hrun
    have hrest : heardFrom {} false (run ++ t) = (heardFrom {} false t).map (run ++ ·) := by
      rw [ih hrun, Bool.false_and, if_neg Bool.false_ne_true]
    rw [List.cons_append, heardFrom, if_neg (by simp [hx]), hrest, Option.map_map]
    rfl

lemma heardFrom_gap {g : Gap} {atStart : Bool} {w t : List Char}
    (hw : ∀ x ∈ w, isFolded x = true) :
    heardFrom g atStart (w ++ t) =
      heardFrom (w.foldl Gap.add g) ((w.getLast?.map isBreak).getD atStart) t := by
  induction w generalizing g atStart with
  | nil => rfl
  | cons x w ih =>
    obtain ⟨hx, hw⟩ := List.forall_mem_cons.mp hw
    rw [List.cons_append, heardFrom, if_pos hx, ih hw, List.foldl_cons]
    cases w <;> rfl

/-- Characters that are folded stand as they are in a string. -/
lemma eq_of_spells_folded {w body : List Char} (hs : Spells w body)
    (hw : ∀ x ∈ w, isFolded x = true) : body = w := by
  induction hs with
  | nil => rfl
  | @cons x piece s text hx _ ih =>
    obtain ⟨hxfolded, hw⟩ := List.forall_mem_cons.mp hw
    rcases hx.cases_head with ⟨-, rfl⟩ | ⟨hescaped, -⟩
    · rw [ih hw, List.singleton_append]
    · rcases isFolded_iff.mp hxfolded with rfl | rfl | hsep
      · simp [IsEscaped] at hescaped
      · simp [IsEscaped] at hescaped
      · simp only [isSeparator, Bool.or_eq_true, beq_iff_eq] at hsep
        rcases hsep with rfl | rfl <;> simp [IsEscaped] at hescaped

/-- What is ahead in a quoted string, other than an escape or the end, is its next character. -/
lemma exists_of_head_spelled {s body more : List Char} (hs : Spells s body)
    (hquote : (body ++ '"' :: more).headD endChar ≠ '"')
    (hbackslash : (body ++ '"' :: more).headD endChar ≠ '\\') :
    ∃ x s' body', s = x :: s' ∧ body = x :: body' ∧ ¬IsEscaped x ∧ Spells s' body' := by
  cases hs with
  | nil => exact absurd rfl hquote
  | @cons x piece s body hx hs =>
    rcases hx.cases_head with ⟨hescaped, rfl⟩ | ⟨-, rest, rfl⟩
    · exact ⟨x, s, body, rfl, rfl, hescaped, hs⟩
    · exact absurd rfl hbackslash

lemma spells_cons_inv {x : Char} {s body : List Char} (hs : Spells (x :: s) body)
    (hx : ¬IsEscaped x) : ∃ body', body = x :: body' ∧ Spells s body' := by
  obtain _ | ⟨hpiece, hs⟩ := hs
  rcases hpiece.cases_head with ⟨-, rfl⟩ | ⟨hescaped, -⟩
  · exact ⟨_, rfl, hs⟩
  · exact absurd hescaped hx

lemma not_isEscaped_of_isFolded {x : Char} (h : isFolded x = true) : ¬IsEscaped x := by
  simp only [isFolded, Bool.or_eq_true, beq_iff_eq] at h
  rcases h with ((rfl | rfl) | rfl) | rfl <;> simp [IsEscaped]

lemma startsIndicator_iff {s : List Char} : startsIndicator s = true ↔
    ∃ x e rest, (x = '-' ∨ x = '.') ∧ isFolded e = true ∧ s = x :: x :: x :: e :: rest := by
  constructor
  · intro h
    unfold startsIndicator at h
    split at h
    next a b d e rest =>
      simp only [Bool.and_eq_true, Bool.or_eq_true, beq_iff_eq] at h
      obtain ⟨⟨⟨ha, rfl⟩, rfl⟩, he⟩ := h
      exact ⟨a, e, rest, ha, he, rfl⟩
    next => cases h
  · rintro ⟨x, e, rest, rfl | rfl, he, rfl⟩ <;> simp [startsIndicator, he]

/-- A string in its quotes starts like the indicator of a document if its text does. -/
lemma atDocumentIndicator_spelled {s body more : List Char} (hs : Spells s body)
    (hrest : c.rest = body ++ '"' :: more) :
    atDocumentIndicator c = some (decide (c.mark.column = 0) && startsIndicator s, c) := by
  suffices h : ((c.charAt 0 == '-' || c.charAt 0 == '.') && c.charAt 0 == c.charAt 1 &&
      c.charAt 1 == c.charAt 2 && isGap (c.charAt 3)) = startsIndicator s by
    rw [← h]
    simp only [atDocumentIndicator, Bool.and_assoc]
    rfl
  have hplain : ∀ x : Char, x = '-' ∨ x = '.' → x ≠ '"' ∧ x ≠ '\\' ∧ ¬IsEscaped x := by
    rintro x (rfl | rfl) <;> simp [IsEscaped]
  rw [Bool.eq_iff_iff, startsIndicator_iff]
  simp only [Cursor.charAt, hrest, Bool.and_eq_true, Bool.or_eq_true, beq_iff_eq]
  constructor
  · rintro ⟨⟨⟨hx, hone⟩, htwo⟩, hgap⟩
    have hhead : ∀ text : List Char, text[0]?.getD endChar = text.headD endChar := by
      rintro (_ | ⟨y, text⟩) <;> rfl
    rw [hhead] at hx hone
    obtain ⟨hquote, hbackslash, -⟩ := hplain _ hx
    obtain ⟨x, s, body, rfl, rfl, -, hs₁⟩ := exists_of_head_spelled hs hquote hbackslash
    simp only [List.cons_append, List.headD_cons, List.getElem?_cons_succ] at hx hone htwo hgap
    rw [hhead] at hone htwo
    obtain ⟨y, s, body, rfl, rfl, -, hs₂⟩ :=
      exists_of_head_spelled hs₁ (hone ▸ hquote) (hone ▸ hbackslash)
    obtain rfl : x = y := hone
    simp only [List.cons_append, List.headD_cons, List.getElem?_cons_succ] at htwo hgap
    rw [hhead] at htwo
    obtain ⟨z, s, body, rfl, rfl, -, hs₃⟩ :=
      exists_of_head_spelled hs₂ (htwo ▸ hquote) (htwo ▸ hbackslash)
    obtain rfl : x = z := htwo
    simp only [List.cons_append, List.getElem?_cons_succ] at hgap
    rw [hhead] at hgap
    have hend : ∀ e : Char, isGap e = true → e ≠ '"' ∧ e ≠ '\\' := by
      intro e he
      constructor <;> rintro rfl <;> exact absurd he (by decide)
    obtain ⟨hquote', hbackslash'⟩ := hend _ hgap
    obtain ⟨e, s, body, rfl, rfl, he, -⟩ := exists_of_head_spelled hs₃ hquote' hbackslash'
    exact ⟨x, e, s, hx, by rwa [← isGap_eq_isFolded he], rfl⟩
  · rintro ⟨x, e, rest, hx, he, rfl⟩
    obtain ⟨-, -, hescaped⟩ := hplain x hx
    obtain ⟨_, rfl, hone⟩ := spells_cons_inv hs hescaped
    obtain ⟨_, rfl, htwo⟩ := spells_cons_inv hone hescaped
    obtain ⟨_, rfl, hthree⟩ := spells_cons_inv htwo hescaped
    obtain ⟨_, rfl, -⟩ := spells_cons_inv hthree (not_isEscaped_of_isFolded he)
    have hgap : isGap e = true := by rw [isGap_eq_isFolded (not_isEscaped_of_isFolded he), he]
    simp [hx, hgap]

lemma isEnd_spelled {s body more : List Char} (hs : Spells s body)
    (hrest : c.rest = body ++ '"' :: more) : isEnd (c.charAt 0) = false := by
  rw [Cursor.charAt_zero_eq_headD, hrest]
  by_contra hend
  rw [Bool.not_eq_false, isEnd, beq_iff_eq] at hend
  obtain ⟨x, s, body, rfl, rfl, hx, -⟩ :=
    exists_of_head_spelled hs (by rw [hend]; decide) (by rw [hend]; decide)
  obtain rfl : x = endChar := hend
  exact hx (.inr (.inr (by decide)))

lemma isGap_headD_spelled {t body more : List Char} (ht : t.head?.any isFolded = false)
    (hs : Spells t body) : isGap ((body ++ '"' :: more).headD endChar) = false := by
  by_contra hgap
  rw [Bool.not_eq_false] at hgap
  have hne : ∀ e : Char, isGap e = true → e ≠ '"' ∧ e ≠ '\\' := by
    intro e he
    constructor <;> rintro rfl <;> exact absurd he (by decide)
  obtain ⟨hquote, hbackslash⟩ := hne _ hgap
  obtain ⟨x, t, body, rfl, rfl, hx, -⟩ := exists_of_head_spelled hs hquote hbackslash
  rw [List.cons_append, List.headD_cons, isGap_eq_isFolded hx] at hgap
  simp [hgap] at ht

section Steps

variable {acc run : List Char} {c' c'' : Cursor} {g : Gap}

lemma readQuotedText_refused (fuel : Nat)
    (hdoc : atDocumentIndicator (c.require 4) = some (true, c.require 4)) :
    readQuotedText '"' (fuel + 1) acc c = none := by
  simp [readQuotedText, hdoc]

lemma readQuotedText_closed (fuel : Nat)
    (hdoc : atDocumentIndicator (c.require 4) = some (false, c.require 4))
    (hend : isEnd (c.charAt 0) = false)
    (hrun : readQuotedRun '"' (c.left + 1) [] ((c.require 4).require 2) = some ((run, false), c'))
    (hquote : c'.charAt 0 = '"') :
    readQuotedText '"' (fuel + 1) acc c = some (acc ++ run, c'.require 1) := by
  simp [readQuotedText, hdoc, hend, hrun, hquote]

lemma readQuotedText_folded (fuel : Nat)
    (hdoc : atDocumentIndicator (c.require 4) = some (false, c.require 4))
    (hend : isEnd (c.charAt 0) = false)
    (hrun : readQuotedRun '"' (c.left + 1) [] ((c.require 4).require 2) = some ((run, false), c'))
    (hquote : c'.charAt 0 ≠ '"')
    (hgap : readGap (fun _ _ _ => true) (c'.left + 1) {} (c'.require 1) = some (g, c'')) :
    readQuotedText '"' (fuel + 1) acc c = readQuotedText '"' fuel (acc ++ run ++ g.fold) c'' := by
  rw [readQuotedText]
  simp [hdoc, hend, hrun, hquote, hgap]

end Steps

/-- A run of plain text and the gap behind it are read one after the other. -/
lemma readRun_readGap {run early gap after : List Char} (hearly : Spells run early)
    (hrun : ∀ y ∈ run, isFolded y = false) (hgap : ∀ y ∈ gap, isFolded y = true) (hne : gap ≠ [])
    (hstop : isGap (after.headD endChar) = false) (hrest : c.rest = early ++ (gap ++ after))
    (hleft : c.left = c.rest.length) :
    ∃ c₁ c₂, readQuotedRun '"' (c.left + 1) [] c = some ((run, false), c₁) ∧
      c₁.charAt 0 ≠ '"' ∧
      readGap (fun _ _ _ => true) (c₁.left + 1) {} (c₁.require 1) = some (Gap.read {} gap, c₂) ∧
      c.Passes (early ++ gap) c₂ := by
  obtain ⟨x, gap, rfl⟩ := List.exists_cons_of_ne_nil hne
  have hx : isFolded x = true := (List.forall_mem_cons.mp hgap).1
  have hxgap : isGap x = true := by
    rw [isGap_eq_isFolded (not_isEscaped_of_isFolded hx), hx]
  have hlength : run.length < c.left + 1 := by
    have := hearly.length_le
    rw [hleft, hrest]
    simp only [List.length_append]
    omega
  obtain ⟨c₁, hread₁, hpasses₁⟩ :=
    readQuotedRun_passes [] hearly hrun hrest (.inl hxgap) hlength
  have hnext₁ : c₁.rest = x :: gap ++ after :=
    List.append_cancel_left (hpasses₁.rest.symm.trans hrest)
  have hquote : c₁.charAt 0 ≠ '"' := by
    rw [Cursor.charAt_zero hnext₁]
    rintro rfl
    exact absurd hxgap (by decide)
  have hlength₁ : (x :: gap).length < c₁.left + 1 := by
    rw [hpasses₁.left hleft, hnext₁]
    simp only [List.length_append]
    omega
  rw [isGap_eq_false_iff] at hstop
  obtain ⟨c₂, hread₂, hpasses₂⟩ := readGap_passes (c := c₁.require 1) (g := {})
    (fun _ _ _ => rfl) hnext₁ (fun y hy => isSpace_or_isBreak_of_isFolded (hgap y hy)) hstop.1
    hstop.2.1 hlength₁
  exact ⟨c₁, c₂, hread₁, hquote, hread₂, hpasses₁.trans hpasses₂.of_require⟩

/-- The text of a string is read as it is heard, up to the quote behind it. -/
lemma readQuotedText_spelled {s body more : List Char} {fuel : Nat} (acc : List Char)
    (hs : Spells s body) (hrest : c.rest = body ++ '"' :: more)
    (hleft : c.left = c.rest.length) (hfuel : s.length < fuel) :
    ∃ c', readQuotedText '"' fuel acc c =
        (heardFrom {} (decide (c.mark.column = 0)) s).map (fun out => (acc ++ out, c')) ∧
      ((heardFrom {} (decide (c.mark.column = 0)) s).isSome = true → c.Passes body c') := by
  induction fuel generalizing c s body acc with
  | zero => cases hfuel
  | succ fuel ih =>
    have hdoc := atDocumentIndicator_spelled (c := c.require 4) hs hrest
    have hend := isEnd_spelled hs hrest
    obtain ⟨run, gap, t, rfl, hrun, hgap, ht, hnil⟩ := exists_run_gap s
    have hhead : (gap ++ t).head?.all isFolded = true := by
      cases gap with
      | nil => rw [hnil rfl]; rfl
      | cons x gap => simpa using (List.forall_mem_cons.mp hgap).1
    rw [heardFrom_run hrun hhead]
    rw [Cursor.require_mark] at hdoc
    cases hstart : decide (c.mark.column = 0) && startsIndicator (run ++ (gap ++ t)) with
    | true =>
      rw [hstart] at hdoc
      exact ⟨c, by rw [readQuotedText_refused fuel hdoc]; rfl, nofun⟩
    | false =>
      rw [hstart] at hdoc
      rw [if_neg Bool.false_ne_true]
      obtain ⟨early, late, rfl, hearly, hlate⟩ := hs.append_inv
      obtain ⟨gap', tail, rfl, hgapped, htail⟩ := hlate.append_inv
      obtain rfl := (eq_of_spells_folded hgapped hgap).symm
      have hrest₁ : ((c.require 4).require 2).rest = early ++ (gap ++ (tail ++ '"' :: more)) := by
        simp [hrest]
      by_cases hgapNil : gap = []
      · -- The string ends with the run.
        subst hgapNil
        obtain rfl := hnil rfl
        cases htail
        have hlength : run.length < c.left + 1 := by
          have := hearly.length_le
          rw [hleft, hrest]
          simp only [List.length_append]
          omega
        obtain ⟨c₁, hread₁, hpasses₁⟩ :=
          readQuotedRun_passes [] hearly hrun hrest₁ (.inr rfl) hlength
        have hquote : c₁.charAt 0 = '"' :=
          Cursor.charAt_zero (List.append_cancel_left (hpasses₁.rest.symm.trans hrest₁))
        refine ⟨c₁.require 1, ?_, fun _ => ?_⟩
        · rw [readQuotedText_closed fuel hdoc hend hread₁ hquote]
          simp [heardFrom, Gap.fold]
        · rw [List.nil_append, List.append_nil]
          exact hpasses₁.of_require.of_require.require 1
      · obtain ⟨c₁, c₂, hread₁, hquote, hread₂, hpassed⟩ :=
          readRun_readGap hearly hrun hgap hgapNil (isGap_headD_spelled ht htail) hrest₁ hleft
        have hpasses : c.Passes (early ++ gap) c₂ := hpassed.of_require.of_require
        have hnext : c₂.rest = tail ++ '"' :: more := by
          have := hpasses.rest
          rw [hrest, List.append_assoc, List.append_assoc, List.append_assoc] at this
          exact (List.append_cancel_left (List.append_cancel_left this)).symm
        have hfuel' : t.length < fuel := by
          have := List.length_pos_iff.mpr hgapNil
          simp only [List.length_append] at hfuel
          omega
        obtain ⟨c₃, hread₃, hpasses₃⟩ :=
          ih (acc ++ run ++ (Gap.read {} gap).fold) htail hnext (hpasses.left hleft) hfuel'
        rw [heardFrom_gap hgap, hpassed.starts_line hgapNil false, ← Gap.read_folded hgap,
          heardFrom_eq_map ht]
        refine ⟨c₃, ?_, fun h => ?_⟩
        · rw [readQuotedText_folded fuel hdoc hend hread₁ hquote hread₂, hread₃, Option.map_map,
            Option.map_map]
          simp only [Function.comp_def, List.append_assoc]
        · rw [Option.isSome_map, Option.isSome_map] at h
          rw [← List.append_assoc]
          exact hpasses.trans (hpasses₃ h)

/-- A string in its quotes is read as what is heard of it. -/
lemma readQuoted_spelled {s body more : List Char} (hs : Spells s body)
    (hrest : c.rest = '"' :: (body ++ '"' :: more)) (hleft : c.left = c.rest.length) :
    ∃ stop c', readQuoted .doubleQuoted c = (heard s).map (fun out =>
        (⟨.scalar (String.ofList out) .doubleQuoted, c.mark, stop⟩, c')) ∧
      ((heard s).isSome = true → c.Passes ('"' :: body ++ ['"']) c') := by
  have hskip := Cursor.passes_skip hrest (by decide)
  have hnext : c.skip.rest = body ++ '"' :: more := by simp [Cursor.skip, hrest]
  have hfuel : s.length < c.skip.left + 1 := by
    have := hs.length_le
    rw [hskip.left hleft, hnext]
    simp only [List.length_append]
    omega
  obtain ⟨c', hread, hpasses⟩ := readQuotedText_spelled [] hs hnext (hskip.left hleft) hfuel
  have hcolumn : decide (c.skip.mark.column = 0) = false := by
    simp [Cursor.skip]
  rw [hcolumn] at hread hpasses
  refine ⟨c'.skip.mark, c'.skip, ?_, fun h => ?_⟩
  · simp only [readQuoted, bind_apply, mark_apply, read_apply, bound_apply, skip_apply,
      Option.bind_some, Cursor.charAt_zero hrest, hread, pure_apply, List.nil_append]
    unfold heard
    cases heardFrom {} false s <;> rfl
  · have hpassed := hskip.trans (hpasses h)
    have hquote : c'.rest = '"' :: more :=
      List.append_cancel_left ((hpasses h).rest.symm.trans hnext)
    exact hpassed.trans (Cursor.passes_skip hquote (by decide))

end Autoscaler.Yaml.Scan
