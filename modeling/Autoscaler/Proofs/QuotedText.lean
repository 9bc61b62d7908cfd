import Autoscaler.Yaml.Token.Scalar
import Mathlib.Data.List.Basic

/-!
# What a quoted scalar keeps of a text

A double-quoted scalar folds its lines. Of a text that is written in it as it is, with escapes for
control characters only, each run of spaces and breaks is read as a gap: the next-line character
becomes a space or a line feed, and spaces beside a separator of lines or paragraphs are lost. A
line that looks like the indicator of a document makes the whole scalar unreadable. All other texts
survive.
-/

namespace Autoscaler.Yaml.Scan

/-- The characters of a text that are part of a gap where they are written as they are. Other gaps
than these are always escaped. -/
def isFolded (c : Char) : Bool := c == ' ' || c == '\u0085' || c == '\u2028' || c == '\u2029'

/-- The separators of lines and paragraphs. -/
def isSeparator (c : Char) : Bool := c == '\u2028' || c == '\u2029'

/-- What a break counts for: the separators of lines and paragraphs are kept. -/
def breakText (c : Char) : List Char := if isSeparator c then [c] else ['\n']

/-- A gap with one more break. -/
def Gap.addBreak (g : Gap) (text : List Char) : Gap :=
  if g.broken then { g with later := g.later ++ text }
  else { g with spaces := [], broken := true, first := text }

/-- A gap with one more character. -/
def Gap.add (g : Gap) (c : Char) : Gap :=
  if isSpace c then (if g.broken then g else { g with spaces := g.spaces ++ [c] })
  else g.addBreak (breakText c)

/-- Whether a text starts like a document indicator. -/
def startsIndicator (text : List Char) : Bool :=
  match text with
  | a :: b :: d :: e :: _ => (a == '-' || a == '.') && a == b && b == d && isFolded e
  | _ => false

/-- What a double-quoted scalar gives of a text, read on after a gap; nothing if a line of it looks
like the end of the document. -/
def heardFrom (g : Gap) (atStart : Bool) : List Char → Option (List Char)
  | [] => some g.fold
  | c :: rest =>
    if isFolded c then heardFrom (g.add c) (isBreak c) rest
    else if atStart && startsIndicator (c :: rest) then none
    else (heardFrom {} false rest).map fun out => g.fold ++ c :: out

/-- What a double-quoted scalar gives of a text. -/
def heard (text : List Char) : Option (List Char) := heardFrom {} false text

/-- A character is kept in front of the rest of its text. It is not lost between lines, and the line
after it is not taken for the indicator of a document. -/
def Kept (c : Char) (rest : List Char) : Prop :=
  c ≠ '\u0085' ∧ (c = ' ' → rest.head?.any isSeparator = false) ∧
    (isSeparator c = true → rest.head? ≠ some ' ' ∧ startsIndicator rest = false)

/-- Every character of a text is kept. -/
def Survives : List Char → Prop
  | [] => True
  | c :: rest => Kept c rest ∧ Survives rest

instance (c : Char) (rest : List Char) : Decidable (Kept c rest) :=
  inferInstanceAs (Decidable (_ ∧ _ ∧ _))

instance decidableSurvives : (text : List Char) → Decidable (Survives text)
  | [] => .isTrue trivial
  | c :: rest =>
    have := decidableSurvives rest
    inferInstanceAs (Decidable (Kept c rest ∧ Survives rest))

/-! ### Gaps -/

variable {w t : List Char} {c : Char}

lemma isFolded_iff : isFolded c = true ↔ c = ' ' ∨ c = '\u0085' ∨ isSeparator c = true := by
  simp [isFolded, isSeparator, or_assoc]

lemma isSpace_or_isBreak_of_isFolded (h : isFolded c = true) :
    isSpace c = true ∨ isBreak c = true := by
  rcases isFolded_iff.mp h with rfl | rfl | hsep
  · exact .inl (by decide)
  · exact .inr (by decide)
  · simp only [isSeparator, Bool.or_eq_true, beq_iff_eq] at hsep
    rcases hsep with rfl | rfl <;> exact .inr (by decide)

lemma ne_of_isSeparator (h : isSeparator c = true) : c ≠ '\u0085' ∧ c ≠ ' ' := by
  constructor <;> rintro rfl <;> exact absurd h (by decide)

lemma isSpace_eq_false (hfolded : isFolded c = true) (hspace : c ≠ ' ') : isSpace c = false := by
  have htab : c ≠ '\t' := by
    rintro rfl
    exact absurd hfolded (by decide)
  simp [isSpace, hspace, htab]

/-- What is kept of the characters of a gap after its first break. -/
def keptBreaks (w : List Char) : List Char := (w.filter (· != ' ')).flatMap breakText

lemma length_keptBreaks_le (w : List Char) : (keptBreaks w).length ≤ w.length := by
  induction w with
  | nil => exact Nat.le_refl 0
  | cons c w ih =>
    have hone : (breakText c).length = 1 := by
      unfold breakText
      split <;> rfl
    rw [keptBreaks, List.filter_cons]
    split
    · simp only [List.flatMap_cons, List.length_append, hone, List.length_cons]
      rw [keptBreaks] at ih
      omega
    · rw [keptBreaks] at ih
      simp only [List.length_cons]
      omega

lemma mem_keptBreaks {x : Char} (h : x ∈ keptBreaks w) : isSeparator x = true ∨ x = '\n' := by
  obtain ⟨c, -, hx⟩ := List.mem_flatMap.mp h
  unfold breakText at hx
  split at hx
  next hsep =>
    rw [List.mem_singleton.mp hx]
    exact .inl hsep
  next => exact .inr (List.mem_singleton.mp hx)

lemma keptBreaks_eq (h : ∀ c ∈ w, isSeparator c = true) : keptBreaks w = w := by
  induction w with
  | nil => rfl
  | cons c w ih =>
    obtain ⟨hc, hw⟩ := List.forall_mem_cons.mp h
    have hspace : (c != ' ') = true := by
      rw [bne_iff_ne]
      rintro rfl
      exact absurd hc (by decide)
    have hrest := ih hw
    rw [keptBreaks] at hrest ⊢
    simp only [List.filter_cons, hspace, if_true, List.flatMap_cons, hrest, breakText, hc,
      List.singleton_append]

def gapOf (w : List Char) : Gap := w.foldl Gap.add {}

lemma gapOf_append_singleton (w : List Char) (c : Char) : gapOf (w ++ [c]) = (gapOf w).add c := by
  simp [gapOf]

lemma foldl_add_spaces {g : Gap} (hg : g.broken = false) (h : ∀ c ∈ w, c = ' ') :
    w.foldl Gap.add g = { g with spaces := g.spaces ++ w } := by
  induction w generalizing g with
  | nil => simp
  | cons c w ih =>
    obtain ⟨rfl, hw⟩ := List.forall_mem_cons.mp h
    rw [List.foldl_cons, ih (by simp [Gap.add, isSpace, hg]) hw]
    simp [Gap.add, isSpace, hg]

lemma foldl_add_broken {g : Gap} (hg : g.broken = true) (h : ∀ c ∈ w, isFolded c = true) :
    w.foldl Gap.add g = { g with later := g.later ++ keptBreaks w } := by
  induction w generalizing g with
  | nil => simp [keptBreaks]
  | cons c w ih =>
    obtain ⟨hc, hw⟩ := List.forall_mem_cons.mp h
    rw [List.foldl_cons]
    rcases isFolded_iff.mp hc with rfl | hbreak
    · have hadd : g.add ' ' = g := by simp [Gap.add, isSpace, hg]
      rw [hadd, ih hg hw]
      simp [keptBreaks]
    · have hspace : c ≠ ' ' := by
        rintro rfl
        exact absurd hbreak (by decide)
      have hadd : g.add c = { g with later := g.later ++ breakText c } := by
        simp [Gap.add, Gap.addBreak, isSpace_eq_false hc hspace, hg]
      have hbroken : (g.add c).broken = true := by rw [hadd, hg]
      rw [ih hbroken hw, hadd]
      simp [keptBreaks, hspace]

/-- A gap is all spaces, or it has a first break. -/
lemma folded_cases (h : ∀ c ∈ w, isFolded c = true) : (∀ c ∈ w, c = ' ') ∨
    ∃ before b after, w = before ++ b :: after ∧ (∀ c ∈ before, c = ' ') ∧ b ≠ ' ' ∧
      isFolded b = true ∧ ∀ c ∈ after, isFolded c = true := by
  induction w with
  | nil => exact .inl (by simp)
  | cons c w ih =>
    obtain ⟨hc, hw⟩ := List.forall_mem_cons.mp h
    by_cases hspace : c = ' '
    · rcases ih hw with hall | ⟨before, b, after, rfl, hbefore, hb⟩
      · exact .inl (List.forall_mem_cons.mpr ⟨hspace, hall⟩)
      · exact .inr ⟨c :: before, b, after, rfl, List.forall_mem_cons.mpr ⟨hspace, hbefore⟩, hb⟩
    · exact .inr ⟨[], c, w, rfl, by simp, hspace, hc, hw⟩

lemma fold_gapOf_spaces (h : ∀ c ∈ w, c = ' ') : (gapOf w).fold = w := by
  rw [gapOf, foldl_add_spaces rfl h]
  rfl

lemma fold_gapOf_broken {before after : List Char} {b : Char} (hbefore : ∀ c ∈ before, c = ' ')
    (hb : b ≠ ' ') (hfolded : isFolded b = true) (hafter : ∀ c ∈ after, isFolded c = true) :
    (gapOf (before ++ b :: after)).fold =
      if isSeparator b then b :: keptBreaks after
      else if keptBreaks after = [] then [' '] else keptBreaks after := by
  have hspace := isSpace_eq_false hfolded hb
  have hgap : gapOf (before ++ b :: after) =
      { broken := true, first := breakText b, later := keptBreaks after } := by
    rw [gapOf, List.foldl_append, foldl_add_spaces rfl hbefore, List.foldl_cons,
      foldl_add_broken (by simp [Gap.add, Gap.addBreak, hspace]) hafter]
    simp [Gap.add, Gap.addBreak, hspace]
  rw [hgap, Gap.fold, if_pos rfl]
  cases hsep : isSeparator b with
  | true =>
    have hne : b ≠ '\n' := by
      rintro rfl
      exact absurd hsep (by decide)
    simp [breakText, hsep, hne]
  | false => simp [breakText, hsep]

lemma length_fold_gapOf_le (h : ∀ c ∈ w, isFolded c = true) : (gapOf w).fold.length ≤ w.length := by
  rcases folded_cases h with hall | ⟨before, b, after, rfl, hbefore, hb, hfolded, hafter⟩
  · exact Nat.le_of_eq (by rw [fold_gapOf_spaces hall])
  · have hkept := length_keptBreaks_le after
    rw [fold_gapOf_broken hbefore hb hfolded hafter]
    split
    · simp only [List.length_cons, List.length_append]
      omega
    · split
      · simp only [List.length_cons, List.length_append, List.length_nil]
        omega
      · simp only [List.length_cons, List.length_append]
        omega

/-- A gap is read as it is if it is all spaces or all separators. -/
lemma fold_gapOf_eq_iff (h : ∀ c ∈ w, isFolded c = true) :
    (gapOf w).fold = w ↔ (∀ c ∈ w, c = ' ') ∨ ∀ c ∈ w, isSeparator c = true := by
  rcases folded_cases h with hall | ⟨before, b, after, rfl, hbefore, hb, hfolded, hafter⟩
  · exact iff_of_true (fold_gapOf_spaces hall) (.inl hall)
  constructor
  · intro hfold
    right
    rw [fold_gapOf_broken hbefore hb hfolded hafter] at hfold
    -- No other break than a separator comes out of a gap, and no space together with one.
    have hkept : ∀ x ∈ keptBreaks after, isSeparator x = true ∨ x = '\n' := fun x => mem_keptBreaks
    cases hsep : isSeparator b with
    | false =>
      exfalso
      have hmem : b ∈ before ++ b :: after := by simp
      rw [← hfold, hsep, if_neg (by decide)] at hmem
      split at hmem
      · exact hb (List.mem_singleton.mp hmem)
      · rcases hkept b hmem with hb' | rfl
        · exact absurd (hsep.symm.trans hb') (by decide)
        · exact absurd hfolded (by decide)
    | true =>
      rw [hsep, if_pos rfl] at hfold
      intro c hc
      rw [← hfold] at hc
      rcases List.mem_cons.mp hc with rfl | hc
      · exact hsep
      · rcases hkept c hc with hc | rfl
        · exact hc
        · exact absurd (h _ (hfold ▸ List.mem_cons_of_mem _ hc)) (by decide)
  · rintro (hall | hall)
    · exact fold_gapOf_spaces hall
    · have hnil : before = [] := by
        rw [List.eq_nil_iff_forall_not_mem]
        intro c hc
        have hsep := hall c (List.mem_append_left _ hc)
        rw [hbefore c hc] at hsep
        exact absurd hsep (by decide)
      subst hnil
      obtain ⟨hsep, hrest⟩ := List.forall_mem_cons.mp hall
      rw [fold_gapOf_broken hbefore hb hfolded hafter, hsep, if_pos rfl, keptBreaks_eq hrest]
      rfl

/-! ### Texts -/

lemma startsIndicator_of_folded (h : isFolded c = true) (rest : List Char) :
    startsIndicator (c :: rest) = false := by
  have hne : c ≠ '-' ∧ c ≠ '.' := by
    constructor <;> rintro rfl <;> exact absurd h (by decide)
  unfold startsIndicator
  split
  next heq =>
    obtain ⟨rfl, -⟩ := List.cons.inj heq
    simp [hne]
  next => rfl

/-- A text that starts with a gap survives if the gap is read as it is and the rest survives, unless
the gap ends in a break in front of something like an indicator. -/
lemma survives_gap_append (hw : ∀ c ∈ w, isFolded c = true) (ht : t.head?.any isFolded = false) :
    Survives (w ++ t) ↔ ((∀ c ∈ w, c = ' ') ∨ ∀ c ∈ w, isSeparator c = true) ∧
      (w.getLast?.any isBreak && startsIndicator t) = false ∧ Survives t := by
  have hspace : isSeparator ' ' = false := by decide
  have hnext : isSeparator '\u0085' = false := by decide
  induction w with
  | nil => simp
  | cons c w ih =>
    obtain ⟨hc, hw⟩ := List.forall_mem_cons.mp hw
    rw [List.cons_append]
    refine (and_congr_right fun _ => ih hw).trans ?_
    cases w with
    | nil =>
      have hhead : t.head?.any isSeparator = false ∧ t.head? ≠ some ' ' := by
        cases t with
        | nil => simp
        | cons x t =>
          have hx : isFolded x = false := by simpa using ht
          simp only [isFolded, Bool.or_eq_false_iff, beq_eq_false_iff_ne] at hx
          simp [isSeparator, hx]
      have hbreak : isSeparator c = true → isBreak c = true := by
        intro hsep
        simp only [isSeparator, Bool.or_eq_true, beq_iff_eq] at hsep
        rcases hsep with rfl | rfl <;> decide
      rcases isFolded_iff.mp hc with rfl | rfl | hsep
      · simp [Kept, hhead, hspace, isBreak]
      · simp [Kept, hnext]
      · have hne := ne_of_isSeparator hsep
        simp [Kept, hsep, hne, hhead, hbreak hsep]
    | cons d w =>
      obtain ⟨hd, -⟩ := List.forall_mem_cons.mp hw
      have hlast : (c :: d :: w).getLast? = (d :: w).getLast? := by simp
      have hkept : Kept c (d :: w ++ t) ↔
          c ≠ '\u0085' ∧ (c = ' ' → isSeparator d = false) ∧ (isSeparator c = true → d ≠ ' ') := by
        simp [Kept, startsIndicator_of_folded hd]
      rw [hlast, hkept]
      simp only [List.forall_mem_cons]
      have hne : isSeparator d = true → d ≠ '\u0085' ∧ d ≠ ' ' := ne_of_isSeparator
      rcases isFolded_iff.mp hc with rfl | rfl | hsep
      · rcases isFolded_iff.mp hd with rfl | rfl | hsep' <;> simp_all
      · simp [hnext]
      · have hne' := ne_of_isSeparator hsep
        rcases isFolded_iff.mp hd with rfl | rfl | hsep' <;> simp_all

/-- Nothing grows when it is heard. -/
lemma length_le_of_heardFrom {out : List Char} {atStart : Bool} (hw : ∀ c ∈ w, isFolded c = true)
    (h : heardFrom (gapOf w) atStart t = some out) : out.length ≤ w.length + t.length := by
  induction t generalizing w atStart out with
  | nil =>
    cases h
    exact length_fold_gapOf_le hw
  | cons c t ih =>
    rw [heardFrom] at h
    split at h
    next hc =>
      have hw' : ∀ x ∈ w ++ [c], isFolded x = true :=
        List.forall_mem_append.mpr ⟨hw, by simpa using hc⟩
      rw [← gapOf_append_singleton] at h
      have hout := ih hw' h
      simp only [List.length_append, List.length_cons, List.length_nil] at hout ⊢
      omega
    next =>
      split at h
      · cases h
      · obtain ⟨late, hlate, rfl⟩ := Option.map_eq_some_iff.mp h
        have hout := ih (w := []) (by simp) hlate
        have hfold := length_fold_gapOf_le hw
        simp only [List.length_append, List.length_cons, List.length_nil] at hout ⊢
        omega

lemma heardFrom_eq_iff (hw : ∀ c ∈ w, isFolded c = true) :
    heardFrom (gapOf w) (w.getLast?.any isBreak) t = some (w ++ t) ↔ Survives (w ++ t) := by
  induction t generalizing w with
  | nil =>
    rw [heardFrom, Option.some_inj, survives_gap_append hw rfl, List.append_nil,
      fold_gapOf_eq_iff hw]
    simp [startsIndicator, Survives]
  | cons c t ih =>
    rw [heardFrom]
    split
    next hc =>
      have hw' : ∀ x ∈ w ++ [c], isFolded x = true :=
        List.forall_mem_append.mpr ⟨hw, by simpa using hc⟩
      have hnext := ih hw'
      simpa [gapOf_append_singleton] using hnext
    next hc =>
      have hkept : Kept c t := by
        have hne : ¬(c = ' ' ∨ c = '\u0085' ∨ isSeparator c = true) := by
          rwa [← isFolded_iff]
        simp only [not_or] at hne
        exact ⟨hne.2.1, fun h => absurd h hne.1, fun h => absurd h hne.2.2⟩
      rw [survives_gap_append hw (by simpa using hc), ← fold_gapOf_eq_iff hw, Survives]
      split
      next hstart => simp [hstart]
      next hstart =>
        have hrest : heardFrom {} false t = some t ↔ Survives t := ih (w := []) (by simp)
        rw [Bool.not_eq_true] at hstart
        simp only [hstart, hkept, true_and, ← hrest, Option.map_eq_some_iff]
        constructor
        · rintro ⟨out, hout, heq⟩
          -- Neither the gap nor the rest has grown, so each is as long as before.
          have hgap := length_fold_gapOf_le hw
          have hlate := length_le_of_heardFrom (w := []) (by simp) hout
          have hlength := congrArg List.length heq
          simp only [List.length_append, List.length_cons, List.length_nil] at hlength hlate
          obtain ⟨hfold, hrest⟩ := List.append_inj heq (by omega)
          exact ⟨hfold, by rw [hout, (List.cons.inj hrest).2]⟩
        · rintro ⟨hfold, hout⟩
          exact ⟨t, hout, by rw [hfold]⟩

/-- A text is heard as it is if and only if it survives. -/
theorem heard_eq_some_self_iff {text : List Char} : heard text = some text ↔ Survives text :=
  heardFrom_eq_iff (w := []) (by simp)

end Autoscaler.Yaml.Scan
