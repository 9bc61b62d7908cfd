import Autoscaler.Proofs.QuotedText

/-!
# What a cursor passes

A reader of a scalar is told by the text that it passes: the text stands ahead of the cursor before,
and the cursor after stands behind it. Of the place of a cursor only what later readers ask for is
told: whether it is on the same line, and whether it is at the start of one.
-/

namespace Autoscaler.Yaml

lemma isGap_eq_false_iff {x : Char} :
    isGap x = false ↔ isSpace x = false ∧ isBreak x = false ∧ isEnd x = false := by
  simp only [isGap, isBreakOrEnd, Bool.or_eq_false_iff]

lemma isBreak_eq_false {x : Char} (h : isGap x = false) : isBreak x = false :=
  (isGap_eq_false_iff.mp h).2.1

namespace Cursor

/-- A cursor reads a text and stops behind it. A break at the end of the text starts a line. -/
structure Passes (c : Cursor) (text : List Char) (c' : Cursor) : Prop where
  rest : c.rest = text ++ c'.rest
  left : c.left = c.rest.length → c'.left = c'.rest.length
  index : c'.mark.index = c.mark.index + text.length
  line : (∀ x ∈ text, isBreak x = false) → c'.mark.line = c.mark.line
  column : match text.getLast? with
    | none => c'.mark.column = c.mark.column
    | some x => c'.mark.column = 0 ↔ isBreak x = true

variable {c c' c'' : Cursor} {text more : List Char} {x : Char}

@[simp] lemma require_rest (n : Nat) : (c.require n).rest = c.rest := rfl
@[simp] lemma require_left (n : Nat) : (c.require n).left = c.left := rfl
@[simp] lemma require_mark (n : Nat) : (c.require n).mark = c.mark := rfl
@[simp] lemma require_charAt (n i : Nat) : (c.require n).charAt i = c.charAt i := rfl

lemma Passes.refl (c : Cursor) : c.Passes [] c :=
  ⟨rfl, id, rfl, fun _ => rfl, rfl⟩

lemma Passes.require (h : c.Passes text c') (n : Nat) : c.Passes text (c'.require n) :=
  ⟨h.rest, h.left, h.index, h.line, h.column⟩

lemma Passes.of_require {n : Nat} (h : (c.require n).Passes text c') : c.Passes text c' :=
  ⟨h.rest, h.left, h.index, h.line, h.column⟩

lemma Passes.trans (h : c.Passes text c') (h' : c'.Passes more c'') :
    c.Passes (text ++ more) c'' := by
  refine ⟨?_, fun hleft => h'.left (h.left hleft), ?_, fun hbreak => ?_, ?_⟩
  · rw [h.rest, h'.rest, List.append_assoc]
  · rw [h'.index, h.index, List.length_append, Nat.add_assoc]
  · obtain ⟨htext, hmore⟩ := List.forall_mem_append.mp hbreak
    rw [h'.line hmore, h.line htext]
  · have hcolumn := h'.column
    cases hlast : more.getLast? with
    | none =>
      obtain rfl := List.getLast?_eq_none_iff.mp hlast
      rw [hlast] at hcolumn
      rw [List.append_nil]
      have := h.column
      split at this <;> simp_all
    | some x =>
      rw [hlast] at hcolumn
      rw [List.getLast?_append, hlast]
      exact hcolumn

/-- Behind a break a line starts. -/
lemma Passes.starts_line (h : c.Passes (text ++ more) c') (hne : more ≠ []) (before : Bool) :
    (more.getLast?.map isBreak).getD before = decide (c'.mark.column = 0) := by
  have hcolumn := h.column
  rw [List.getLast?_append_of_ne_nil _ hne, List.getLast?_eq_some_getLast hne] at hcolumn
  rw [List.getLast?_eq_some_getLast hne]
  rw [Option.map_some, Option.getD_some, Bool.eq_iff_iff, decide_eq_true_iff]
  exact hcolumn.symm

lemma passes_skip (hrest : c.rest = x :: more) (hx : isBreak x = false) : c.Passes [x] c.skip := by
  refine ⟨by simp [skip, hrest], fun hleft => by simp [skip, hleft], rfl, fun _ => rfl, ?_⟩
  simp [skip, hx]

lemma passes_nextLine (hrest : c.rest = text ++ more) (htext : text.getLast?.any isBreak = true) :
    c.Passes text (c.nextLine text.length) := by
  obtain ⟨x, hlast, hx⟩ := (Option.any_eq_true _ _).mp htext
  refine ⟨by simp [nextLine, hrest], fun hleft => by simp [nextLine, hleft], rfl, fun hno => ?_, ?_⟩
  · have := hno x (List.mem_of_getLast? hlast)
    simp_all
  · simp [nextLine, hlast, hx]

lemma charAt_zero (hrest : c.rest = x :: more) : c.charAt 0 = x := by
  simp [charAt, hrest]

lemma charAt_zero_eq_headD : c.charAt 0 = c.rest.headD endChar := by
  rw [charAt]
  cases c.rest <;> rfl

lemma charAt_one (hrest : c.rest = x :: more) : c.charAt 1 = more.headD endChar := by
  rw [charAt, hrest, List.getElem?_cons_succ]
  cases more <;> rfl

lemma readWhile_passes {p : Char → Bool} {fuel : Nat} (hrest : c.rest = text ++ more)
    (htext : ∀ x ∈ text, p x = true ∧ isBreak x = false)
    (hmore : p (more.headD endChar) = false) (hfuel : text.length ≤ fuel) :
    ∃ c', c.readWhile p fuel = (text, c') ∧ c.Passes text c' := by
  induction text generalizing c fuel with
  | nil =>
    refine ⟨c, ?_, .refl c⟩
    cases fuel with
    | zero => rfl
    | succ fuel =>
      rw [readWhile, charAt_zero_eq_headD, hrest, List.nil_append, hmore]
      rfl
  | cons x text ih =>
    obtain ⟨⟨hp, hbreak⟩, htext⟩ := List.forall_mem_cons.mp htext
    cases fuel with
    | zero => cases hfuel
    | succ fuel =>
      have hskip := passes_skip hrest hbreak
      have hnext : c.skip.rest = text ++ more := by simp [skip, hrest]
      obtain ⟨c', hread, hpasses⟩ := ih hnext htext (Nat.le_of_succ_le_succ hfuel)
      refine ⟨c', ?_, hskip.trans hpasses⟩
      rw [readWhile, charAt_zero hrest, hp, if_pos rfl, hread]

lemma readBreak_pair (hrest : c.rest = '\r' :: '\n' :: more) :
    c.readBreak = (['\n'], c.nextLine 2) := by
  simp [readBreak, hrest]

lemma readBreak_single (hrest : c.rest = x :: more) (hx : isBreak x = true)
    (hpair : x = '\r' → more.head? ≠ some '\n') :
    c.readBreak = (Scan.breakText x, c.nextLine 1) := by
  rw [readBreak]
  split
  next rest heq =>
    rw [hrest] at heq
    obtain ⟨rfl, rfl⟩ := List.cons.inj heq
    exact absurd rfl (hpair rfl)
  next y _ _ heq =>
    rw [hrest] at heq
    obtain ⟨rfl, rfl⟩ := List.cons.inj heq
    simp only [hx, if_true]
    unfold Scan.breakText Scan.isSeparator
    split <;> rfl
  next heq => 
    rw [hrest] at heq
    cases heq

end Cursor

namespace Scan

variable {α β : Type} {c : Cursor}

@[simp] lemma pure_apply (a : α) : (pure a : Scan α) c = some (a, c) := rfl

@[simp] lemma bind_apply (x : Scan α) (f : α → Scan β) :
    (x >>= f) c = (x c).bind fun r => f r.1 r.2 := rfl

@[simp] lemma fail_apply : (fail : Scan α) c = none := rfl

@[simp] lemma get_apply : (get : Scan Cursor) c = some (c, c) := rfl

@[simp] lemma peek_apply (i : Nat) : peek i c = some (c.charAt i, c) := rfl

@[simp] lemma mark_apply : mark c = some (c.mark, c) := rfl

@[simp] lemma need_apply (n : Nat) : need n c = some ((), c.require n) := rfl

@[simp] lemma skip_apply : skip c = some ((), c.skip) := rfl

@[simp] lemma readBreak_apply : readBreak c = some c.readBreak := rfl

@[simp] lemma bound_apply : bound c = some (c.left + 1, c) := rfl

@[simp] lemma read_apply : read c = some (c.charAt 0, c.skip) := rfl

lemma skipWhile_apply (p : Char → Bool) :
    skipWhile p c = some ((), (c.readWhile p c.left).2.require 1) := rfl

/-- A gap with the characters of a text added. A carriage return and a line feed are one break. -/
def Gap.read (g : Gap) : List Char → Gap
  | '\r' :: '\n' :: rest => (g.addBreak ['\n']).read rest
  | c :: rest => (g.add c).read rest
  | [] => g

lemma Gap.read_cons {g : Gap} {c : Char} {w : List Char} (h : c = '\r' → w.head? ≠ some '\n') :
    g.read (c :: w) = (g.add c).read w := by
  rw [Gap.read.eq_2]
  rintro rest rfl rfl
  exact h rfl rfl

lemma Gap.read_folded {g : Gap} {w : List Char} (hw : ∀ c ∈ w, isFolded c = true) :
    g.read w = w.foldl Gap.add g := by
  induction w generalizing g with
  | nil => rfl
  | cons c w ih =>
    obtain ⟨hc, hw⟩ := List.forall_mem_cons.mp hw
    have hne : c ≠ '\r' := by
      rintro rfl
      exact absurd hc (by decide)
    rw [List.foldl_cons, ← ih hw, Gap.read_cons fun h => absurd h hne]

/-- A break is read together with the line feed that may belong to it. -/
lemma readBreak_passes {x : Char} {w more : List Char} (hrest : c.rest = x :: w ++ more)
    (hx : isBreak x = true) (hmore : isBreak (more.headD endChar) = false) :
    ∃ text late c', x :: w = text ++ late ∧ text ≠ [] ∧ c.Passes text c' ∧
      ∃ b, c.readBreak = (b, c') ∧ ∀ g : Gap, g.read (x :: w) = (g.addBreak b).read late := by
  by_cases hpair : x = '\r' ∧ w.head? = some '\n'
  · obtain ⟨rfl, hline⟩ := hpair
    obtain ⟨w, rfl⟩ := List.head?_eq_some_iff.mp hline
    refine ⟨['\r', '\n'], w, c.nextLine 2, rfl, by simp, ?_, _, Cursor.readBreak_pair hrest, ?_⟩
    · have hpair : c.rest = ['\r', '\n'] ++ (w ++ more) := hrest
      exact Cursor.passes_nextLine hpair rfl
    · exact fun g => rfl
  · have hsingle : x = '\r' → (w ++ more).head? ≠ some '\n' := by
      rintro rfl hline
      cases w with
      | nil =>
        rw [List.nil_append] at hline
        simp [hline, isBreak] at hmore
      | cons y w => exact hpair ⟨rfl, by simpa using hline⟩
    have hspace : isSpace x = false := by
      simp only [isBreak, Bool.or_eq_true, beq_iff_eq] at hx
      rcases hx with (((rfl | rfl) | rfl) | rfl) | rfl <;> decide
    refine ⟨[x], w, c.nextLine 1, rfl, by simp, ?_, _, Cursor.readBreak_single hrest hx hsingle, ?_⟩
    · have hone : c.rest = [x] ++ (w ++ more) := hrest
      exact Cursor.passes_nextLine hone (by simpa using hx)
    · intro g
      rw [Gap.read_cons fun h h' => hpair ⟨h, h'⟩, Gap.add, hspace]
      rfl

lemma readGap_stop {fine : Bool → Char → Mark → Bool} {g : Gap} (fuel : Nat)
    (hspace : isSpace (c.charAt 0) = false) (hbreak : isBreak (c.charAt 0) = false) :
    readGap fine (fuel + 1) g c = some (g, c) := by
  simp [readGap, hspace, hbreak]

lemma readGap_space {fine : Bool → Char → Mark → Bool} {g : Gap} (fuel : Nat)
    (hspace : isSpace (c.charAt 0) = true) (hfine : fine g.broken (c.charAt 0) c.mark = true) :
    readGap fine (fuel + 1) g c =
      readGap fine fuel (g.add (c.charAt 0)) (c.skip.require 1) := by
  simp [readGap, Gap.add, hspace, hfine]

lemma readGap_break {fine : Bool → Char → Mark → Bool} {g : Gap} (fuel : Nat)
    (hspace : isSpace (c.charAt 0) = false) (hbreak : isBreak (c.charAt 0) = true) :
    readGap fine (fuel + 1) g c =
      readGap fine fuel (g.addBreak (c.require 2).readBreak.1)
        ((c.require 2).readBreak.2.require 1) := by
  simp [readGap, Gap.addBreak, hspace, hbreak]

/-- A gap is read to its end, and what it folds to is told by its text. -/
lemma readGap_passes {fine : Bool → Char → Mark → Bool} {fuel : Nat} {g : Gap} {w more : List Char}
    (hfine : ∀ broken x m, fine broken x m = true) (hrest : c.rest = w ++ more)
    (hw : ∀ x ∈ w, isSpace x = true ∨ isBreak x = true)
    (hspace : isSpace (more.headD endChar) = false) (hbreak : isBreak (more.headD endChar) = false)
    (hfuel : w.length < fuel) :
    ∃ c', readGap fine fuel g c = some (g.read w, c') ∧ c.Passes w c' := by
  induction fuel generalizing c g w with
  | zero => cases hfuel
  | succ fuel ih =>
    cases w with
    | nil =>
      have hhead : c.charAt 0 = more.headD endChar := by
        rw [Cursor.charAt_zero_eq_headD, hrest, List.nil_append]
      rw [← hhead] at hspace hbreak
      exact ⟨c, readGap_stop fuel hspace hbreak, .refl c⟩
    | cons x w =>
      obtain ⟨hx, hw⟩ := List.forall_mem_cons.mp hw
      have hhead : c.charAt 0 = x := Cursor.charAt_zero hrest
      by_cases hxspace : isSpace x = true
      · have hxbreak : isBreak x = false := by
          simp only [isSpace, Bool.or_eq_true, beq_iff_eq] at hxspace
          rcases hxspace with rfl | rfl <;> decide
        have hskip := (Cursor.passes_skip hrest hxbreak).require 1
        have hnext : (c.skip.require 1).rest = w ++ more := by
          simp [Cursor.skip, hrest]
        obtain ⟨c', hread, hpasses⟩ := ih (g := g.add x) hnext hw (Nat.lt_of_succ_lt_succ hfuel)
        refine ⟨c', ?_, hskip.trans hpasses⟩
        have hpair : x ≠ '\r' := by
          rintro rfl
          exact absurd hxspace (by decide)
        rw [readGap_space fuel (by rw [hhead, hxspace]) (hfine _ _ _), hhead, hread,
          Gap.read_cons fun h => absurd h hpair]
      · rw [Bool.not_eq_true] at hxspace
        have hxbreak : isBreak x = true := by simpa [hxspace] using hx
        obtain ⟨text, late, c', hsplit, hne, hpasses, b, hbreak', hadd⟩ :=
          readBreak_passes (c := c.require 2) hrest hxbreak hbreak
        rw [readGap_break fuel (by rw [hhead, hxspace]) (by rw [hhead, hxbreak]), hbreak', hadd]
        have hlate : ∀ y ∈ late, isSpace y = true ∨ isBreak y = true := by
          intro y hy
          have hmem : y ∈ x :: w := hsplit ▸ List.mem_append_right _ hy
          rcases List.mem_cons.mp hmem with rfl | hmem
          · exact hx
          · exact hw y hmem
        have hnext : (c'.require 1).rest = late ++ more := by
          have hrest' := hpasses.rest
          rw [Cursor.require_rest, hrest, hsplit, List.append_assoc] at hrest'
          exact (List.append_cancel_left hrest').symm
        have hlength := congrArg List.length hsplit
        have hpos := List.length_pos_iff.mpr hne
        simp only [List.length_cons, List.length_append] at hlength hfuel
        obtain ⟨c'', hread, hpasses'⟩ := ih (g := g.addBreak b) hnext hlate (by omega)
        refine ⟨c'', hread, ?_⟩
        rw [hsplit]
        exact (hpasses.of_require.require 1).trans hpasses'

end Scan
end Autoscaler.Yaml
