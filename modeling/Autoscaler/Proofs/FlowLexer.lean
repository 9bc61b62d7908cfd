import Autoscaler.Yaml.Token.Lexer
import Autoscaler.Proofs.FlowStrings
import Autoscaler.Proofs.FlowWords

/-!
# The rounds of a lexer in a flow

While a flow is read there are no blocks to close and no keys that are due, so a round of the lexer
skips a gap and adds a token or two. The tokens of a source are those handed out and those that
wait: what a round adds stands behind all that are handed out, so it does not matter when that is
done.
-/

namespace Autoscaler.Yaml

/-- A key candidate that stands for a token that waits and that need not be a key. -/
def KeyCandidate.Waits (l : Lexer) (k : KeyCandidate) : Prop :=
  k.required = false ∧ l.handedOut ≤ k.number

/-- A lexer in the middle of a source without faults, at some depth of flow collections. The tokens
so far are those handed out and those that wait. -/
structure Lexer.Reads (l : Lexer) (tokens : List Token) (depth : Nat) : Prop where
  whole : l.broken = false
  started : l.started = true
  goesOn : l.ended = false
  indent : l.indent = -1
  indents : l.indents = []
  queue : l.queue = tokens.drop l.handedOut
  handedOut : l.handedOut ≤ tokens.length
  ahead : ∀ t ∈ tokens, t.kind ≠ .streamEnd
  candidate : ∀ k ∈ l.candidate, k.Waits l
  outer : ∀ o ∈ l.outer, ∀ k ∈ o, KeyCandidate.Waits l k
  depth : l.outer.length = depth
  left : l.cursor.left = l.cursor.rest.length

namespace Lex

variable {α β : Type} {l : Lexer}

@[simp] lemma pure_apply (a : α) : (pure a : Lex α) l = some (a, l) := rfl

@[simp] lemma bind_apply (x : Lex α) (f : α → Lex β) :
    (x >>= f) l = (x l).bind fun r => f r.1 r.2 := rfl

@[simp] lemma get_apply : (get : Lex Lexer) l = some (l, l) := rfl

@[simp] lemma set_apply (l' : Lexer) : (set l' : Lex PUnit) l = some ((), l') := rfl

@[simp] lemma modify_apply (f : Lexer → Lexer) : (modify f : Lex Unit) l = some ((), f l) := rfl

@[simp] lemma fail_apply : (fail : Lex α) l = none := rfl

@[simp] lemma scan_apply (s : Scan α) :
    scan s l = (s l.cursor).map fun r => (r.1, { l with cursor := r.2 }) := by
  change (s l.cursor).bind _ = _
  cases s l.cursor <;> rfl

@[simp] lemma emit_apply (t : Token) :
    emit t l = some ((), { l with queue := l.queue ++ [t] }) := rfl

@[simp] lemma inFlow_apply : inFlow l = some (!l.outer.isEmpty, l) := rfl

@[simp] lemma column_apply : column l = some ((l.cursor.mark.column : Int), l) := rfl

@[simp] lemma allowKey_apply (b : Bool) :
    allowKey b l = some ((), { l with keyAllowed := b }) := rfl

end Lex

open Autoscaler.Yaml.Lex
open Json (IsGapText)

/-- A lexer whose candidates have expired where its cursor stands. -/
def Lexer.expired (l : Lexer) : Lexer :=
  { l with
    candidate := l.candidate.filter (!isStale l.cursor.mark ·)
    outer := l.outer.map (·.filter (!isStale l.cursor.mark ·)) }

/-- A lexer that has handed out the tokens that are settled. -/
def Lexer.handOver (l : Lexer) : Lexer :=
  { l with queue := l.queue.drop (settled l), handedOut := l.handedOut + settled l }

variable {l l' : Lexer} {tokens tokens' : List Token} {depth depth' : Nat}

lemma Lexer.Reads.expired (h : l.Reads tokens depth) : l.expired.Reads tokens depth := by
  refine { h with candidate := ?_, outer := ?_, depth := ?_ }
  · intro k hk
    exact h.candidate k (Option.mem_filter_iff.mp hk).1
  · intro o ho k hk
    obtain ⟨o, ho', rfl⟩ := List.mem_map.mp ho
    exact h.outer o ho' k (Option.mem_filter_iff.mp hk).1
  · simp [Lexer.expired, h.depth]

lemma Lexer.Reads.expireCandidates (h : l.Reads tokens depth) :
    expireCandidates l = some ((), l.expired) := by
  have hnone : (l.candidate :: l.outer).any (fun k => k.any fun k =>
      isStale l.cursor.mark k && k.required) = false := by
    rw [List.any_eq_false]
    intro o ho hany
    obtain ⟨k, rfl, hk⟩ := (Option.any_eq_true _ _).mp hany
    have hwaits : k.Waits l := by
      rcases List.mem_cons.mp ho with heq | ho
      · exact h.candidate k heq.symm
      · exact h.outer _ ho k rfl
    simp [hwaits.1] at hk
  simp only [Lex.expireCandidates, bind_apply, get_apply, Option.bind_some, hnone,
    Bool.false_eq_true, if_false, set_apply]
  rfl

lemma Lexer.Reads.closeBlocks (h : l.Reads tokens depth) (column : Int) :
    closeBlocks column l = some ((), l) := by
  have hclosed : closedAt column l.indent l.indents = (0, l.indent, l.indents) := by
    rw [h.indents]
    rfl
  simp only [Lex.closeBlocks, bind_apply, get_apply, Option.bind_some, hclosed]
  split
  · simp
  · rfl

lemma Lexer.Reads.checkReach (h : l.Reads tokens depth) : checkReach l = some ((), l) := by
  simp [Lex.checkReach, h.whole]

lemma settled_le : settled l ≤ l.queue.length ∧
    ∀ k, some k ∈ l.candidate :: l.outer → settled l ≤ k.number - l.handedOut := by
  unfold settled
  generalize l.candidate :: l.outer = all
  generalize l.queue.length = n
  induction all generalizing n with
  | nil => simp
  | cons o all ih =>
    rw [List.foldl_cons]
    cases o with
    | none =>
      obtain ⟨hlength, hrest⟩ := ih n
      exact ⟨hlength, fun k hk => hrest k (by simpa using hk)⟩
    | some k =>
      obtain ⟨hlength, hrest⟩ := ih (min n (k.number - l.handedOut))
      refine ⟨Nat.le_trans hlength (Nat.min_le_left _ _), fun k' hk' => ?_⟩
      rcases List.mem_cons.mp hk' with heq | hk'
      · cases heq
        exact Nat.le_trans hlength (Nat.min_le_right _ _)
      · exact hrest k' hk'

lemma Lexer.Reads.handOver (h : l.Reads tokens depth) : l.handOver.Reads tokens depth := by
  obtain ⟨hlength, hsettled⟩ := settled_le (l := l)
  rw [h.queue, List.length_drop] at hlength
  have hbound := h.handedOut
  refine { h with queue := ?_, handedOut := ?_, candidate := ?_, outer := ?_ }
  · simp [Lexer.handOver, h.queue]
  · simp only [Lexer.handOver]
    omega
  · intro k hk
    have hle := hsettled k (by rw [← hk]; exact List.mem_cons_self)
    obtain ⟨hrequired, hnumber⟩ := h.candidate k hk
    refine ⟨hrequired, ?_⟩
    simp only [Lexer.handOver]
    omega
  · intro o ho k hk
    have hle := hsettled k (by rw [← hk]; exact List.mem_cons_of_mem _ ho)
    obtain ⟨hrequired, hnumber⟩ := h.outer o ho k hk
    refine ⟨hrequired, ?_⟩
    simp only [Lexer.handOver]
    omega

/-! ### Moves -/

/-- All tokens of a source: those handed out and those to come. -/
def output (fuel : Nat) (l : Lexer) (tokens : List Token) : List Token :=
  tokens.take l.handedOut ++ handOut fuel l

/-- A lexer comes to another one. Each round that it takes has a character of its own. -/
def Moves (l : Lexer) (tokens : List Token) (l' : Lexer) (tokens' : List Token) : Prop :=
  ∃ rounds, rounds + l'.cursor.rest.length ≤ l.cursor.rest.length ∧
    ∀ fuel, output (fuel + rounds) l tokens = output fuel l' tokens'

/-- A lexer meets an error before the end of the source. -/
def Fails (l : Lexer) (tokens : List Token) : Prop :=
  ∃ rounds, rounds ≤ l.cursor.rest.length ∧
    ∀ fuel, ∀ t ∈ output (fuel + rounds) l tokens, t.kind ≠ .streamEnd

lemma Moves.trans {l'' : Lexer} {tokens'' : List Token} (h : Moves l tokens l' tokens')
    (h' : Moves l' tokens' l'' tokens'') : Moves l tokens l'' tokens'' := by
  obtain ⟨rounds, hrounds, hout⟩ := h
  obtain ⟨rounds', hrounds', hout'⟩ := h'
  refine ⟨rounds' + rounds, by omega, fun fuel => ?_⟩
  rw [← Nat.add_assoc, hout, hout']

lemma Moves.fails (h : Moves l tokens l' tokens') (h' : Fails l' tokens') : Fails l tokens := by
  obtain ⟨rounds, hrounds, hout⟩ := h
  obtain ⟨rounds', hrounds', hout'⟩ := h'
  refine ⟨rounds' + rounds, by omega, fun fuel t ht => ?_⟩
  rw [← Nat.add_assoc, hout] at ht
  exact hout' fuel t ht

lemma fails_of_readMore (h : l.Reads tokens depth) (hread : readMore l = none) :
    Fails l tokens := by
  refine ⟨0, Nat.zero_le _, fun fuel t ht => ?_⟩
  have hnone : handOut fuel l = [] := by
    cases fuel with
    | zero => rfl
    | succ fuel => rw [handOut, hread]
  rw [Nat.add_zero, output, hnone, List.append_nil] at ht
  exact h.ahead t (List.mem_of_mem_take ht)

/-- One round: what is read is added to the tokens behind those that were handed out. -/
lemma moves_of_readMore (hread : readMore l = some ((), l')) (h' : l'.Reads tokens' depth)
    (hhanded : l'.handedOut = l.handedOut)
    (hkept : tokens'.take l.handedOut = tokens.take l.handedOut)
    (hshorter : l'.cursor.rest.length < l.cursor.rest.length) :
    Moves l tokens l'.handOver tokens' := by
  refine ⟨1, by rw [Nat.add_comm]; exact hshorter, fun fuel => ?_⟩
  have hround : handOut (fuel + 1) l = l'.queue.take (settled l') ++ handOut fuel l'.handOver := by
    rw [handOut, hread]
    change l'.queue.take (settled l') ++ (if l'.ended then [] else handOut fuel l'.handOver) = _
    rw [h'.goesOn, if_neg Bool.false_ne_true]
  rw [output, output, hround, ← List.append_assoc, ← hkept, h'.queue, hhanded]
  congr 1
  exact (List.take_add ..).symm.trans (by rw [Lexer.handOver, hhanded])

/-! ### Gaps between tokens -/

/-- A character that starts a token, or the end. -/
structure StartsToken (x : Char) : Prop where
  space : isSpace x = false
  notBreak : isBreak x = false
  comment : x ≠ '#'
  mark : x ≠ '\ufeff'

lemma jsonGap_cases {x : Char} (h : Json.isGap x = true) :
    (x = ' ' ∨ x = '\t') ∨ (x = '\n' ∨ x = '\r') := by
  simp only [Json.isGap, Bool.or_eq_true, beq_iff_eq] at h
  tauto

lemma isSpace_of_isBreak {x : Char} (h : isBreak x = true) : isSpace x = false := by
  by_contra hspace
  rw [Bool.not_eq_false, isSpace, Bool.or_eq_true, beq_iff_eq, beq_iff_eq] at hspace
  rcases hspace with rfl | rfl <;> exact absurd h (by decide)

/-- A gap is blanks, with a break and more behind them or not. -/
lemma exists_blanks {gap : List Char} (h : IsGapText gap) : ∃ blanks later, gap = blanks ++ later ∧
    (∀ x ∈ blanks, x = ' ' ∨ x = '\t') ∧ ∀ x ∈ later.head?, isBreak x = true := by
  induction gap with
  | nil => exact ⟨[], [], rfl, by simp, by simp⟩
  | cons x gap ih =>
    obtain ⟨hx, hgap⟩ := List.forall_mem_cons.mp h
    rcases jsonGap_cases hx with hblank | hbreak
    · obtain ⟨blanks, later, rfl, hblanks, hlater⟩ := ih hgap
      exact ⟨x :: blanks, later, rfl, List.forall_mem_cons.mpr ⟨hblank, hblanks⟩, hlater⟩
    · refine ⟨[], x :: gap, rfl, by simp, ?_⟩
      rcases hbreak with rfl | rfl <;> simp [isBreak]

lemma skipGaps_step (fuel : Nat) {blanks : List Char} {c : Cursor}
    (hmark : l.cursor.charAt 0 ≠ '\ufeff')
    (hread : (l.cursor.require 1).readWhile
      (fun x => x == ' ' || ((!l.outer.isEmpty || !l.keyAllowed) && x == '\t')) l.cursor.left =
        (blanks, c))
    (hcomment : c.charAt 0 ≠ '#') :
    skipGaps (fuel + 1) l =
      if isBreak (c.charAt 0) then
        skipGaps fuel { l with
          cursor := ((c.require 1).require 2).readBreak.2
          keyAllowed := l.outer.isEmpty || l.keyAllowed }
      else some ((), { l with cursor := c.require 1 }) := by
  have hskip : Scan.skipWhile
      (fun x => x == ' ' || ((!l.outer.isEmpty || !l.keyAllowed) && x == '\t'))
      (l.cursor.require 1) = some ((), c.require 1) := by
    rw [Scan.skipWhile_apply, Cursor.require_left, hread]
  have hallowed : ∀ l : Lexer, (if l.outer = [] then (do allowKey true; skipGaps fuel)
      else skipGaps fuel) l =
      skipGaps fuel { l with keyAllowed := l.outer.isEmpty || l.keyAllowed } := by
    intro l
    split
    next houter => simp [houter]
    next houter =>
      have hempty : l.outer.isEmpty = false := by simpa using houter
      rw [hempty, Bool.false_or]
  rw [skipGaps]
  cases hbreak : isBreak (c.charAt 0) with
  | false => simp [hmark, hskip, hcomment, hbreak]
  | true => simp [hmark, hskip, hcomment, hbreak, hallowed]

section Skipping

variable {gap rest : List Char}

/-- No comment and no byte order mark starts in front of a token. -/
lemma headD_of_gap (hgap : IsGapText gap) (hstart : StartsToken (rest.headD endChar)) :
    (gap ++ rest).headD endChar ≠ '#' ∧ (gap ++ rest).headD endChar ≠ '\ufeff' := by
  cases gap with
  | nil => exact ⟨hstart.comment, hstart.mark⟩
  | cons x gap =>
    rw [List.cons_append, List.headD_cons]
    rcases jsonGap_cases (hgap x List.mem_cons_self) with (rfl | rfl) | (rfl | rfl) <;> decide

/-- The blanks of a line are skipped, with its tabs if there are any. -/
lemma readBlanks_passes {blanks : List Char} (hrest : l.cursor.rest = blanks ++ rest)
    (hleft : l.cursor.left = l.cursor.rest.length) (hblanks : ∀ x ∈ blanks, x = ' ' ∨ x = '\t')
    (hstop : isSpace (rest.headD endChar) = false) (htabs : l.outer ≠ [] ∨ '\t' ∉ blanks) :
    ∃ c, (l.cursor.require 1).readWhile
        (fun x => x == ' ' || ((!l.outer.isEmpty || !l.keyAllowed) && x == '\t')) l.cursor.left =
          (blanks, c) ∧
      (l.cursor.require 1).Passes blanks c := by
  refine Cursor.readWhile_passes (c := l.cursor.require 1) hrest (fun x hx => ?_) ?_ ?_
  · rcases hblanks x hx with rfl | rfl
    · exact ⟨rfl, by decide⟩
    · have hflow : l.outer ≠ [] := htabs.resolve_right fun htab => htab hx
      have hempty : l.outer.isEmpty = false := by simpa using hflow
      exact ⟨by simp [hempty], by decide⟩
  · rw [isSpace, Bool.or_eq_false_iff] at hstop
    simp only [hstop.1, hstop.2, Bool.and_false, Bool.or_false]
  · rw [hleft, hrest, List.length_append]
    omega

/-- A gap in front of a token is skipped. In a flow it does not matter for keys. -/
lemma skipGaps_gap {fuel : Nat} (hrest : l.cursor.rest = gap ++ rest)
    (hleft : l.cursor.left = l.cursor.rest.length) (hgap : IsGapText gap)
    (hstart : StartsToken (rest.headD endChar)) (htabs : l.outer ≠ [] ∨ '\t' ∉ gap)
    (hfuel : gap.length < fuel) :
    ∃ c allowed, skipGaps fuel l = some ((), { l with cursor := c, keyAllowed := allowed }) ∧
      l.cursor.Passes gap c ∧ (l.outer ≠ [] → allowed = l.keyAllowed) := by
  induction fuel generalizing l gap with
  | zero => cases hfuel
  | succ fuel ih =>
    have hmark : l.cursor.charAt 0 ≠ '\ufeff' := by
      rw [Cursor.charAt_zero_eq_headD, hrest]
      exact (headD_of_gap hgap hstart).2
    obtain ⟨blanks, later, rfl, hblanks, hlater⟩ := exists_blanks hgap
    rw [List.append_assoc] at hrest
    have hgapLater : IsGapText later := (List.forall_mem_append.mp hgap).2
    have hspace : isSpace ((later ++ rest).headD endChar) = false := by
      cases later with
      | nil => exact hstart.space
      | cons x later => exact isSpace_of_isBreak (hlater x rfl)
    obtain ⟨c, hread, hpasses⟩ := readBlanks_passes hrest hleft hblanks hspace
      (htabs.imp id fun htab hmem => htab (List.mem_append_left _ hmem))
    have hnext : c.rest = later ++ rest :=
      List.append_cancel_left (hpasses.rest.symm.trans hrest)
    have hcomment : c.charAt 0 ≠ '#' := by
      rw [Cursor.charAt_zero_eq_headD, hnext]
      exact (headD_of_gap hgapLater hstart).1
    rw [skipGaps_step fuel hmark hread hcomment]
    cases later with
    | nil =>
      have hstop : isBreak (c.charAt 0) = false := by
        rw [Cursor.charAt_zero_eq_headD, hnext]
        exact hstart.notBreak
      rw [hstop, if_neg Bool.false_ne_true, List.append_nil]
      exact ⟨c.require 1, l.keyAllowed, rfl, hpasses.of_require.require 1, fun _ => rfl⟩
    | cons x later =>
      have hx : isBreak x = true := hlater x rfl
      obtain ⟨text, late, c', hsplit, hne, hpasses', b, hbreak, -⟩ :=
        Scan.readBreak_passes (c := (c.require 1).require 2) hnext hx hstart.notBreak
      have hnext' : c'.rest = late ++ rest := by
        have hrest' := hpasses'.rest
        rw [Cursor.require_rest, Cursor.require_rest, hnext, hsplit, List.append_assoc] at hrest'
        exact (List.append_cancel_left hrest').symm
      have hpassed : l.cursor.Passes (blanks ++ text) c' :=
        hpasses.of_require.trans hpasses'.of_require.of_require
      rw [Cursor.charAt_zero hnext, hx, if_pos rfl, hbreak]
      have hgapLate : IsGapText late := fun y hy =>
        hgapLater y (hsplit ▸ List.mem_append_right _ hy)
      have htabs' : l.outer ≠ [] ∨ '\t' ∉ late := by
        refine htabs.imp id fun htab hmem => htab (List.mem_append_right _ ?_)
        rw [hsplit]
        exact List.mem_append_right _ hmem
      have hfuel' : late.length < fuel := by
        have hpos := List.length_pos_iff.mpr hne
        have hlengths := congrArg List.length hsplit
        simp only [List.length_append, List.length_cons] at hfuel hlengths
        omega
      obtain ⟨c'', allowed, hskip, hpasses'', hallowed⟩ :=
        ih (l := { l with cursor := c', keyAllowed := l.outer.isEmpty || l.keyAllowed }) hnext'
          (hpassed.left hleft) hgapLate htabs' hfuel'
      refine ⟨c'', allowed, hskip, ?_, fun hflow => ?_⟩
      · rw [hsplit, ← List.append_assoc]
        exact hpassed.trans hpasses''
      · have hempty : l.outer.isEmpty = false := by simpa using hflow
        rw [hallowed hflow]
        simp [hempty]

end Skipping

/-! ### Rounds -/

/-- A lexer that has come to a token. -/
def Lexer.facing (l : Lexer) (c : Cursor) (allowed : Bool) : Lexer :=
  ({ l with cursor := c, keyAllowed := allowed } : Lexer).expired

lemma Lexer.Reads.facing (h : l.Reads tokens depth) {c : Cursor} (hleft : c.left = c.rest.length)
    (allowed : Bool) : (l.facing c allowed).Reads tokens depth := by
  have hmoved : ({ l with cursor := c, keyAllowed := allowed } : Lexer).Reads tokens depth :=
    { h with left := hleft }
  exact hmoved.expired

/-- A round skips the gap in front of a token and reads the token. -/
lemma readMore_eq {gap rest : List Char} (h : l.Reads tokens depth)
    (hrest : l.cursor.rest = gap ++ rest) (hgap : IsGapText gap)
    (hstart : StartsToken (rest.headD endChar)) (htabs : 0 < depth ∨ '\t' ∉ gap) :
    ∃ c allowed, l.cursor.Passes gap c ∧ c.rest = rest ∧ c.left = c.rest.length ∧
      (0 < depth → allowed = l.keyAllowed) ∧
      readMore l = (do readToken; checkReach; Lex.expireCandidates) (l.facing c allowed) := by
  have hflow : 0 < depth ↔ l.outer ≠ [] := by
    rw [← h.depth, List.length_pos_iff]
  have hfuel : gap.length < l.cursor.left + 1 := by
    rw [h.left, hrest, List.length_append]
    omega
  obtain ⟨c, allowed, hskip, hpasses, hallowed⟩ :=
    skipGaps_gap (l := { l with cursor := l.cursor.require 1 }) hrest h.left hgap hstart
      (htabs.imp hflow.mp id) hfuel
  refine ⟨c.require 4, allowed, hpasses.of_require.require 4,
    List.append_cancel_left (hpasses.rest.symm.trans hrest), hpasses.left h.left,
    fun hd => hallowed (hflow.mp hd), ?_⟩
  have hmoved : ({ l with cursor := c, keyAllowed := allowed } : Lexer).Reads tokens depth :=
    { h with left := hpasses.left h.left }
  have hexpire := hmoved.expireCandidates
  have hclose := hmoved.expired.closeBlocks c.mark.column
  simp only [readMore, bind_apply, scan_apply, Scan.need_apply, Scan.bound_apply, get_apply,
    Option.map_some, Option.bind_some, if_pos h.started, Cursor.require_left, hskip, hexpire,
    column_apply]
  rw [show ({ l with cursor := c, keyAllowed := allowed } : Lexer).expired.cursor.mark.column =
    c.mark.column from rfl, hclose]
  rfl

lemma Lexer.Reads.moves {l₂ : Lexer} {tokens₂ : List Token} {depth₂ : Nat} {c : Cursor}
    {allowed : Bool}
    (hread : readMore l = (do readToken; Lex.checkReach; Lex.expireCandidates) (l.facing c allowed))
    (htoken : readToken (l.facing c allowed) = some ((), l₂)) (h₂ : l₂.Reads tokens₂ depth₂)
    (hhanded : l₂.handedOut = l.handedOut)
    (hkept : tokens₂.take l.handedOut = tokens.take l.handedOut)
    (hshorter : l₂.cursor.rest.length < l.cursor.rest.length) :
    Moves l tokens l₂.expired.handOver tokens₂ ∧ l₂.expired.handOver.Reads tokens₂ depth₂ := by
  refine ⟨moves_of_readMore ?_ h₂.expired hhanded hkept hshorter, h₂.expired.handOver⟩
  simp only [hread, bind_apply, htoken, Option.bind_some, h₂.checkReach, h₂.expireCandidates]

/-! ### Indicators -/

section Operations

variable {kind : Token.Kind}

lemma Lexer.Reads.dropCandidate (h : l.Reads tokens depth) :
    dropCandidate l = some ((), { l with candidate := none }) := by
  have hnone : l.candidate.any (·.required) = false := by
    by_contra hany
    obtain ⟨k, hk, hrequired⟩ := (Option.any_eq_true _ _).mp (Bool.not_eq_false _ ▸ hany)
    exact absurd ((h.candidate k hk).1.symm.trans hrequired) Bool.false_ne_true
  simp [Lex.dropCandidate, hnone]

/-- A candidate is saved where a key may stand. -/
lemma Lexer.Reads.saveCandidate (h : l.Reads tokens depth) :
    ∃ candidate, saveCandidate l = some ((), { l with candidate }) ∧
      (∀ k ∈ candidate, k.Waits l) ∧ (l.keyAllowed = true →
        ∃ k, candidate = some k ∧ k.number = tokens.length ∧ k.mark = l.cursor.mark) := by
  by_cases hallowed : l.keyAllowed = true
  · have hcolumn : (l.indent == (l.cursor.mark.column : Int)) = false := by
      rw [h.indent, beq_eq_false_iff_ne]
      omega
    refine ⟨some ⟨l.handedOut + l.queue.length, l.cursor.mark, false⟩, ?_, ?_, fun _ => ?_⟩
    · simp only [Lex.saveCandidate, bind_apply, get_apply, Option.bind_some, if_pos hallowed,
        h.dropCandidate, hcolumn, Bool.and_false, modify_apply]
    · intro k hk
      cases hk
      exact ⟨rfl, Nat.le_add_right _ _⟩
    · refine ⟨_, rfl, ?_, rfl⟩
      have := h.handedOut
      simp only [h.queue, List.length_drop]
      omega
  · refine ⟨l.candidate, ?_, h.candidate, fun h => absurd h hallowed⟩
    simp only [Lex.saveCandidate, bind_apply, get_apply, Option.bind_some, if_neg hallowed]
    rfl

lemma emitChars_apply : emitChars 1 kind l = some ((), { l with
    cursor := l.cursor.skip
    queue := l.queue ++ [⟨kind, l.cursor.mark, l.cursor.skip.mark⟩] }) := by
  simp [emitChars, Nat.repeat]

lemma Lexer.Reads.emit (h : l.Reads tokens depth) {t : Token} (ht : t.kind ≠ .streamEnd)
    {c : Cursor} (hleft : c.left = c.rest.length) :
    ({ l with cursor := c, queue := l.queue ++ [t] } : Lexer).Reads (tokens ++ [t]) depth := by
  refine { h with queue := ?_, handedOut := ?_, ahead := ?_, left := hleft }
  · simp only [h.queue]
    rw [List.drop_append_of_le_length h.handedOut]
  · have := h.handedOut
    simp only [List.length_append]
    omega
  · intro t' ht'
    rcases List.mem_append.mp ht' with ht' | ht'
    · exact h.ahead t' ht'
    · rwa [List.mem_singleton.mp ht']

/-- An action reads one token, which no key comes in front of. -/
def Emits (l : Lexer) (tokens : List Token) (action : Lex Unit) (kind : Token.Kind)
    (depth : Nat) (c : Cursor) (allowed : Bool) : Prop :=
  ∃ l' t, action l = some ((), l') ∧ t.kind = kind ∧ l'.Reads (tokens ++ [t]) depth ∧
    l'.cursor = c ∧ l'.keyAllowed = allowed ∧ l'.handedOut = l.handedOut

/-- An indicator of one character is read once the lexer is prepared for it. -/
lemma emits_of_prepared {l₁ : Lexer} {action : Lex Unit} (h : l₁.Reads tokens depth)
    (hcursor : l₁.cursor = l.cursor) (hhanded : l₁.handedOut = l.handedOut)
    (haction : action l = emitChars 1 kind l₁) (hkind : kind ≠ .streamEnd)
    (hskip : l.cursor.skip.left = l.cursor.skip.rest.length) :
    Emits l tokens action kind depth l.cursor.skip l₁.keyAllowed := by
  rw [← hcursor] at hskip
  exact ⟨_, ⟨kind, l₁.cursor.mark, l₁.cursor.skip.mark⟩, haction.trans emitChars_apply, rfl,
    h.emit hkind hskip, by rw [← hcursor], rfl, hhanded⟩

lemma emits_openFlow (h : l.Reads tokens depth) (hkind : kind ≠ .streamEnd)
    (hskip : l.cursor.skip.left = l.cursor.skip.rest.length) :
    Emits l tokens (openFlow kind) kind (depth + 1) l.cursor.skip true := by
  obtain ⟨candidate, hsave, hwaits, -⟩ := h.saveCandidate
  have hopened : ({ l with candidate := none, outer := candidate :: l.outer, keyAllowed := true } :
      Lexer).Reads tokens (depth + 1) := by
    refine { h with candidate := nofun, outer := ?_, depth := ?_ }
    · exact List.forall_mem_cons.mpr ⟨hwaits, h.outer⟩
    · rw [List.length_cons, h.depth]
  refine emits_of_prepared hopened rfl rfl ?_ hkind hskip
  simp only [openFlow, bind_apply, hsave, Option.bind_some, modify_apply, allowKey_apply]

lemma emits_closeFlow (h : l.Reads tokens (depth + 1)) (hkind : kind ≠ .streamEnd)
    (hskip : l.cursor.skip.left = l.cursor.skip.rest.length) :
    Emits l tokens (closeFlow kind) kind depth l.cursor.skip false := by
  obtain ⟨candidate, outer, houter⟩ : ∃ candidate outer, l.outer = candidate :: outer :=
    List.exists_cons_of_length_eq_add_one h.depth
  have hwaits := h.outer
  rw [houter] at hwaits
  have hclosed : ({ l with candidate, outer, keyAllowed := false } : Lexer).Reads tokens depth := by
    refine { h with candidate := ?_, outer := ?_, depth := ?_ }
    · exact hwaits _ List.mem_cons_self
    · exact fun o ho => hwaits o (List.mem_cons_of_mem _ ho)
    · have := h.depth
      rw [houter, List.length_cons] at this
      exact Nat.succ_inj.mp this
  refine emits_of_prepared hclosed rfl rfl ?_ hkind hskip
  simp only [closeFlow, bind_apply, h.dropCandidate, Option.bind_some, modify_apply, houter,
    allowKey_apply]

lemma emits_flowEntry (h : l.Reads tokens depth)
    (hskip : l.cursor.skip.left = l.cursor.skip.rest.length) :
    Emits l tokens readFlowEntry .flowEntry depth l.cursor.skip true := by
  have hdropped : ({ l with candidate := none, keyAllowed := true } : Lexer).Reads tokens depth :=
    { h with candidate := nofun }
  refine emits_of_prepared hdropped rfl rfl ?_ nofun hskip
  simp only [readFlowEntry, bind_apply, h.dropCandidate, Option.bind_some, allowKey_apply]

end Operations

/-! ### Which token comes -/

/-- The indicators of flows and how they are read. -/
def flowIndicators : List (Char × Lex Unit) :=
  [('[', openFlow .flowSequenceStart), (']', closeFlow .flowSequenceEnd),
    ('\x7b', openFlow .flowMappingStart), ('\x7d', closeFlow .flowMappingEnd),
    (',', readFlowEntry)]

lemma readToken_indicator {x : Char} {action : Lex Unit} (h : (x, action) ∈ flowIndicators)
    (hhead : l.cursor.charAt 0 = x) : readToken l = action l := by
  have hdoc : x ≠ '.' → x ≠ '-' →
      Scan.atDocumentIndicator l.cursor = some (false, l.cursor) := fun hdot hdash =>
    Scan.atDocumentIndicator_eq_false (hhead ▸ hdot) fun heq => absurd (hhead ▸ heq) hdash
  simp only [flowIndicators, List.mem_cons, Prod.mk.injEq, List.not_mem_nil, or_false] at h
  rcases h with ⟨rfl, rfl⟩ | ⟨rfl, rfl⟩ | ⟨rfl, rfl⟩ | ⟨rfl, rfl⟩ | ⟨rfl, rfl⟩ <;>
    simp [readToken, hhead, hdoc, isEnd, endChar]

lemma readToken_quoted (hhead : l.cursor.charAt 0 = '"') :
    readToken l = readKeyed (Scan.readQuoted .doubleQuoted) l := by
  have hdoc : Scan.atDocumentIndicator l.cursor = some (false, l.cursor) :=
    Scan.atDocumentIndicator_eq_false (by rw [hhead]; decide) (by rw [hhead]; exact nofun)
  simp [readToken, hhead, hdoc, isEnd, endChar]

lemma readToken_value (hhead : l.cursor.charAt 0 = ':') (hflow : l.outer ≠ []) :
    readToken l = readValue l := by
  have hdoc : Scan.atDocumentIndicator l.cursor = some (false, l.cursor) :=
    Scan.atDocumentIndicator_eq_false (by rw [hhead]; decide) (by rw [hhead]; exact nofun)
  have hempty : l.outer.isEmpty = false := by simpa using hflow
  simp [readToken, hhead, hdoc, isEnd, endChar, hempty]

lemma readToken_end (hhead : l.cursor.charAt 0 = endChar) : readToken l = readEnd l := by
  simp [readToken, hhead, isEnd]

lemma readToken_word (hword : isWordChar (l.cursor.charAt 0) = true)
    (hnext : l.cursor.charAt 0 = '-' →
      isGap (l.cursor.charAt 1) = false ∧ l.cursor.charAt 1 ≠ '-') :
    readToken l = readPlainScalar l := by
  have hne : ∀ y, isWordChar y = false → l.cursor.charAt 0 ≠ y :=
    fun y => Scan.ne_of_isWordChar hword
  have hdoc : Scan.atDocumentIndicator l.cursor = some (false, l.cursor) :=
    Scan.atDocumentIndicator_eq_false (hne _ (by decide)) fun h => (hnext h).2
  obtain ⟨hspace, -, hend⟩ := isGap_eq_false_iff.mp (Scan.isGap_of_isWordChar hword)
  have hstarts : startsPlain (!l.outer.isEmpty) (l.cursor.charAt 0) (l.cursor.charAt 1) = true := by
    by_cases hdash : l.cursor.charAt 0 = '-'
    · have hspace' := (isGap_eq_false_iff.mp (hnext hdash).1).1
      simp [startsPlain, hdash, hspace']
    · have hindicators : ("-?:,[]\x7b\x7d#&*!|>'\"%@\x60".toList.all fun y =>
          y == '-' || !isWordChar y) = true := by decide
      have hindicator : isIndicator (l.cursor.charAt 0) = false := by
        rw [isIndicator, List.contains_eq_mem, decide_eq_false_iff_not]
        intro hmem
        have hword' := List.all_eq_true.mp hindicators _ hmem
        simp [hdash, hword] at hword'
      simp [startsPlain, Scan.isGap_of_isWordChar hword, hindicator]
  have hentry : ¬(l.cursor.charAt 0 = '-' ∧ isGap (l.cursor.charAt 1) = true) := fun h =>
    absurd (((hnext h.1).1).symm.trans h.2) Bool.false_ne_true
  simp [readToken, hdoc, hend, hstarts, hentry, hne '%' (by decide), hne '[' (by decide),
    hne ']' (by decide), hne '\x7b' (by decide), hne '\x7d' (by decide), hne ',' (by decide),
    hne '?' (by decide), hne ':' (by decide), hne '*' (by decide), hne '&' (by decide),
    hne '!' (by decide), hne '|' (by decide), hne '>' (by decide), hne '\'' (by decide),
    hne '"' (by decide)]

/-! ### Scalars -/

lemma readKeyed_none {s : Scan Token} (h : l.Reads tokens depth) (hs : s l.cursor = none) :
    readKeyed s l = none := by
  obtain ⟨candidate, hsave, -⟩ := h.saveCandidate
  simp only [readKeyed, bind_apply, hsave, Option.bind_some, allowKey_apply, scan_apply, hs,
    Option.map_none, Option.bind_none]

lemma readKeyed_some {s : Scan Token} {t : Token} {c : Cursor} (h : l.Reads tokens depth)
    (hs : s l.cursor = some (t, c)) (ht : t.kind ≠ .streamEnd) (hleft : c.left = c.rest.length) :
    ∃ l', readKeyed s l = some ((), l') ∧ l'.Reads (tokens ++ [t]) depth ∧ l'.cursor = c ∧
      l'.keyAllowed = false ∧ l'.handedOut = l.handedOut ∧ (l.keyAllowed = true →
        ∃ k, l'.candidate = some k ∧ k.number = tokens.length ∧ k.mark = l.cursor.mark) := by
  obtain ⟨candidate, hsave, hwaits, hnew⟩ := h.saveCandidate
  have hsaved : ({ l with candidate, keyAllowed := false } : Lexer).Reads tokens depth :=
    { h with candidate := hwaits }
  refine ⟨_, ?_, hsaved.emit ht hleft, rfl, rfl, rfl, hnew⟩
  simp only [readKeyed, bind_apply, hsave, Option.bind_some, allowKey_apply, scan_apply, hs,
    Option.map_some, emit_apply]

lemma readPlainScalar_some {t : Token} {broken : Bool} {c : Cursor} (h : l.Reads tokens depth)
    (hflow : l.outer ≠ []) (hread : Scan.readPlain true 0 l.cursor = some ((t, broken), c))
    (ht : t.kind ≠ .streamEnd) (hleft : c.left = c.rest.length) :
    ∃ l', readPlainScalar l = some ((), l') ∧ l'.Reads (tokens ++ [t]) depth ∧ l'.cursor = c ∧
      l'.handedOut = l.handedOut := by
  obtain ⟨candidate, hsave, hwaits, -⟩ := h.saveCandidate
  have hempty : l.outer.isEmpty = false := by simpa using hflow
  have hindent : l.indent + 1 = 0 := by
    rw [h.indent]
    rfl
  have hsaved : ({ l with candidate, keyAllowed := broken } : Lexer).Reads tokens depth :=
    { h with candidate := hwaits }
  refine ⟨_, ?_, hsaved.emit ht hleft, rfl, rfl⟩
  cases broken <;> simp [readPlainScalar, hsave, hempty, hindent, hread]

end Autoscaler.Yaml
