import Autoscaler.Yaml.Token.Lexer
import Mathlib

/-!
# The end of a source

A lexer hands out the end of the stream only if it has met the end of its source. A broken source
has none: whoever looks for it asks for more characters than there are. So whatever the text is, the
tokens of a broken source do not include the end of the stream.

What holds of every run of a reader that does not fail is stated by triples.
-/

open Std.Do
set_option mvcgen.warning false

namespace Autoscaler.Yaml

/-- A triple is about the runs that do not fail. -/
lemma triple_iff {σ α : Type} {x : StateT σ Option α} {P : σ → Prop} {Q : α → σ → Prop} :
    ⦃fun s => ⌜P s⌝⦄ x ⦃⇓? a s => ⌜Q a s⌝⦄ ↔
      ∀ s a s', P s → x s = some (a, s') → Q a s' := by
  constructor
  · intro h s a s' hs hx
    have h := h s hs
    simp only [WP.wp, PredTrans.apply_pushArg, StateT.run, hx] at h
    exact h
  · intro h s hs
    simp only [WP.wp, PredTrans.apply_pushArg, StateT.run]
    cases hx : x s with
    | none => trivial
    | some r => exact h s r.1 r.2 hs hx

/-! ### Cursors -/

/-- A cursor has passed no more characters than it has lost of its source, and none of those ahead
marks the end. -/
def Cursor.Within (s : Source) (c : Cursor) : Prop :=
  s.chars.length ≤ c.mark.index + c.rest.length ∧ endChar ∉ c.rest

namespace Cursor

variable {s : Source} {c : Cursor}

lemma Within.skip (h : c.Within s) : c.skip.Within s := by
  obtain ⟨hlength, hend⟩ := h
  refine ⟨?_, fun hmem => hend (List.mem_of_mem_drop hmem)⟩
  simp only [Cursor.skip, List.length_drop]
  omega

lemma Within.skips (h : c.Within s) (n : Nat) : (Nat.repeat Cursor.skip n c).Within s := by
  induction n with
  | zero => exact h
  | succ n ih => exact ih.skip

lemma Within.nextLine (h : c.Within s) (n : Nat) : (c.nextLine n).Within s := by
  obtain ⟨hlength, hend⟩ := h
  refine ⟨?_, fun hmem => hend (List.mem_of_mem_drop hmem)⟩
  simp only [Cursor.nextLine, List.length_drop]
  omega

lemma Within.readBreak (h : c.Within s) : c.readBreak.2.Within s := by
  rw [Cursor.readBreak]
  split
  · exact h.nextLine 2
  · split
    · exact h.nextLine 1
    · split
      · exact h.nextLine 1
      · exact h
  · exact h

lemma Within.readWhile (h : c.Within s) (p : Char → Bool) (fuel : Nat) :
    (c.readWhile p fuel).2.Within s := by
  induction fuel generalizing c with
  | zero => exact h
  | succ fuel ih =>
    rw [Cursor.readWhile]
    split
    · exact ih h.skip
    · exact h

end Cursor

/-! ### Scalars -/

namespace Scan

variable {s : Source}

@[spec] lemma fail_spec {α : Type} (Q : PostCond α (.arg Cursor (.except PUnit .pure))) :
    ⦃fun _ => Q.2.1 ⟨⟩⦄ (Scan.fail : Scan α) ⦃Q⦄ := by
  intro c hc
  exact hc

@[spec] lemma keeps_peek (i : Nat) :
    ⦃fun c => ⌜c.Within s⌝⦄ Scan.peek i ⦃⇓? _ c => ⌜c.Within s⌝⦄ := by
  mvcgen [Scan.peek]

@[spec] lemma keeps_mark : ⦃fun c => ⌜c.Within s⌝⦄ Scan.mark ⦃⇓? _ c => ⌜c.Within s⌝⦄ := by
  mvcgen [Scan.mark]

@[spec] lemma keeps_bound : ⦃fun c => ⌜c.Within s⌝⦄ Scan.bound ⦃⇓? _ c => ⌜c.Within s⌝⦄ := by
  mvcgen [Scan.bound]

@[spec] lemma keeps_need (n : Nat) :
    ⦃fun c => ⌜c.Within s⌝⦄ Scan.need n ⦃⇓? _ c => ⌜c.Within s⌝⦄ := by
  mvcgen [Scan.need]

@[spec] lemma keeps_skip : ⦃fun c => ⌜c.Within s⌝⦄ Scan.skip ⦃⇓? _ c => ⌜c.Within s⌝⦄ := by
  intro c hc
  exact Cursor.Within.skip hc

@[spec] lemma keeps_readBreak :
    ⦃fun c => ⌜c.Within s⌝⦄ Scan.readBreak ⦃⇓? _ c => ⌜c.Within s⌝⦄ := by
  intro c hc
  exact Cursor.Within.readBreak hc

@[spec] lemma keeps_readWhile (p : Char → Bool) :
    ⦃fun c => ⌜c.Within s⌝⦄ Scan.readWhile p ⦃⇓? _ c => ⌜c.Within s⌝⦄ := by
  intro c hc
  exact Cursor.Within.readWhile hc p _

@[spec] lemma keeps_skipWhile (p : Char → Bool) :
    ⦃fun c => ⌜c.Within s⌝⦄ Scan.skipWhile p ⦃⇓? _ c => ⌜c.Within s⌝⦄ := by
  mvcgen [Scan.skipWhile]

@[spec] lemma keeps_read : ⦃fun c => ⌜c.Within s⌝⦄ Scan.read ⦃⇓? _ c => ⌜c.Within s⌝⦄ := by
  mvcgen [Scan.read]

@[spec] lemma keeps_expect (x : Char) :
    ⦃fun c => ⌜c.Within s⌝⦄ Scan.expect x ⦃⇓? _ c => ⌜c.Within s⌝⦄ := by
  mvcgen [Scan.expect]

@[spec] lemma keeps_atDocumentIndicator :
    ⦃fun c => ⌜c.Within s⌝⦄ Scan.atDocumentIndicator ⦃⇓? _ c => ⌜c.Within s⌝⦄ := by
  mvcgen [Scan.atDocumentIndicator]

@[spec] lemma keeps_readGap (fine : Bool → Char → Mark → Bool) (fuel : Nat) (g : Gap) :
    ⦃fun c => ⌜c.Within s⌝⦄ readGap fine fuel g ⦃⇓? _ c => ⌜c.Within s⌝⦄ := by
  induction fuel generalizing g with
  | zero => mvcgen [readGap]
  | succ fuel ih => mvcgen [readGap, ih]

@[spec] lemma keeps_readHex (n value : Nat) :
    ⦃fun c => ⌜c.Within s⌝⦄ readHex n value ⦃⇓? _ c => ⌜c.Within s⌝⦄ := by
  induction n generalizing value with
  | zero => mvcgen [readHex]
  | succ n ih => mvcgen [readHex, ih]

@[spec] lemma keeps_readEscape :
    ⦃fun c => ⌜c.Within s⌝⦄ readEscape ⦃⇓? _ c => ⌜c.Within s⌝⦄ := by
  mvcgen [readEscape]

@[spec] lemma keeps_readQuotedRun (quote : Char) (fuel : Nat) (run : List Char) :
    ⦃fun c => ⌜c.Within s⌝⦄ readQuotedRun quote fuel run ⦃⇓? _ c => ⌜c.Within s⌝⦄ := by
  induction fuel generalizing run with
  | zero => mvcgen [readQuotedRun]
  | succ fuel ih => mvcgen [readQuotedRun, ih]

@[spec] lemma keeps_readQuotedText (quote : Char) (fuel : Nat) (text : List Char) :
    ⦃fun c => ⌜c.Within s⌝⦄ readQuotedText quote fuel text ⦃⇓? _ c => ⌜c.Within s⌝⦄ := by
  induction fuel generalizing text with
  | zero => mvcgen [readQuotedText]
  | succ fuel ih => mvcgen [readQuotedText, ih]

@[spec] lemma keeps_readQuoted (style : Style) :
    ⦃fun c => ⌜c.Within s⌝⦄ readQuoted style
    ⦃⇓? t c => ⌜c.Within s ∧ t.kind ≠ .streamEnd⌝⦄ := by
  mvcgen [readQuoted]
  all_goals simp_all

@[spec] lemma keeps_readPlainRun (inFlow : Bool) (fuel : Nat) (run : List Char) :
    ⦃fun c => ⌜c.Within s⌝⦄ readPlainRun inFlow fuel run ⦃⇓? _ c => ⌜c.Within s⌝⦄ := by
  induction fuel generalizing run with
  | zero => mvcgen [readPlainRun]
  | succ fuel ih => mvcgen [readPlainRun, ih]

@[spec] lemma keeps_readPlainText (inFlow : Bool) (indent : Int) (fuel : Nat) (p : PlainText) :
    ⦃fun c => ⌜c.Within s⌝⦄ readPlainText inFlow indent fuel p ⦃⇓? _ c => ⌜c.Within s⌝⦄ := by
  induction fuel generalizing p with
  | zero => mvcgen [readPlainText]
  | succ fuel ih => mvcgen [readPlainText, ih]

@[spec] lemma keeps_readPlain (inFlow : Bool) (indent : Int) :
    ⦃fun c => ⌜c.Within s⌝⦄ readPlain inFlow indent
    ⦃⇓? r c => ⌜c.Within s ∧ r.1.kind ≠ .streamEnd⌝⦄ := by
  mvcgen [readPlain]
  all_goals simp_all

@[spec] lemma keeps_readIncrement :
    ⦃fun c => ⌜c.Within s⌝⦄ readIncrement ⦃⇓? _ c => ⌜c.Within s⌝⦄ := by
  mvcgen [readIncrement]

@[spec] lemma keeps_readBlockHeader :
    ⦃fun c => ⌜c.Within s⌝⦄ readBlockHeader ⦃⇓? _ c => ⌜c.Within s⌝⦄ := by
  mvcgen [readBlockHeader]

@[spec] lemma keeps_readIndent (inside : Mark → Bool) (fuel : Nat) :
    ⦃fun c => ⌜c.Within s⌝⦄ readBlankLines.readIndent inside fuel ⦃⇓? _ c => ⌜c.Within s⌝⦄ := by
  induction fuel with
  | zero => mvcgen [readBlankLines.readIndent]
  | succ fuel ih => mvcgen [readBlankLines.readIndent, ih]

@[spec] lemma keeps_readBlankLines (indent : Option Nat) (fuel : Nat) (b : BlankLines) :
    ⦃fun c => ⌜c.Within s⌝⦄ readBlankLines indent fuel b ⦃⇓? _ c => ⌜c.Within s⌝⦄ := by
  induction fuel generalizing b with
  | zero => mvcgen [readBlankLines]
  | succ fuel ih => mvcgen [readBlankLines, ih]

@[spec] lemma keeps_readBlockLines (style : Style) (indent fuel : Nat) (b : BlockText) :
    ⦃fun c => ⌜c.Within s⌝⦄ readBlockLines style indent fuel b ⦃⇓? _ c => ⌜c.Within s⌝⦄ := by
  induction fuel generalizing b with
  | zero => mvcgen [readBlockLines]
  | succ fuel ih => mvcgen [readBlockLines, ih]

@[spec] lemma keeps_readBlock (style : Style) (parent : Int) :
    ⦃fun c => ⌜c.Within s⌝⦄ readBlock style parent
    ⦃⇓? t c => ⌜c.Within s ∧ t.kind ≠ .streamEnd⌝⦄ := by
  mvcgen [readBlock]
  all_goals simp_all

end Scan

/-! ### Tokens -/

namespace Lex

variable {s : Source}

@[spec] lemma keeps_readOctets (n : Nat) :
    ⦃fun c => ⌜c.Within s⌝⦄ readOctets n ⦃⇓? _ c => ⌜c.Within s⌝⦄ := by
  induction n with
  | zero => mvcgen [readOctets]
  | succ n ih => mvcgen [readOctets, ih]

@[spec] lemma keeps_readUriEscape :
    ⦃fun c => ⌜c.Within s⌝⦄ readUriEscape ⦃⇓? _ c => ⌜c.Within s⌝⦄ := by
  mvcgen [readUriEscape]

@[spec] lemma keeps_readUriChars (verbatim : Bool) (fuel : Nat) :
    ⦃fun c => ⌜c.Within s⌝⦄ readUriChars verbatim fuel ⦃⇓? _ c => ⌜c.Within s⌝⦄ := by
  induction fuel with
  | zero => mvcgen [readUriChars]
  | succ fuel ih => mvcgen [readUriChars, ih]

@[spec] lemma keeps_readUri (verbatim : Bool) (head : List Char) :
    ⦃fun c => ⌜c.Within s⌝⦄ readUri verbatim head ⦃⇓? _ c => ⌜c.Within s⌝⦄ := by
  mvcgen [readUri]

@[spec] lemma keeps_readHandle (directive : Bool) :
    ⦃fun c => ⌜c.Within s⌝⦄ readHandle directive ⦃⇓? _ c => ⌜c.Within s⌝⦄ := by
  mvcgen [readHandle]

@[spec] lemma keeps_readTag (inFlow : Bool) :
    ⦃fun c => ⌜c.Within s⌝⦄ readTag inFlow
    ⦃⇓? t c => ⌜c.Within s ∧ t.kind ≠ .streamEnd⌝⦄ := by
  mvcgen [readTag]
  all_goals simp_all

@[spec] lemma keeps_readName (kind : String → Token.Kind) (hkind : ∀ n, kind n ≠ .streamEnd) :
    ⦃fun c => ⌜c.Within s⌝⦄ readName kind
    ⦃⇓? t c => ⌜c.Within s ∧ t.kind ≠ .streamEnd⌝⦄ := by
  mvcgen [readName]
  all_goals simp_all

@[spec] lemma keeps_readVersionPart :
    ⦃fun c => ⌜c.Within s⌝⦄ readVersionPart ⦃⇓? _ c => ⌜c.Within s⌝⦄ := by
  mvcgen [readVersionPart]

@[spec] lemma keeps_readDirectiveBody (name : List Char) :
    ⦃fun c => ⌜c.Within s⌝⦄ readDirectiveBody name
    ⦃⇓? k c => ⌜c.Within s ∧ k ≠ .streamEnd⌝⦄ := by
  mvcgen [readDirectiveBody]
  all_goals simp_all

@[spec] lemma keeps_readDirective :
    ⦃fun c => ⌜c.Within s⌝⦄ readDirective
    ⦃⇓? t c => ⌜c.Within s ∧ t.kind ≠ .streamEnd⌝⦄ := by
  mvcgen [readDirective]
  all_goals simp_all

end Lex

/-- A lexer of a broken source before it has met the end. -/
@[mk_iff] structure Lexer.Unended (s : Source) (l : Lexer) : Prop where
  broken : l.broken = true
  size : l.size = s.chars.length
  within : l.cursor.Within s
  queue : ∀ t ∈ l.queue, t.kind ≠ .streamEnd

/-- More characters were asked for than a broken source has. -/
def Lexer.Exhausted (l : Lexer) : Prop := l.broken = true ∧ l.size < l.cursor.reach

lemma Lexer.Unended.exhausted {s : Source} {l : Lexer} (h : l.Unended s)
    (hreach : l.cursor.mark.index < l.cursor.reach) (hend : isEnd (l.cursor.charAt 0) = true) :
    l.Exhausted := by
  obtain ⟨hlength, hchars⟩ := h.within
  have hrest : l.cursor.rest = [] := by
    cases hrest : l.cursor.rest with
    | nil => rfl
    | cons c rest =>
      simp only [isEnd, Cursor.charAt, hrest, List.getElem?_cons_zero, Option.getD_some,
        beq_iff_eq] at hend
      exact absurd (by simp [hrest, hend]) hchars
  refine ⟨h.broken, ?_⟩
  rw [hrest, List.length_nil] at hlength
  rw [h.size]
  omega

namespace Lex

variable {s : Source}

@[spec] lemma fail_spec {α : Type} (Q : PostCond α (.arg Lexer (.except PUnit .pure))) :
    ⦃fun _ => Q.2.1 ⟨⟩⦄ (Lex.fail : Lex α) ⦃Q⦄ := by
  intro l hl
  exact hl

lemma unended_scan_such {α : Type} {R : α → Prop} {x : Scan α}
    (hx : ⦃fun c => ⌜c.Within s⌝⦄ x ⦃⇓? a c => ⌜c.Within s ∧ R a⌝⦄) :
    ⦃fun l => ⌜l.Unended s⌝⦄ scan x ⦃⇓? a l => ⌜l.Unended s ∧ R a⌝⦄ := by
  rw [triple_iff] at hx ⊢
  intro l a l' hl hscan
  obtain ⟨⟨b, c⟩, hrun, heq⟩ := Option.bind_eq_some_iff.mp hscan
  cases heq
  obtain ⟨hwithin, hsuch⟩ := hx _ _ _ hl.within hrun
  exact ⟨{ hl with within := hwithin }, hsuch⟩

@[spec] lemma unended_scan {α : Type} (x : Scan α)
    (hx : ⦃fun c => ⌜c.Within s⌝⦄ x ⦃⇓? _ c => ⌜c.Within s⌝⦄) :
    ⦃fun l => ⌜l.Unended s⌝⦄ scan x ⦃⇓? _ l => ⌜l.Unended s⌝⦄ := by
  have hsuch : ⦃fun c => ⌜c.Within s⌝⦄ x ⦃⇓? _ c => ⌜c.Within s ∧ True⌝⦄ := by
    simpa only [and_true] using hx
  simpa only [and_true] using unended_scan_such hsuch

@[spec] lemma unended_emit (t : Token) (ht : t.kind ≠ .streamEnd) :
    ⦃fun l => ⌜l.Unended s⌝⦄ emit t ⦃⇓? _ l => ⌜l.Unended s⌝⦄ := by
  intro l hl
  exact { hl with queue := List.forall_mem_append.mpr ⟨hl.queue, by simpa using ht⟩ }

@[spec] lemma unended_insertBefore (n : Nat) (t : Token) (ht : t.kind ≠ .streamEnd) :
    ⦃fun l => ⌜l.Unended s⌝⦄ insertBefore n t ⦃⇓? _ l => ⌜l.Unended s⌝⦄ := by
  intro l hl
  refine { hl with queue := List.forall_mem_append.mpr ⟨fun t ht => ?_, ?_⟩ }
  · exact hl.queue t (List.mem_of_mem_take ht)
  · exact List.forall_mem_cons.mpr ⟨ht, fun t ht => hl.queue t (List.mem_of_mem_drop ht)⟩

@[spec] lemma unended_inFlow :
    ⦃fun l => ⌜l.Unended s⌝⦄ inFlow ⦃⇓? _ l => ⌜l.Unended s⌝⦄ := by
  mvcgen [inFlow]

@[spec] lemma unended_column :
    ⦃fun l => ⌜l.Unended s⌝⦄ column ⦃⇓? _ l => ⌜l.Unended s⌝⦄ := by
  mvcgen [column]

@[spec] lemma unended_allowKey (b : Bool) :
    ⦃fun l => ⌜l.Unended s⌝⦄ allowKey b ⦃⇓? _ l => ⌜l.Unended s⌝⦄ := by
  intro l hl
  exact { hl with }

@[spec] lemma unended_expireCandidates :
    ⦃fun l => ⌜l.Unended s⌝⦄ expireCandidates ⦃⇓? _ l => ⌜l.Unended s⌝⦄ := by
  mvcgen [expireCandidates]
  all_goals simp_all +zetaDelta [Lexer.unended_iff]

@[spec] lemma unended_dropCandidate :
    ⦃fun l => ⌜l.Unended s⌝⦄ dropCandidate ⦃⇓? _ l => ⌜l.Unended s⌝⦄ := by
  mvcgen [dropCandidate]
  all_goals simp_all +zetaDelta [Lexer.unended_iff]

@[spec] lemma unended_saveCandidate :
    ⦃fun l => ⌜l.Unended s⌝⦄ saveCandidate ⦃⇓? _ l => ⌜l.Unended s⌝⦄ := by
  mvcgen [saveCandidate]
  all_goals simp_all +zetaDelta [Lexer.unended_iff]

@[spec] lemma unended_openBlock (column : Nat) (number : Option Nat) (kind : Token.Kind) (m : Mark)
    (hkind : kind ≠ .streamEnd) :
    ⦃fun l => ⌜l.Unended s⌝⦄ openBlock column number kind m ⦃⇓? _ l => ⌜l.Unended s⌝⦄ := by
  mvcgen [openBlock]
  all_goals simp_all +zetaDelta [Lexer.unended_iff]

@[spec] lemma unended_closeBlocks (column : Int) :
    ⦃fun l => ⌜l.Unended s⌝⦄ closeBlocks column ⦃⇓? _ l => ⌜l.Unended s⌝⦄ := by
  mvcgen [closeBlocks] with simp_all +zetaDelta [Lexer.unended_iff]
  rintro t (ht | ⟨-, rfl⟩)
  · rename_i h _
    exact h.2.2.2 t ht
  · simp

@[spec] lemma unended_emitChars (n : Nat) (kind : Token.Kind) (hkind : kind ≠ .streamEnd) :
    ⦃fun l => ⌜l.Unended s⌝⦄ emitChars n kind ⦃⇓? _ l => ⌜l.Unended s⌝⦄ := by
  mvcgen [emitChars]
  all_goals simp_all +zetaDelta [Lexer.unended_iff, Cursor.Within.skips]

@[spec] lemma unended_skipGaps (fuel : Nat) :
    ⦃fun l => ⌜l.Unended s⌝⦄ skipGaps fuel ⦃⇓? _ l => ⌜l.Unended s⌝⦄ := by
  induction fuel with
  | zero => mvcgen [skipGaps]
  | succ fuel ih => mvcgen [skipGaps, ih]

@[spec] lemma unended_leaveDocument :
    ⦃fun l => ⌜l.Unended s⌝⦄ leaveDocument ⦃⇓? _ l => ⌜l.Unended s⌝⦄ := by
  mvcgen [leaveDocument]

@[spec] lemma unended_openFlow (kind : Token.Kind) (hkind : kind ≠ .streamEnd) :
    ⦃fun l => ⌜l.Unended s⌝⦄ openFlow kind ⦃⇓? _ l => ⌜l.Unended s⌝⦄ := by
  mvcgen [openFlow]
  all_goals simp_all +zetaDelta [Lexer.unended_iff]

@[spec] lemma unended_closeFlow (kind : Token.Kind) (hkind : kind ≠ .streamEnd) :
    ⦃fun l => ⌜l.Unended s⌝⦄ closeFlow kind ⦃⇓? _ l => ⌜l.Unended s⌝⦄ := by
  mvcgen [closeFlow]
  case vc4 h _ =>
    dsimp +zetaDelta only
    split
    · exact h
    · exact { h with }
  case vc6 => exact fun _ _ => hkind

@[spec] lemma unended_readFlowEntry :
    ⦃fun l => ⌜l.Unended s⌝⦄ readFlowEntry ⦃⇓? _ l => ⌜l.Unended s⌝⦄ := by
  mvcgen [readFlowEntry]
  all_goals simp_all

@[spec] lemma unended_openEntry (kind : Token.Kind) (hkind : kind ≠ .streamEnd) :
    ⦃fun l => ⌜l.Unended s⌝⦄ openEntry kind ⦃⇓? _ l => ⌜l.Unended s⌝⦄ := by
  mvcgen [openEntry]
  all_goals simp_all

@[spec] lemma unended_readBlockEntry :
    ⦃fun l => ⌜l.Unended s⌝⦄ readBlockEntry ⦃⇓? _ l => ⌜l.Unended s⌝⦄ := by
  mvcgen [readBlockEntry]
  all_goals simp_all

@[spec] lemma unended_readKey :
    ⦃fun l => ⌜l.Unended s⌝⦄ readKey ⦃⇓? _ l => ⌜l.Unended s⌝⦄ := by
  mvcgen [readKey]
  all_goals simp_all

@[spec] lemma unended_readValue :
    ⦃fun l => ⌜l.Unended s⌝⦄ readValue ⦃⇓? _ l => ⌜l.Unended s⌝⦄ := by
  mvcgen [readValue]
  all_goals simp_all +zetaDelta [Lexer.unended_iff]

@[spec] lemma unended_readKeyed (x : Scan Token)
    (hx : ⦃fun c => ⌜c.Within s⌝⦄ x ⦃⇓? t c => ⌜c.Within s ∧ t.kind ≠ .streamEnd⌝⦄) :
    ⦃fun l => ⌜l.Unended s⌝⦄ readKeyed x ⦃⇓? _ l => ⌜l.Unended s⌝⦄ := by
  have hread := unended_scan_such hx
  mvcgen [readKeyed, -unended_scan, hread]
  all_goals simp_all

@[spec] lemma unended_readBlockScalar (style : Style) :
    ⦃fun l => ⌜l.Unended s⌝⦄ readBlockScalar style ⦃⇓? _ l => ⌜l.Unended s⌝⦄ := by
  have hread := fun indent => unended_scan_such (Scan.keeps_readBlock (s := s) style indent)
  mvcgen [readBlockScalar, -unended_scan, hread]
  all_goals simp_all

@[spec] lemma unended_readPlainScalar :
    ⦃fun l => ⌜l.Unended s⌝⦄ readPlainScalar ⦃⇓? _ l => ⌜l.Unended s⌝⦄ := by
  have hread := fun inFlow indent =>
    unended_scan_such (Scan.keeps_readPlain (s := s) inFlow indent)
  mvcgen [readPlainScalar, -unended_scan, hread]
  all_goals simp_all

lemma scan_mark_spec (Q : PostCond Mark (.arg Lexer (.except PUnit .pure))) :
    ⦃fun l => Q.1 l.cursor.mark l⦄ scan Scan.mark ⦃Q⦄ := by
  intro l hl
  exact hl

/-- At the end of a broken source more characters were asked for than it has. -/
lemma exhausted_readEnd :
    ⦃fun l => ⌜l.Exhausted⌝⦄ readEnd ⦃⇓? _ l => ⌜l.Exhausted⌝⦄ := by
  mvcgen [readEnd, column, closeBlocks, dropCandidate, allowKey, emit, -unended_scan,
    -unended_column, -unended_closeBlocks, -unended_dropCandidate, -unended_allowKey,
    -unended_emit, scan_mark_spec]

lemma inFlow_spec (Q : PostCond Bool (.arg Lexer (.except PUnit .pure))) :
    ⦃fun l => Q.1 (!l.outer.isEmpty) l⦄ inFlow ⦃Q⦄ := by
  intro l hl
  exact hl

lemma column_spec (Q : PostCond Int (.arg Lexer (.except PUnit .pure))) :
    ⦃fun l => Q.1 l.cursor.mark.column l⦄ column ⦃Q⦄ := by
  intro l hl
  exact hl

lemma scan_peek_spec (i : Nat) (Q : PostCond Char (.arg Lexer (.except PUnit .pure))) :
    ⦃fun l => Q.1 (l.cursor.charAt i) l⦄ scan (Scan.peek i) ⦃Q⦄ := by
  intro l hl
  exact hl

lemma unended_readToken :
    ⦃fun l => ⌜l.Unended s ∧ l.cursor.mark.index < l.cursor.reach⌝⦄ readToken
    ⦃⇓? _ l => ⌜l.Unended s ∨ l.Exhausted⌝⦄ := by
  have hread := unended_scan_such (keeps_readDirective (s := s))
  have hemit := unended_emit (s := s)
  have hindicator := unended_scan (s := s) _ Scan.keeps_atDocumentIndicator
  mvcgen [readToken, -unended_scan, -unended_inFlow, -unended_column, -unended_emit, inFlow_spec,
    column_spec, scan_peek_spec, exhausted_readEnd, hread, hemit, hindicator]
  case vc1 l h hend => exact h.1.exhausted h.2 hend
  all_goals try (simp_all; done)
  intro _ _
  split <;> simp

lemma unended_need {n : Nat} (hn : 0 < n) :
    ⦃fun l => ⌜l.Unended s⌝⦄ scan (Scan.need n)
    ⦃⇓? _ l => ⌜l.Unended s ∧ l.cursor.mark.index < l.cursor.reach⌝⦄ := by
  rw [triple_iff]
  intro l _ l' h hscan
  cases hscan
  refine ⟨{ h with }, ?_⟩
  simp only [Cursor.require]
  omega

lemma unended_checkReach :
    ⦃fun l => ⌜l.Unended s ∨ l.Exhausted⌝⦄ checkReach ⦃⇓? _ l => ⌜l.Unended s⌝⦄ := by
  mvcgen [checkReach]
  next h hcheck =>
    rcases h with h | ⟨hbroken, hreach⟩
    · exact h
    · simp [hbroken, hreach] at hcheck

lemma unended_readMore : ⦃fun l => ⌜l.Unended s⌝⦄ readMore ⦃⇓? _ l => ⌜l.Unended s⌝⦄ := by
  have hone := unended_need (s := s) (n := 1) (by decide)
  have hfour := unended_need (s := s) (n := 4) (by decide)
  have hmark := unended_scan (s := s) _ Scan.keeps_mark
  have hbound := unended_scan (s := s) _ Scan.keeps_bound
  mvcgen [readMore, -unended_scan, unended_readToken, hone, hfour, hmark, hbound,
    unended_checkReach]
  all_goals simp_all +zetaDelta [Lexer.unended_iff]

lemma ne_streamEnd_of_mem_handOut {fuel : Nat} {l : Lexer} (h : l.Unended s) :
    ∀ t ∈ handOut fuel l, t.kind ≠ .streamEnd := by
  induction fuel generalizing l with
  | zero => simp [handOut]
  | succ fuel ih =>
    rw [handOut]
    split
    next => simp
    next l' hread =>
      have h' : l'.Unended s := triple_iff.mp unended_readMore _ _ _ h hread
      refine List.forall_mem_append.mpr ⟨fun t ht => h'.queue t (List.mem_of_mem_take ht), ?_⟩
      split
      · simp
      · exact ih { h' with queue := fun t ht => h'.queue t (List.mem_of_mem_drop ht) }

end Lex

/-- The tokens of a broken source break off before the end of the stream. -/
lemma ne_streamEnd_of_broken {s : Source} (hbroken : s.broken = true) (hchars : endChar ∉ s.chars) :
    ∀ t ∈ Token.ofSource s, t.kind ≠ .streamEnd := by
  refine Lex.ne_streamEnd_of_mem_handOut (s := s) ⟨hbroken, rfl, ⟨?_, hchars⟩, ?_⟩
  · simp [Cursor.ofSource]
  · simp

end Autoscaler.Yaml
