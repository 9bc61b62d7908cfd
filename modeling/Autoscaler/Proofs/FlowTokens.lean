import Autoscaler.Proofs.FlowEvents
import Autoscaler.Proofs.FlowLexer
import Mathlib.Data.Option.NAry

/-!
# Tokens of a flow

What a text gives as tokens does not depend on where in a flow it stands. So the tokens of a text of
JSON are put together along its grammar: strings and words are scalars, a colon makes a key of the
string before it, and values between brackets are the items of a collection. A string that is not
heard stops the lexer for good.
-/

namespace Autoscaler.Yaml

open Autoscaler.Yaml.Lex
open Json (IsGapText)

variable {l l' : Lexer} {tokens tokens' : List Token} {depth depth' : Nat}

/-! ### What a text gives -/

/-- Text ahead of a lexer, behind a gap. -/
def Lexer.Ahead (l : Lexer) (rest : List Char) : Prop :=
  ∃ gap, IsGapText gap ∧ l.cursor.rest = gap ++ rest

/-- From a lexer on, tokens of some kinds are read at the end of which a condition holds, or an
error is met. -/
def Gives (l : Lexer) (tokens : List Token) (depth : Nat) (kinds : Option (List Token.Kind))
    (after : Lexer → Prop) : Prop :=
  match kinds with
  | none => Fails l tokens
  | some kinds => ∃ l' tokens', Moves l tokens l' tokens' ∧ l'.Reads tokens' depth ∧
    tokens'.map Token.kind = tokens.map Token.kind ++ kinds ∧ after l'

lemma Gives.append {kinds kinds' : Option (List Token.Kind)} {after after' : Lexer → Prop}
    (h : Gives l tokens depth kinds after)
    (hnext : ∀ l' tokens', l'.Reads tokens' depth → after l' →
      Gives l' tokens' depth' kinds' after') :
    Gives l tokens depth' (Option.map₂ (· ++ ·) kinds kinds') after' := by
  cases kinds with
  | none => exact h
  | some kinds =>
    obtain ⟨l', tokens', hmoves, hreads, hkinds, hafter⟩ := h
    have hgives := hnext l' tokens' hreads hafter
    cases kinds' with
    | none => exact hmoves.fails hgives
    | some kinds' =>
      obtain ⟨l'', tokens'', hmoves', hreads', hkinds', hafter'⟩ := hgives
      refine ⟨l'', tokens'', hmoves.trans hmoves', hreads', ?_, hafter'⟩
      rw [hkinds', hkinds, List.append_assoc]

lemma Gives.imp {kinds : Option (List Token.Kind)} {after after' : Lexer → Prop}
    (h : Gives l tokens depth kinds after) (himp : ∀ l', after l' → after' l') :
    Gives l tokens depth kinds after' := by
  cases kinds with
  | none => exact h
  | some kinds =>
    obtain ⟨l', tokens', hmoves, hreads, hkinds, hafter⟩ := h
    exact ⟨l', tokens', hmoves, hreads, hkinds, himp l' hafter⟩

section Rounds

variable {gap rest : List Char}

/-- An indicator is read as its token. -/
lemma gives_indicator {x : Char} {action : Lex Unit} {kind : Token.Kind} {allowed : Bool}
    (hx : (x, action) ∈ flowIndicators) (h : l.Reads tokens depth)
    (hrest : l.cursor.rest = gap ++ x :: rest) (hgap : IsGapText gap)
    (htabs : 0 < depth ∨ '\t' ∉ gap)
    (hemits : ∀ l₁ : Lexer, l₁.Reads tokens depth →
      l₁.cursor.skip.left = l₁.cursor.skip.rest.length →
      Emits l₁ tokens action kind depth' l₁.cursor.skip allowed) :
    Gives l tokens depth' (some [kind]) fun l' =>
      l'.cursor.rest = rest ∧ l'.keyAllowed = allowed := by
  have hstart : StartsToken x := by
    simp only [flowIndicators, List.mem_cons, Prod.mk.injEq, List.not_mem_nil, or_false] at hx
    rcases hx with ⟨rfl, -⟩ | ⟨rfl, -⟩ | ⟨rfl, -⟩ | ⟨rfl, -⟩ | ⟨rfl, -⟩ <;>
      exact ⟨by decide, by decide, by decide, by decide⟩
  obtain ⟨c, now, -, hnext, hleft, -, hread⟩ := readMore_eq h hrest hgap hstart htabs
  have hskip : c.skip.left = c.skip.rest.length := by
    simp [Cursor.skip, hleft]
  obtain ⟨l', t, haction, rfl, hreads, hcursor, hallowed, hhanded⟩ :=
    hemits (l.facing c now) (h.facing hleft now) hskip
  have hcursor' : l'.cursor = c.skip := hcursor
  have htoken : readToken (l.facing c now) = some ((), l') :=
    (readToken_indicator hx (Cursor.charAt_zero hnext)).trans haction
  have hkept : (tokens ++ [t]).take l.handedOut = tokens.take l.handedOut :=
    List.take_append_of_le_length h.handedOut
  have hrest' : l'.cursor.rest = rest := by
    rw [hcursor']
    simp [Cursor.skip, hnext]
  have hshorter : l'.cursor.rest.length < l.cursor.rest.length := by
    rw [hrest', hrest]
    simp only [List.length_append, List.length_cons]
    omega
  obtain ⟨hmoves, hreads'⟩ := Lexer.Reads.moves hread htoken hreads hhanded hkept hshorter
  exact ⟨_, _, hmoves, hreads', by simp, hrest', hallowed⟩

lemma startsToken_quote : StartsToken '"' := ⟨by decide, by decide, by decide, by decide⟩

/-- A string that is heard is read as its scalar. Where a key may stand, it is a candidate from then
on, if it is short and on one line. -/
lemma quoted_round {s body out : List Char} (hs : Json.Spells s body)
    (hout : Scan.heard s = some out) (h : l.Reads tokens depth) (hdepth : 0 < depth)
    (hrest : l.cursor.rest = gap ++ '"' :: (body ++ '"' :: rest)) (hgap : IsGapText gap) :
    ∃ l' t, Moves l tokens l' (tokens ++ [t]) ∧ l'.Reads (tokens ++ [t]) depth ∧
      t.kind = .scalar (String.ofList out) .doubleQuoted ∧ l'.cursor.rest = rest ∧
      (l.keyAllowed = true → (∀ x ∈ body, isBreak x = false) → body.length + 2 ≤ maxKeyLength →
        ∃ k, l'.candidate = some k ∧ k.number = tokens.length ∧
          l'.cursor.mark.line = k.mark.line ∧
          l'.cursor.mark.index = k.mark.index + (body.length + 2)) := by
  obtain ⟨c, now, -, hnext, hleft, hnow, hread⟩ :=
    readMore_eq h hrest hgap startsToken_quote (.inl hdepth)
  obtain ⟨stop, c', hquoted, hpassed⟩ := Scan.readQuoted_spelled hs hnext hleft
  rw [hout] at hquoted hpassed
  have hpasses' := hpassed rfl
  have hrest' : c'.rest = rest := by
    have := hpasses'.rest
    rw [hnext] at this
    simpa using this.symm
  obtain ⟨l₂, hkeyed, hreads, hcursor, -, hhanded, hcandidate⟩ :=
    readKeyed_some (h.facing hleft now) hquoted nofun (hpasses'.left hleft)
  have htoken : readToken (l.facing c now) = some ((), l₂) :=
    (readToken_quoted (Cursor.charAt_zero hnext)).trans hkeyed
  have hshorter : l₂.cursor.rest.length < l.cursor.rest.length := by
    rw [hcursor, hrest', hrest]
    simp only [List.length_append, List.length_cons]
    omega
  obtain ⟨hmoves, hreads'⟩ := Lexer.Reads.moves hread htoken hreads hhanded
    (List.take_append_of_le_length h.handedOut) hshorter
  refine ⟨_, _, hmoves, hreads', rfl, by rw [← hrest', ← hcursor]; rfl, ?_⟩
  intro hallowed hbreak hlength
  obtain ⟨k, hk, hnumber, hmark⟩ := hcandidate ((hnow hdepth).trans hallowed)
  have hline : c'.mark.line = k.mark.line := by
    rw [hmark]
    refine hpasses'.line fun x hx => ?_
    simp only [List.mem_append, List.mem_cons, List.not_mem_nil, or_false] at hx
    rcases hx with (rfl | hx) | rfl
    · decide
    · exact hbreak x hx
    · decide
  have hindex : c'.mark.index = k.mark.index + (body.length + 2) := by
    rw [hmark, hpasses'.index, List.length_append, List.length_cons]
    rfl
  have hfresh : isStale l₂.cursor.mark k = false := by
    rw [hcursor, isStale, hline, hindex]
    simp only [Bool.or_eq_false_iff, decide_eq_false_iff_not]
    omega
  refine ⟨k, ?_, hnumber, hcursor ▸ hline, hcursor ▸ hindex⟩
  simp [Lexer.handOver, Lexer.expired, hk, hfresh]

/-- A colon behind a candidate makes it a key. -/
lemma readValue_some {t : Token} {k : KeyCandidate} (h : l.Reads (tokens ++ [t]) depth)
    (hflow : l.outer ≠ []) (hk : l.candidate = some k) (hnumber : k.number = tokens.length)
    (hskip : l.cursor.skip.left = l.cursor.skip.rest.length) :
    ∃ l' key value, readValue l = some ((), l') ∧ key.kind = .key ∧ value.kind = .value ∧
      l'.Reads (tokens ++ [key, t, value]) depth ∧ l'.cursor = l.cursor.skip ∧
      l'.handedOut = l.handedOut := by
  let key : Token := ⟨.key, k.mark, k.mark⟩
  let value : Token := ⟨.value, l.cursor.mark, l.cursor.skip.mark⟩
  have hempty : l.outer.isEmpty = false := by simpa using hflow
  have hwaits : l.handedOut ≤ tokens.length := by
    rw [← hnumber]
    exact (h.candidate k hk).2
  have hqueue : l.queue.take (k.number - l.handedOut) ++
      key :: l.queue.drop (k.number - l.handedOut) = (tokens ++ [key, t]).drop l.handedOut := by
    have hplace : k.number - l.handedOut = (tokens.drop l.handedOut).length := by
      rw [hnumber, List.length_drop]
    rw [h.queue, List.drop_append_of_le_length hwaits, List.drop_append_of_le_length hwaits, hplace,
      List.take_left, List.drop_left]
  have hinserted : ({ l with
      queue := (tokens ++ [key, t]).drop l.handedOut, candidate := none, keyAllowed := false } :
        Lexer).Reads (tokens ++ [key, t]) depth := by
    refine { h with queue := rfl, handedOut := ?_, ahead := ?_, candidate := nofun }
    · simp only [List.length_append]
      omega
    · intro t' ht'
      rcases List.mem_append.mp ht' with ht' | ht'
      · exact h.ahead t' (List.mem_append_left _ ht')
      · rcases List.mem_cons.mp ht' with rfl | ht'
        · exact nofun
        · exact h.ahead t' (List.mem_append_right _ ht')
  have hvalue := hinserted.emit (t := value) nofun hskip
  rw [List.append_assoc] at hvalue
  refine ⟨_, key, value, ?_, rfl, rfl, hvalue, rfl, rfl⟩
  simp only [readValue, bind_apply, get_apply, Option.bind_some, hk, insertBefore, modify_apply,
    openBlock, hempty, Bool.false_and, Bool.false_eq_true, if_false, pure_apply, allowKey_apply,
    emitChars_apply]
  rw [← hqueue]

/-- Close behind a candidate, a colon is read and makes it a key. -/
lemma colon_round {t : Token} {k : KeyCandidate} {blanks : List Char}
    (h : l.Reads (tokens ++ [t]) depth) (hdepth : 0 < depth) (hk : l.candidate = some k)
    (hnumber : k.number = tokens.length) (hline : l.cursor.mark.line = k.mark.line)
    (hindex : l.cursor.mark.index + blanks.length ≤ k.mark.index + maxKeyLength)
    (hrest : l.cursor.rest = blanks ++ ':' :: rest) (hblanks : ∀ x ∈ blanks, x = ' ' ∨ x = '\t') :
    ∃ l' key value, Moves l (tokens ++ [t]) l' (tokens ++ [key, t, value]) ∧
      l'.Reads (tokens ++ [key, t, value]) depth ∧ key.kind = .key ∧ value.kind = .value ∧
      l'.cursor.rest = rest := by
  have hgap : IsGapText blanks := by
    intro x hx
    rcases hblanks x hx with rfl | rfl <;> decide
  have hcolon : StartsToken ':' := ⟨by decide, by decide, by decide, by decide⟩
  obtain ⟨c, now, hpasses, hnext, hleft, -, hread⟩ := readMore_eq h hrest hgap hcolon (.inl hdepth)
  have hfacing := h.facing hleft now
  have hflow : (l.facing c now).outer ≠ [] := by
    rw [← List.length_pos_iff, hfacing.depth]
    exact hdepth
  -- The candidate is still fresh at the colon.
  have hsame : c.mark.line = k.mark.line := by
    rw [hpasses.line fun x hx => ?_, hline]
    rcases hblanks x hx with rfl | rfl <;> decide
  have hfresh : isStale c.mark k = false := by
    rw [isStale, hsame, hpasses.index]
    simp only [Bool.or_eq_false_iff, decide_eq_false_iff_not]
    omega
  have hk' : (l.facing c now).candidate = some k := by
    simp [Lexer.facing, Lexer.expired, hk, hfresh]
  have hskip : c.skip.left = c.skip.rest.length := by simp [Cursor.skip, hleft]
  obtain ⟨l₂, key, value, hvalue, hkey, hvalueKind, hreads, hcursor, hhanded⟩ :=
    readValue_some hfacing hflow hk' hnumber hskip
  have hrest₂ : l₂.cursor.rest = rest := by
    rw [hcursor]
    change c.skip.rest = _
    simp [Cursor.skip, hnext]
  have htoken : readToken (l.facing c now) = some ((), l₂) :=
    (readToken_value (Cursor.charAt_zero hnext) hflow).trans hvalue
  have hkept : (tokens ++ [key, t, value]).take l.handedOut =
      (tokens ++ [t]).take l.handedOut := by
    have hle : l.handedOut ≤ tokens.length := hnumber ▸ (h.candidate k hk).2
    rw [List.take_append_of_le_length hle, List.take_append_of_le_length hle]
  have hshorter : l₂.cursor.rest.length < l.cursor.rest.length := by
    rw [hrest₂, hrest]
    simp only [List.length_append, List.length_cons]
    omega
  obtain ⟨hmoves, hreads'⟩ := Lexer.Reads.moves hread htoken hreads hhanded hkept hshorter
  exact ⟨_, key, value, hmoves, hreads', hkey, hvalueKind, hrest₂⟩

end Rounds

/-! ### Texts -/

/-- In a flow, a text is read as tokens of some kinds, whatever closes the value behind it. An item
stands where a key may. -/
def ReadsAs (item : Bool) (text : List Char) (kinds : Option (List Token.Kind)) : Prop :=
  ∀ (l : Lexer) (tokens : List Token) (depth : Nat) (before after rest : List Char),
    l.Reads tokens (depth + 1) → (item = true → l.keyAllowed = true) →
    l.cursor.rest = before ++ (text ++ (after ++ rest)) → IsGapText before → IsGapText after →
    Scan.closesValue (rest.headD endChar) = true →
    Gives l tokens (depth + 1) kinds (·.Ahead rest)

/-- A text is read as tokens of some kinds, at any depth and whatever comes behind it. Outside of
all flows no tabs may come in front of it. -/
def ReadsWhole (text : List Char) (kinds : Option (List Token.Kind)) : Prop :=
  ∀ (l : Lexer) (tokens : List Token) (depth : Nat) (before rest : List Char),
    l.Reads tokens depth → l.cursor.rest = before ++ (text ++ rest) → IsGapText before →
    0 < depth ∨ '\t' ∉ before → Gives l tokens depth kinds fun l' => l'.cursor.rest = rest

lemma ReadsWhole.readsAs {text : List Char} {kinds : Option (List Token.Kind)}
    (h : ReadsWhole text kinds) : ReadsAs false text kinds := by
  intro l tokens depth before after rest hl _ hrest hbefore hafter _
  have hall := h l tokens (depth + 1) before (after ++ rest) hl hrest hbefore
    (.inl (Nat.succ_pos depth))
  exact hall.imp fun l' hrest' => ⟨after, hafter, hrest'⟩

namespace ReadsAs

variable {text : List Char} {kinds : Option (List Token.Kind)}

lemma item (h : ReadsAs false text kinds) : ReadsAs true text kinds :=
  fun l tokens depth before after rest hl _ =>
    h l tokens depth before after rest hl fun hfalse => Bool.noConfusion hfalse

lemma quoted {s body : List Char} (hs : Json.Spells s body) :
    ReadsAs false ('"' :: (body ++ ['"']))
      ((Scan.heard s).map fun out => [.scalar (String.ofList out) .doubleQuoted]) := by
  intro l tokens depth before after rest hl _ hrest hbefore hafter hclose
  have hrest' : l.cursor.rest = before ++ '"' :: (body ++ '"' :: (after ++ rest)) := by
    simp [hrest]
  cases hout : Scan.heard s with
  | none =>
    obtain ⟨c, now, -, hnext, hleft, -, hread⟩ :=
      readMore_eq hl hrest' hbefore startsToken_quote (.inl (Nat.succ_pos depth))
    obtain ⟨stop, c', hquoted, -⟩ := Scan.readQuoted_spelled hs hnext hleft
    rw [hout] at hquoted
    have htoken : readToken (l.facing c now) = none :=
      (readToken_quoted (Cursor.charAt_zero hnext)).trans
        (readKeyed_none (hl.facing hleft now) hquoted)
    refine fails_of_readMore hl ?_
    rw [hread, bind_apply, htoken]
    rfl
  | some out =>
    obtain ⟨l', t, hmoves, hreads, hkind, hahead, -⟩ :=
      quoted_round hs hout hl (Nat.succ_pos depth) hrest' hbefore
    exact ⟨l', _, hmoves, hreads, by simp [hkind], after, hafter, hahead⟩

lemma word {w : List Char} (hword : ∀ x ∈ w, isWordChar x = true)
    (hdash : ∀ x ∈ w.tail, x ≠ '-') (hne : w ≠ []) (hsingle : w ≠ ['-']) :
    ReadsAs false w (some [.scalar (String.ofList w) .plain]) := by
  intro l tokens depth before after rest hl _ hrest hbefore hafter hclose
  obtain ⟨y, tail, rfl⟩ := List.exists_cons_of_ne_nil hne
  obtain ⟨hy, htail⟩ := List.forall_mem_cons.mp hword
  have hneY : ∀ z, isWordChar z = false → y ≠ z := fun z => Scan.ne_of_isWordChar hy
  obtain ⟨hspace, hbreak, -⟩ := isGap_eq_false_iff.mp (Scan.isGap_of_isWordChar hy)
  have hstart : StartsToken y := ⟨hspace, hbreak, hneY _ (by decide), hneY _ (by decide)⟩
  obtain ⟨c, now, -, hnext, hleft, -, hread⟩ :=
    readMore_eq hl hrest hbefore hstart (.inl (Nat.succ_pos depth))
  have hgap : ∀ x ∈ after, (isSpace x || isBreak x) = true := by
    intro x hx
    rcases jsonGap_cases (hafter x hx) with (rfl | rfl) | (rfl | rfl) <;> decide
  obtain ⟨stop, broken, c', hplain, hpasses'⟩ :=
    Scan.readPlain_word (Int.le_refl 0) hword hdash hne hgap hclose hnext hleft
  have hrest' : c'.rest = rest := by
    have := hpasses'.rest
    rw [hnext, ← List.append_assoc] at this
    exact (List.append_cancel_left this).symm
  have hreads := hl.facing hleft now
  have hflow : (l.facing c now).outer ≠ [] := by
    rw [← List.length_pos_iff, hreads.depth]
    exact Nat.succ_pos depth
  obtain ⟨l₂, hscalar, hreads₂, hcursor, hhanded⟩ :=
    readPlainScalar_some hreads hflow hplain nofun (hpasses'.left hleft)
  have hhead : (l.facing c now).cursor.charAt 0 = y := Cursor.charAt_zero hnext
  have hsecond : (l.facing c now).cursor.charAt 0 = '-' →
      isGap ((l.facing c now).cursor.charAt 1) = false ∧
        (l.facing c now).cursor.charAt 1 ≠ '-' := by
    intro hy'
    have hone : (l.facing c now).cursor.charAt 1 = (tail ++ (after ++ rest)).headD endChar :=
      Cursor.charAt_one hnext
    rw [hone]
    cases tail with
    | nil => exact absurd (by rw [← hhead, hy']) hsingle
    | cons z tail =>
      exact ⟨Scan.isGap_of_isWordChar (htail z List.mem_cons_self), hdash z List.mem_cons_self⟩
  have htoken : readToken (l.facing c now) = some ((), l₂) :=
    (readToken_word (by rw [hhead, hy]) hsecond).trans hscalar
  have hshorter : l₂.cursor.rest.length < l.cursor.rest.length := by
    rw [hcursor, hrest', hrest]
    simp only [List.length_append, List.length_cons]
    omega
  obtain ⟨hmoves, hreads'⟩ := Lexer.Reads.moves hread htoken hreads₂ hhanded
    (List.take_append_of_le_length hl.handedOut) hshorter
  refine ⟨_, _, hmoves, hreads', by simp, [], by simp [IsGapText], ?_⟩
  change l₂.cursor.rest = _
  rw [hcursor, hrest', List.nil_append]

/-- A key, a colon and a value are read as an entry. The key and the colon are close together. -/
lemma member {key body out blanks gap : List Char} (h : ReadsAs false text kinds)
    (hs : Json.Spells key body) (hout : Scan.heard key = some out)
    (hbody : ∀ x ∈ body, isBreak x = false) (hblanks : ∀ x ∈ blanks, x = ' ' ∨ x = '\t')
    (hlength : body.length + 2 + blanks.length ≤ maxKeyLength) (hgap : IsGapText gap) :
    ReadsAs true ('"' :: (body ++ '"' :: (blanks ++ ':' :: (gap ++ text))))
      (kinds.map (Forms.entryKinds [.scalar (String.ofList out) .doubleQuoted])) := by
  intro l tokens depth before after rest hl hallowed hrest hbefore hafter hclose
  have hrest₁ : l.cursor.rest =
      before ++ '"' :: (body ++ '"' :: (blanks ++ ':' :: (gap ++ (text ++ (after ++ rest))))) := by
    simp [hrest]
  obtain ⟨l₁, t, hmoves, hreads, hkind, hahead, hcandidate⟩ :=
    quoted_round hs hout hl (Nat.succ_pos depth) hrest₁ hbefore
  obtain ⟨k, hk, hnumber, hline, hindex⟩ := hcandidate (hallowed rfl) hbody (by omega)
  obtain ⟨l₂, keyToken, valueToken, hmoves₂, hreads₂, hkeyKind, hvalueKind, hrest₂⟩ :=
    colon_round hreads (Nat.succ_pos depth) hk hnumber hline (by omega) hahead hblanks
  have hkey : Gives l tokens (depth + 1)
      (some [.key, .scalar (String.ofList out) .doubleQuoted, .value])
      (fun l' => l'.cursor.rest = gap ++ (text ++ (after ++ rest))) :=
    ⟨_, _, hmoves.trans hmoves₂, hreads₂, by simp [hkind, hkeyKind, hvalueKind], hrest₂⟩
  have hall := hkey.append fun l' tokens' hl' hrest' =>
    h l' tokens' depth gap after rest hl' (fun hfalse => Bool.noConfusion hfalse) hrest' hgap hafter
      hclose
  cases kinds with
  | none => exact hall
  | some kinds => exact hall

/-! ### Lists -/

/-- The kinds of all items, if each of them is read. -/
def gathered : List (Option (List Token.Kind)) → Option (List (List Token.Kind))
  | [] => some []
  | kinds :: later => Option.map₂ (· :: ·) kinds (gathered later)

lemma separated_gathered_cons {kinds : Option (List Token.Kind)}
    {later : List (Option (List Token.Kind))} (h : later ≠ []) :
    (gathered (kinds :: later)).map Parse.separated = Option.map₂ (· ++ ·) kinds
      (Option.map₂ (· ++ ·) (some [.flowEntry]) ((gathered later).map Parse.separated)) := by
  obtain ⟨next, rest, rfl⟩ := List.exists_cons_of_ne_nil h
  cases kinds with
  | none => rfl
  | some kinds =>
    cases next with
    | none => rfl
    | some next => cases hrest : gathered rest <;> simp [gathered, hrest, Parse.separated]

variable {α : Type} {Writes : α → List Char → Prop}
  {Kinds : α → Option (List Token.Kind) → Prop} {all : List α}

lemma separated
    (hitem : ∀ a text, Writes a text → ∃ kinds, Kinds a kinds ∧ ReadsAs true text kinds)
    (h : Json.Separated Writes all text) :
    ∃ kinds, List.Forall₂ Kinds all kinds ∧
      ReadsAs true text ((gathered kinds).map Parse.separated) := by
  induction h with
  | @one a text h =>
    obtain ⟨kinds, hkinds, hreads⟩ := hitem a text h
    refine ⟨[kinds], .cons hkinds .nil, ?_⟩
    have hone : (gathered [kinds]).map Parse.separated = kinds := by
      cases kinds <;> simp [gathered, Parse.separated]
    rwa [hone]
  | @cons a later text gap gap' rest h hgap hgap' hrest ih =>
    obtain ⟨kinds, hkinds, hreads⟩ := hitem a text h
    obtain ⟨others, hothers, hlater⟩ := ih
    refine ⟨kinds :: others, .cons hkinds hothers, ?_⟩
    have hne : others ≠ [] := by
      rintro rfl
      exact hrest.ne_nil (List.forall₂_nil_right_iff.mp hothers)
    intro l tokens depth before after close hl hallowed hl' hbefore hafter hclose
    rw [separated_gathered_cons hne]
    have hfirst := hreads l tokens depth before gap (',' :: (gap' ++ (rest ++ (after ++ close)))) hl
      hallowed (by simp [hl']) hbefore hgap rfl
    refine hfirst.append fun l₁ tokens₁ hl₁ hahead => ?_
    obtain ⟨gap₁, hgap₁, hrest₁⟩ := hahead
    have hcomma : Gives l₁ tokens₁ (depth + 1) (some [.flowEntry]) fun l₂ =>
        l₂.cursor.rest = gap' ++ (rest ++ (after ++ close)) ∧ l₂.keyAllowed = true :=
      gives_indicator (x := ',') (by simp [flowIndicators]) hl₁ hrest₁ hgap₁
        (.inl (Nat.succ_pos depth)) fun l₂ hl₂ hskip => emits_flowEntry hl₂ hskip
    refine hcomma.append fun l₂ tokens₂ hl₂ hpast => ?_
    exact hlater l₂ tokens₂ depth gap' after close hl₂ (fun _ => hpast.2) hpast.1 hgap' hafter
      hclose

/-- Values between brackets are read as the items of a collection. -/
lemma enclosed {first last : Char} {start stop : Token.Kind}
    (hfirst : (first, openFlow start) ∈ flowIndicators)
    (hlast : (last, closeFlow stop) ∈ flowIndicators) (hstart : start ≠ .streamEnd)
    (hstop : stop ≠ .streamEnd) (hclose : Scan.closesValue last = true)
    (hitem : ∀ a text, Writes a text → ∃ kinds, Kinds a kinds ∧ ReadsAs true text kinds)
    (h : Json.Enclosed first last Writes all text) :
    ∃ kinds, List.Forall₂ Kinds all kinds ∧ ReadsWhole text
      ((gathered kinds).map fun items => start :: Parse.separated items ++ [stop]) := by
  have hopens : ∀ (l : Lexer) (tokens : List Token) (depth : Nat) (before rest : List Char),
      l.Reads tokens depth → l.cursor.rest = before ++ first :: rest → IsGapText before →
      0 < depth ∨ '\t' ∉ before →
      Gives l tokens (depth + 1) (some [start]) fun l' =>
        l'.cursor.rest = rest ∧ l'.keyAllowed = true :=
    fun l tokens depth before rest hl hrest hbefore htabs =>
      gives_indicator hfirst hl hrest hbefore htabs fun l₁ hl₁ hskip =>
        emits_openFlow hl₁ hstart hskip
  have hcloses : ∀ (l : Lexer) (tokens : List Token) (depth : Nat) (before rest : List Char),
      l.Reads tokens (depth + 1) → l.cursor.rest = before ++ last :: rest → IsGapText before →
      Gives l tokens depth (some [stop]) fun l' => l'.cursor.rest = rest :=
    fun l tokens depth before rest hl hrest hbefore =>
      (gives_indicator hlast hl hrest hbefore (.inl (Nat.succ_pos depth)) fun l₁ hl₁ hskip =>
        emits_closeFlow hl₁ hstop hskip).imp fun _ h => h.1
  cases h with
  | @nil gap hgap =>
    refine ⟨[], .nil, fun l tokens depth before rest hl hrest hbefore htabs => ?_⟩
    have hopen := hopens l tokens depth before (gap ++ last :: rest) hl (by simp [hrest]) hbefore
      htabs
    exact hopen.append fun l₁ tokens₁ hl₁ hafter =>
      hcloses l₁ tokens₁ depth gap rest hl₁ hafter.1 hgap
  | @items _ text gap gap' h hgap hgap' =>
    obtain ⟨kinds, hkinds, hreads⟩ := separated hitem h
    refine ⟨kinds, hkinds, fun l tokens depth before rest hl hrest hbefore htabs => ?_⟩
    have hopen := hopens l tokens depth before (gap ++ (text ++ (gap' ++ last :: rest))) hl
      (by simp [hrest]) hbefore htabs
    have hlate (l₁ : Lexer) (tokens₁ : List Token) (hl₁ : l₁.Reads tokens₁ (depth + 1))
        (hpast : l₁.cursor.rest = gap ++ (text ++ (gap' ++ last :: rest)) ∧ l₁.keyAllowed = true) :
        Gives l₁ tokens₁ depth (Option.map₂ (· ++ ·) ((gathered kinds).map Parse.separated)
          (some [stop])) fun l' => l'.cursor.rest = rest := by
      have hitems := hreads l₁ tokens₁ depth gap gap' (last :: rest) hl₁ (fun _ => hpast.2) hpast.1
        hgap hgap' hclose
      refine hitems.append fun l₂ tokens₂ hl₂ hahead => ?_
      obtain ⟨gap₂, hgap₂, hrest₂⟩ := hahead
      exact hcloses l₂ tokens₂ depth gap₂ rest hl₂ hrest₂ hgap₂
    have hkinds : (gathered kinds).map (fun items => start :: Parse.separated items ++ [stop]) =
        Option.map₂ (· ++ ·) (some [start]) (Option.map₂ (· ++ ·)
          ((gathered kinds).map Parse.separated) (some [stop])) := by
      cases gathered kinds <;> rfl
    rw [hkinds]
    exact hopen.append hlate

lemma sequence
    (hitem : ∀ a text, Writes a text → ∃ kinds, Kinds a kinds ∧ ReadsAs true text kinds)
    (h : Json.Enclosed '[' ']' Writes all text) :
    ∃ kinds, List.Forall₂ Kinds all kinds ∧ ReadsWhole text ((gathered kinds).map fun items =>
      .flowSequenceStart :: Parse.separated items ++ [.flowSequenceEnd]) :=
  enclosed (by simp [flowIndicators]) (by simp [flowIndicators]) nofun nofun rfl hitem h

lemma mapping
    (hitem : ∀ a text, Writes a text → ∃ kinds, Kinds a kinds ∧ ReadsAs true text kinds)
    (h : Json.Enclosed '\x7b' '\x7d' Writes all text) :
    ∃ kinds, List.Forall₂ Kinds all kinds ∧ ReadsWhole text ((gathered kinds).map fun items =>
      .flowMappingStart :: Parse.separated items ++ [.flowMappingEnd]) :=
  enclosed (by simp [flowIndicators]) (by simp [flowIndicators]) nofun nofun rfl hitem h

end ReadsAs

/-! ### Whole sources -/

lemma readEnd_apply (h : l.Reads tokens depth) : ∃ c t, readEnd l = some ((), { l with
    cursor := c, candidate := none, keyAllowed := false, queue := l.queue ++ [t], ended := true }) ∧
      t.kind = .streamEnd := by
  have hmoved : ({ l with cursor := l.cursor.nextLine 0 } : Lexer).Reads tokens depth :=
    { h with left := by simpa [Cursor.nextLine] using h.left }
  by_cases hcolumn : (l.cursor.mark.column : Int) = 0
  · refine ⟨l.cursor, ⟨.streamEnd, l.cursor.mark, l.cursor.mark⟩, ?_, rfl⟩
    simp only [readEnd, bind_apply, column_apply, Option.bind_some, hcolumn, bne_self_eq_false,
      Bool.false_eq_true, if_false, h.closeBlocks, h.dropCandidate, allowKey_apply, scan_apply,
      Scan.mark_apply, Option.map_some, emit_apply, modify_apply]
  · have hcolumn' : ((l.cursor.mark.column : Int) != 0) = true := by simpa using hcolumn
    refine ⟨l.cursor.nextLine 0, ⟨.streamEnd, (l.cursor.nextLine 0).mark,
      (l.cursor.nextLine 0).mark⟩, ?_, rfl⟩
    simp only [readEnd, bind_apply, column_apply, Option.bind_some, hcolumn', if_true,
      hmoved.closeBlocks, hmoved.dropCandidate, allowKey_apply, scan_apply, Scan.mark_apply,
      Option.map_some, emit_apply, modify_apply]

/-- The end of the source is read as the end of the stream. -/
lemma output_of_end {gap : List Char} (h : l.Reads tokens 0) (hrest : l.cursor.rest = gap)
    (hgap : IsGapText gap) (htabs : '\t' ∉ gap) (fuel : Nat) :
    ∃ t, output (fuel + 1) l tokens = tokens ++ [t] ∧ t.kind = .streamEnd := by
  have hstart : StartsToken endChar := ⟨by decide, by decide, by decide, by decide⟩
  have hrest' : l.cursor.rest = gap ++ [] := by rw [hrest, List.append_nil]
  obtain ⟨c, now, -, hnext, hleft, -, hread⟩ :=
    readMore_eq h hrest' hgap hstart (.inr htabs)
  have hfacing := h.facing hleft now
  have houter : (l.facing c now).outer = [] := List.length_eq_zero_iff.mp hfacing.depth
  have hhead : (l.facing c now).cursor.charAt 0 = endChar := by
    change c.charAt 0 = endChar
    rw [Cursor.charAt, hnext]
    rfl
  obtain ⟨c', t, hend, ht⟩ := readEnd_apply hfacing
  refine ⟨t, ?_, ht⟩
  have hround : readMore l = some ((), { l.facing c now with
      cursor := c', candidate := none, keyAllowed := false
      queue := (l.facing c now).queue ++ [t], ended := true }) := by
    rw [hread, bind_apply, readToken_end hhead, hend, Option.bind_some]
    simp [Lex.checkReach, hfacing.whole, Lex.expireCandidates, houter]
  -- With no candidate left all tokens are settled.
  have hall : (l.facing c now).queue = tokens.drop l.handedOut := hfacing.queue
  rw [output, handOut, hround]
  simp only [settled, houter, hall, List.foldl_cons, List.foldl_nil, List.take_length, if_true,
    List.append_nil, ← List.append_assoc, List.take_append_drop]

/-- A lexer behind the start of the stream. -/
def afterStart (chars : List Char) : Lexer :=
  { cursor := (Cursor.ofSource ⟨chars, false⟩).require 1, broken := false, size := chars.length
    started := true, handedOut := 1 }

def startToken : Token := ⟨.streamStart, ⟨0, 0, 0⟩, ⟨0, 0, 0⟩⟩

lemma reads_afterStart (chars : List Char) : (afterStart chars).Reads [startToken] 0 where
  whole := rfl
  started := rfl
  goesOn := rfl
  indent := rfl
  indents := rfl
  queue := rfl
  handedOut := Nat.le_refl 1
  ahead := by simp [startToken]
  candidate := nofun
  outer := nofun
  depth := rfl
  left := rfl

lemma ofSource_eq_output (chars : List Char) : Token.ofSource ⟨chars, false⟩ =
    output (chars.length + 2) (afterStart chars) [startToken] := by
  have hround : readMore { cursor := Cursor.ofSource ⟨chars, false⟩, broken := false
                           size := chars.length } =
      some ((), { afterStart chars with queue := [startToken], handedOut := 0 }) := by
    simp [readMore, Lex.checkReach, Lex.expireCandidates, afterStart, startToken, Cursor.ofSource]
  rw [Token.ofSource, handOut, hround]
  rfl

/-- A source that is nothing but a flow has the tokens of the flow between the start and the end of
the stream. -/
theorem ofSource_of_readsWhole {text before after : List Char} {kinds : Option (List Token.Kind)}
    (h : ReadsWhole text kinds) (hbefore : IsGapText before) (hafter : IsGapText after)
    (htabs : '\t' ∉ before ++ after) :
    (kinds = none → ∀ t ∈ Token.ofSource ⟨before ++ (text ++ after), false⟩, t.kind ≠ .streamEnd) ∧
    ∀ found, kinds = some found → (Token.ofSource ⟨before ++ (text ++ after), false⟩).map
      Token.kind = .streamStart :: found ++ [.streamEnd] := by
  rw [List.mem_append, not_or] at htabs
  have hgives := h (afterStart (before ++ (text ++ after))) [startToken] 0 before after
    (reads_afterStart _) rfl hbefore (.inr htabs.1)
  have hlength : (afterStart (before ++ (text ++ after))).cursor.rest.length =
    (before ++ (text ++ after)).length := rfl
  rw [ofSource_eq_output]
  constructor
  · rintro rfl t ht
    obtain ⟨rounds, hrounds, hout⟩ := hgives
    obtain ⟨fuel, hfuel⟩ := Nat.exists_eq_add_of_le' hrounds
    rw [← hlength, hfuel, Nat.add_right_comm] at ht
    exact hout _ t ht
  · rintro found rfl
    obtain ⟨l, tokens, ⟨rounds, hrounds, hout⟩, hreads, hkinds, hrest⟩ := hgives
    obtain ⟨fuel, hfuel⟩ := Nat.exists_eq_add_of_le' hrounds
    obtain ⟨t, hend, ht⟩ :=
      output_of_end hreads hrest hafter htabs.2 (fuel + l.cursor.rest.length + 1)
    have hfuel' : (before ++ (text ++ after)).length + 2 =
        fuel + l.cursor.rest.length + 1 + 1 + rounds := by
      omega
    rw [hfuel', hout, hend, List.map_append, hkinds]
    simp [startToken, ht]

end Autoscaler.Yaml
