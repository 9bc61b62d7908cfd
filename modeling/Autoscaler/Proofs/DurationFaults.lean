import Autoscaler.Proofs.DurationGrammar

/-!
# Reading durations by bytes and words

The same reading over texts that are cut at byte positions and over words of 128 bits, where a cut
inside a character, an unchecked result that does not fit, a division by zero or a turn of the loop
that takes nothing ends in a fault. None of them occurs.
-/

namespace Autoscaler.Duration

inductive Fault where
  | brokenCharacter
  | overflow
  | divisionByZero
  | standstill
deriving DecidableEq, Repr

/-- A reading that refuses its text or ends in a fault. -/
abbrev Guarded := OptionT (Except Fault)

def judged {α : Type} (x : Option α) : Guarded α := OptionT.mk (.ok x)

def byteLength (s : List Char) : Nat := (s.map Char.utf8Size).sum

def cutAt : Nat → List Char → Except Fault (List Char × List Char)
  | 0, s => .ok ([], s)
  | _ + 1, [] => .error .brokenCharacter
  | n + 1, c :: s =>
    if c.utf8Size ≤ n + 1 then
      (cutAt (n + 1 - c.utf8Size) s).map fun parts => (c :: parts.1, parts.2)
    else .error .brokenCharacter

/-- The position of the first character that `p` holds of, or of the end. -/
def positionOf (p : Char → Bool) : List Char → Nat
  | [] => 0
  | c :: s => if p c then 0 else c.utf8Size + positionOf p s

def word (n : Nat) : Except Fault Nat := if n < wideLimit then .ok n else .error .overflow

def divide (n d : Nat) : Except Fault Nat := if d = 0 then .error .divisionByZero else .ok (n / d)

def addFraction (nanos : Nat) (fraction : List Char) (scale : Nat) : Guarded Nat := do
  let (kept, _) ← cutAt (min (byteLength fraction) maxFractionDigits) fraction
  if kept.isEmpty then
    return nanos
  let digits ← judged ((Text.readNat 10 kept).bind wide?)
  let divisor ← word (Nat.pow 10 (byteLength kept))
  let product ← word (digits * scale)
  let part ← divide product divisor
  judged (wide? (nanos + part))

def guardedElement (number : List Char) (scale : Nat) : Guarded Nat := do
  let (whole, fraction) := splitNumber number
  if whole.isEmpty && fraction.isEmpty then failure
  if !fraction.all Char.isDigit then failure
  let units ← judged (wholeValue? whole)
  let nanos ← judged (wide? (units * scale))
  addFraction nanos fraction scale

def guardedSum (total : Nat) (s : List Char) : Guarded Nat :=
  if s.isEmpty then pure total else do
    let (number, tail) ← cutAt (positionOf (!isNumberChar ·) s) s
    let (unit, rest) ← cutAt (positionOf isNumberChar tail) tail
    let scale ← judged (unitNanos? unit)
    let nanos ← guardedElement number scale
    let next ← judged (wide? (total + nanos))
    if _shorter : rest.length < s.length then guardedSum next rest
    else (.error .standstill : Except Fault Nat)
termination_by s.length

def guardedElements (s : List Char) : Guarded Duration := do
  if s.isEmpty then failure
  let total ← guardedSum 0 s
  judged (ofNanos? total)

def guardedParse (text : String) : Guarded Duration :=
  match Text.trimBlanks text.toList with
  | '+' :: s => guardedElements s
  | s => guardedElements s

lemma ok_bind {α β : Type} (x : α) (f : α → Guarded β) :
    ((liftM (Except.ok x : Except Fault α) : Guarded α) >>= f) = f x := rfl

lemma judged_some_bind {α β : Type} (x : α) (f : α → Guarded β) :
    (judged (some x) >>= f) = f x := rfl

lemma judged_bind {α β : Type} {x : Option α} {f : α → Guarded β} {g : α → Option β}
    (h : ∀ a, x = some a → f a = judged (g a)) : (judged x >>= f) = judged (x.bind g) := by
  cases x with
  | none => rfl
  | some a => exact h a rfl

/-! ### Positions -/

lemma byteLength_cons (c : Char) (s : List Char) :
    byteLength (c :: s) = c.utf8Size + byteLength s := by
  simp [byteLength]

lemma cutAt_append (before after : List Char) :
    cutAt (byteLength before) (before ++ after) = .ok (before, after) := by
  induction before with
  | nil => cases after <;> rfl
  | cons c before ih =>
    have hpos := c.utf8Size_pos
    have hlength := byteLength_cons c before
    obtain ⟨n, hn⟩ : ∃ n, byteLength (c :: before) = n + 1 := ⟨byteLength (c :: before) - 1, by omega⟩
    have hrest : n + 1 - c.utf8Size = byteLength before := by omega
    rw [hn, List.cons_append, cutAt, if_pos (by omega), hrest, ih]
    rfl

lemma positionOf_eq (p : Char → Bool) (s : List Char) :
    positionOf p s = byteLength (s.takeWhile (!p ·)) := by
  induction s with
  | nil => rfl
  | cons c s ih =>
    by_cases hc : p c = true
    · simp [positionOf, hc, byteLength]
    · simp [positionOf, hc, byteLength_cons, ih]

/-- A search never ends inside a character. -/
lemma cutAt_positionOf (p : Char → Bool) (s : List Char) :
    cutAt (positionOf p s) s = .ok (s.takeWhile (!p ·), s.dropWhile (!p ·)) := by
  have hcut := cutAt_append (s.takeWhile (!p ·)) (s.dropWhile (!p ·))
  rwa [List.takeWhile_append_dropWhile, ← positionOf_eq] at hcut

example : cutAt 1 ['\u00b5', 's'] = .error .brokenCharacter := rfl

lemma byteLength_digits {digits : List Char} (h : ∀ c ∈ digits, c.isDigit = true) :
    byteLength digits = digits.length := by
  induction digits with
  | nil => rfl
  | cons c digits ih =>
    obtain ⟨hc, hdigits⟩ := List.forall_mem_cons.mp h
    have hsize : c.utf8Size = 1 := by
      simp only [Char.isDigit, Bool.and_eq_true, decide_eq_true_eq] at hc
      have hhigh : c.val ≤ 57 := hc.2
      have hascii : (57 : UInt32) ≤ 0x7f := by decide
      exact if_pos (UInt32.le_trans hhigh hascii)
    rw [byteLength_cons, hsize, ih hdigits, List.length_cons, Nat.add_comm]

lemma cutAt_digits {digits : List Char} (h : ∀ c ∈ digits, c.isDigit = true) (n : Nat) :
    cutAt (min (byteLength digits) n) digits = .ok (digits.take n, digits.drop n) := by
  have hcut := cutAt_append (digits.take n) (digits.drop n)
  rwa [List.take_append_drop, byteLength_digits fun c hc => h c (List.mem_of_mem_take hc),
    List.length_take, Nat.min_comm, ← byteLength_digits h] at hcut

/-! ### Words -/

/-- The longest unit. -/
def longestUnit : Nat := TimeUnit.hour.nanos

lemma TimeUnit.nanos_le (u : TimeUnit) : u.nanos ≤ longestUnit := by
  cases u <;> decide

lemma word_of_lt {n : Nat} (h : n < wideLimit) : word n = .ok n := if_pos h

lemma divide_of_pos (n : Nat) {d : Nat} (h : 0 < d) : divide n d = .ok (n / d) :=
  if_neg (Nat.pos_iff_ne_zero.mp h)

/-- The digits that are kept leave room for the longest unit. -/
lemma addFraction_eq {nanos : Nat} {fraction : List Char} {scale : Nat} (hnanos : nanos < wideLimit)
    (hdigits : ∀ c ∈ fraction, c.isDigit = true) (hscale : scale ≤ longestUnit) :
    addFraction nanos fraction scale =
      judged ((fractionNanos? fraction scale).bind fun part => wide? (nanos + part)) := by
  have hkept : ∀ c ∈ fraction.take 18, c.isDigit = true :=
    fun c hc => hdigits c (List.mem_of_mem_take hc)
  have hlength : (fraction.take 18).length ≤ 18 := List.length_take_le _ _
  rw [addFraction, fractionNanos?_eq hdigits, Option.bind_some, show maxFractionDigits = 18 from rfl,
    cutAt_digits hdigits, ok_bind]
  generalize fraction.take 18 = kept at hkept hlength
  by_cases hne : kept = []
  · subst hne
    rw [decimalValue_nil, Nat.zero_mul, Nat.zero_div, Nat.add_zero, wide?_of_lt hnanos]
    rfl
  · have hpower : 10 ^ kept.length ≤ 10 ^ 18 := Nat.pow_le_pow_right (by decide) hlength
    have hvalue := decimalValue_lt hkept
    have hproduct : decimalValue kept * scale < 10 ^ 18 * (longestUnit + 1) :=
      Nat.mul_lt_mul_of_lt_of_le (by omega) (by omega) (by omega)
    have hroom : 10 ^ 18 * (longestUnit + 1) < wideLimit := by decide
    have hread : (Text.readNat 10 kept).bind wide? = some (decimalValue kept) := by
      rw [readNat_eq hkept hne, Option.bind_some, wide?_of_lt (by omega)]
    have hdivisor : word (Nat.pow 10 kept.length) = .ok (10 ^ kept.length) :=
      word_of_lt (by rw [Nat.pow_eq]; omega)
    have hpositive : 0 < 10 ^ kept.length := Nat.pow_pos (by decide)
    simp only [List.isEmpty_eq_false_iff.mpr hne, Bool.false_eq_true, if_false, hread,
      judged_some_bind, byteLength_digits hkept, hdivisor, ok_bind,
      word_of_lt (hproduct.trans hroom), divide_of_pos _ hpositive]

lemma guardedElement_eq {number : List Char} {scale : Nat} (hscale : scale ≤ longestUnit) :
    guardedElement number scale = judged (elementNanos? number scale) := by
  unfold guardedElement elementNanos?
  by_cases hempty : ((splitNumber number).1.isEmpty && (splitNumber number).2.isEmpty) = true
  · simp only [hempty]
    rfl
  by_cases hdigits : (splitNumber number).2.all Char.isDigit = true
  · simp only [hempty, hdigits, Bool.not_true, Bool.false_eq_true, if_false]
    refine judged_bind fun units _ => judged_bind fun nanos hnanos => ?_
    obtain ⟨rfl, hfits⟩ := wide?_eq_some hnanos
    exact addFraction_eq hfits (List.all_eq_true.mp hdigits) hscale
  · simp only [hempty, hdigits]
    rfl

/-- Every turn of the loop takes something, so the fuel of the reading never runs out. -/
lemma guardedSum_eq {fuel total : Nat} {s : List Char} (hfuel : s.length ≤ fuel) :
    guardedSum total s = judged (sumElements? fuel total s) := by
  induction fuel generalizing total s with
  | zero =>
    obtain rfl := List.eq_nil_of_length_eq_zero (Nat.le_zero.mp hfuel)
    rw [guardedSum]
    rfl
  | succ fuel ih =>
    by_cases hs : s = []
    · subst hs
      rw [guardedSum]
      rfl
    · have hshorter := length_rest_lt hs
      rw [guardedSum, sumElements?_succ hs]
      simp only [List.isEmpty_eq_false_iff.mpr hs, Bool.false_eq_true, if_false, cutAt_positionOf,
        ok_bind, Bool.not_not]
      refine judged_bind fun scale hscale => ?_
      obtain ⟨u, -, rfl⟩ := unitNanos?_eq_some_iff.mp hscale
      rw [guardedElement_eq u.nanos_le]
      refine judged_bind fun nanos _ => judged_bind fun next _ => ?_
      exact (dif_pos hshorter).trans (ih (Nat.le_of_lt_succ (hshorter.trans_le hfuel)))

/-- The reading by bytes and words is the reading, and has no fault. -/
lemma guardedParse_eq (text : String) : guardedParse text = judged (parse? text) := by
  have helements (s : List Char) : guardedElements s = judged (parseElements? s) := by
    unfold guardedElements parseElements?
    by_cases hs : s.isEmpty = true
    · simp only [hs]
      rfl
    · simp only [hs, Bool.false_eq_true, if_false, guardedSum_eq le_rfl]
      exact judged_bind fun _ _ => rfl
  unfold guardedParse parse?
  generalize Text.trimBlanks text.toList = s
  simp only [helements]
  cases s with
  | nil => rfl
  | cons c s =>
    by_cases hc : c = '+' <;> simp [hc]

/-- A text is read exactly if it is a sequence of elements whose sum is in range, and as this sum. Its
elements are told apart in one way, each of them takes some of the text, and no text is the cause of
a fault. -/
theorem duration_reading :
    (∀ text d, parse? text = some d ↔ ∃ es, Spells text es ∧ 0 < totalNanos es ∧
      totalNanos es ≤ 0x7fffffffffffffff ∧ d.nanos = totalNanos es) ∧
    (∀ text es es', Spells text es → Spells text es' → es = es') ∧
    (∀ e es, splitElement ((e :: es).flatMap Element.text) =
      (e.number.text, e.unit.name, es.flatMap Element.text)) ∧
    (∀ s, s ≠ [] → (splitElement s).2.2.length < s.length) ∧
    ∀ text, (guardedParse text).run = .ok (parse? text) := by
  refine ⟨fun text d => ?_, fun _ _ _ => spells_unique, fun e es => ?_, fun _ => length_rest_lt,
    fun text => ?_⟩
  · rw [parse?_eq_some_iff]
    constructor
    · rintro ⟨es, hspells, hd⟩
      exact ⟨es, hspells, hd ▸ d.nanos_pos, hd ▸ d.nanos_le, hd⟩
    · rintro ⟨es, hspells, -, -, hd⟩
      exact ⟨es, hspells, hd⟩
  · exact splitElement_append e (head?_flatMap_text es)
  · rw [guardedParse_eq]
    rfl

example : (parse? " +1.s.5m\u00a0").map nanos = some 31000000000 := by decide +kernel

end Autoscaler.Duration
