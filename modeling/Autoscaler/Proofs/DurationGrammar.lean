import Autoscaler.Duration
import Mathlib.Data.List.TakeWhile
import Mathlib.Data.Nat.Digits.Defs
import Mathlib.Data.Nat.Digits.Lemmas

/-!
# The grammar of durations

A duration is written as a sequence of elements, each a number and a unit. The text of a sequence
tells its elements, and reading takes them off one by one. What is read is the exact sum of the
elements wherever the sum is in range: no intermediate result is lost.
-/

namespace Autoscaler.Duration

/-- The units of time, with the three spellings of a microsecond. -/
inductive TimeUnit where
  | nanosecond
  | microsecond
  | microsecondSign
  | microsecondMu
  | millisecond
  | second
  | minute
  | hour
deriving DecidableEq, Repr

namespace TimeUnit

def name : TimeUnit → List Char
  | nanosecond => ['n', 's']
  | microsecond => ['u', 's']
  | microsecondSign => ['\u00b5', 's']
  | microsecondMu => ['\u03bc', 's']
  | millisecond => ['m', 's']
  | second => ['s']
  | minute => ['m']
  | hour => ['h']

def nanos : TimeUnit → Nat
  | nanosecond => 1
  | microsecond => 1000
  | microsecondSign => 1000
  | microsecondMu => 1000
  | millisecond => 1000 * 1000
  | second => 1000 * 1000 * 1000
  | minute => 60 * 1000 * 1000 * 1000
  | hour => 60 * 60 * 1000 * 1000 * 1000

end TimeUnit

/-- A number with a digit at least, and with a point among its digits or not. -/
structure Numeral where
  whole : List Char
  /-- The digits behind the point. -/
  fraction : Option (List Char)
  whole_digits : ∀ c ∈ whole, c.isDigit = true
  fraction_digits : ∀ c ∈ fraction.getD [], c.isDigit = true
  has_digit : whole ≠ [] ∨ fraction.getD [] ≠ []

/-- The number that digits denote. -/
def decimalValue (digits : List Char) : Nat :=
  Nat.ofDigits 10 (digits.map fun c => c.toNat - '0'.toNat).reverse

namespace Numeral

def text (n : Numeral) : List Char :=
  n.whole ++ match n.fraction with
    | none => []
    | some digits => '.' :: digits

/-- The digits of the fraction that are looked at. -/
def lookedAt (n : Numeral) : List Char := (n.fraction.getD []).take 18

/-- The nanoseconds of so many units, where those of the fraction are rounded down. -/
def nanos (n : Numeral) (scale : Nat) : Nat :=
  decimalValue n.whole * scale + decimalValue n.lookedAt * scale / 10 ^ n.lookedAt.length

end Numeral

structure Element where
  number : Numeral
  unit : TimeUnit

namespace Element

def text (e : Element) : List Char := e.number.text ++ e.unit.name

def nanos (e : Element) : Nat := e.number.nanos e.unit.nanos

end Element

def totalNanos (es : List Element) : Nat := (es.map Element.nanos).sum

/-- A text consists of elements, after one plus sign or none, with blanks around them. -/
def Spells (text : String) (es : List Element) : Prop :=
  es ≠ [] ∧ ∃ before sign after, (∀ c ∈ before, Text.isBlank c = true) ∧
    (∀ c ∈ after, Text.isBlank c = true) ∧ (sign = [] ∨ sign = ['+']) ∧
    text.toList = before ++ (sign ++ es.flatMap Element.text) ++ after

/-! ### Digits -/

lemma decimalValue_nil : decimalValue [] = 0 := rfl

lemma decimalValue_cons (c : Char) (digits : List Char) : decimalValue (c :: digits) =
    (c.toNat - '0'.toNat) * 10 ^ digits.length + decimalValue digits := by
  simp only [decimalValue, List.map_cons, List.reverse_cons, Nat.ofDigits_append,
    Nat.ofDigits_singleton, List.length_reverse, List.length_map]
  ring

lemma digitValue_eq {c : Char} (h : c.isDigit = true) :
    Text.digitValue c = c.toNat - '0'.toNat ∧ Text.digitValue c < 10 := by
  simp only [Char.isDigit, Bool.and_eq_true, decide_eq_true_eq] at h
  have hlow : '0' ≤ c := h.1
  have hhigh : c ≤ '9' := h.2
  have hnine : c.toNat ≤ 57 := hhigh
  have hvalue : Text.digitValue c = c.toNat - '0'.toNat := by
    rw [Text.digitValue, if_pos ⟨hlow, hhigh⟩]
  have hzero : '0'.toNat = 48 := rfl
  exact ⟨hvalue, by omega⟩

lemma decimalValue_lt {digits : List Char} (h : ∀ c ∈ digits, c.isDigit = true) :
    decimalValue digits < 10 ^ digits.length := by
  have hlt := Nat.ofDigits_lt_base_pow_length (b := 10)
    (l := (digits.map fun c => c.toNat - '0'.toNat).reverse) (by omega) ?_
  · simpa [decimalValue] using hlt
  · intro x hx
    obtain ⟨c, hc, rfl⟩ := List.mem_map.mp (List.mem_reverse.mp hx)
    obtain ⟨heq, hten⟩ := digitValue_eq (h c hc)
    rwa [← heq]

lemma readDigits_eq {digits : List Char} (h : ∀ c ∈ digits, c.isDigit = true) (n : Nat) :
    Text.readDigits 10 n digits = some (n * 10 ^ digits.length + decimalValue digits) := by
  induction digits generalizing n with
  | nil => simp [Text.readDigits, decimalValue_nil]
  | cons c digits ih =>
    obtain ⟨hc, hdigits⟩ := List.forall_mem_cons.mp h
    obtain ⟨heq, hten⟩ := digitValue_eq hc
    rw [Text.readDigits, if_pos hten, ih hdigits, heq, decimalValue_cons, List.length_cons]
    congr 1
    ring

lemma readNat_eq {digits : List Char} (h : ∀ c ∈ digits, c.isDigit = true) (hne : digits ≠ []) :
    Text.readNat 10 digits = some (decimalValue digits) := by
  cases digits with
  | nil => exact absurd rfl hne
  | cons c digits =>
    rw [Text.readNat, readDigits_eq h, Nat.zero_mul, Nat.zero_add]
    simp

/-! ### One element -/

lemma unitNanos?_eq_some_iff {name : List Char} {scale : Nat} :
    unitNanos? name = some scale ↔ ∃ u : TimeUnit, u.name = name ∧ u.nanos = scale := by
  constructor
  · intro h
    obtain ⟨⟨name', scale'⟩, hfind, rfl⟩ := Option.map_eq_some_iff.mp h
    obtain rfl : name' = name := by simpa using List.find?_some hfind
    have hmem := List.mem_of_find?_eq_some hfind
    simp only [units, List.mem_cons, Prod.mk.injEq, List.not_mem_nil, or_false] at hmem
    rcases hmem with ⟨rfl, rfl⟩ | ⟨rfl, rfl⟩ | ⟨rfl, rfl⟩ | ⟨rfl, rfl⟩ | ⟨rfl, rfl⟩ | ⟨rfl, rfl⟩ |
      ⟨rfl, rfl⟩ | ⟨rfl, rfl⟩
    · exact ⟨.nanosecond, rfl, rfl⟩
    · exact ⟨.microsecond, rfl, rfl⟩
    · exact ⟨.microsecondSign, rfl, rfl⟩
    · exact ⟨.microsecondMu, rfl, rfl⟩
    · exact ⟨.millisecond, rfl, rfl⟩
    · exact ⟨.second, rfl, rfl⟩
    · exact ⟨.minute, rfl, rfl⟩
    · exact ⟨.hour, rfl, rfl⟩
  · rintro ⟨u, rfl, rfl⟩
    cases u <;> decide

lemma TimeUnit.nanos_pos (u : TimeUnit) : 0 < u.nanos := by
  cases u <;> decide

lemma TimeUnit.name_injective {u u' : TimeUnit} (h : u.name = u'.name) : u = u' := by
  revert h
  cases u <;> cases u' <;> decide

lemma isNumberChar_of_isDigit {c : Char} (h : c.isDigit = true) : isNumberChar c = true := by
  simp [isNumberChar, h]

lemma Numeral.isNumberChar_of_mem {n : Numeral} {c : Char} (h : c ∈ n.text) :
    isNumberChar c = true := by
  unfold Numeral.text at h
  have hfraction := n.fraction_digits
  rcases List.mem_append.mp h with hc | hc
  · exact isNumberChar_of_isDigit (n.whole_digits c hc)
  · split at hc
    next => cases hc
    next digits hdigits =>
      rw [hdigits] at hfraction
      rcases List.mem_cons.mp hc with rfl | hc
      · decide
      · exact isNumberChar_of_isDigit (hfraction c hc)

lemma Numeral.text_ne_nil (n : Numeral) : n.text ≠ [] := by
  have hdigit := n.has_digit
  unfold Numeral.text
  cases hfraction : n.fraction <;> simp_all

/-- A unit is neither taken for a part of a number nor for a blank. -/
lemma TimeUnit.not_isNumberChar_isBlank_of_mem {u : TimeUnit} {c : Char} (h : c ∈ u.name) :
    isNumberChar c = false ∧ Text.isBlank c = false := by
  have hall : u.name.all (fun c => !isNumberChar c && !Text.isBlank c) = true := by
    cases u <;> rfl
  simpa using List.all_eq_true.mp hall c h

lemma TimeUnit.name_ne_nil (u : TimeUnit) : u.name ≠ [] := by
  cases u <;> decide

/-- A run of characters ends where the first other one stands. -/
lemma takeWhile_dropWhile_append {p : Char → Bool} {run rest : List Char}
    (hrun : ∀ c ∈ run, p c = true) (hrest : ∀ c ∈ rest.head?, p c = false) :
    (run ++ rest).takeWhile p = run ∧ (run ++ rest).dropWhile p = rest := by
  rw [List.takeWhile_append_of_pos hrun, List.dropWhile_append_of_pos hrun]
  cases rest with
  | nil => simp
  | cons c rest =>
    have hc : p c = false := hrest c rfl
    simp [hc]

lemma head?_text (e : Element) (rest : List Char) :
    ∀ c ∈ (e.text ++ rest).head?, isNumberChar c = true := by
  intro c hc
  obtain ⟨d, digits, hnumber⟩ := List.exists_cons_of_ne_nil e.number.text_ne_nil
  have hd : isNumberChar d = true := e.number.isNumberChar_of_mem (by simp [hnumber])
  rw [Element.text, hnumber, List.append_assoc, List.cons_append, List.head?_cons,
    Option.mem_some_iff] at hc
  rwa [← hc]

lemma head?_flatMap_text (es : List Element) :
    ∀ c ∈ (es.flatMap Element.text).head?, isNumberChar c = true := by
  cases es with
  | nil => simp
  | cons e es => exact head?_text e _

/-- What is taken off is the first element, whatever its neighbour. -/
lemma splitElement_append (e : Element) {rest : List Char}
    (hrest : ∀ c ∈ rest.head?, isNumberChar c = true) :
    splitElement (e.text ++ rest) = (e.number.text, e.unit.name, rest) := by
  have hunit : ∀ c ∈ (e.unit.name ++ rest).head?, isNumberChar c = false := by
    intro c hc
    obtain ⟨d, name, hname⟩ := List.exists_cons_of_ne_nil e.unit.name_ne_nil
    rw [hname, List.cons_append, List.head?_cons, Option.mem_some_iff] at hc
    rw [← hc]
    exact (e.unit.not_isNumberChar_isBlank_of_mem (by simp [hname])).1
  have hnumber := takeWhile_dropWhile_append (fun _ hc => e.number.isNumberChar_of_mem hc) hunit
  have hrun : ∀ c ∈ e.unit.name, (!isNumberChar c) = true := by
    intro c hc
    rw [(e.unit.not_isNumberChar_isBlank_of_mem hc).1, Bool.not_false]
  have hother : ∀ c ∈ rest.head?, (!isNumberChar c) = false := by
    intro c hc
    rw [hrest c hc, Bool.not_true]
  have hname := takeWhile_dropWhile_append hrun hother
  rw [splitElement, Element.text, List.append_assoc]
  simp only [hnumber, hname]

lemma splitNumber_text (n : Numeral) : splitNumber n.text = (n.whole, n.fraction.getD []) := by
  have hwhole : ∀ c ∈ n.whole, (c != '.') = true := by
    intro c hc
    have hdigit := n.whole_digits c hc
    by_contra hpoint
    simp only [bne_iff_ne, ne_eq, not_not] at hpoint
    subst hpoint
    revert hdigit
    decide
  unfold splitNumber Numeral.text
  cases n.fraction with
  | none =>
    have hend : ∀ c ∈ ([] : List Char).head?, (c != '.') = false := by simp
    obtain ⟨htake, hdrop⟩ := takeWhile_dropWhile_append hwhole hend
    simp only [htake, hdrop]
    rfl
  | some digits =>
    have hpoint : ∀ c ∈ ('.' :: digits).head?, (c != '.') = false := by simp
    obtain ⟨htake, hdrop⟩ := takeWhile_dropWhile_append hwhole hpoint
    simp only [htake, hdrop]
    rfl

lemma wholeValue?_eq {digits : List Char} (h : ∀ c ∈ digits, c.isDigit = true) :
    wholeValue? digits = wide? (decimalValue digits) := by
  cases digits with
  | nil => decide
  | cons c digits =>
    simp only [wholeValue?, readNat_eq h (List.cons_ne_nil c digits), Option.bind_some]

lemma fractionNanos?_eq {digits : List Char} (h : ∀ c ∈ digits, c.isDigit = true) (scale : Nat) :
    fractionNanos? digits scale =
      some (decimalValue (digits.take 18) * scale / 10 ^ (digits.take 18).length) := by
  have hcut : ∀ c ∈ digits.take 18, c.isDigit = true := fun c hc => h c (List.mem_of_mem_take hc)
  unfold fractionNanos?
  rw [show maxFractionDigits = 18 from rfl]
  split
  next hnil => simp [hnil, decimalValue_nil]
  next hne => rw [readNat_eq hcut hne]; rfl

lemma wide?_of_lt {n : Nat} (h : n < wideLimit) : wide? n = some n := if_pos h

lemma wide?_of_le {n : Nat} (h : wideLimit ≤ n) : wide? n = none := if_neg (Nat.not_lt.mpr h)

lemma wide?_eq_some {n m : Nat} (h : wide? n = some m) : m = n ∧ n < wideLimit := by
  unfold wide? at h
  split at h
  next hlt => exact ⟨(Option.some.inj h).symm, hlt⟩
  next => cases h

/-- A check can be left out where a later one refuses what it refuses. -/
lemma wide?_bind {n : Nat} {f : Nat → Option Nat} (h : wideLimit ≤ n → f n = none) :
    (wide? n).bind f = f n := by
  by_cases hn : n < wideLimit
  · rw [wide?_of_lt hn, Option.bind_some]
  · rw [wide?_of_le (Nat.not_lt.mp hn), Option.bind_none, h (Nat.not_lt.mp hn)]

/-- An element is refused only if its nanoseconds do not fit into 128 bits. -/
lemma elementNanos?_text (n : Numeral) {scale : Nat} (hscale : 0 < scale) :
    elementNanos? n.text scale = wide? (n.nanos scale) := by
  have hdigit : (n.whole.isEmpty && (n.fraction.getD []).isEmpty) = false := by
    rcases n.has_digit with h | h <;> simp [h]
  have hfraction : (n.fraction.getD []).all Char.isDigit = true :=
    List.all_eq_true.mpr n.fraction_digits
  have hwhole : decimalValue n.whole ≤ decimalValue n.whole * scale := Nat.le_mul_of_pos_right _ hscale
  simp only [elementNanos?, splitNumber_text, hdigit, hfraction, wholeValue?_eq n.whole_digits,
    fractionNanos?_eq n.fraction_digits]
  simp only [Bool.not_true, Bool.false_eq_true, if_false, Option.bind_eq_bind, Option.bind_some]
  have hlast (m : Nat) (hm : wideLimit ≤ m) (part : Nat) : wide? (m + part) = none :=
    wide?_of_le (hm.trans (Nat.le_add_right m part))
  rw [wide?_bind, wide?_bind]
  · rfl
  · exact fun h => hlast _ h _
  · intro h
    rw [wide?_bind (fun h => hlast _ h _)]
    exact hlast _ (h.trans hwhole) _

/-- What counts as the number of an element is one. -/
lemma exists_numeral {number : List Char} {scale n : Nat}
    (hnumber : ∀ c ∈ number, isNumberChar c = true) (h : elementNanos? number scale = some n) :
    ∃ numeral : Numeral, numeral.text = number := by
  have hdigit : ((splitNumber number).1.isEmpty && (splitNumber number).2.isEmpty) = false := by
    by_contra hnone
    simp [elementNanos?, Bool.not_eq_false .. ▸ hnone] at h
  have hfraction : (splitNumber number).2.all Char.isDigit = true := by
    by_contra hnot
    have hother : (splitNumber number).2.all Char.isDigit = false := Bool.eq_false_of_not_eq_true hnot
    simp only [elementNanos?, hdigit, hother] at h
    cases h
  have hwhole : ∀ c ∈ (splitNumber number).1, c.isDigit = true := by
    intro c hc
    rw [splitNumber] at hc
    have hpoint := List.mem_takeWhile_imp hc
    have hmem := hnumber c ((List.takeWhile_prefix _).subset hc)
    simp only [isNumberChar, Bool.or_eq_true, beq_iff_eq] at hmem
    exact hmem.resolve_right (by simpa using hpoint)
  have hsplit : number.takeWhile (· != '.') ++ number.dropWhile (· != '.') = number :=
    List.takeWhile_append_dropWhile
  have hhead := List.head?_dropWhile_not (· != '.') number
  unfold splitNumber at hdigit hfraction hwhole
  generalize number.takeWhile (· != '.') = whole at hdigit hwhole hsplit
  cases hrest : number.dropWhile (· != '.') with
  | nil =>
    rw [hrest] at hdigit hsplit
    exact ⟨⟨whole, none, hwhole, by simp, by simpa using hdigit⟩, hsplit⟩
  | cons c digits =>
    rw [hrest] at hdigit hsplit hfraction hhead
    obtain rfl : c = '.' := by simpa using hhead
    refine ⟨⟨whole, some digits, hwhole, by simpa using hfraction, ?_⟩, hsplit⟩
    by_cases hnil : whole = []
    · exact .inr (by simpa [hnil] using hdigit)
    · exact .inl hnil

/-! ### Sequences of elements -/

lemma totalNanos_nil : totalNanos [] = 0 := rfl

lemma totalNanos_cons (e : Element) (es : List Element) :
    totalNanos (e :: es) = e.nanos + totalNanos es := by
  simp [totalNanos]

lemma splitElement_join (s : List Char) :
    (splitElement s).1 ++ ((splitElement s).2.1 ++ (splitElement s).2.2) = s := by
  simp [splitElement]

/-- Each element takes a character at least. -/
lemma length_rest_lt {s : List Char} (hs : s ≠ []) : (splitElement s).2.2.length < s.length := by
  obtain ⟨c, s, rfl⟩ := List.exists_cons_of_ne_nil hs
  rw [List.length_cons, Nat.lt_succ_iff]
  by_cases hc : isNumberChar c = true
  · have hrest : (splitElement (c :: s)).2.2 =
        (s.dropWhile isNumberChar).dropWhile (!isNumberChar ·) := by
      simp [splitElement, hc]
    rw [hrest]
    exact (List.dropWhile_suffix _).length_le.trans (List.dropWhile_suffix _).length_le
  · have hrest : (splitElement (c :: s)).2.2 = s.dropWhile (!isNumberChar ·) := by
      simp [splitElement, hc]
    rw [hrest]
    exact (List.dropWhile_suffix _).length_le

lemma sumElements?_nil (fuel total : Nat) : sumElements? fuel total [] = some total := by
  cases fuel <;> rfl

lemma sumElements?_succ {s : List Char} (hs : s ≠ []) (fuel total : Nat) :
    sumElements? (fuel + 1) total s =
      (unitNanos? (splitElement s).2.1).bind fun scale =>
        (elementNanos? (splitElement s).1 scale).bind fun nanos =>
          (wide? (total + nanos)).bind fun total => sumElements? fuel total (splitElement s).2.2 := by
  obtain ⟨c, s, rfl⟩ := List.exists_cons_of_ne_nil hs
  rfl

/-- Only sequences of elements are summed, and nothing is lost on the way. -/
lemma exists_elements {fuel total v : Nat} {s : List Char} (h : sumElements? fuel total s = some v) :
    ∃ es : List Element, s = es.flatMap Element.text ∧ v = total + totalNanos es := by
  induction fuel generalizing total s with
  | zero =>
    by_cases hs : s = []
    · subst hs
      rw [sumElements?_nil] at h
      exact ⟨[], rfl, (Option.some.inj h).symm⟩
    · rw [sumElements?.eq_2 _ _ hs] at h
      cases h
  | succ fuel ih =>
    by_cases hs : s = []
    · subst hs
      rw [sumElements?_nil] at h
      exact ⟨[], rfl, (Option.some.inj h).symm⟩
    · rw [sumElements?_succ hs] at h
      obtain ⟨scale, hunit, h⟩ := Option.bind_eq_some_iff.mp h
      obtain ⟨nanos, hnanos, h⟩ := Option.bind_eq_some_iff.mp h
      obtain ⟨next, hnext, h⟩ := Option.bind_eq_some_iff.mp h
      obtain ⟨es, hes, rfl⟩ := ih h
      obtain ⟨u, hname, rfl⟩ := unitNanos?_eq_some_iff.mp hunit
      have hchars : ∀ c ∈ (splitElement s).1, isNumberChar c = true :=
        fun _ hc => List.mem_takeWhile_imp hc
      obtain ⟨number, hnumber⟩ := exists_numeral hchars hnanos
      rw [← hnumber, elementNanos?_text number u.nanos_pos] at hnanos
      refine ⟨⟨number, u⟩ :: es, ?_, ?_⟩
      · rw [List.flatMap_cons, ← hes, Element.text, hnumber, hname, List.append_assoc,
          splitElement_join]
      · rw [(wide?_eq_some hnext).1, (wide?_eq_some hnanos).1, totalNanos_cons, Nat.add_assoc]
        rfl

/-- Every sequence of elements is summed, up to the width of the sum. -/
lemma sumElements?_flatMap (es : List Element) {fuel total : Nat}
    (hfit : total + totalNanos es < wideLimit) (hfuel : (es.flatMap Element.text).length ≤ fuel) :
    sumElements? fuel total (es.flatMap Element.text) = some (total + totalNanos es) := by
  induction es generalizing fuel total with
  | nil => rw [List.flatMap_nil, sumElements?_nil, totalNanos_nil, Nat.add_zero]
  | cons e es ih =>
    have hne : (e :: es).flatMap Element.text ≠ [] := by
      rw [List.flatMap_cons, Element.text]
      simp [e.number.text_ne_nil]
    have hsplit := splitElement_append e (head?_flatMap_text es)
    rw [← List.flatMap_cons] at hsplit
    have hrest := length_rest_lt hne
    simp only [hsplit] at hrest
    obtain ⟨fuel, rfl⟩ : ∃ n, fuel = n + 1 := ⟨fuel - 1, by omega⟩
    rw [totalNanos_cons] at hfit ⊢
    have hnanos : e.number.nanos e.unit.nanos = e.nanos := rfl
    rw [sumElements?_succ hne, hsplit, unitNanos?_eq_some_iff.mpr ⟨e.unit, rfl, rfl⟩, Option.bind_some,
      elementNanos?_text e.number e.unit.nanos_pos, hnanos, wide?_of_lt (by omega), Option.bind_some,
      wide?_of_lt (by omega), Option.bind_some, ih (by omega) (by omega), Nat.add_assoc]

/-! ### Whole texts -/

lemma ofNanos?_eq_some_iff {n : Nat} {d : Duration} : ofNanos? n = some d ↔ d.nanos = n := by
  unfold ofNanos?
  constructor
  · intro h
    split at h
    · rw [← Option.some.inj h]
    · cases h
  · rintro rfl
    rw [dif_pos ⟨d.nanos_pos, d.nanos_le⟩]

lemma parseElements?_eq_some_iff {s : List Char} {d : Duration} : parseElements? s = some d ↔
    ∃ es : List Element, es ≠ [] ∧ s = es.flatMap Element.text ∧ d.nanos = totalNanos es := by
  unfold parseElements?
  constructor
  · intro h
    split at h
    next => cases h
    next hne =>
      obtain ⟨total, hsum, htotal⟩ := Option.bind_eq_some_iff.mp h
      obtain ⟨es, rfl, rfl⟩ := exists_elements hsum
      refine ⟨es, ?_, rfl, by rw [ofNanos?_eq_some_iff.mp htotal, Nat.zero_add]⟩
      rintro rfl
      exact hne rfl
  · rintro ⟨es, hes, rfl, hd⟩
    have hfit : 0 + totalNanos es < wideLimit := by
      have hle := d.nanos_le
      have hlimit : 0x7fffffffffffffff < wideLimit := by decide
      omega
    have hne : (es.flatMap Element.text).isEmpty = false := by
      obtain ⟨e, es, rfl⟩ := List.exists_cons_of_ne_nil hes
      simp [Element.text, e.number.text_ne_nil]
    rw [hne, if_neg Bool.false_ne_true, sumElements?_flatMap es hfit le_rfl, Option.bind_some,
      ofNanos?_eq_some_iff, hd, Nat.zero_add]

lemma not_isBlank_of_isNumberChar {c : Char} (h : isNumberChar c = true) :
    Text.isBlank c = false := by
  simp only [isNumberChar, Bool.or_eq_true, beq_iff_eq] at h
  rcases h with h | rfl
  · simp only [Char.isDigit, Bool.and_eq_true, decide_eq_true_eq] at h
    have hlow : 48 ≤ c.toNat := h.1
    have hhigh : c.toNat ≤ 57 := h.2
    simp only [Text.isBlank, Bool.or_eq_false_iff, Bool.and_eq_false_iff, beq_eq_false_iff_ne,
      decide_eq_false_iff_not]
    omega
  · decide

lemma not_isBlank_of_mem_flatMap {es : List Element} {c : Char} (h : c ∈ es.flatMap Element.text) :
    Text.isBlank c = false := by
  obtain ⟨e, -, hc⟩ := List.mem_flatMap.mp h
  rcases List.mem_append.mp hc with hc | hc
  · exact not_isBlank_of_isNumberChar (e.number.isNumberChar_of_mem hc)
  · exact (e.unit.not_isNumberChar_isBlank_of_mem hc).2

lemma dropWhile_blanks {blanks core : List Char} (hblanks : ∀ c ∈ blanks, Text.isBlank c = true)
    (hcore : ∀ c ∈ core.head?, Text.isBlank c = false) :
    (blanks ++ core).dropWhile Text.isBlank = core :=
  (takeWhile_dropWhile_append hblanks hcore).2

/-- Blanks are taken off at both ends. -/
lemma trimBlanks_append {before core after : List Char}
    (hbefore : ∀ c ∈ before, Text.isBlank c = true) (hafter : ∀ c ∈ after, Text.isBlank c = true)
    (hne : core ≠ []) (hcore : ∀ c ∈ core, Text.isBlank c = false) :
    Text.trimBlanks (before ++ core ++ after) = core := by
  have hhead : ∀ c ∈ (core ++ after).head?, Text.isBlank c = false := by
    obtain ⟨d, core, rfl⟩ := List.exists_cons_of_ne_nil hne
    simpa using hcore d List.mem_cons_self
  have hlast : ∀ c ∈ core.reverse.head?, Text.isBlank c = false := fun c hc =>
    hcore c (List.mem_reverse.mp (List.mem_of_mem_head? hc))
  rw [Text.trimBlanks, List.append_assoc, dropWhile_blanks hbefore hhead, List.reverse_append,
    dropWhile_blanks (fun c hc => hafter c (List.mem_reverse.mp hc)) hlast, List.reverse_reverse]

lemma exists_trimBlanks (s : List Char) : ∃ before after, (∀ c ∈ before, Text.isBlank c = true) ∧
    (∀ c ∈ after, Text.isBlank c = true) ∧ s = before ++ Text.trimBlanks s ++ after := by
  refine ⟨s.takeWhile Text.isBlank,
    ((s.dropWhile Text.isBlank).reverse.takeWhile Text.isBlank).reverse,
    fun _ hc => List.mem_takeWhile_imp hc,
    fun _ hc => List.mem_takeWhile_imp (List.mem_reverse.mp hc), ?_⟩
  rw [Text.trimBlanks, List.append_assoc, ← List.reverse_append, List.takeWhile_append_dropWhile,
    List.reverse_reverse, List.takeWhile_append_dropWhile]

/-- Signs and elements are what is left between the blanks. -/
lemma spells_iff {text : String} {es : List Element} : Spells text es ↔ es ≠ [] ∧
    ∃ sign, (sign = [] ∨ sign = ['+']) ∧
      Text.trimBlanks text.toList = sign ++ es.flatMap Element.text := by
  constructor
  · rintro ⟨hes, before, sign, after, hbefore, hafter, hsign, htext⟩
    refine ⟨hes, sign, hsign, ?_⟩
    rw [htext]
    refine trimBlanks_append hbefore hafter ?_ ?_
    · obtain ⟨e, es, rfl⟩ := List.exists_cons_of_ne_nil hes
      simp [Element.text, e.number.text_ne_nil]
    · intro c hc
      rcases List.mem_append.mp hc with hc | hc
      · rcases hsign with rfl | rfl
        · cases hc
        · obtain rfl := List.mem_singleton.mp hc
          decide
      · exact not_isBlank_of_mem_flatMap hc
  · rintro ⟨hes, sign, hsign, htrim⟩
    obtain ⟨before, after, hbefore, hafter, htext⟩ := exists_trimBlanks text.toList
    exact ⟨hes, before, sign, after, hbefore, hafter, hsign, by rw [← htrim]; exact htext⟩

lemma head_flatMap_text_ne_plus {es : List Element} {s : List Char} :
    es.flatMap Element.text ≠ '+' :: s := by
  intro h
  have hplus := head?_flatMap_text es '+' (by simp [h])
  revert hplus
  decide

/-- Exactly the texts of the grammar whose sum is in range are read, and as that sum. -/
lemma parse?_eq_some_iff {text : String} {d : Duration} : parse? text = some d ↔
    ∃ es, Spells text es ∧ d.nanos = totalNanos es := by
  constructor
  · intro h
    unfold parse? at h
    split at h
    next s hs =>
      obtain ⟨es, hes, rfl, hd⟩ := parseElements?_eq_some_iff.mp h
      exact ⟨es, spells_iff.mpr ⟨hes, ['+'], .inr rfl, hs⟩, hd⟩
    next =>
      obtain ⟨es, hes, hs, hd⟩ := parseElements?_eq_some_iff.mp h
      exact ⟨es, spells_iff.mpr ⟨hes, [], .inl rfl, hs⟩, hd⟩
  · rintro ⟨es, hspells, hd⟩
    obtain ⟨hes, sign, hsign, htrim⟩ := spells_iff.mp hspells
    have hparse : parseElements? (es.flatMap Element.text) = some d :=
      parseElements?_eq_some_iff.mpr ⟨es, hes, rfl, hd⟩
    rw [parse?, htrim]
    rcases hsign with rfl | rfl
    · rw [List.nil_append]
      split
      next h => exact absurd h head_flatMap_text_ne_plus
      next => exact hparse
    · exact hparse

/-! ### The elements that a text consists of -/

lemma Numeral.text_injective {n n' : Numeral} (h : n.text = n'.text) : n = n' := by
  have hsplit := splitNumber_text n
  rw [h, splitNumber_text n', Prod.mk.injEq] at hsplit
  have hwhole : n'.whole = n.whole := hsplit.1
  unfold Numeral.text at h
  rw [hwhole, List.append_cancel_left_eq] at h
  have hfraction : n'.fraction = n.fraction := by
    cases hn : n.fraction <;> cases hn' : n'.fraction <;> simp_all
  cases n
  cases n'
  simp only at hwhole hfraction
  simp only [hwhole, hfraction]

lemma flatMap_text_injective {es es' : List Element}
    (h : es.flatMap Element.text = es'.flatMap Element.text) : es = es' := by
  induction es generalizing es' with
  | nil =>
    cases es' with
    | nil => rfl
    | cons e es => simp [Element.text, e.number.text_ne_nil] at h
  | cons e es ih =>
    cases es' with
    | nil => simp [Element.text, e.number.text_ne_nil] at h
    | cons e' es' =>
      have hsplit := splitElement_append e (head?_flatMap_text es)
      rw [← List.flatMap_cons, h, List.flatMap_cons, splitElement_append e' (head?_flatMap_text es')]
        at hsplit
      obtain ⟨number, unit⟩ := e
      obtain ⟨number', unit'⟩ := e'
      simp only [Prod.mk.injEq] at hsplit
      obtain ⟨hnumber, hunit, hrest⟩ := hsplit
      rw [Numeral.text_injective hnumber, TimeUnit.name_injective hunit, ih hrest.symm]

lemma spells_unique {text : String} {es es' : List Element} (h : Spells text es)
    (h' : Spells text es') : es = es' := by
  obtain ⟨-, sign, hsign, htrim⟩ := spells_iff.mp h
  obtain ⟨-, sign', hsign', htrim'⟩ := spells_iff.mp h'
  rw [htrim] at htrim'
  rcases hsign with rfl | rfl <;> rcases hsign' with rfl | rfl
  · exact flatMap_text_injective htrim'
  · exact absurd htrim' head_flatMap_text_ne_plus
  · exact absurd htrim'.symm head_flatMap_text_ne_plus
  · exact flatMap_text_injective (List.cons.inj htrim').2

end Autoscaler.Duration
