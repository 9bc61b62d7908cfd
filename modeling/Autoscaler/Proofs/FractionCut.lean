import Autoscaler.Proofs.DurationGrammar
import Mathlib.Algebra.Order.Floor.Semifield
import Mathlib.Data.Rat.Floor

/-!
# What the cut of a fraction costs

Of a fraction only the first 18 digits are looked at. A unit whose nanoseconds divide `10 ^ 18` has
each of them at one of these digits, so that no further digit weighs anything. Minutes and hours
have a factor three, which no power of ten has: there the nineteenth digit can complete a
nanosecond, and what is read is one nanosecond short of the number, but never more.
-/

namespace Autoscaler.Duration

namespace Numeral

/-- The number that is written, with all its digits. -/
def value (n : Numeral) : ℚ :=
  decimalValue n.whole + decimalValue (n.fraction.getD []) / 10 ^ (n.fraction.getD []).length

/-- The digits of the fraction that are not looked at. -/
def cutOff (n : Numeral) : List Char := (n.fraction.getD []).drop 18

end Numeral

/-- The whole nanoseconds of the number that is written. -/
def Element.exactNanos (e : Element) : ℕ := ⌊e.number.value * e.unit.nanos⌋₊

/-! ### Quotients of cut numbers -/

section Quotients

variable {kept lost places cut scale : ℕ}

lemma kept_le_quotient :
    kept * scale / 10 ^ places ≤ (kept * 10 ^ cut + lost) * scale / 10 ^ (places + cut) := by
  rw [Nat.pow_add, ← Nat.mul_div_mul_right _ _ (Nat.pow_pos (by decide) : 0 < 10 ^ cut)]
  refine Nat.div_le_div_right ?_
  calc kept * scale * 10 ^ cut = kept * 10 ^ cut * scale := by ring
    _ ≤ (kept * 10 ^ cut + lost) * scale := Nat.mul_le_mul_right _ (Nat.le_add_right _ _)

/-- What is lost is less than one in the last place that is kept, and so less than a nanosecond. -/
lemma quotient_le_kept (hlost : lost < 10 ^ cut) (hscale : scale ≤ 10 ^ places) :
    (kept * 10 ^ cut + lost) * scale / 10 ^ (places + cut) ≤ kept * scale / 10 ^ places + 1 := by
  have hnext : (kept * 10 ^ cut + lost) * scale ≤ (kept + 1) * scale * 10 ^ cut := by
    calc (kept * 10 ^ cut + lost) * scale ≤ (kept * 10 ^ cut + 10 ^ cut) * scale :=
          Nat.mul_le_mul_right _ (Nat.add_le_add_left hlost.le _)
      _ = (kept + 1) * scale * 10 ^ cut := by ring
  calc (kept * 10 ^ cut + lost) * scale / 10 ^ (places + cut)
      ≤ (kept + 1) * scale * 10 ^ cut / (10 ^ places * 10 ^ cut) := by
        rw [← Nat.pow_add]
        exact Nat.div_le_div_right hnext
    _ = (kept * scale + scale) / 10 ^ places := by
        rw [Nat.mul_div_mul_right _ _ (Nat.pow_pos (by decide)), Nat.add_one_mul]
    _ ≤ (kept * scale + 10 ^ places) / 10 ^ places :=
        Nat.div_le_div_right (Nat.add_le_add_left hscale _)
    _ = kept * scale / 10 ^ places + 1 := Nat.add_div_right _ (Nat.pow_pos (by decide))

/-- Each nanosecond of the unit begins at a place that is kept. -/
lemma quotient_eq_kept (hlost : lost < 10 ^ cut) (hpos : 0 < scale) (hscale : scale ∣ 10 ^ places) :
    (kept * 10 ^ cut + lost) * scale / 10 ^ (places + cut) = kept * scale / 10 ^ places := by
  obtain ⟨steps, hsteps⟩ := hscale
  have hdrop : (kept * 10 ^ cut + lost) / 10 ^ cut = kept := by
    rw [Nat.add_comm, Nat.add_mul_div_right _ _ (Nat.pow_pos (by decide)), Nat.div_eq_of_lt hlost,
      Nat.zero_add]
  calc (kept * 10 ^ cut + lost) * scale / 10 ^ (places + cut)
      = (kept * 10 ^ cut + lost) * scale / (10 ^ cut * steps * scale) := by
        rw [Nat.pow_add, hsteps]
        ring_nf
    _ = kept / steps := by
        rw [Nat.mul_div_mul_right _ _ hpos, ← Nat.div_div_eq_div_mul, hdrop]
    _ = kept * scale / 10 ^ places := by
        rw [hsteps, Nat.mul_comm scale steps, Nat.mul_div_mul_right _ _ hpos]

end Quotients

/-! ### Elements -/

lemma decimalValue_append (digits more : List Char) : decimalValue (digits ++ more) =
    decimalValue digits * 10 ^ more.length + decimalValue more := by
  simp only [decimalValue, List.map_append, List.reverse_append, Nat.ofDigits_append,
    List.length_reverse, List.length_map]
  ring

namespace Numeral

variable (n : Numeral)

lemma lookedAt_append_cutOff : n.lookedAt ++ n.cutOff = n.fraction.getD [] := by
  rw [lookedAt, cutOff, List.take_append_drop]

lemma cutOff_lt : decimalValue n.cutOff < 10 ^ n.cutOff.length :=
  decimalValue_lt fun c hc => n.fraction_digits c (List.mem_of_mem_drop hc)

lemma length_lookedAt (h : n.cutOff ≠ []) : n.lookedAt.length = 18 := by
  rw [cutOff, ne_eq, List.drop_eq_nil_iff, Nat.not_le] at h
  rw [lookedAt, List.length_take_of_le h.le]

lemma floor_value_mul (scale : ℕ) : ⌊n.value * scale⌋₊ =
    decimalValue n.whole * scale +
      decimalValue (n.fraction.getD []) * scale / 10 ^ (n.fraction.getD []).length := by
  unfold value
  generalize n.fraction.getD [] = digits
  have hratio : ((decimalValue n.whole : ℚ) + decimalValue digits / 10 ^ digits.length) * scale =
      ((10 ^ digits.length * (decimalValue n.whole * scale) +
        decimalValue digits * scale : ℕ) : ℚ) / ((10 ^ digits.length : ℕ) : ℚ) := by
    push_cast
    field_simp
  rw [hratio, Nat.floor_div_eq_div, Nat.mul_add_div (Nat.pow_pos (by decide))]

end Numeral

lemma TimeUnit.nanos_dvd {u : TimeUnit} (h : u ≠ .minute ∧ u ≠ .hour) : u.nanos ∣ 10 ^ 18 := by
  obtain ⟨hminute, hhour⟩ := h
  cases u <;> first | contradiction | decide

lemma TimeUnit.nanos_le_pow (u : TimeUnit) : u.nanos ≤ 10 ^ 18 := by
  cases u <;> decide

namespace Element

variable (e : Element)

lemma exactNanos_eq : e.exactNanos = decimalValue e.number.whole * e.unit.nanos +
    (decimalValue e.number.lookedAt * 10 ^ e.number.cutOff.length + decimalValue e.number.cutOff) *
      e.unit.nanos / 10 ^ (e.number.lookedAt.length + e.number.cutOff.length) := by
  rw [exactNanos, Numeral.floor_value_mul, ← e.number.lookedAt_append_cutOff, decimalValue_append,
    List.length_append]

lemma nanos_le_exactNanos : e.nanos ≤ e.exactNanos := by
  rw [exactNanos_eq]
  exact Nat.add_le_add_left kept_le_quotient _

lemma exactNanos_eq_nanos (h : e.number.cutOff = [] ∨ e.unit ≠ .minute ∧ e.unit ≠ .hour) :
    e.exactNanos = e.nanos := by
  rw [exactNanos_eq]
  by_cases hcut : e.number.cutOff = []
  · simp only [hcut, decimalValue_nil, List.length_nil, Nat.pow_zero, Nat.mul_one, Nat.add_zero]
    rfl
  · have hdvd := TimeUnit.nanos_dvd (h.resolve_left hcut)
    rw [← e.number.length_lookedAt hcut] at hdvd
    rw [quotient_eq_kept e.number.cutOff_lt e.unit.nanos_pos hdvd]
    rfl

lemma exactNanos_le : e.exactNanos ≤ e.nanos + 1 := by
  by_cases hcut : e.number.cutOff = []
  · exact (e.exactNanos_eq_nanos (.inl hcut)).le.trans (Nat.le_add_right _ 1)
  · have hscale := e.unit.nanos_le_pow
    rw [← e.number.length_lookedAt hcut] at hscale
    rw [exactNanos_eq]
    exact Nat.add_le_add_left (quotient_le_kept e.number.cutOff_lt hscale) _

end Element

/-- A number below one whose first digits are less than a nanosecond and whose digits are not. -/
lemma exists_short (digits : List Char) (u : TimeUnit) (hdigits : digits.all Char.isDigit = true)
    (hkept : decimalValue (digits.take 18) * u.nanos / 10 ^ (digits.take 18).length = 0)
    (hall : decimalValue digits * u.nanos / 10 ^ digits.length = 1) :
    ∃ n : Numeral, n.text = '0' :: '.' :: digits ∧ elementNanos? n.text u.nanos = some 0 ∧
      Element.exactNanos ⟨n, u⟩ = 1 := by
  have hne : digits ≠ [] := by
    rintro rfl
    simp [decimalValue_nil] at hall
  let n : Numeral :=
    ⟨['0'], some digits, by simp, by simpa using hdigits, .inl (List.cons_ne_nil _ _)⟩
  have hwhole : decimalValue n.whole = 0 := rfl
  refine ⟨n, rfl, ?_, ?_⟩
  · have hnanos : n.nanos u.nanos = 0 := by
      rw [Numeral.nanos, hwhole, Nat.zero_mul, Nat.zero_add]
      exact hkept
    rw [elementNanos?_text n u.nanos_pos, hnanos]
    rfl
  · rw [Element.exactNanos, Numeral.floor_value_mul, hwhole, Nat.zero_mul, Nat.zero_add]
    exact hall

/-- What is read of any text is the sum of its elements, if that is in range. -/
lemma parse?_of_spells {text : String} {es : List Element} (h : Spells text es) :
    parse? text = ofNanos? (totalNanos es) := by
  ext d
  rw [parse?_eq_some_iff, ofNanos?_eq_some_iff]
  constructor
  · rintro ⟨es', hes', hd⟩
    rw [hd, spells_unique h hes']
  · intro hd
    exact ⟨es, h, hd⟩

/-- What a number in a unit is read as, against the number that is written. It is the whole
nanoseconds of the number or one less, and one less only where digits are cut off behind a number of
minutes or hours. In any other unit no digits can be missed, and in these two they can. A text in
which none are missed is read as the sum of what is written. -/
theorem fraction_cut (u : TimeUnit) :
    (∀ (n : Numeral) (v : ℕ), elementNanos? n.text u.nanos = some v →
      v ≤ Element.exactNanos ⟨n, u⟩ ∧ Element.exactNanos ⟨n, u⟩ ≤ v + 1 ∧
      (v ≠ Element.exactNanos ⟨n, u⟩ → n.cutOff ≠ [] ∧ (u = .minute ∨ u = .hour))) ∧
    ((∀ (n : Numeral) (v : ℕ), elementNanos? n.text u.nanos = some v →
      v = Element.exactNanos ⟨n, u⟩) ↔ u ≠ .minute ∧ u ≠ .hour) ∧
    ∀ text es, Spells text es →
      (∀ e ∈ es, e.number.cutOff = [] ∨ e.unit ≠ .minute ∧ e.unit ≠ .hour) →
      parse? text = ofNanos? (es.map Element.exactNanos).sum := by
  have hread {n : Numeral} {v : ℕ} (h : elementNanos? n.text u.nanos = some v) :
      v = Element.nanos ⟨n, u⟩ := by
    rw [elementNanos?_text n u.nanos_pos] at h
    exact (wide?_eq_some h).1
  refine ⟨fun n v h => ?_, ⟨fun h => ?_, fun h n v hv => ?_⟩, fun text es h hes => ?_⟩
  · obtain rfl := hread h
    refine ⟨Element.nanos_le_exactNanos _, Element.exactNanos_le _, fun hne => ?_⟩
    have hmiss := mt (Element.exactNanos_eq_nanos ⟨n, u⟩) (Ne.symm hne)
    tauto
  · constructor
    · rintro rfl
      obtain ⟨n, -, hzero, hone⟩ :=
        exists_short "0000000000166666667".toList .minute rfl rfl rfl
      exact absurd ((h n 0 hzero).trans hone) (by decide)
    · rintro rfl
      obtain ⟨n, -, hzero, hone⟩ :=
        exists_short "0000000000002777778".toList .hour rfl rfl rfl
      exact absurd ((h n 0 hzero).trans hone) (by decide)
  · rw [hread hv, Element.exactNanos_eq_nanos _ (.inr h)]
  · rw [parse?_of_spells h, totalNanos,
      List.map_congr_left fun e he => (e.exactNanos_eq_nanos (hes e he)).symm]

theorem fraction_cut_minuteShare :
    (∃ n : Numeral, n.text = "0.0000000000166666667".toList ∧
      elementNanos? n.text TimeUnit.minute.nanos = some 0 ∧ Element.exactNanos ⟨n, .minute⟩ ≠ 0 ∧
      Element.exactNanos ⟨n, .minute⟩ ≤ 1 ∧ n.cutOff ≠ []) ∧
    ∃ es, Spells "1.5m" es ∧ parse? "1.5m" = ofNanos? (es.map Element.exactNanos).sum := by
  constructor
  · obtain ⟨n, htext, hzero, hone⟩ :=
      exists_short "0000000000166666667".toList .minute rfl rfl rfl
    have hshort : 0 ≠ Element.exactNanos ⟨n, .minute⟩ := hone ▸ by decide
    obtain ⟨-, hnear, hmiss⟩ := (fraction_cut .minute).1 n 0 hzero
    exact ⟨n, htext, hzero, hshort.symm, hnear, (hmiss hshort).1⟩
  · let e : Element :=
      ⟨⟨['1'], some ['5'], by simp, by simp, .inl (List.cons_ne_nil _ _)⟩, .minute⟩
    have hspells : Spells "1.5m" [e] :=
      ⟨List.cons_ne_nil _ _, [], [], [], by simp, by simp, .inl rfl, rfl⟩
    refine ⟨[e], hspells, (fraction_cut .minute).2.2 _ _ hspells fun e' he' => .inl ?_⟩
    rw [List.mem_singleton.mp he']
    rfl

/-- A little more than a nanosecond, written as a part of an hour. The nineteenth digit completes
the nanosecond and is cut off, so that nothing is left and the text is refused. -/
theorem nineteenth_digit_counts :
    (∃ e : Element, e.text = "0.0000000000002777778h".toList ∧
      elementNanos? e.number.text e.unit.nanos = some 0 ∧ e.exactNanos = 1) ∧
    parse? "0.0000000000002777778h" = none := by
  constructor
  · obtain ⟨n, htext, hzero, hone⟩ :=
      exists_short "0000000000002777778".toList .hour rfl rfl rfl
    exact ⟨⟨n, .hour⟩, by rw [Element.text, htext]; rfl, hzero, hone⟩
  · decide +kernel

end Autoscaler.Duration
