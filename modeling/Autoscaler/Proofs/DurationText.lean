import Autoscaler.ControlLoop.Machine
import Autoscaler.Proofs.FractionCut
import Mathlib.Data.List.DropRight

/-!
# Durations as they are written

A duration is written as one element: a number with the digits of the fraction that are needed, in
the largest unit that is not longer than the duration. Nothing is rounded, so what is read back is
the duration itself.
-/

namespace Autoscaler.Duration

/-- The units that durations are written in. -/
def writtenUnits : List TimeUnit := [.second, .millisecond, .microsecondSign, .nanosecond]

/-- The rules for the one element that a duration is written as. -/
structure Written (d : Duration) (e : Element) : Prop where
  unit_mem : e.unit ∈ writtenUnits
  unit_le : e.unit.nanos ≤ d.nanos
  unit_largest : ∀ u ∈ writtenUnits, u.nanos ≤ d.nanos → u.nanos ≤ e.unit.nanos
  exact : e.number.value * e.unit.nanos = d.nanos
  whole : e.number.whole = Text.natDigits (d.nanos / e.unit.nanos)
  /-- A point is followed by digits of which the last one is needed. -/
  fraction : ∀ digits, e.number.fraction = some digits → digits ≠ [] ∧ digits.getLast? ≠ some '0'

/-! ### Digits that are written -/

lemma isDigit_of_mem_natDigits {n : ℕ} {c : Char} (h : c ∈ Text.natDigits n) : c.isDigit = true :=
  Nat.isDigit_of_mem_toDigits (by decide) (by decide) h

lemma decimalValue_eq_ofDigitChars (digits : List Char) :
    decimalValue digits = Nat.ofDigitChars 10 digits 0 := by
  induction digits with
  | nil => rfl
  | cons c digits ih =>
    rw [decimalValue_cons, Nat.ofDigitChars_cons, Nat.ofDigitChars_eq_ofDigitChars_zero, ih]
    ring

lemma decimalValue_natDigits (n : ℕ) : decimalValue (Text.natDigits n) = n := by
  rw [decimalValue_eq_ofDigitChars, Text.natDigits, Nat.ofDigitChars_ten_toDigits]

lemma decimalValue_of_zeros {zeros : List Char} (h : ∀ c ∈ zeros, c = '0') :
    decimalValue zeros = 0 := by
  induction zeros with
  | nil => rfl
  | cons c zeros ih =>
    obtain ⟨rfl, hzeros⟩ := List.forall_mem_cons.mp h
    rw [decimalValue_cons, ih hzeros, Nat.sub_self, Nat.zero_mul]

/-- A number with zeros in front of it, up to `places` digits. -/
def paddedDigits (n places : ℕ) : List Char :=
  List.replicate (places - (Text.natDigits n).length) '0' ++ Text.natDigits n

/-- The digits of a fraction of `places` digits, up to the last one that is not zero. -/
def trimmedDigits (n places : ℕ) : List Char := (paddedDigits n places).rdropWhile (· == '0')

lemma isDigit_of_mem_trimmedDigits {n places : ℕ} {c : Char} (h : c ∈ trimmedDigits n places) :
    c.isDigit = true := by
  have hmem := (List.rdropWhile_prefix _ _).subset h
  rcases List.mem_append.mp hmem with hc | hc
  · rw [List.eq_of_mem_replicate hc]
    rfl
  · exact isDigit_of_mem_natDigits hc

lemma getLast?_trimmedDigits (n places : ℕ) : (trimmedDigits n places).getLast? ≠ some '0' := by
  intro hlast
  obtain ⟨hne, hzero⟩ := List.mem_getLast?_eq_getLast hlast
  exact List.rdropWhile_last_not _ _ hne (beq_iff_eq.mpr hzero.symm)

lemma length_paddedDigits {n places : ℕ} (hplaces : 0 < places) (hn : n < 10 ^ places) :
    (paddedDigits n places).length = places := by
  have hlength : (Text.natDigits n).length ≤ places :=
    (Nat.length_toDigits_le_iff (by decide) hplaces).mpr hn
  rw [paddedDigits, List.length_append, List.length_replicate]
  omega

/-- Padding and trimming change the digits of a fraction and not its value. -/
lemma decimalValue_trimmedDigits {n places : ℕ} (hn : n < 10 ^ places) :
    decimalValue (trimmedDigits n places) * 10 ^ places =
      n * 10 ^ (trimmedDigits n places).length := by
  rcases Nat.eq_zero_or_pos places with rfl | hplaces
  · obtain rfl : n = 0 := by simpa using hn
    rfl
  · have hjoin : trimmedDigits n places ++ (paddedDigits n places).rtakeWhile (· == '0') =
        paddedDigits n places := List.rdropWhile_append_rtakeWhile
    have hzeros : decimalValue ((paddedDigits n places).rtakeWhile (· == '0')) = 0 :=
      decimalValue_of_zeros fun c hc => by simpa using List.mem_rtakeWhile_imp hc
    have hvalue : decimalValue (paddedDigits n places) = n := by
      rw [paddedDigits, decimalValue_append, decimalValue_natDigits,
        decimalValue_of_zeros fun c hc => List.eq_of_mem_replicate hc, Nat.zero_mul, Nat.zero_add]
    have hlength := length_paddedDigits hplaces hn
    rw [← hjoin, List.length_append] at hlength
    rw [← hjoin, decimalValue_append, hzeros, Nat.add_zero] at hvalue
    generalize (paddedDigits n places).rtakeWhile (· == '0') = zeros at hlength hvalue
    calc decimalValue (trimmedDigits n places) * 10 ^ places
        = decimalValue (trimmedDigits n places) *
            10 ^ ((trimmedDigits n places).length + zeros.length) := by rw [hlength]
      _ = decimalValue (trimmedDigits n places) * 10 ^ zeros.length *
          10 ^ (trimmedDigits n places).length := by
          rw [Nat.pow_add]
          ring
      _ = n * 10 ^ (trimmedDigits n places).length := by rw [hvalue]

/-! ### The number that is written -/

/-- The digits behind the point, if any are left. -/
def writtenFraction (n places : ℕ) : Option (List Char) :=
  if trimmedDigits n places = [] then none else some (trimmedDigits n places)

lemma getD_writtenFraction (n places : ℕ) :
    (writtenFraction n places).getD [] = trimmedDigits n places := by
  unfold writtenFraction
  split
  next hnil => rw [hnil]; rfl
  next => rfl

/-- The number that `n` nanoseconds are in a unit of `10 ^ places` nanoseconds. -/
def writtenNumeral (n places : ℕ) : Numeral where
  whole := Text.natDigits (n / 10 ^ places)
  fraction := writtenFraction (n % 10 ^ places) places
  whole_digits _ hc := isDigit_of_mem_natDigits hc
  fraction_digits _ hc := isDigit_of_mem_trimmedDigits (getD_writtenFraction _ _ ▸ hc)
  has_digit := .inl Nat.toDigits_ne_nil

lemma fractionDigits_of_nil {n places : ℕ} (h : trimmedDigits n places = []) :
    fractionDigits n places = [] := by
  unfold fractionDigits
  dsimp only
  split
  next => rfl
  next hkept => exact absurd h hkept

lemma fractionDigits_of_ne_nil {n places : ℕ} (h : trimmedDigits n places ≠ []) :
    fractionDigits n places = '.' :: trimmedDigits n places := by
  unfold fractionDigits
  dsimp only
  split
  next hnil => exact absurd hnil h
  next => rfl

lemma text_writtenNumeral (n places : ℕ) : (writtenNumeral n places).text =
    Text.natDigits (n / 10 ^ places) ++ fractionDigits (n % 10 ^ places) places := by
  rw [Numeral.text]
  by_cases hnil : trimmedDigits (n % 10 ^ places) places = []
  · have hfraction : (writtenNumeral n places).fraction = none := if_pos hnil
    rw [hfraction, fractionDigits_of_nil hnil]
    rfl
  · have hfraction : (writtenNumeral n places).fraction =
        some (trimmedDigits (n % 10 ^ places) places) := if_neg hnil
    rw [hfraction, fractionDigits_of_ne_nil hnil]
    rfl

/-- Writing does not round. -/
lemma value_writtenNumeral (n places : ℕ) :
    (writtenNumeral n places).value * (10 ^ places : ℕ) = n := by
  have hpos : 0 < 10 ^ places := Nat.pow_pos (by decide)
  have hparts : decimalValue (trimmedDigits (n % 10 ^ places) places) * 10 ^ places =
      n % 10 ^ places * 10 ^ (trimmedDigits (n % 10 ^ places) places).length :=
    decimalValue_trimmedDigits (Nat.mod_lt n hpos)
  have hsplit : n / 10 ^ places * 10 ^ places + n % 10 ^ places = n := Nat.div_add_mod' n _
  have hwhole : decimalValue (writtenNumeral n places).whole = n / 10 ^ places :=
    decimalValue_natDigits _
  have hdigits : (writtenNumeral n places).fraction.getD [] =
      trimmedDigits (n % 10 ^ places) places := getD_writtenFraction _ _
  rw [Numeral.value, hwhole, hdigits]
  generalize trimmedDigits (n % 10 ^ places) places = digits at hparts
  generalize n / 10 ^ places = whole at hsplit
  generalize n % 10 ^ places = rest at hparts hsplit
  have hratio : (decimalValue digits : ℚ) / 10 ^ digits.length * (10 ^ places : ℕ) = rest := by
    rw [div_mul_eq_mul_div, div_eq_iff (by positivity)]
    exact_mod_cast hparts
  rw [add_mul, hratio]
  exact_mod_cast hsplit

/-! ### Whole texts -/

/-- The units for output, each with the digits of a fraction of it. -/
def unitPlaces : List (TimeUnit × ℕ) :=
  [(.second, 9), (.millisecond, 6), (.microsecondSign, 3), (.nanosecond, 0)]

lemma writtenUnits_eq : writtenUnits = unitPlaces.map Prod.fst := rfl

lemma outputUnits_eq : outputUnits = unitPlaces.map fun p => (p.1.name, p.1.nanos, p.2) := rfl

lemma renderNanos_cons {n places : ℕ} {u : TimeUnit} (hu : u.nanos = 10 ^ places)
    (smaller : List (List Char × Nat × Nat)) :
    renderNanos n ((u.name, u.nanos, places) :: smaller) =
      if u.nanos ≤ n ∨ smaller.isEmpty then (writtenNumeral n places).text ++ u.name
      else renderNanos n smaller := by
  rw [renderNanos, text_writtenNumeral, hu]

/-- Of units in falling order, the first that is not longer than the duration is taken. -/
lemma exists_unit_taken {n : ℕ} {us : List (TimeUnit × ℕ)} (hpow : ∀ p ∈ us, p.1.nanos = 10 ^ p.2)
    (hfalling : us.Pairwise fun p q => q.1.nanos ≤ p.1.nanos) (hfits : ∃ p ∈ us, p.1.nanos ≤ n) :
    ∃ p ∈ us, p.1.nanos ≤ n ∧ (∀ q ∈ us, q.1.nanos ≤ n → q.1.nanos ≤ p.1.nanos) ∧
      renderNanos n (us.map fun p => (p.1.name, p.1.nanos, p.2)) =
        (writtenNumeral n p.2).text ++ p.1.name := by
  induction us with
  | nil =>
    obtain ⟨p, hp, -⟩ := hfits
    cases hp
  | cons p us ih =>
    obtain ⟨hp, hpow⟩ := List.forall_mem_cons.mp hpow
    obtain ⟨hfirst, hfalling⟩ := List.pairwise_cons.mp hfalling
    rw [List.map_cons, renderNanos_cons hp]
    by_cases hle : p.1.nanos ≤ n
    · refine ⟨p, List.mem_cons_self, hle, ?_, if_pos (.inl hle)⟩
      exact List.forall_mem_cons.mpr ⟨fun _ => le_rfl, fun q hq _ => hfirst q hq⟩
    · obtain ⟨q, hq, hqn⟩ : ∃ q ∈ us, q.1.nanos ≤ n := by
        obtain ⟨q, hq, hqn⟩ := hfits
        rcases List.mem_cons.mp hq with rfl | hq
        · exact absurd hqn hle
        · exact ⟨q, hq, hqn⟩
      have hmore : (us.map fun p => (p.1.name, p.1.nanos, p.2)).isEmpty = false := by
        rw [List.isEmpty_map]
        exact List.isEmpty_eq_false_iff.mpr (List.ne_nil_of_mem hq)
      obtain ⟨r, hr, hrn, hlargest, htext⟩ := ih hpow hfalling ⟨q, hq, hqn⟩
      refine ⟨r, List.mem_cons_of_mem _ hr, hrn, ?_, ?_⟩
      · exact List.forall_mem_cons.mpr ⟨fun h => absurd h hle, hlargest⟩
      · rw [if_neg (by simp [hle, hmore]), htext]

lemma exists_written (d : Duration) : ∃ e : Element, Written d e ∧ d.render.toList = e.text := by
  have hpow : ∀ p ∈ unitPlaces, p.1.nanos = 10 ^ p.2 := by decide
  obtain ⟨⟨u, places⟩, hu, hle, hlargest, htext⟩ := exists_unit_taken hpow (by decide)
    ⟨(.nanosecond, 0), by decide, d.nanos_pos⟩
  have hnanos : u.nanos = 10 ^ places := hpow _ hu
  have hwritten : ∀ v ∈ writtenUnits, v.nanos ≤ d.nanos → v.nanos ≤ u.nanos := by
    rw [writtenUnits_eq, List.forall_mem_map]
    exact hlargest
  have hunit : u ∈ writtenUnits := writtenUnits_eq ▸ List.mem_map_of_mem hu
  refine ⟨⟨writtenNumeral d.nanos places, u⟩, ⟨hunit, hle, hwritten, ?_, ?_, ?_⟩, ?_⟩
  · rw [hnanos]
    exact value_writtenNumeral d.nanos places
  · rw [hnanos]
    rfl
  · intro digits hdigits
    simp only [writtenNumeral, writtenFraction] at hdigits
    split at hdigits
    next => cases hdigits
    next hne =>
      cases hdigits
      exact ⟨hne, getLast?_trimmedDigits _ _⟩
  · rw [render, String.toList_ofList, outputUnits_eq, htext, Element.text]

lemma nanos_of_written {d : Duration} {e : Element} (h : Written d e) : e.nanos = d.nanos := by
  have hunit : ∀ u ∈ writtenUnits, u ≠ .minute ∧ u ≠ .hour := by decide
  rw [← e.exactNanos_eq_nanos (.inr (hunit e.unit h.unit_mem)), Element.exactNanos, h.exact,
    Nat.floor_natCast]

/-- A text that follows the rules of writing is read as what was written. -/
lemma parse?_of_written {d : Duration} {e : Element} (h : Written d e) {text : String}
    (htext : text.toList = e.text) : parse? text = some d := by
  refine parse?_eq_some_iff.mpr
    ⟨[e], ⟨List.cons_ne_nil _ _, [], [], [], by simp, by simp, .inl rfl, ?_⟩, ?_⟩
  · simpa using htext
  · rw [totalNanos_cons, totalNanos_nil, Nat.add_zero, nanos_of_written h]

/-- Every duration is written by the rules, with the digits that it needs in the largest unit that
it reaches, and is read back from there. So is the interval that the control loop logs as it starts.
-/
theorem parse?_render :
    (∀ d : Duration, (∃ e, Written d e ∧ d.render.toList = e.text) ∧ parse? d.render = some d) ∧
    ∀ opts : ControlLoop.RunOptions, ∃ text, ("scan_interval", Log.Value.shown text) ∈
      (ControlLoop.State.startLog opts).fields ∧ parse? text = some opts.scanInterval := by
  have hread (d : Duration) : parse? d.render = some d := by
    obtain ⟨e, hwritten, htext⟩ := exists_written d
    exact parse?_of_written hwritten htext
  exact ⟨fun d => ⟨exists_written d, hread d⟩,
    fun opts => ⟨opts.scanInterval.render, List.mem_cons_self, hread _⟩⟩

/-- Zeros within the fraction are written, those at its end are not. -/
example : String.ofList (renderNanos 1000050 outputUnits) = "1.00005ms" := by decide

end Autoscaler.Duration
