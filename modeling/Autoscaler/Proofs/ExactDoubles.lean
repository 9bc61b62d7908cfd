import Autoscaler.Binary64.Reading
import Mathlib.Algebra.Order.Field.Power
import Mathlib.Data.Nat.Log
import Mathlib.Data.Rat.Cast.Order
import Mathlib.Tactic.FieldSimp
import Mathlib.Tactic.Linarith
import Mathlib.Tactic.Positivity

/-!
# Natural numbers as doubles

A ratio with at most 53 bits before a power of two is not rounded: the double nearest to it is the
ratio itself. So natural numbers up to `2 ^ 53` are doubles, and products that stay below this are
exact.
-/

namespace Autoscaler.Binary64

/-- A double is a natural number. -/
def IsNat (x : Binary64) (n : ℕ) : Prop :=
  ∃ m e, x = .finite false m e ∧ (m : ℚ) * 2 ^ e = n

section Scaling

variable {num den : ℕ}

lemma two_zpow (e : ℤ) : (2 : ℚ) ^ e = 2 ^ e.toNat / 2 ^ (-e).toNat := by
  rw [← zpow_natCast, ← zpow_natCast, ← zpow_sub₀ two_ne_zero, Int.toNat_sub_toNat_neg]

lemma scaledDen_pos (hden : 0 < den) (e : ℤ) : 0 < scaledDen den e :=
  Nat.mul_pos hden (Nat.pow_pos (by decide))

/-- Scaling divides the ratio by a power of two. -/
lemma scaled_ratio (num den : ℕ) (e : ℤ) :
    (scaledNum num e : ℚ) / scaledDen den e = num / den / 2 ^ e := by
  have hnum : (scaledNum num e : ℚ) = num * 2 ^ (-e).toNat := Nat.cast_mul _ _ |>.trans (by simp)
  have hden : (scaledDen den e : ℚ) = den * 2 ^ e.toNat := Nat.cast_mul _ _ |>.trans (by simp)
  rw [hnum, hden, two_zpow]
  field_simp

lemma scaledNum_lt_scaledDen_iff (hden : 0 < den) (e : ℤ) :
    scaledNum num e < scaledDen den e ↔ (num : ℚ) / den < 2 ^ e := by
  have hpos : (0 : ℚ) < scaledDen den e := by exact_mod_cast scaledDen_pos hden e
  rw [← div_lt_one (by positivity : (0 : ℚ) < 2 ^ e), ← scaled_ratio, div_lt_one hpos,
    Nat.cast_lt]

/-- The highest bit of a ratio. -/
lemma topBit_spec (hnum : 0 < num) (hden : 0 < den) :
    (2 : ℚ) ^ topBit num den ≤ num / den ∧ (num : ℚ) / den < 2 ^ (topBit num den + 1) := by
  have hn : (2 : ℚ) ^ (num.log2 : ℤ) ≤ num ∧ (num : ℚ) < 2 ^ ((num.log2 : ℤ) + 1) := by
    constructor
    · exact_mod_cast Nat.log2_self_le hnum.ne'
    · exact_mod_cast Nat.lt_log2_self
  have hd : (2 : ℚ) ^ (den.log2 : ℤ) ≤ den ∧ (den : ℚ) < 2 ^ ((den.log2 : ℤ) + 1) := by
    constructor
    · exact_mod_cast Nat.log2_self_le hden.ne'
    · exact_mod_cast Nat.lt_log2_self
  have hpos : (0 : ℚ) < den := by exact_mod_cast hden
  have htwo (e : ℤ) : (0 : ℚ) < 2 ^ e := by positivity
  have habove : (num : ℚ) / den < 2 ^ ((num.log2 : ℤ) - den.log2 + 1) := by
    rw [div_lt_iff₀ hpos]
    calc (num : ℚ) < 2 ^ ((num.log2 : ℤ) + 1) := hn.2
      _ = 2 ^ ((num.log2 : ℤ) - den.log2 + 1) * 2 ^ (den.log2 : ℤ) := by
          rw [← zpow_add₀ two_ne_zero]
          congr 1
          omega
      _ ≤ 2 ^ ((num.log2 : ℤ) - den.log2 + 1) * den := mul_le_mul_of_nonneg_left hd.1 (htwo _).le
  have hbelow : (2 : ℚ) ^ ((num.log2 : ℤ) - den.log2 - 1) ≤ num / den := by
    rw [le_div_iff₀ hpos]
    calc (2 : ℚ) ^ ((num.log2 : ℤ) - den.log2 - 1) * den
        ≤ 2 ^ ((num.log2 : ℤ) - den.log2 - 1) * 2 ^ ((den.log2 : ℤ) + 1) :=
          mul_le_mul_of_nonneg_left hd.2.le (htwo _).le
      _ = 2 ^ (num.log2 : ℤ) := by
          rw [← zpow_add₀ two_ne_zero]
          congr 1
          omega
      _ ≤ num := hn.1
  rw [topBit]
  split
  next h =>
    rw [scaledNum_lt_scaledDen_iff hden] at h
    exact ⟨hbelow, by rwa [sub_add_cancel]⟩
  next h =>
    rw [scaledNum_lt_scaledDen_iff hden, not_lt] at h
    exact ⟨h, habove⟩

end Scaling

/-! ### Ratios that are not rounded -/

lemma divHalfEven_mul {den : ℕ} (hden : 0 < den) (k : ℕ) : divHalfEven (k * den) den = k := by
  simp [divHalfEven, Nat.mul_div_cancel k hden, hden]

/-- A normal double is nearest to itself. -/
lemma ofRatio_of_normal {num den k : ℕ} {e : ℤ} (hden : 0 < den) (hk : 2 ^ 52 ≤ k)
    (hk' : k < 2 ^ 53) (he : minExponent ≤ e) (he' : e ≤ maxExponent)
    (hratio : (num : ℚ) / den = k * 2 ^ e) (s : Bool) : ofRatio s num den = .finite s k e := by
  have hkq : (2 : ℚ) ^ 52 ≤ k ∧ (k : ℚ) < 2 ^ 53 := ⟨by exact_mod_cast hk, by exact_mod_cast hk'⟩
  have htwo : (0 : ℚ) < 2 ^ e := by positivity
  have hnum : 0 < num := by
    rw [Nat.pos_iff_ne_zero]
    rintro rfl
    rw [Nat.cast_zero, zero_div] at hratio
    nlinarith
  have htop : topBit num den = e + 52 := by
    obtain ⟨hlow, hhigh⟩ := topBit_spec hnum hden
    rw [hratio] at hlow hhigh
    have hlower : (2 : ℚ) ^ (e + 52) < 2 ^ (topBit num den + 1) := by
      refine lt_of_le_of_lt ?_ hhigh
      rw [zpow_add₀ two_ne_zero, mul_comm]
      exact mul_le_mul_of_nonneg_right hkq.1 htwo.le
    have hupper : (2 : ℚ) ^ topBit num den < 2 ^ (e + 53) := by
      refine lt_of_le_of_lt hlow ?_
      rw [zpow_add₀ two_ne_zero, mul_comm]
      exact mul_lt_mul_of_pos_left hkq.2 htwo
    rw [zpow_lt_zpow_iff_right₀ one_lt_two] at hlower hupper
    omega
  have hplace : lastPlace num den = e := by
    rw [lastPlace, htop]
    omega
  have hscaled : scaledNum num e = k * scaledDen den e := by
    have hpos : (0 : ℚ) < scaledDen den e := by exact_mod_cast scaledDen_pos hden e
    have hquotient := scaled_ratio num den e
    rw [hratio, mul_div_cancel_right₀ _ htwo.ne', div_eq_iff hpos.ne'] at hquotient
    exact_mod_cast hquotient
  have hne : k ≠ 2 * leastNormal := by
    have hleast : 2 * leastNormal = 2 ^ 53 := rfl
    omega
  rw [ofRatio, if_neg hnum.ne', hplace]
  dsimp only
  rw [hscaled, divHalfEven_mul (scaledDen_pos hden e), ofMantissa, if_neg hne, if_neg hne,
    if_neg (not_lt.mpr he')]

/-- A number of at most 53 bits has a normal representation. -/
lemma exists_normal {n : ℕ} (hn : 0 < n) (hn' : n ≤ 2 ^ 53) : ∃ (k : ℕ) (e : ℤ),
    2 ^ 52 ≤ k ∧ k < 2 ^ 53 ∧ -52 ≤ e ∧ e ≤ 1 ∧ (k : ℚ) * 2 ^ e = n := by
  by_cases htop : n = 2 ^ 53
  · exact ⟨2 ^ 52, 1, by decide, by decide, by decide, by decide, by rw [htop]; norm_num⟩
  · have hlow := Nat.log2_self_le hn.ne'
    have hhigh : n < 2 ^ (n.log2 + 1) := Nat.lt_log2_self
    have hbits : n.log2 ≤ 52 := by
      have hlt : n.log2 < 53 := (Nat.log2_lt hn.ne').mpr (lt_of_le_of_ne hn' htop)
      omega
    have hshift : 2 ^ n.log2 * 2 ^ (52 - n.log2) = 2 ^ 52 := by
      rw [← Nat.pow_add, Nat.add_sub_cancel' hbits]
    have hpow : 0 < 2 ^ (52 - n.log2) := Nat.pow_pos (by decide)
    refine ⟨n * 2 ^ (52 - n.log2), -(52 - n.log2 : ℕ), ?_, ?_, by omega, by omega, ?_⟩
    · rw [← hshift]
      exact Nat.mul_le_mul_right _ hlow
    · calc n * 2 ^ (52 - n.log2) < 2 ^ (n.log2 + 1) * 2 ^ (52 - n.log2) :=
            Nat.mul_lt_mul_of_pos_right hhigh hpow
        _ = 2 ^ 53 := by rw [Nat.pow_succ, Nat.mul_right_comm, hshift, ← Nat.pow_succ]
    · rw [Nat.cast_mul, Nat.cast_pow, Nat.cast_ofNat, zpow_neg, zpow_natCast]
      field_simp

/-- A ratio that is a number of at most 53 bits, with a few zero bits behind them, is exact. -/
lemma isNat_ofRatio_shifted {num den n zeros : ℕ} (hden : 0 < den) (hn : n ≤ 2 ^ 53) (hzeros : zeros ≤ 900)
    (hratio : (num : ℚ) / den = (n * 2 ^ zeros : ℕ)) :
    IsNat (ofRatio false num den) (n * 2 ^ zeros) := by
  by_cases hzero : n = 0
  · subst hzero
    have hnum : num = 0 := by
      have hpos : (den : ℚ) ≠ 0 := by exact_mod_cast hden.ne'
      simpa [hpos] using hratio
    exact ⟨0, minExponent, by rw [ofRatio, if_pos hnum, zero], by simp⟩
  · obtain ⟨k, e, hk, hk', he, he', hvalue⟩ := exists_normal (Nat.pos_of_ne_zero hzero) hn
    have hexact : (k : ℚ) * 2 ^ (e + zeros) = (n * 2 ^ zeros : ℕ) := by
      rw [zpow_add₀ two_ne_zero, ← mul_assoc, hvalue, zpow_natCast]
      push_cast
      rfl
    have hmin : minExponent = -1074 := rfl
    have hmax : maxExponent = 971 := rfl
    exact ⟨k, e + zeros, ofRatio_of_normal hden hk hk' (by omega) (by omega)
      (hratio.trans hexact.symm) false, hexact⟩

lemma isNat_ofRatio {num den n : ℕ} (hden : 0 < den) (hn : n ≤ 2 ^ 53)
    (hratio : (num : ℚ) / den = n) : IsNat (ofRatio false num den) n := by
  have hexact := isNat_ofRatio_shifted hden hn (Nat.zero_le 900) (by simpa using hratio)
  rwa [Nat.pow_zero, Nat.mul_one] at hexact

lemma isNat_ofNat {n zeros : ℕ} (hn : n ≤ 2 ^ 53) (hzeros : zeros ≤ 900) :
    IsNat (ofNat (n * 2 ^ zeros)) (n * 2 ^ zeros) :=
  isNat_ofRatio_shifted Nat.one_pos hn hzeros (by simp)

/-- A product that is small enough is not rounded, however large its factors are. -/
lemma IsNat.mul {x y : Binary64} {n k : ℕ} (hx : IsNat x n) (hy : IsNat y k)
    (hsmall : n * k ≤ 2 ^ 53) : IsNat (x * y) (n * k) := by
  obtain ⟨m, e, rfl, hm⟩ := hx
  obtain ⟨m', e', rfl, hm'⟩ := hy
  refine isNat_ofRatio (scaledDen_pos Nat.one_pos _) hsmall ?_
  rw [scaled_ratio, zpow_neg, zpow_add₀ two_ne_zero]
  push_cast
  rw [← hm, ← hm']
  field_simp

/-! ### Comparing and rounding -/

lemma signedUnits_cast {m : ℕ} {e unit : ℤ} (hunit : unit ≤ e) :
    (signedUnits false m e unit : ℚ) * 2 ^ unit = m * 2 ^ e := by
  have hpow : (2 : ℚ) ^ e = 2 ^ (e - unit).toNat * 2 ^ unit := by
    rw [← zpow_natCast, Int.toNat_of_nonneg (by omega), ← zpow_add₀ two_ne_zero, sub_add_cancel]
  have hcast : (signedUnits false m e unit : ℚ) = m * 2 ^ (e - unit).toNat := by
    simp [signedUnits]
  rw [hcast, hpow, mul_assoc]

lemma IsNat.le_iff {x y : Binary64} {n k : ℕ} (hx : IsNat x n) (hy : IsNat y k) :
    x.le y = true ↔ n ≤ k := by
  obtain ⟨m, e, rfl, hm⟩ := hx
  obtain ⟨m', e', rfl, hm'⟩ := hy
  have htwo : (0 : ℚ) < 2 ^ min e e' := by positivity
  rw [le, decide_eq_true_eq, ← Int.cast_le (R := ℚ), ← mul_le_mul_iff_left₀ htwo,
    signedUnits_cast (min_le_left e e'), signedUnits_cast (min_le_right e e'), hm, hm', Nat.cast_le]

lemma IsNat.lt_eq_false {x y : Binary64} {n k : ℕ} (hx : IsNat x n) (hy : IsNat y k)
    (h : k ≤ n) : x.lt y = false := by
  rw [lt, (hy.le_iff hx).mpr h, Bool.not_true, Bool.and_false]

lemma IsNat.isFinite {x : Binary64} {n : ℕ} (hx : IsNat x n) : x.isFinite = true := by
  obtain ⟨m, e, rfl, -⟩ := hx
  rfl

lemma roundedMagnitude_eq {m n : ℕ} {e : ℤ} (h : (m : ℚ) * 2 ^ e = n) :
    roundedMagnitude m e = n := by
  have hden := scaledDen_pos Nat.one_pos (-e)
  have hnum : scaledNum m (-e) = n * scaledDen 1 (-e) := by
    have hpos : (0 : ℚ) < scaledDen 1 (-e) := by exact_mod_cast hden
    have hratio := scaled_ratio m 1 (-e)
    rw [Nat.cast_one, div_one, zpow_neg, div_inv_eq_mul, h, div_eq_iff hpos.ne'] at hratio
    exact_mod_cast hratio
  rw [roundedMagnitude, hnum]
  generalize scaledDen 1 (-e) = den at hden
  have hparts : 2 * (n * den) + den = den + 2 * den * n := by
    rw [Nat.add_comm, Nat.mul_comm n, Nat.mul_assoc]
  rw [hparts, Nat.add_mul_div_left _ _ (by omega), Nat.div_eq_of_lt (by omega), Nat.zero_add]

lemma IsNat.toInt_roundToInt64 {x : Binary64} {n : ℕ} (hx : IsNat x n)
    (hn : (n : ℤ) ≤ Text.maxInt64) : x.roundToInt64.toInt = n := by
  obtain ⟨m, e, rfl, hm⟩ := hx
  have hmax : Text.maxInt64 = 2 ^ 63 - 1 := rfl
  have hmin : Text.minInt64 = -2 ^ 63 := rfl
  rw [roundToInt64, roundedMagnitude_eq hm]
  rw [if_neg Bool.false_ne_true, Int64.toInt_ofInt_of_le (by omega) (by omega)]
  omega

end Autoscaler.Binary64
