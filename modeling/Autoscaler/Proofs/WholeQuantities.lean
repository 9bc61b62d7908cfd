import Autoscaler.Proofs.DurationText
import Autoscaler.Proofs.ExactDoubles
import Autoscaler.Proofs.NumberText
import Autoscaler.Proofs.SnapshotTotals

/-!
# Whole quantities

A whole number of millicores is read as an integer, and every other quantity through doubles. As
long as an amount has no more than 53 bits, nothing of it is lost on the way, so that its spellings
in different units are read as the same.
-/

namespace Autoscaler.Binary64

/-- Digits are read as the number, without a point or an exponent. -/
lemma read?_natDigits (n : ℕ) : read? (Text.natDigits n) = some (ofDecimal false n 0) := by
  have hdigits : ∀ c ∈ Text.natDigits n, c.isDigit = true :=
    fun c => Duration.isDigit_of_mem_natDigits
  have hread : Text.readNat 10 (Text.natDigits n) = some n :=
    Text.readNat_toDigits (by decide) (by decide) n
  have hrun : (Text.natDigits n).takeWhile Char.isDigit = Text.natDigits n :=
    List.takeWhile_eq_self_iff.mpr hdigits
  have hend : (Text.natDigits n).dropWhile Char.isDigit = [] :=
    List.dropWhile_eq_nil_iff.mpr hdigits
  have hunsigned : readUnsigned? false (Text.natDigits n) = some (ofDecimal false n 0) := by
    rw [readUnsigned?, hrun, hend]
    simp [hread]
  obtain ⟨c, rest, htext, hminus, hplus⟩ := Text.exists_natDigits n
  rw [htext] at hunsigned ⊢
  have hpositive : (c == '-') = false := beq_eq_false_iff_ne.mpr hminus
  simp [read?, hminus, hplus, hpositive, hunsigned]

lemma isNat_ofDecimal {n : ℕ} (hn : n ≤ 2 ^ 53) : IsNat (ofDecimal false n 0) n := by
  have hlength : (Text.natDigits n).length ≤ 16 :=
    (Nat.length_toDigits_le_iff (by decide) (by decide)).mpr (Nat.lt_of_le_of_lt hn (by decide))
  rw [ofDecimal]
  by_cases hzero : n = 0
  · subst hzero
    exact ⟨0, minExponent, rfl, by simp⟩
  · rw [if_neg (by omega), if_neg (by omega)]
    exact isNat_ofRatio Nat.one_pos hn (by simp)

end Autoscaler.Binary64

namespace Autoscaler.Cluster
open Binary64 (IsNat)

/-- The suffixes of amounts of memory, with the bytes that each of them stands for. -/
def byteUnits : List (List Char × ℕ) := [
  (['K', 'i'], Nat.pow 1024 1), (['M', 'i'], Nat.pow 1024 2), (['G', 'i'], Nat.pow 1024 3),
  (['T', 'i'], Nat.pow 1024 4), (['P', 'i'], Nat.pow 1024 5), (['E', 'i'], Nat.pow 1024 6),
  (['k'], Nat.pow 1000 1), (['M'], Nat.pow 1000 2), (['G'], Nat.pow 1000 3),
  (['T'], Nat.pow 1000 4), (['P'], Nat.pow 1000 5), (['E'], Nat.pow 1000 6)]

/-- A text has a whole number of some unit, or of bytes, that amounts to so many bytes. -/
def SpellsBytes (bytes : ℕ) (text : String) : Prop :=
  ∃ n, ∃ u ∈ ([], 1) :: byteUnits, n * u.2 = bytes ∧ Text.Padded (Text.natDigits n ++ u.1) text

/-! ### Texts -/

section Texts

variable {n : ℕ} {ending other : List Char}

lemma isDigit_or_mem {c : Char} (h : c ∈ Text.natDigits n ++ ending) :
    c.isDigit = true ∨ c ∈ ending := by
  rcases List.mem_append.mp h with h | h
  · exact .inl (Duration.isDigit_of_mem_natDigits h)
  · exact .inr h

lemma trimBlanks_natDigits {text : String} (h : Text.Padded (Text.natDigits n ++ ending) text)
    (hending : ∀ c ∈ ending, Text.isBlank c = false) :
    Text.trimBlanks text.toList = Text.natDigits n ++ ending := by
  refine Text.trimBlanks_of_padded h (by simp [Text.natDigits, Nat.toDigits_ne_nil]) ?_
  exact List.forall_mem_append.mpr ⟨Text.not_isBlank_natDigits n, hending⟩

lemma stripSuffix?_append (s ending : List Char) : stripSuffix? ending (s ++ ending) = some s := by
  have hsuffix : ending.isSuffixOf (s ++ ending) = true :=
    List.isSuffixOf_iff_suffix.mpr (List.suffix_append s ending)
  rw [stripSuffix?, if_pos hsuffix, List.length_append, Nat.add_sub_cancel, List.take_left]

/-- A character beside the digits and the ending tells that another ending is not there. -/
lemma stripSuffix?_eq_none (h : ∃ c ∈ other, c.isDigit = false ∧ c ∉ ending) :
    stripSuffix? other (Text.natDigits n ++ ending) = none := by
  obtain ⟨c, hc, hdigit, hending⟩ := h
  rw [stripSuffix?, if_neg]
  intro hsuffix
  rcases isDigit_or_mem ((List.isSuffixOf_iff_suffix.mp hsuffix).subset hc) with hmem | hmem
  · exact Bool.false_ne_true (hdigit.symm.trans hmem)
  · exact hending hmem

end Texts

/-! ### Units of memory -/

lemma memorySuffixes_eq : memorySuffixes =
    (byteUnits.map fun u => (u.1, Binary64.ofNat u.2)) ++ [(['m'], .ofRatio false 1 1000)] := rfl

/-- No unit before the right one is taken for it. -/
lemma pairwise_byteUnits :
    byteUnits.Pairwise fun u v => ∃ c ∈ u.1, c.isDigit = false ∧ c ∉ v.1 := by
  simp [byteUnits]

lemma splitMemory_unit {n : ℕ} {u : List Char × ℕ} (hu : u ∈ ([], 1) :: byteUnits) :
    splitMemory (Text.natDigits n ++ u.1) = (Text.natDigits n, .ofNat u.2) := by
  rw [splitMemory]
  rcases List.mem_cons.mp hu with rfl | hu
  · have hnone : (memorySuffixes.findSome? fun p => (stripSuffix? p.1 (Text.natDigits n ++ [])).map
        fun number => (number, p.2)) = none := by
      have hsigns : ∀ p ∈ memorySuffixes, ∃ c ∈ p.1, c.isDigit = false ∧ c ∉ [] := by
        simp [memorySuffixes]
      rw [List.findSome?_eq_none_iff]
      intro p hp
      rw [stripSuffix?_eq_none (hsigns p hp), Option.map_none]
    rw [hnone, List.append_nil, Option.getD_none]
  · obtain ⟨before, after, hsplit⟩ := List.append_of_mem hu
    have hpairs := pairwise_byteUnits
    rw [hsplit, List.pairwise_append] at hpairs
    have hbefore : ((before.map fun u => (u.1, Binary64.ofNat u.2)).findSome? fun p =>
        (stripSuffix? p.1 (Text.natDigits n ++ u.1)).map fun number => (number, p.2)) = none := by
      rw [List.findSome?_eq_none_iff, List.forall_mem_map]
      intro v hv
      rw [stripSuffix?_eq_none (hpairs.2.2 v hv u List.mem_cons_self), Option.map_none]
    rw [memorySuffixes_eq, hsplit, List.map_append, List.append_assoc, List.findSome?_append, hbefore,
      Option.none_or, List.map_cons, List.cons_append, List.findSome?_cons]
    simp only [stripSuffix?_append, Option.map_some, Option.getD_some]

lemma isNat_unit {u : List Char × ℕ} (hu : u ∈ ([], 1) :: byteUnits) :
    IsNat (.ofNat u.2) u.2 := by
  have hbits : ∀ u ∈ ([], 1) :: byteUnits, ∃ zeros < 61,
      u.2 / 2 ^ zeros ≤ 2 ^ 53 ∧ u.2 / 2 ^ zeros * 2 ^ zeros = u.2 := by
    decide +kernel
  obtain ⟨zeros, hzeros, hsmall, hunit⟩ := hbits u hu
  rw [← hunit]
  exact Binary64.isNat_ofNat hsmall (by omega)

/-! ### Amounts -/

lemma toInt_wholeQuantity? {x : Binary64} {n : ℕ} (hx : IsNat x n) (hn : (n : ℤ) ≤ Text.maxInt64) :
    (wholeQuantity? x).map Int64.toInt = some (n : ℤ) := by
  have hmax : Text.maxInt64 = 2 ^ 63 - 1 := rfl
  have hzero : IsNat (.ofNat 0) 0 := ⟨0, Binary64.minExponent, rfl, by simp⟩
  have htop : IsNat (.ofInt Text.maxInt64) (2 ^ 63) := ⟨2 ^ 52, 11, by decide, by norm_num⟩
  have hbelow := hx.lt_eq_false hzero (Nat.zero_le n)
  have habove := htop.lt_eq_false hx (by omega)
  rw [wholeQuantity?, hx.isFinite, hbelow, habove]
  simp [hx.toInt_roundToInt64 hn]

lemma le_maxInt64 {n : ℕ} (hn : n ≤ 2 ^ 53) : (n : ℤ) ≤ Text.maxInt64 := by
  have hmax : Text.maxInt64 = 2 ^ 63 - 1 := rfl
  omega

/-- A number times a unit, as it is computed. -/
lemma toInt_product {n k : ℕ} {factor : Binary64} (hfactor : IsNat factor k) (hk : 0 < k)
    (hsmall : n * k ≤ 2 ^ 53) :
    ((Binary64.read? (Text.natDigits n)).bind fun x => wholeQuantity? (x * factor)).map
      Int64.toInt = some ((n * k : ℕ) : ℤ) := by
  have hn : n ≤ 2 ^ 53 := le_trans (Nat.le_mul_of_pos_right n hk) hsmall
  rw [Binary64.read?_natDigits, Option.bind_some]
  exact toInt_wholeQuantity? ((Binary64.isNat_ofDecimal hn).mul hfactor hsmall) (le_maxInt64 hsmall)

lemma toInt_cpuMillis?_millis {n : ℕ} {text : String}
    (h : Text.Padded (Text.natDigits n ++ ['m']) text) :
    (cpuMillis? text).map Int64.toInt = if (n : ℤ) ≤ Text.maxInt64 then some (n : ℤ) else none := by
  have hmax : Text.maxInt64 = 2 ^ 63 - 1 := rfl
  have hmin : Text.minInt64 = -2 ^ 63 := rfl
  rw [cpuMillis?, trimBlanks_natDigits h (by simp [Text.isBlank])]
  simp only [stripSuffix?_append, Text.readInt64, Text.readSigned_natDigits, Option.bind_some,
    Text.toInt64?]
  by_cases hn : (n : ℤ) ≤ Text.maxInt64
  · have hword : (Int64.ofInt n).toInt = n := Int64.toInt_ofInt_of_le (by omega) (by omega)
    have hsign : 0 ≤ Int64.ofInt n := by
      rw [Int64.le_iff_toInt_le, hword]
      exact Int.natCast_nonneg n
    rw [if_pos ⟨by omega, hn⟩, if_pos hn, Option.filter_some, if_pos (decide_eq_true hsign),
      Option.map_some, hword]
  · rw [if_neg fun hboth => hn hboth.2, if_neg hn]
    rfl

lemma toInt_cpuMillis?_cores {n : ℕ} {text : String} (h : Text.Padded (Text.natDigits n) text)
    (hsmall : n * 1000 ≤ 2 ^ 53) :
    (cpuMillis? text).map Int64.toInt = some ((n * 1000 : ℕ) : ℤ) := by
  have hplain : stripSuffix? ['m'] (Text.natDigits n ++ []) = none :=
    stripSuffix?_eq_none (by simp)
  have hthousand : IsNat (.ofNat 1000) 1000 := by
    have hexact : IsNat (.ofNat (1000 * 2 ^ 0)) (1000 * 2 ^ 0) :=
      Binary64.isNat_ofNat (by decide) (by decide)
    simpa using hexact
  rw [List.append_nil] at hplain
  rw [← List.append_nil (Text.natDigits n)] at h
  rw [cpuMillis?, trimBlanks_natDigits h (by simp), List.append_nil]
  simp only [hplain]
  exact toInt_product hthousand (by decide) hsmall

lemma toInt_memoryBytes? {bytes : ℕ} {text : String} (h : SpellsBytes bytes text)
    (hsmall : bytes ≤ 2 ^ 53) : (memoryBytes? text).map Int64.toInt = some (bytes : ℤ) := by
  obtain ⟨n, u, hu, rfl, htext⟩ := h
  have hblank : ∀ u ∈ ([], 1) :: byteUnits, ∀ c ∈ u.1, Text.isBlank c = false := by
    simp [byteUnits, Text.isBlank]
  have hpos : ∀ u ∈ ([], 1) :: byteUnits, 0 < u.2 := by decide
  rw [memoryBytes?, trimBlanks_natDigits htext (hblank u hu), splitMemory_unit hu]
  exact toInt_product (isNat_unit hu) (hpos u hu) hsmall

lemma eq_of_toInt_eq {a b : Option Int64} (h : a.map Int64.toInt = b.map Int64.toInt) : a = b :=
  Option.map_injective (fun _ _ => Int64.toInt_inj.mp) h

/-- Whole quantities, with blanks around them. So many millicores are read as this number if a signed
word holds it, and not at all otherwise. Whole cores of at most `2 ^ 53` millicores are read as their
millicores, and as the text that gives these. A whole number of bytes or of a larger unit is read as
the bytes that it amounts to if these are at most `2 ^ 53`, in whatever unit they are given. -/
theorem whole_quantities :
    (∀ n text, Text.Padded (Text.natDigits n ++ ['m']) text → (cpuMillis? text).map Int64.toInt =
      if (n : ℤ) ≤ Text.maxInt64 then some (n : ℤ) else none) ∧
    (∀ n text, Text.Padded (Text.natDigits n) text → n * 1000 ≤ 2 ^ 53 →
      (cpuMillis? text).map Int64.toInt = some ((n * 1000 : ℕ) : ℤ) ∧
      ∀ text', Text.Padded (Text.natDigits (n * 1000) ++ ['m']) text' →
        cpuMillis? text' = cpuMillis? text) ∧
    ∀ bytes text, SpellsBytes bytes text → bytes ≤ 2 ^ 53 →
      (memoryBytes? text).map Int64.toInt = some (bytes : ℤ) ∧
      ∀ text', SpellsBytes bytes text' → memoryBytes? text' = memoryBytes? text := by
  refine ⟨fun n text => toInt_cpuMillis?_millis, fun n text htext hsmall => ?_,
    fun bytes text htext hsmall => ?_⟩
  · have hcores := toInt_cpuMillis?_cores htext hsmall
    refine ⟨hcores, fun text' htext' => eq_of_toInt_eq ?_⟩
    rw [hcores, toInt_cpuMillis?_millis htext', if_pos (le_maxInt64 hsmall)]
  · have hbytes := toInt_memoryBytes? htext hsmall
    refine ⟨hbytes, fun text' htext' => eq_of_toInt_eq ?_⟩
    rw [hbytes, toInt_memoryBytes? htext' hsmall]

/-- Eight petabytes in two units, the least number of millicores that is too large, and two cores. -/
theorem whole_quantities_spellings :
    Text.Padded (Text.natDigits 9223372036854775808 ++ ['m']) "9223372036854775808m" ∧
      cpuMillis? "9223372036854775808m" = none ∧
      Text.Padded (Text.natDigits 2) " 2\n" ∧ 2 * 1000 ≤ 2 ^ 53 ∧
      Text.Padded (Text.natDigits (2 * 1000) ++ ['m']) "2000m" ∧
      cpuMillis? "2000m" = cpuMillis? " 2\n" ∧
      SpellsBytes (8 * Nat.pow 1000 5) "8P" ∧ SpellsBytes (8 * Nat.pow 1000 5) "8000T" ∧
      8 * Nat.pow 1000 5 ≤ 2 ^ 53 ∧ memoryBytes? "8000T" = memoryBytes? "8P" := by
  obtain ⟨hmillis, hcores, hbytes⟩ := whole_quantities
  have hlarge : Text.Padded (Text.natDigits 9223372036854775808 ++ ['m']) "9223372036854775808m" :=
    ⟨[], [], by simp, by simp, by decide⟩
  have htwo : Text.Padded (Text.natDigits 2) " 2\n" :=
    ⟨[' '], ['\n'], by simp [Text.isBlank], by simp [Text.isBlank], by decide⟩
  have hthousands : Text.Padded (Text.natDigits (2 * 1000) ++ ['m']) "2000m" :=
    ⟨[], [], by simp, by simp, by decide⟩
  have hpeta : SpellsBytes (8 * Nat.pow 1000 5) "8P" :=
    ⟨8, (['P'], Nat.pow 1000 5), by decide, rfl, [], [], by simp, by simp, by decide⟩
  have htera : SpellsBytes (8 * Nat.pow 1000 5) "8000T" :=
    ⟨8000, (['T'], Nat.pow 1000 4), by decide, rfl, [], [], by simp, by simp, by decide⟩
  refine ⟨hlarge, Option.map_eq_none_iff.mp (hmillis _ _ hlarge), htwo, by decide, hthousands,
    (hcores _ _ htwo (by decide)).2 _ hthousands, hpeta, htera, by decide,
    (hbytes _ _ hpeta (by decide)).2 _ htera⟩

end Autoscaler.Cluster
