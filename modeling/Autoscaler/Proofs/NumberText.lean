import Autoscaler.Proofs.DurationGrammar

/-!
# Numbers that are printed and read

A number is printed in a base up to sixteen without zeros in front, and its digits are read as the
number. Texts are read up to the blanks around them.
-/

namespace Autoscaler.Text

/-- A text has some characters and else only blanks around them. -/
def Padded (core : List Char) (text : String) : Prop :=
  ∃ before after, (∀ c ∈ before, isBlank c = true) ∧ (∀ c ∈ after, isBlank c = true) ∧
    text.toList = before ++ core ++ after

section Digits

variable {base n d : Nat} {c : Char}

lemma digitValue_digitChar (h : d < 16) : digitValue d.digitChar = d := by
  interval_cases d <;> rfl

lemma char_le_iff {a b : Char} : a ≤ b ↔ a.toNat ≤ b.toNat := Iff.rfl

lemma not_isBlank_of_digitValue (h : digitValue c < 36) : isBlank c = false := by
  by_contra hblank
  rw [Bool.not_eq_false] at hblank
  simp only [isBlank, Bool.or_eq_true, Bool.and_eq_true, decide_eq_true_eq, beq_iff_eq] at hblank
  have hzero : '0'.toNat = 48 := rfl
  have hnine : '9'.toNat = 57 := rfl
  have ha : 'a'.toNat = 97 := rfl
  have hz : 'z'.toNat = 122 := rfl
  have hA : 'A'.toNat = 65 := rfl
  have hZ : 'Z'.toNat = 90 := rfl
  simp only [digitValue, char_le_iff] at h
  split_ifs at h <;> omega

lemma readDigits_append (value : Nat) (digits more : List Char) :
    readDigits base value (digits ++ more) =
      (readDigits base value digits).bind fun value => readDigits base value more := by
  induction digits generalizing value with
  | nil => rfl
  | cons c digits ih =>
    rw [List.cons_append, readDigits, readDigits]
    split
    next => exact ih _
    next => rfl

lemma readDigits_toDigits (hbase : 1 < base) (hsixteen : base ≤ 16) (n : Nat) :
    readDigits base 0 (Nat.toDigits base n) = some n := by
  induction n using Nat.strong_induction_on with
  | _ n ih =>
    rw [Nat.toDigits_eq_if hbase]
    split
    next h =>
      have hdigit := digitValue_digitChar (Nat.lt_of_lt_of_le h hsixteen)
      rw [readDigits, hdigit, if_pos h, Nat.mul_zero, Nat.zero_add, readDigits]
    next h =>
      have hsmaller : n / base < n := Nat.div_lt_self (by omega) hbase
      have hmod : n % base < base := Nat.mod_lt _ (by omega)
      have hdigit := digitValue_digitChar (Nat.lt_of_lt_of_le hmod hsixteen)
      rw [readDigits_append, ih _ hsmaller, Option.bind_some, readDigits, hdigit, if_pos hmod,
        readDigits, Nat.div_add_mod]

lemma readNat_toDigits (hbase : 1 < base) (hsixteen : base ≤ 16) (n : Nat) :
    readNat base (Nat.toDigits base n) = some n := by
  have hdigits := readDigits_toDigits hbase hsixteen n
  cases htext : Nat.toDigits base n with
  | nil => exact absurd htext Nat.toDigits_ne_nil
  | cons c digits => rwa [htext] at hdigits

/-- What is read has digits of the base only. -/
lemma digitValue_lt_of_readDigits {value : Nat} {digits : List Char}
    (h : readDigits base value digits = some n) : ∀ c ∈ digits, digitValue c < base := by
  induction digits generalizing value with
  | nil => simp
  | cons c digits ih =>
    rw [readDigits] at h
    split at h
    next hc => exact List.forall_mem_cons.mpr ⟨hc, ih h⟩
    next => cases h

lemma digitValue_lt_of_mem_toDigits (hbase : 1 < base) (hsixteen : base ≤ 16)
    (h : c ∈ Nat.toDigits base n) : digitValue c < base :=
  digitValue_lt_of_readDigits (readDigits_toDigits hbase hsixteen n) c h

lemma not_isBlank_of_mem_toDigits (hbase : 1 < base) (hsixteen : base ≤ 16)
    (h : c ∈ Nat.toDigits base n) : isBlank c = false := by
  have hdigit := digitValue_lt_of_mem_toDigits hbase hsixteen h
  exact not_isBlank_of_digitValue (by omega)

/-- Only zero has a zero in front. -/
lemma head?_toDigits (hbase : 1 < base) (hn : 0 < n) : (Nat.toDigits base n).head? ≠ some '0' := by
  induction n using Nat.strong_induction_on with
  | _ n ih =>
    rw [Nat.toDigits_eq_if hbase]
    split
    next =>
      rw [List.head?_cons, ne_eq, Option.some_inj, Nat.digitChar_eq_zero]
      omega
    next hge =>
      have hquotient : 0 < n / base := Nat.div_pos (by omega) (by omega)
      rw [List.head?_append_of_ne_nil _ Nat.toDigits_ne_nil]
      exact ih _ (Nat.div_lt_self (by omega) hbase) hquotient

end Digits

lemma not_isBlank_natDigits (n : Nat) : ∀ c ∈ natDigits n, isBlank c = false := fun _ =>
  not_isBlank_of_mem_toDigits (by decide) (by decide)

/-- A number that is printed has no sign. -/
lemma exists_natDigits (n : Nat) : ∃ c rest, natDigits n = c :: rest ∧ c ≠ '-' ∧ c ≠ '+' := by
  obtain ⟨c, rest, htext⟩ : ∃ c rest, natDigits n = c :: rest :=
    List.exists_cons_of_ne_nil Nat.toDigits_ne_nil
  have hdigit : digitValue c < 10 := by
    refine digitValue_lt_of_mem_toDigits (n := n) (by decide) (by decide) ?_
    rw [show Nat.toDigits 10 n = c :: rest from htext]
    exact List.mem_cons_self
  refine ⟨c, rest, htext, ?_, ?_⟩
  · rintro rfl
    exact absurd hdigit (by decide)
  · rintro rfl
    exact absurd hdigit (by decide)

lemma readSigned_natDigits (n : Nat) : readSigned 10 (natDigits n) = some (n : Int) := by
  have hread : readNat 10 (natDigits n) = some n := readNat_toDigits (by decide) (by decide) n
  obtain ⟨c, rest, htext, hminus, hplus⟩ := exists_natDigits n
  rw [htext] at hread ⊢
  simp [readSigned, readUnsigned, hminus, hplus, hread]

/-- Nothing but the blanks is taken off. -/
lemma trimBlanks_of_padded {core : List Char} {text : String} (h : Padded core text)
    (hne : core ≠ []) (hcore : ∀ c ∈ core, isBlank c = false) : trimBlanks text.toList = core := by
  obtain ⟨before, after, hbefore, hafter, htext⟩ := h
  rw [htext]
  exact Duration.trimBlanks_append hbefore hafter hne hcore

end Autoscaler.Text
