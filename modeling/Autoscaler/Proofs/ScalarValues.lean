import Autoscaler.Proofs.ConfigurationTree
import Autoscaler.Proofs.NumberText

/-!
# Scalars that are whole numbers or flags

A whole number is written in decimal without a zero in front, or in hexadecimal, octal or binary
behind a prefix, after one sign or none. A flag is one of two words in one of three spellings. Either
is a plain scalar, or a literal one that is tagged with the type.
-/

namespace Autoscaler.Text

/-- Digits of a base up to sixteen, at least one and letters of either case, denote a number. -/
def Denotes (base : Nat) (cs : List Char) (n : Nat) : Prop :=
  cs ≠ [] ∧ ∃ ds : List Nat, (∀ d ∈ ds, d < base) ∧
    cs.map Char.toLower = ds.map Nat.digitChar ∧ n = Nat.ofDigits base ds.reverse

section Digits

variable {base value n d : Nat} {c : Char} {cs : List Char}

lemma toNat_toLower (c : Char) :
    c.toLower.toNat = if 'A' ≤ c ∧ c ≤ 'Z' then c.toNat + 32 else c.toNat := by
  unfold Char.toLower
  split
  next hc =>
    have hupper : 'A' ≤ c ∧ c ≤ 'Z' := hc
    have hle : c.toNat ≤ 'Z'.toNat := char_le_iff.mp hupper.2
    have hZ : 'Z'.toNat = 90 := rfl
    have hsum : (c.val + ('a'.val - 'A'.val)).toNat = (c.toNat + 32) % 2 ^ 32 :=
      UInt32.toNat_add _ _
    rw [if_pos hupper]
    change (c.val + ('a'.val - 'A'.val)).toNat = _
    rw [hsum]
    omega
  next hc =>
    have hupper : ¬('A' ≤ c ∧ c ≤ 'Z') := hc
    rw [if_neg hupper]

/-- A letter is a digit in either case. -/
lemma toLower_eq_digitChar_iff (h : d < 16) : c.toLower = d.digitChar ↔ digitValue c = d := by
  have hdigit : d.digitChar.toNat = if d < 10 then 48 + d else 87 + d := by
    interval_cases d <;> rfl
  have hzero : '0'.toNat = 48 := rfl
  have hnine : '9'.toNat = 57 := rfl
  have ha : 'a'.toNat = 97 := rfl
  have hz : 'z'.toNat = 122 := rfl
  have hA : 'A'.toNat = 65 := rfl
  have hZ : 'Z'.toNat = 90 := rfl
  rw [← Char.toNat_inj, toNat_toLower, hdigit]
  simp only [digitValue, char_le_iff]
  split_ifs <;> omega

lemma readDigits_eq_some_iff : readDigits base value cs = some n ↔
    (∀ c ∈ cs, digitValue c < base) ∧
      n = value * base ^ cs.length + Nat.ofDigits base (cs.map digitValue).reverse := by
  induction cs generalizing value with
  | nil => simp [readDigits, eq_comm]
  | cons c cs ih =>
    have hvalue : (base * value + digitValue c) * base ^ cs.length +
        Nat.ofDigits base (cs.map digitValue).reverse =
        value * base ^ (c :: cs).length +
          Nat.ofDigits base ((c :: cs).map digitValue).reverse := by
      simp only [List.map_cons, List.reverse_cons, Nat.ofDigits_append, Nat.ofDigits_singleton,
        List.length_reverse, List.length_map, List.length_cons]
      ring
    rw [readDigits, List.forall_mem_cons]
    split
    next hc => rw [ih, hvalue, and_iff_right hc]
    next hc => simp [hc]

lemma map_digitValue_eq {ds : List Nat} (hds : ∀ d ∈ ds, d < 16)
    (h : cs.map Char.toLower = ds.map Nat.digitChar) : cs.map digitValue = ds := by
  induction cs generalizing ds with
  | nil => simpa [eq_comm] using h
  | cons c cs ih =>
    cases ds with
    | nil => simp at h
    | cons d ds =>
      obtain ⟨hd, hds⟩ := List.forall_mem_cons.mp hds
      rw [List.map_cons, List.map_cons, List.cons.injEq] at h
      rw [List.map_cons, (toLower_eq_digitChar_iff hd).mp h.1, ih hds h.2]

lemma readNat_eq_some_iff (hbase : base ≤ 16) : readNat base cs = some n ↔ Denotes base cs n := by
  have hread : cs ≠ [] → readNat base cs = readDigits base 0 cs := by
    cases cs with
    | nil => exact absurd rfl
    | cons c rest => exact fun _ => rfl
  constructor
  · intro h
    have hne : cs ≠ [] := by
      rintro rfl
      cases h
    rw [hread hne, readDigits_eq_some_iff, Nat.zero_mul, Nat.zero_add] at h
    obtain ⟨hdigits, hn⟩ := h
    refine ⟨hne, cs.map digitValue, List.forall_mem_map.mpr hdigits, ?_, hn⟩
    rw [List.map_map]
    refine List.map_congr_left fun c hc => ?_
    exact (toLower_eq_digitChar_iff (Nat.lt_of_lt_of_le (hdigits c hc) hbase)).mpr rfl
  · rintro ⟨hne, ds, hds, hchars, hn⟩
    have hvalues : cs.map digitValue = ds :=
      map_digitValue_eq (fun d hd => Nat.lt_of_lt_of_le (hds d hd) hbase) hchars
    subst hvalues
    rw [hread hne, readDigits_eq_some_iff, Nat.zero_mul, Nat.zero_add]
    exact ⟨List.forall_mem_map.mp hds, hn⟩

end Digits

end Autoscaler.Text

namespace Autoscaler.Yaml

/-- The letters that stand for the bases other than ten. -/
def baseLetters : List (Char × Nat) := [('x', 16), ('o', 8), ('b', 2)]

/-- A number without a sign: in decimal, where only a zero alone has a zero in front, or behind a zero
and the letter of a base. -/
inductive Magnitude : List Char → Nat → Prop
  | decimal {cs : List Char} {n : Nat} (h : Text.Denotes 10 cs n)
    (hzero : cs.head? = some '0' → cs = ['0']) : Magnitude cs n
  | lettered {letter : Char} {base : Nat} {cs : List Char} {n : Nat}
    (hletter : (letter, base) ∈ baseLetters) (h : Text.Denotes base cs n) :
    Magnitude ('0' :: letter :: cs) n

/-- A number with one sign or none. -/
def Signed (cs : List Char) (m : Int) : Prop :=
  ∃ sign digits n, cs = sign ++ digits ∧ Magnitude digits n ∧
    (sign = ['-'] ∧ m = -(n : Int) ∨ (sign = [] ∨ sign = ['+']) ∧ m = n)

variable {cs : List Char} {n : Nat} {m : Int} {s : Scalar}

lemma isDigit_of_digitValue {c : Char} (h : Text.digitValue c < 10) : c.isDigit = true := by
  have hdigit : '0' ≤ c ∧ c ≤ '9' := by
    by_contra hnot
    have hnine : ¬Text.digitValue c < 10 := by
      rw [Text.digitValue, if_neg hnot]
      split_ifs <;> omega
    exact hnine h
  rw [Char.isDigit, Bool.and_eq_true, decide_eq_true_eq, decide_eq_true_eq]
  exact hdigit

/-- Of digits in decimal, those are padded that begin with a zero and go on. -/
lemma isPaddedDigits_iff (h : ∀ c ∈ cs, Text.digitValue c < 10) :
    Value.isPaddedDigits cs = true ↔ cs.head? = some '0' ∧ cs ≠ ['0'] := by
  unfold Value.isPaddedDigits
  split
  next rest =>
    have hrest : rest.all Char.isDigit = true :=
      List.all_eq_true.mpr fun c hc => isDigit_of_digitValue (h c (List.mem_cons_of_mem _ hc))
    simp [hrest]
  next hhead =>
    refine iff_of_false (by simp) ?_
    rintro ⟨hzero, -⟩
    obtain ⟨rest, rfl⟩ := List.head?_eq_some_iff.mp hzero
    exact hhead rest rfl

lemma digitValue_lt_of_denotes (h : Text.Denotes 10 cs n) : ∀ c ∈ cs, Text.digitValue c < 10 := by
  obtain ⟨-, ds, hds, hchars, -⟩ := h
  have hvalues := Text.map_digitValue_eq (fun d hd => (hds d hd).trans (by decide)) hchars
  subst hvalues
  exact List.forall_mem_map.mp hds

lemma readMagnitude?_eq_some_iff : Value.readMagnitude? cs = some n ↔ Magnitude cs n := by
  constructor
  · intro h
    unfold Value.readMagnitude? at h
    split at h
    next => exact .lettered (by decide) ((Text.readNat_eq_some_iff (by decide)).mp h)
    next => exact .lettered (by decide) ((Text.readNat_eq_some_iff (by decide)).mp h)
    next => exact .lettered (by decide) ((Text.readNat_eq_some_iff (by decide)).mp h)
    next =>
      split at h
      next => cases h
      next hpadded =>
        have hdenotes := (Text.readNat_eq_some_iff (by decide)).mp h
        rw [isPaddedDigits_iff (digitValue_lt_of_denotes hdenotes), not_and, not_not] at hpadded
        exact .decimal hdenotes hpadded
  · intro h
    cases h with
    | decimal hdenotes hzero =>
      have hread := (Text.readNat_eq_some_iff (by decide)).mpr hdenotes
      have hpadded : Value.isPaddedDigits cs ≠ true := by
        rw [ne_eq, isPaddedDigits_iff (digitValue_lt_of_denotes hdenotes), not_and, not_not]
        exact hzero
      unfold Value.readMagnitude?
      split
      next => cases hzero rfl
      next => cases hzero rfl
      next => cases hzero rfl
      next => rw [if_neg hpadded, hread]
    | lettered hletter hdenotes =>
      simp only [baseLetters, List.mem_cons, Prod.mk.injEq, List.not_mem_nil, or_false] at hletter
      rcases hletter with ⟨rfl, rfl⟩ | ⟨rfl, rfl⟩ | ⟨rfl, rfl⟩ <;>
        exact (Text.readNat_eq_some_iff (by decide)).mpr hdenotes

/-- A number without a sign begins with no sign. -/
lemma Magnitude.head_ne (h : Magnitude cs n) :
    cs.head? ≠ some '-' ∧ cs.head? ≠ some '+' := by
  cases h with
  | lettered => simp
  | decimal hdenotes =>
    have hdigits := digitValue_lt_of_denotes hdenotes
    refine ⟨?_, ?_⟩
    · intro hhead
      exact absurd (hdigits '-' (List.mem_of_mem_head? hhead)) (by decide)
    · intro hhead
      exact absurd (hdigits '+' (List.mem_of_mem_head? hhead)) (by decide)

lemma readInteger?_eq_some_iff {text : String} :
    Value.readInteger? text = some m ↔ Signed text.toList m := by
  unfold Value.readInteger? Signed
  constructor
  · intro h
    split at h
    next cs hcs =>
      obtain ⟨n, hn, rfl⟩ : ∃ n, Value.readMagnitude? cs = some n ∧ -(n : Int) = m := by
        simpa [Option.bind_eq_some_iff] using h
      exact ⟨['-'], cs, n, hcs, readMagnitude?_eq_some_iff.mp hn, .inl ⟨rfl, rfl⟩⟩
    next cs hcs =>
      obtain ⟨n, hn, rfl⟩ := Option.map_eq_some_iff.mp h
      exact ⟨['+'], cs, n, hcs, readMagnitude?_eq_some_iff.mp hn, .inr ⟨.inr rfl, rfl⟩⟩
    next =>
      obtain ⟨n, hn, rfl⟩ := Option.map_eq_some_iff.mp h
      exact ⟨[], _, n, rfl, readMagnitude?_eq_some_iff.mp hn, .inr ⟨.inl rfl, rfl⟩⟩
  · rintro ⟨sign, digits, n, htext, hdigits, hsign⟩
    have hread := readMagnitude?_eq_some_iff.mpr hdigits
    obtain ⟨hminus, hplus⟩ := hdigits.head_ne
    rcases hsign with ⟨rfl, rfl⟩ | ⟨rfl | rfl, rfl⟩
    · simp [htext, hread]
    · rw [htext, List.nil_append]
      split
      next => simp at hminus
      next => simp at hplus
      next => rw [hread]; rfl
    · simp [htext, hread]

lemma readBoolean?_eq_some_iff {text : String} {b : Bool} : Value.readBoolean? text = some b ↔
    b = true ∧ text ∈ ["true", "True", "TRUE"] ∨
      b = false ∧ text ∈ ["false", "False", "FALSE"] := by
  unfold Value.readBoolean?
  split
  next h =>
    have htrue : text ∈ ["true", "True", "TRUE"] := by simpa using h
    have hfalse : text ∉ ["false", "False", "FALSE"] := by
      intro hfalse
      have hboth : ∀ w ∈ ["true", "True", "TRUE"], w ∉ ["false", "False", "FALSE"] := by decide
      exact hboth text htrue hfalse
    rw [Option.some_inj, and_iff_left htrue]
    simp [hfalse, eq_comm]
  next h =>
    have htrue : text ∉ ["true", "True", "TRUE"] := by simpa using h
    split
    next h =>
      have hfalse : text ∈ ["false", "False", "FALSE"] := by simpa using h
      rw [Option.some_inj, and_iff_left hfalse]
      simp [htrue, eq_comm]
    next h =>
      have hfalse : text ∉ ["false", "False", "FALSE"] := by simpa using h
      simp [htrue, hfalse]

/-- A scalar is read as a type if it is plain, or literal with the tag of the type. -/
lemma isReadAs_iff {tag : String} :
    s.isReadAs tag = true ↔ s.style = .plain ∨ s.style = .literal ∧ s.tag = some tag := by
  simp [Scalar.isReadAs]

/-- Which scalars are whole numbers, and which they are. -/
theorem Scalar.integer?_eq_some_iff : s.integer? = some m ↔
    (s.style = .plain ∨ s.style = .literal ∧ s.tag = some "tag:yaml.org,2002:int") ∧
      Signed s.text.toList m := by
  rw [Scalar.integer?, ← isReadAs_iff, ← readInteger?_eq_some_iff]
  split
  next h => simp [h]
  next h => simp [h]

example : Scalar.integer? ⟨"-0x1F", .plain, none⟩ = some (-31) := by decide

/-- Which scalars are flags, and which they are. -/
theorem Scalar.boolean?_eq_some_iff {b : Bool} : s.boolean? = some b ↔
    (s.style = .plain ∨ s.style = .literal ∧ s.tag = some "tag:yaml.org,2002:bool") ∧
      (b = true ∧ s.text ∈ ["true", "True", "TRUE"] ∨
        b = false ∧ s.text ∈ ["false", "False", "FALSE"]) := by
  rw [Scalar.boolean?, ← isReadAs_iff, ← readBoolean?_eq_some_iff]
  split
  next h => simp [h]
  next h => simp [h]

end Autoscaler.Yaml
