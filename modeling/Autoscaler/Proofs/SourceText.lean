import Autoscaler.Yaml.Source
import Mathlib.Data.List.Basic

/-!
# Texts in UTF-8 as sources

A text is read back from its bytes character by character, wherever the blocks cut it, if all of its
characters may stand in a document. If one of them may not, its source is broken.
-/

namespace Autoscaler.Yaml

/-! ### One character -/

-- A lead byte tells the length of its sequence and holds the first bits of the character.
lemma sequence_one : ∀ n < 0x80,
    sequenceLength (UInt8.ofNat n) = 1 ∧ leadBits (UInt8.ofNat n) 1 = n := by
  decide

lemma sequence_two : ∀ n < 0x20,
    sequenceLength (UInt8.ofNat (n + 0xC0)) = 2 ∧ leadBits (UInt8.ofNat (n + 0xC0)) 2 = n := by
  decide

lemma sequence_three : ∀ n < 0x10,
    sequenceLength (UInt8.ofNat (n + 0xE0)) = 3 ∧ leadBits (UInt8.ofNat (n + 0xE0)) 3 = n := by
  decide

lemma sequence_four : ∀ n < 0x08,
    sequenceLength (UInt8.ofNat (n + 0xF0)) = 4 ∧ leadBits (UInt8.ofNat (n + 0xF0)) 4 = n := by
  decide

lemma continuation : ∀ n < 0x40, UInt8.ofNat (n + 0x80) &&& 0xC0 = 0x80 ∧
    (UInt8.ofNat (n + 0x80) &&& 0x3F).toNat = n := by
  decide

lemma continueBits_cons {n value : Nat} (h : n < 0x40) (tail : List UInt8) :
    continueBits value (UInt8.ofNat (n + 0x80) :: tail) = continueBits (value * 64 + n) tail := by
  obtain ⟨hmark, hbits⟩ := continuation n h
  rw [continueBits, if_pos hmark, hbits]

lemma sequenceChar?_of_bits {c : Char} {lead : UInt8} {length : Nat} {tail : List UInt8}
    (hbits : continueBits (leadBits lead length) tail = some c.toNat)
    (hleast : leastCode length ≤ c.toNat) :
    sequenceChar? lead length tail = if isAllowed c then some c else none := by
  have hvalid : c.toNat.isValidChar := c.valid
  simp only [sequenceChar?, hbits, Option.bind_eq_bind, Option.bind_some, Char.ofNat_toNat,
    Nat.not_lt.mpr hleast, hvalid, not_true_eq_false, or_self, if_false]

/-- What is read of the bytes of one character. -/
lemma encoded_char (c : Char) : ∃ lead tail, String.utf8EncodeChar c = lead :: tail ∧
    sequenceLength lead = tail.length + 1 ∧
    sequenceChar? lead (tail.length + 1) tail = if isAllowed c then some c else none := by
  have hv : c.val.toNat = c.toNat := rfl
  have hmax : c.toNat < 0x110000 := by
    rcases c.valid with h | ⟨-, h⟩
    · have : c.val.toNat < 0xD800 := h
      omega
    · exact h
  rw [String.utf8EncodeChar, hv]
  split
  next h =>
    obtain ⟨hlength, hbits⟩ := sequence_one c.toNat (by omega)
    refine ⟨_, _, rfl, hlength, sequenceChar?_of_bits ?_ (Nat.zero_le _)⟩
    rw [List.length_nil, hbits]
    rfl
  next h =>
  split
  next h2 =>
    obtain ⟨hlength, hbits⟩ := sequence_two (c.toNat / 64 % 0x20) (by omega)
    refine ⟨_, _, rfl, hlength, sequenceChar?_of_bits ?_ ?_⟩
    · rw [List.length_singleton, hbits, continueBits_cons (by omega), continueBits]
      congr 1
      omega
    · rw [List.length_singleton, leastCode]
      omega
  next h2 =>
  split
  next h3 =>
    obtain ⟨hlength, hbits⟩ := sequence_three (c.toNat / 4096 % 0x10) (by omega)
    refine ⟨_, _, rfl, hlength, sequenceChar?_of_bits ?_ ?_⟩
    · rw [List.length_cons, List.length_singleton, hbits, continueBits_cons (by omega),
        continueBits_cons (by omega), continueBits]
      congr 1
      omega
    · rw [List.length_cons, List.length_singleton, leastCode]
      omega
  next h3 =>
    obtain ⟨hlength, hbits⟩ := sequence_four (c.toNat / 262144 % 0x08) (by omega)
    refine ⟨_, _, rfl, hlength, sequenceChar?_of_bits ?_ ?_⟩
    · rw [List.length_cons, List.length_cons, List.length_singleton, hbits,
        continueBits_cons (by omega), continueBits_cons (by omega), continueBits_cons (by omega),
        continueBits]
      congr 1
      omega
    · simp only [List.length_cons, List.length_nil, leastCode]
      omega

/-! ### Blocks -/

lemma isAllowed_of_sequenceChar? {lead : UInt8} {length : Nat} {tail : List UInt8} {c : Char}
    (h : sequenceChar? lead length tail = some c) : isAllowed c = true := by
  obtain ⟨n, -, h⟩ := Option.bind_eq_some_iff.mp h
  split at h
  · cases h
  · dsimp only at h
    split at h
    · cases h
      assumption
    · cases h

lemma isAllowed_of_decodeBlock {fuel : Nat} {bytes left : List UInt8} {cs : List Char}
    (h : decodeBlock fuel bytes = some (cs, left)) : ∀ c ∈ cs, isAllowed c = true := by
  induction fuel generalizing bytes cs left with
  | zero =>
    cases h
    simp
  | succ fuel ih =>
    cases bytes with
    | nil =>
      cases h
      simp
    | cons lead rest =>
      rw [decodeBlock] at h
      dsimp only at h
      split at h
      · cases h
      split at h
      · cases h
        simp
      · obtain ⟨c, hc, h⟩ := Option.bind_eq_some_iff.mp h
        obtain ⟨⟨cs, left⟩, hcs, h⟩ := Option.bind_eq_some_iff.mp h
        cases h
        exact List.forall_mem_cons.mpr ⟨isAllowed_of_sequenceChar? hc, ih hcs⟩

/-- No source has a character that is not allowed. -/
lemma isAllowed_of_mem_readBlocks {fuel : Nat} {left bytes : List UInt8} :
    ∀ c ∈ (readBlocks fuel left bytes).chars, isAllowed c = true := by
  induction fuel generalizing left bytes with
  | zero => simp [readBlocks]
  | succ fuel ih =>
    rw [readBlocks]
    split
    · simp
    · split
      next => simp
      next hread => exact List.forall_mem_append.mpr ⟨isAllowed_of_decodeBlock hread, ih⟩

/-- The bytes of characters in UTF-8. -/
def encode (text : List Char) : List UInt8 := text.flatMap String.utf8EncodeChar

lemma toUTF8_eq_encode (text : String) : text.toUTF8.data.toList = encode text.toList := by
  obtain ⟨cs, rfl⟩ : ∃ cs, text = String.ofList cs := ⟨text.toList, String.ofList_toList.symm⟩
  rw [String.toList_ofList]
  simp [String.toUTF8_eq_toByteArray, List.utf8Encode, encode]

lemma decodeBlock_short {fuel : Nat} {lead : UInt8} {rest : List UInt8} {n : Nat}
    (hlength : sequenceLength lead = n + 1) (hshort : rest.length < n) :
    decodeBlock (fuel + 1) (lead :: rest) = some ([], lead :: rest) := by
  have htail : (rest.take n).length < n := by
    rw [List.length_take]
    omega
  simp only [decodeBlock, hlength, Nat.add_sub_cancel, if_neg (Nat.succ_ne_zero n), if_pos htail]

lemma decodeBlock_whole {fuel : Nat} {lead : UInt8} {tail rest : List UInt8}
    (hlength : sequenceLength lead = tail.length + 1) :
    decodeBlock (fuel + 1) (lead :: (tail ++ rest)) =
      (sequenceChar? lead (tail.length + 1) tail).bind fun c =>
        (decodeBlock fuel rest).map fun read => (c :: read.1, read.2) := by
  simp only [decodeBlock, hlength, Nat.add_sub_cancel, if_neg (Nat.succ_ne_zero tail.length),
    List.take_left, List.drop_left, Nat.lt_irrefl, if_false]
  cases sequenceChar? lead (tail.length + 1) tail with
  | none => rfl
  | some c => cases decodeBlock fuel rest <;> rfl

/-- Bytes that were cut off from a text are less than the first of the characters after it. -/
def CutOff (left : List UInt8) : List Char → Prop
  | [] => left = []
  | c :: _ => left.length < c.utf8Size

lemma CutOff.length_lt {left : List UInt8} {text : List Char} (h : CutOff left text) :
    left.length < 4 := by
  cases text with
  | nil =>
    rw [CutOff] at h
    rw [h]
    decide
  | cons c rest => exact Nat.lt_of_lt_of_le h c.utf8Size_le_four

/-- What was cut off from a text is not all of it. -/
lemma CutOff.eq_nil_of_encode {left : List UInt8} {text : List Char} (h : CutOff left text)
    (hleft : left = encode text) : text = [] ∧ left = [] := by
  cases text with
  | nil => exact ⟨rfl, h⟩
  | cons c rest =>
    rw [CutOff, hleft, encode, List.flatMap_cons, List.length_append,
      String.length_utf8EncodeChar] at h
    omega

/-- Reading the front of a text gives its characters as far as they are whole, or fails at one that
is not allowed. -/
lemma decodeBlock_encode {text : List Char} {front back : List UInt8} {fuel : Nat}
    (h : front ++ back = encode text) (hfuel : front.length ≤ fuel) :
    (∃ early late left, text = early ++ late ∧ (∀ c ∈ early, isAllowed c = true) ∧
      decodeBlock fuel front = some (early, left) ∧ left ++ back = encode late ∧
      CutOff left late) ∨
    decodeBlock fuel front = none ∧ ∃ c ∈ text, isAllowed c = false := by
  induction text generalizing front fuel with
  | nil =>
    obtain ⟨rfl, rfl⟩ := List.append_eq_nil_iff.mp h
    refine .inl ⟨[], [], [], rfl, by simp, ?_, rfl, rfl⟩
    cases fuel <;> rfl
  | cons c rest ih =>
    obtain ⟨lead, tail, hc, hlength, hchar⟩ := encoded_char c
    have hsize : tail.length + 1 = c.utf8Size := by
      rw [← String.length_utf8EncodeChar, hc, List.length_cons]
    rw [encode, List.flatMap_cons, hc, List.cons_append] at h
    cases front with
    | nil =>
      refine .inl ⟨[], c :: rest, [], rfl, by simp, ?_, ?_, c.utf8Size_pos⟩
      · cases fuel <;> rfl
      · rw [h, encode, List.flatMap_cons, hc, List.cons_append]
    | cons b front =>
      cases fuel with
      | zero => cases hfuel
      | succ fuel =>
      obtain ⟨rfl, htail⟩ := List.cons.inj h
      by_cases hshort : front.length < tail.length
      · -- The block ends within the character.
        refine .inl ⟨[], c :: rest, b :: front, rfl, by simp, ?_, ?_, ?_⟩
        · exact decodeBlock_short hlength hshort
        · rw [encode, List.flatMap_cons, hc, h, List.cons_append]
        · rw [CutOff, ← hsize, List.length_cons]
          omega
      · obtain ⟨later, rfl⟩ : tail <+: front :=
          List.prefix_of_prefix_length_le ⟨_, htail.symm⟩ (List.prefix_append _ _) (by omega)
        rw [List.append_eq, List.append_assoc, List.append_cancel_left_eq] at htail
        rw [decodeBlock_whole hlength, hchar]
        cases hallowed : isAllowed c with
        | false =>
          refine .inr ⟨rfl, c, List.mem_cons_self, hallowed⟩
        | true =>
          rw [if_pos rfl, Option.bind_some]
          have hrest : later.length ≤ fuel := by
            simp only [List.length_cons, List.length_append] at hfuel
            omega
          rcases ih htail hrest with ⟨early, late, left, rfl, hearly, hread, hleft, hcut⟩ |
            ⟨hread, d, hd, hbad⟩
          · refine .inl ⟨c :: early, late, left, rfl, ?_, ?_, hleft, hcut⟩
            · exact List.forall_mem_cons.mpr ⟨hallowed, hearly⟩
            · rw [hread]
              rfl
          · refine .inr ⟨?_, d, List.mem_cons_of_mem _ hd, hbad⟩
            rw [hread]
            rfl

lemma readBlocks_eq {fuel : Nat} {left bytes : List UInt8} (hbytes : bytes ≠ [])
    (hleft : left.length < blockSize) :
    readBlocks (fuel + 1) left bytes =
      match decodeBlock blockSize (left ++ bytes.take (blockSize - left.length)) with
      | none => ⟨[], true⟩
      | some (cs, left') =>
        let later := readBlocks fuel left' (bytes.drop (blockSize - left.length))
        ⟨cs ++ later.chars, later.broken⟩ := by
  have hblock : bytes.take (blockSize - left.length) ≠ [] := by
    rw [Ne, List.take_eq_nil_iff, not_or]
    exact ⟨by omega, hbytes⟩
  rw [readBlocks]
  split
  next hnil => exact absurd hnil hblock
  next => rfl

/-- Reading a text block by block gives all of its characters, or breaks if one of them is not
allowed. -/
lemma readBlocks_encode {rounds : Nat} {text : List Char} {left bytes : List UInt8}
    (h : left ++ bytes = encode text) (hcut : CutOff left text)
    (hrounds : bytes.length ≤ rounds * (blockSize - 4)) :
    ((∀ c ∈ text, isAllowed c = true) ∧ readBlocks (rounds + 1) left bytes = ⟨text, false⟩) ∨
    ((∃ c ∈ text, isAllowed c = false) ∧
      (readBlocks (rounds + 1) left bytes).broken = true) := by
  have hsize : blockSize = 16384 := rfl
  induction rounds generalizing text left bytes with
  | zero =>
    obtain rfl : bytes = [] := List.length_eq_zero_iff.mp (by omega)
    obtain ⟨rfl, rfl⟩ := hcut.eq_nil_of_encode (by rw [← h, List.append_nil])
    exact .inl ⟨by simp, by simp [readBlocks]⟩
  | succ rounds ih =>
    have hleft := hcut.length_lt
    by_cases hbytes : bytes = []
    · subst hbytes
      obtain ⟨rfl, rfl⟩ := hcut.eq_nil_of_encode (by rw [← h, List.append_nil])
      exact .inl ⟨by simp, by simp [readBlocks]⟩
    rw [readBlocks_eq hbytes (by omega)]
    have hblock : (left ++ bytes.take (blockSize - left.length)).length ≤ blockSize := by
      simp only [List.length_append, List.length_take]
      omega
    have hwhole : left ++ bytes.take (blockSize - left.length) ++
        bytes.drop (blockSize - left.length) = encode text := by
      rw [List.append_assoc, List.take_append_drop, h]
    rcases decodeBlock_encode hwhole hblock with
      ⟨early, late, left', rfl, hearly, hread, hleft', hcut'⟩ | ⟨hread, hbad⟩
    · rw [hread]
      have hrounds' : (bytes.drop (blockSize - left.length)).length ≤ rounds * (blockSize - 4) := by
        have hround : blockSize - 4 = 16380 := rfl
        rw [hround] at hrounds ⊢
        rw [List.length_drop]
        omega
      rcases ih hleft' hcut' hrounds' with ⟨hlate, hlater⟩ | ⟨⟨c, hc, hbad⟩, hlater⟩
      · refine .inl ⟨List.forall_mem_append.mpr ⟨hearly, hlate⟩, ?_⟩
        simp only [hlater]
      · exact .inr ⟨⟨c, List.mem_append_right _ hc, hbad⟩, hlater⟩
    · rw [hread]
      exact .inr ⟨hbad, rfl⟩

/-- A text whose characters are all allowed is read as it is; any other is broken. -/
lemma source_encode (text : List Char) :
    ((∀ c ∈ text, isAllowed c = true) ∧ Source.ofBytes (encode text) = ⟨text, false⟩) ∨
    ((∃ c ∈ text, isAllowed c = false) ∧ (Source.ofBytes (encode text)).broken = true) := by
  have hcut : CutOff [] text := by
    cases text with
    | nil => rfl
    | cons c rest => exact c.utf8Size_pos
  refine readBlocks_encode rfl hcut ?_
  have hround : blockSize - 4 = 16380 := rfl
  rw [hround]
  omega

end Autoscaler.Yaml
