import Autoscaler.Net.Ip
import Autoscaler.Proofs.NumberText

/-!
# The text of an internet address

The parts of an address of version 4 are read back one after the other. The groups of one of version
6 are read as far as they go, also where a run of zeros is left out, since no group is taken for the
start of an address of version 4 and the two colons of the gap start no group.
-/

namespace Autoscaler.Net
open Text (digitValue)

lemma forall_head?_cons {p : Char → Prop} {c : Char} {s : List Char} :
    (∀ d ∈ (c :: s).head?, p d) ↔ p c := by
  simp

/-! ### Numbers -/

section Numbers

variable {base maxDigits limit n : Nat} {padded : Bool} {rest : List Char}

lemma readNumber_toDigits (hbase : 1 < base) (hsixteen : base ≤ 16) (hmax : 0 < maxDigits)
    (hn : n < base ^ maxDigits) (hrest : ∀ c ∈ rest.head?, base ≤ digitValue c) :
    readNumber base maxDigits padded (Nat.toDigits base n ++ rest) = some (n, rest) := by
  have hdigits : ∀ c ∈ Nat.toDigits base n, decide (digitValue c < base) = true := fun c hc =>
    decide_eq_true (Text.digitValue_lt_of_mem_toDigits hbase hsixteen hc)
  have hstop : ∀ c ∈ rest.head?, decide (digitValue c < base) = false := fun c hc =>
    decide_eq_false (not_lt.mpr (hrest c hc))
  have hlength : (Nat.toDigits base n).length ≤ maxDigits :=
    (Nat.length_toDigits_le_iff hbase hmax).mpr hn
  have hzeros : ¬((!padded && (Nat.toDigits base n).head? == some '0' &&
      decide (1 < (Nat.toDigits base n).length)) = true) := by
    by_cases hzero : n = 0
    · simp [hzero]
    · have hhead := Text.head?_toDigits hbase (Nat.pos_of_ne_zero hzero)
      simp [hhead]
  rw [readNumber, (Duration.takeWhile_dropWhile_append hdigits hstop).1, if_neg (not_lt.mpr hlength),
    if_neg hzeros, Text.readNat_toDigits hbase hsixteen, Option.map_some, List.drop_left]

lemma readNumber_eq_none (hhead : ∀ c ∈ rest.head?, base ≤ digitValue c) :
    readNumber base maxDigits padded rest = none := by
  have hnone : rest.takeWhile (fun c => decide (digitValue c < base)) = [] := by
    cases rest with
    | nil => rfl
    | cons c rest =>
      have hc : ¬digitValue c < base := not_lt.mpr (hhead c rfl)
      simp [hc]
  simp [readNumber, hnone, Text.readNat]

/-- A number is read up to the first character that is no digit. -/
lemma rest_of_readNumber {s : List Char} (h : readNumber base maxDigits padded s = some (n, rest)) :
    rest = s.dropWhile fun c => decide (digitValue c < base) := by
  rw [readNumber] at h
  split at h
  next => cases h
  next =>
    split at h
    next => cases h
    next =>
      obtain ⟨m, -, hm⟩ := Option.map_eq_some_iff.mp h
      obtain ⟨-, rfl⟩ := Prod.mk.inj hm
      have hdrop : ((s.takeWhile fun c => decide (digitValue c < base)) ++
          s.dropWhile fun c => decide (digitValue c < base)).drop
            (s.takeWhile fun c => decide (digitValue c < base)).length =
          s.dropWhile fun c => decide (digitValue c < base) := List.drop_left
      rwa [List.takeWhile_append_dropWhile] at hdrop

lemma readBelow_natDigits (hn : n < limit) (hrest : ∀ c ∈ rest.head?, c.isDigit = false) :
    readBelow limit (Text.natDigits n ++ rest) = some (n, rest) := by
  have hdigits : ∀ c ∈ Text.natDigits n, c.isDigit = true := fun c =>
    Nat.isDigit_of_mem_toDigits (by decide) (by decide)
  have hread : Text.readNat 10 (Text.natDigits n) = some n :=
    Text.readNat_toDigits (by decide) (by decide) n
  rw [readBelow, (Duration.takeWhile_dropWhile_append hdigits hrest).1]
  simp only [hread, if_pos hn, List.drop_left]

lemma readOctet_natDigits (b : UInt8) (hrest : ∀ c ∈ rest.head?, 10 ≤ digitValue c) :
    readOctet (Text.natDigits b.toNat ++ rest) = some (b, rest) := by
  have hlimit : b.toNat < 256 := b.toNat_lt
  have hread : readNumber 10 3 false (Text.natDigits b.toNat ++ rest) = some (b.toNat, rest) :=
    readNumber_toDigits (by decide) (by decide) (by decide) (by omega) hrest
  simp [readOctet, hread, hlimit]

end Numbers

lemma readChar_cons (c : Char) (rest : List Char) : readChar c (c :: rest) = some rest := by
  rw [readChar, if_pos rfl]

lemma Ipv4.read_eq_none {s : List Char} (h : ∀ c ∈ s.head?, 10 ≤ digitValue c) :
    Ipv4.read s = none := by
  have hnone : readNumber 10 3 false s = none := readNumber_eq_none h
  simp [Ipv4.read, readOctet, hnone]

lemma Ipv4.read_chars (ip : Ipv4) {rest : List Char} (hrest : ∀ c ∈ rest.head?, 10 ≤ digitValue c) :
    Ipv4.read (ip.chars ++ rest) = some (ip, rest) := by
  have hpoint (s : List Char) : ∀ c ∈ ('.' :: s).head?, 10 ≤ digitValue c :=
    forall_head?_cons.mpr (by decide)
  simp only [Ipv4.read, Ipv4.chars, List.append_assoc, List.cons_append]
  rw [readOctet_natDigits ip.a (hpoint _)]
  simp only [Option.bind_eq_bind, Option.bind_some, readChar_cons]
  rw [readOctet_natDigits ip.b (hpoint _)]
  simp only [Option.bind_some, readChar_cons]
  rw [readOctet_natDigits ip.c (hpoint _)]
  simp only [Option.bind_some, readChar_cons]
  rw [readOctet_natDigits ip.d hrest]
  rfl

/-! ### Groups -/

/-- What follows continues neither a group nor an address of version 4. -/
def EndsGroup (rest : List Char) : Prop := ∀ c ∈ rest.head?, 16 ≤ digitValue c ∧ c ≠ '.'

lemma endsGroup_colon (s : List Char) : EndsGroup (':' :: s) :=
  forall_head?_cons.mpr (by decide)

/-- What follows has no further group, neither at once nor after a colon. -/
def EndsGroups (rest : List Char) : Prop :=
  EndsGroup rest ∧ ∀ more, readChar ':' rest = some more → ∀ c ∈ more.head?, 16 ≤ digitValue c

namespace Ipv6

section Groups

variable {s rest : List Char} {room : Nat} {first : Bool}

/-- The decimal digits in front of a group are not followed by a point. -/
lemma head?_dropWhile_hexDigits (g : UInt16) (hrest : EndsGroup rest) :
    ∀ c ∈ ((Text.hexDigits g.toNat ++ rest).dropWhile fun c => decide (digitValue c < 10)).head?,
      c ≠ '.' := by
  intro c hc
  rw [List.dropWhile_append] at hc
  split at hc
  next =>
    cases rest with
    | nil => cases hc
    | cons d rest =>
      have hd := hrest d rfl
      have hstop : ¬digitValue d < 10 := by omega
      rw [List.dropWhile_cons_of_neg (by simpa using hstop), List.head?_cons] at hc
      obtain rfl := Option.some_inj.mp hc
      exact hd.2
  next hne =>
    have hmem : c ∈ Text.hexDigits g.toNat := by
      rw [List.head?_append_of_ne_nil _ (by simpa using hne)] at hc
      exact (List.dropWhile_suffix _).subset (List.mem_of_mem_head? hc)
    rintro rfl
    exact absurd (Text.digitValue_lt_of_mem_toDigits (by decide) (by decide) hmem) (by decide)

/-- A group is not taken for the start of an address of version 4. -/
lemma read_hexDigits_eq_none (g : UInt16) (hrest : EndsGroup rest) :
    Ipv4.read (Text.hexDigits g.toNat ++ rest) = none := by
  have hpoint : ∀ p ∈ readOctet (Text.hexDigits g.toNat ++ rest), readChar '.' p.2 = none := by
    intro p hp
    obtain ⟨⟨n, more⟩, hnumber, hoctet⟩ := Option.bind_eq_some_iff.mp hp
    have hmore : p.2 = more := by
      dsimp only at hoctet
      split at hoctet
      next => rw [← Option.some_inj.mp hoctet]
      next => cases hoctet
    rw [hmore, rest_of_readNumber hnumber]
    have hhead := head?_dropWhile_hexDigits g hrest
    generalize (Text.hexDigits g.toNat ++ rest).dropWhile _ = tail at hhead
    cases tail with
    | nil => rfl
    | cons c tail => rw [readChar, if_neg (hhead c rfl)]
  cases hoctet : readOctet (Text.hexDigits g.toNat ++ rest) with
  | none => simp [Ipv4.read, hoctet]
  | some p =>
    have hnone := hpoint p hoctet
    simp [Ipv4.read, hoctet, hnone]

lemma readNumber_hexDigits (g : UInt16) (hrest : EndsGroup rest) :
    readNumber 16 4 true (Text.hexDigits g.toNat ++ rest) = some (g.toNat, rest) :=
  readNumber_toDigits (by decide) (by decide) (by decide) g.toNat_lt fun c hc => (hrest c hc).1

lemma readSeparator_colon (s : List Char) : readSeparator false (':' :: s) = some s := by
  simp [readSeparator, readChar_cons]

/-- One more group. -/
lemma readGroups_group {g : UInt16}
    (hs : readSeparator first s = some (Text.hexDigits g.toNat ++ rest)) (hrest : EndsGroup rest) :
    readGroups (room + 1) first s =
      (g :: (readGroups room false rest).1, (readGroups room false rest).2) := by
  have hembedded : (if room = 0 then none else (readSeparator first s).bind Ipv4.read) = none := by
    rw [hs, Option.bind_some, read_hexDigits_eq_none g hrest, ite_self]
  rw [readGroups, hembedded, hs, Option.bind_some, readNumber_hexDigits g hrest]
  simp

/-- The last two groups, written as an address of version 4. -/
lemma readGroups_ipv4 {ip : Ipv4} (hs : readSeparator first s = some (ip.chars ++ rest))
    (hrest : EndsGroup rest) : readGroups (room + 2) first s = (ip.toGroups, true, rest) := by
  have hread : Ipv4.read (ip.chars ++ rest) = some (ip, rest) :=
    ip.read_chars fun c hc => Nat.le_trans (by decide) (hrest c hc).1
  simp [readGroups, hs, hread]

lemma readGroups_stop (h : ∀ more, readSeparator first s = some more →
    ∀ c ∈ more.head?, 16 ≤ digitValue c) : readGroups room first s = ([], false, s) := by
  cases room with
  | zero => rfl
  | succ room =>
    cases hs : readSeparator first s with
    | none => simp [readGroups, hs]
    | some more =>
      have hnumber : readNumber 16 4 true more = none := readNumber_eq_none (h more hs)
      have haddress : Ipv4.read more = none :=
        Ipv4.read_eq_none fun c hc => Nat.le_trans (by decide) (h more hs c hc)
      simp [readGroups, hs, haddress, hnumber]

/-- Groups, each with a colon in front of it. -/
def followers (groups : List UInt16) : List Char :=
  groups.flatMap fun g => ':' :: Text.hexDigits g.toNat

lemma groupChars_cons (g : UInt16) (groups : List UInt16) :
    groupChars (g :: groups) = Text.hexDigits g.toNat ++ followers groups := by
  induction groups generalizing g with
  | nil => simp [groupChars, followers, List.intercalate]
  | cons h groups ih =>
    have hcons : groupChars (g :: h :: groups) =
        Text.hexDigits g.toNat ++ ':' :: groupChars (h :: groups) := by
      simp [groupChars, List.intercalate]
    rw [hcons, ih]
    rfl

lemma endsGroup_followers (groups : List UInt16) (hrest : EndsGroup rest) :
    EndsGroup (followers groups ++ rest) := by
  cases groups with
  | nil => exact hrest
  | cons g groups => exact endsGroup_colon _

lemma readGroups_followers {groups : List UInt16} (hroom : groups.length ≤ room)
    (hrest : EndsGroup rest) (hend : groups.length < room → EndsGroups rest) :
    readGroups room false (followers groups ++ rest) = (groups, false, rest) := by
  induction groups generalizing room with
  | nil =>
    cases room with
    | zero => rfl
    | succ room => exact readGroups_stop (hend (Nat.succ_pos room)).2
  | cons g groups ih =>
    obtain ⟨room, rfl⟩ : ∃ r, room = r + 1 := ⟨room - 1, by rw [List.length_cons] at hroom; omega⟩
    rw [List.length_cons] at hroom hend
    have hs : readSeparator false (followers (g :: groups) ++ rest) =
        some (Text.hexDigits g.toNat ++ (followers groups ++ rest)) := by
      simp [followers, readSeparator_colon]
    rw [readGroups_group hs (endsGroup_followers groups hrest),
      ih (by omega) fun hlt => hend (by omega)]

/-- Groups are read as far as they go. -/
lemma readGroups_groupChars {groups : List UInt16} (hroom : groups.length ≤ room)
    (hrest : EndsGroup rest) (hend : groups.length < room → EndsGroups rest) :
    readGroups room true (groupChars groups ++ rest) = (groups, false, rest) := by
  cases groups with
  | nil =>
    refine readGroups_stop fun more hmore c hc => ?_
    obtain rfl := Option.some_inj.mp hmore
    exact (hrest c hc).1
  | cons g groups =>
    obtain ⟨room, rfl⟩ : ∃ r, room = r + 1 := ⟨room - 1, by rw [List.length_cons] at hroom; omega⟩
    rw [List.length_cons] at hroom hend
    have hs : readSeparator true (groupChars (g :: groups) ++ rest) =
        some (Text.hexDigits g.toNat ++ (followers groups ++ rest)) := by
      rw [groupChars_cons, List.append_assoc]
      rfl
    rw [readGroups_group hs (endsGroup_followers groups hrest),
      readGroups_followers (by omega) hrest fun hlt => hend (by omega)]

end Groups

end Ipv6
end Autoscaler.Net
