import Autoscaler.Net.SocketAddress
import Autoscaler.Proofs.AddressText

/-!
# Addresses to listen on, printed and read again

The text form of an address, with the first of the longest runs of zero groups left out, is what is
printed, and it is read as that address whatever form the address was given in.
-/

namespace Autoscaler.Net

namespace Ipv6

/-! ### Runs of zeros -/

/-- Groups fall into those before a run of zeros, the run and those after it. The run has at least
two zeros, none is longer, and none of its length starts before it. -/
structure Shortened (groups head : List UInt16) (zeros : Nat) (tail : List UInt16) : Prop where
  groups_eq : groups = head ++ List.replicate zeros 0 ++ tail
  two_le : 2 ≤ zeros
  longest : ∀ before n after, groups = before ++ List.replicate n 0 ++ after → n ≤ zeros
  first : ∀ before after, groups = before ++ List.replicate zeros 0 ++ after →
    head.length ≤ before.length

section Runs

variable {groups before after : List UInt16} {n bound : Nat} {best : Nat × Nat}

lemma le_zeroRun_append : n ≤ zeroRun (List.replicate n 0 ++ after) := by
  induction n with
  | zero => exact Nat.zero_le _
  | succ n ih =>
    have hrun : zeroRun (List.replicate (n + 1) 0 ++ after) =
        zeroRun (List.replicate n 0 ++ after) + 1 := by
      simp [zeroRun, List.replicate_succ]
    omega

lemma le_zeroRun_drop (h : groups = before ++ List.replicate n 0 ++ after) :
    n ≤ zeroRun (groups.drop before.length) := by
  rw [h, List.append_assoc, List.drop_left]
  exact le_zeroRun_append

lemma eq_append_drop (h : n ≤ zeroRun groups) :
    groups = List.replicate n 0 ++ groups.drop n := by
  induction n generalizing groups with
  | zero => rfl
  | succ n ih =>
    cases groups with
    | nil => cases h
    | cons g groups =>
      by_cases hg : g = 0
      · subst hg
        have hle : n ≤ zeroRun groups := by simpa [zeroRun] using h
        rw [List.replicate_succ, List.cons_append, List.drop_succ_cons, ← ih hle]
      · simp [zeroRun, hg] at h

/-- The first of the longest runs of zeros that start before `bound`. -/
structure IsLongestRun (groups : List UInt16) (bound : Nat) (best : Nat × Nat) : Prop where
  start_le : best.1 ≤ bound
  le_run : best.2 ≤ zeroRun (groups.drop best.1)
  run_le : ∀ j < bound, zeroRun (groups.drop j) ≤ best.2
  first : ∀ j < bound, best.2 ≤ zeroRun (groups.drop j) → best.1 ≤ j

/-- A run that starts at `bound` is taken if it is longer than all before it. -/
lemma IsLongestRun.step (h : IsLongestRun groups bound best) :
    IsLongestRun groups (bound + 1)
      (if best.2 < zeroRun (groups.drop bound) then (bound, zeroRun (groups.drop bound))
      else best) := by
  by_cases hlonger : best.2 < zeroRun (groups.drop bound)
  · rw [if_pos hlonger]
    refine ⟨Nat.le_succ _, Nat.le_refl _, fun j hj => ?_, fun j hj hle => ?_⟩
    · obtain hj | rfl := Nat.lt_succ_iff_lt_or_eq.mp hj
      · exact Nat.le_of_lt (Nat.lt_of_le_of_lt (h.run_le j hj) hlonger)
      · exact Nat.le_refl _
    · by_contra hlt
      have hrun := h.run_le j (Nat.lt_of_not_le hlt)
      dsimp only at hle
      omega
  · rw [if_neg hlonger]
    refine ⟨Nat.le_succ_of_le h.start_le, h.le_run, fun j hj => ?_, fun j hj hle => ?_⟩
    · obtain hj | rfl := Nat.lt_succ_iff_lt_or_eq.mp hj
      · exact h.run_le j hj
      · exact Nat.le_of_not_lt hlonger
    · obtain hj | rfl := Nat.lt_succ_iff_lt_or_eq.mp hj
      · exact h.first j hj hle
      · exact h.start_le

lemma isLongestRun (groups : List UInt16) : IsLongestRun groups 8 (longestRun groups) := by
  rw [longestRun]
  generalize 8 = bound
  induction bound with
  | zero =>
    exact ⟨Nat.le_refl _, Nat.zero_le _, fun j hj => absurd hj (Nat.not_lt_zero j),
      fun j _ _ => Nat.zero_le j⟩
  | succ bound ih =>
    rw [List.range_succ, List.foldl_append]
    exact ih.step

lemma le_longestRun (hlength : groups.length = 8)
    (h : groups = before ++ List.replicate n 0 ++ after) : n ≤ (longestRun groups).2 := by
  by_cases hn : n = 0
  · omega
  · have hsum := congrArg List.length h
    simp only [List.length_append, List.length_replicate] at hsum
    have hle := (isLongestRun groups).run_le before.length (by omega)
    exact Nat.le_trans (le_zeroRun_drop h) hle

lemma shortened_longestRun (hlength : groups.length = 8) (htwo : 2 ≤ (longestRun groups).2) :
    Shortened groups (groups.take (longestRun groups).1) (longestRun groups).2
      (groups.drop ((longestRun groups).1 + (longestRun groups).2)) := by
  have hrun := isLongestRun groups
  refine ⟨?_, htwo, fun before n after h => le_longestRun hlength h, fun before after h => ?_⟩
  · rw [← List.drop_drop, List.append_assoc, ← eq_append_drop hrun.le_run, List.take_append_drop]
  · have hsum := congrArg List.length h
    simp only [List.length_append, List.length_replicate] at hsum
    have hfirst := hrun.first before.length (by omega) (le_zeroRun_drop h)
    rw [List.length_take]
    exact Nat.le_trans (Nat.min_le_left _ _) hfirst

end Runs

/-! ### The text form -/

/-- The text forms of an address. One that is mapped shows the address of version 4. Else the first
of the longest runs of zeros is left out, if one has two zeros at least. -/
inductive Written (ip : Ipv6) : List Char → Prop
  | mapped (v4 : Ipv4) (h : ip.groups = [0, 0, 0, 0, 0, 0xFFFF] ++ v4.toGroups) :
    Written ip ("::ffff:".toList ++ v4.chars)
  | shortened {head zeros tail}
    (hmapped : ∀ v4 : Ipv4, ip.groups ≠ [0, 0, 0, 0, 0, 0xFFFF] ++ v4.toGroups)
    (h : Shortened ip.groups head zeros tail) :
    Written ip (groupChars head ++ ':' :: ':' :: groupChars tail)
  | full (h : ∀ before after, ip.groups ≠ before ++ List.replicate 2 0 ++ after) :
    Written ip (groupChars ip.groups)

/-- A group consists of its two bytes. -/
lemma group_eq (g : UInt16) : (g / 256).toUInt8.toUInt16 * 256 + g.toUInt8.toUInt16 = g := by
  apply UInt16.toNat_inj.mp
  have hg : g.toNat < 65536 := g.toNat_lt
  simp
  omega

lemma groups_of_mapped? {ip : Ipv6} {v4 : Ipv4} (h : ip.mapped? = some v4) :
    ip.groups = [0, 0, 0, 0, 0, 0xFFFF] ++ v4.toGroups := by
  rw [mapped?] at h
  split at h
  next hi lo hgroups =>
    obtain rfl := Option.some_inj.mp h
    rw [hgroups, Ipv4.toGroups, group_eq, group_eq]
    rfl
  next => cases h

lemma mapped?_ne_none {ip : Ipv6} {v4 : Ipv4}
    (h : ip.groups = [0, 0, 0, 0, 0, 0xFFFF] ++ v4.toGroups) : ip.mapped? ≠ none := by
  rw [mapped?, h, Ipv4.toGroups]
  exact Option.some_ne_none _

/-- What is printed is the text form. -/
lemma written_chars (ip : Ipv6) : ip.Written ip.chars := by
  rw [chars]
  cases hmapped : ip.mapped? with
  | some v4 => exact .mapped v4 (groups_of_mapped? hmapped)
  | none =>
    by_cases hshort : (longestRun ip.groups).2 < 2
    · simp only [hshort, if_true]
      refine .full fun before after h => ?_
      exact absurd (le_longestRun ip.length_groups h) (Nat.not_le_of_lt hshort)
    · have hrun := shortened_longestRun ip.length_groups (Nat.le_of_not_lt hshort)
      simp only [hshort, if_false]
      exact .shortened (fun v4 h => mapped?_ne_none h hmapped) hrun

section Reading

variable {ip : Ipv6} {printed rest : List Char}

lemma ofGroups?_groups (ip : Ipv6) : ofGroups? ip.groups = some ip := by
  rw [ofGroups?, dif_pos ip.length_groups]

lemma endsGroups_gap (s : List Char) : EndsGroups (':' :: ':' :: s) := by
  refine ⟨endsGroup_colon _, fun more hmore => ?_⟩
  rw [readChar_cons] at hmore
  obtain rfl := Option.some_inj.mp hmore
  exact forall_head?_cons.mpr (by decide)

/-- A double colon stands for the zeros that are missing. -/
lemma read_gap {head tail : List UInt16} {embedded : Bool} {s : List Char}
    (hhead : head.length < 8)
    (hs : readGroups (7 - head.length) true s = (tail, embedded, rest)) :
    read (groupChars head ++ ':' :: ':' :: s) =
      (ofGroups? (head ++ List.replicate (8 - head.length - tail.length) 0 ++ tail)).map
        fun ip => (ip, rest) := by
  have hgap := endsGroups_gap s
  have hgroups := readGroups_groupChars (Nat.le_of_lt hhead) hgap.1 fun _ => hgap
  simp [read, hgroups, hhead.ne, readChar_cons, hs, Option.map_eq_bind]

lemma read_written (h : ip.Written printed) (hrest : EndsGroups rest) :
    read (printed ++ rest) = some (ip, rest) := by
  cases h with
  | mapped v4 h =>
    -- The groups before the gap are none, and `ffff` with the address follows it.
    have hfirst : readSeparator true ("ffff:".toList ++ v4.chars ++ rest) =
        some (Text.hexDigits (0xFFFF : UInt16).toNat ++ ':' :: (v4.chars ++ rest)) := by
      rw [List.append_assoc]
      rfl
    have hs : readGroups 7 true ("ffff:".toList ++ v4.chars ++ rest) =
        (0xFFFF :: v4.toGroups, true, rest) := by
      rw [readGroups_group hfirst (endsGroup_colon _), readGroups_ipv4 (readSeparator_colon _) hrest.1]
    have hgap := read_gap (show ([] : List UInt16).length < 8 by decide) hs
    have hgroups : ofGroups? ([] ++ List.replicate 5 0 ++ 0xFFFF :: v4.toGroups) = some ip := by
      rw [← ofGroups?_groups, h]
      rfl
    exact hgap.trans (congrArg _ hgroups)
  | @shortened head zeros tail _ h =>
    have hsum := congrArg List.length h.groups_eq
    simp only [List.length_append, List.length_replicate, ip.length_groups] at hsum
    have htwo := h.two_le
    have hzeros : 8 - head.length - tail.length = zeros := by omega
    have htail : tail.length ≤ 7 - head.length := by omega
    have hs := readGroups_groupChars htail hrest.1 fun _ => hrest
    rw [List.append_assoc, List.cons_append, List.cons_append, read_gap (by omega) hs, hzeros,
      ← h.groups_eq, ofGroups?_groups]
    rfl
  | full h =>
    have hgroups := readGroups_groupChars (Nat.le_of_eq ip.length_groups) hrest.1
      fun hlt => absurd ip.length_groups hlt.ne
    simp [read, hgroups, ip.length_groups, ofGroups?_groups]

end Reading

end Ipv6

namespace SocketAddress

open Text (natDigits isBlank not_isBlank_natDigits)

/-- The text forms of an address with a port. A scope is shown unless it is zero. -/
inductive Written : SocketAddress → List Char → Prop
  | v4 (ip : Ipv4) (port : UInt16) : Written (v4 ip port) (ip.chars ++ ':' :: natDigits port.toNat)
  | v6 {ip : Ipv6} {host : List Char} (port : UInt16) (h : ip.Written host) :
    Written (v6 ip port 0) ('[' :: (host ++ ']' :: ':' :: natDigits port.toNat))
  | withScope {ip : Ipv6} {host : List Char} (port : UInt16) {scope : UInt32} (h : ip.Written host)
    (hscope : scope ≠ 0) :
    Written (v6 ip port scope)
      ('[' :: (host ++ '%' :: natDigits scope.toNat ++ ']' :: ':' :: natDigits port.toNat))

lemma written_render (a : SocketAddress) : a.Written a.render.toList := by
  rw [render, String.toList_ofList]
  cases a with
  | v4 ip port => exact .v4 ip port
  | v6 ip port scope =>
    by_cases hscope : scope = 0
    · subst hscope
      have h := Written.v6 port ip.written_chars
      simpa [chars] using h
    · have h := Written.withScope port ip.written_chars hscope
      simpa [chars, hscope] using h

/-! ### Reading -/

section Reading

variable {a : SocketAddress} {printed rest : List Char}

lemma readPort_natDigits (port : UInt16) : readPort (':' :: natDigits port.toNat) = some port := by
  have hread : readBelow 0x10000 (natDigits port.toNat ++ []) = some (port.toNat, []) :=
    readBelow_natDigits port.toNat_lt (by simp)
  rw [List.append_nil] at hread
  simp [readPort, readChar_cons, hread]

lemma readScope_natDigits (scope : UInt32) :
    readScope ('%' :: (natDigits scope.toNat ++ ']' :: rest)) = some (scope, ']' :: rest) := by
  have hclose : ∀ c ∈ (']' :: rest).head?, c.isDigit = false := forall_head?_cons.mpr rfl
  have hread : readBelow 0x100000000 (natDigits scope.toNat ++ ']' :: rest) =
      some (scope.toNat, ']' :: rest) := readBelow_natDigits scope.toNat_lt hclose
  simp [readScope, hread]

lemma readV4_bracket (s : List Char) : readV4 ('[' :: s) = none := by
  have hread : Ipv4.read ('[' :: s) = none :=
    Ipv4.read_eq_none (forall_head?_cons.mpr (by decide))
  simp [readV4, hread]

lemma endsGroups_closing {c : Char} (h : c = ']' ∨ c = '%') : EndsGroups (c :: rest) := by
  constructor
  · refine forall_head?_cons.mpr ?_
    rcases h with rfl | rfl <;> decide
  · intro more hmore
    rcases h with rfl | rfl <;> cases hmore

lemma read?_written (h : a.Written printed) : read? printed = some a := by
  cases h with
  | v4 ip port =>
    have hread : Ipv4.read (ip.chars ++ ':' :: natDigits port.toNat) =
        some (ip, ':' :: natDigits port.toNat) :=
      ip.read_chars (forall_head?_cons.mpr (by decide))
    simp [read?, readV4, hread, readPort_natDigits]
  | v6 port h =>
    have hclosing : EndsGroups (']' :: ':' :: natDigits port.toNat) :=
      endsGroups_closing (.inl rfl)
    have hread := Ipv6.read_written h hclosing
    simp [read?, readV4_bracket, readV6, readChar_cons, hread, readScope, readPort_natDigits]
  | @withScope ip host port scope h hscope =>
    have hclosing : EndsGroups
        ('%' :: (natDigits scope.toNat ++ ']' :: ':' :: natDigits port.toNat)) :=
      endsGroups_closing (.inr rfl)
    have hread := Ipv6.read_written h hclosing
    simp [read?, readV4_bracket, readV6, readChar_cons, hread, readScope_natDigits,
      readPort_natDigits]

end Reading

/-! ### Blanks -/

lemma not_isBlank_ipv4 (ip : Ipv4) : ∀ c ∈ ip.chars, isBlank c = false := by
  have hpoint : isBlank '.' = false := rfl
  simp only [Ipv4.chars, List.forall_mem_append, List.forall_mem_cons, hpoint, true_and, and_assoc]
  exact ⟨not_isBlank_natDigits _, not_isBlank_natDigits _, not_isBlank_natDigits _,
    not_isBlank_natDigits _⟩

lemma not_isBlank_groupChars (groups : List UInt16) :
    ∀ c ∈ Ipv6.groupChars groups, isBlank c = false := by
  have hgroup (g : UInt16) : ∀ c ∈ Text.hexDigits g.toNat, isBlank c = false := fun _ =>
    Text.not_isBlank_of_mem_toDigits (by decide) (by decide)
  cases groups with
  | nil => simp [Ipv6.groupChars, List.intercalate]
  | cons g groups =>
    rw [Ipv6.groupChars_cons, List.forall_mem_append]
    refine ⟨hgroup g, fun c hc => ?_⟩
    obtain ⟨more, -, hc⟩ := List.mem_flatMap.mp hc
    rcases List.mem_cons.mp hc with rfl | hc
    · rfl
    · exact hgroup more c hc

lemma not_isBlank_ipv6 {ip : Ipv6} {host : List Char} (h : ip.Written host) :
    ∀ c ∈ host, isBlank c = false := by
  have hcolon : isBlank ':' = false := rfl
  cases h with
  | mapped v4 =>
    have hlabel : ∀ c ∈ "::ffff:".toList, isBlank c = false := by simp [isBlank]
    exact List.forall_mem_append.mpr ⟨hlabel, not_isBlank_ipv4 v4⟩
  | shortened =>
    simp only [List.forall_mem_append, List.forall_mem_cons, hcolon, true_and]
    exact ⟨not_isBlank_groupChars _, not_isBlank_groupChars _⟩
  | full => exact not_isBlank_groupChars _

lemma not_isBlank_written {a : SocketAddress} {printed : List Char} (h : a.Written printed) :
    ∀ c ∈ printed, isBlank c = false := by
  have hmarks : isBlank ':' = false ∧ isBlank '[' = false ∧ isBlank ']' = false ∧
    isBlank '%' = false := by decide
  cases h with
  | v4 ip port =>
    simp only [List.forall_mem_append, List.forall_mem_cons, hmarks, true_and]
    exact ⟨not_isBlank_ipv4 ip, not_isBlank_natDigits _⟩
  | v6 port h =>
    simp only [List.forall_mem_append, List.forall_mem_cons, hmarks, true_and]
    exact ⟨not_isBlank_ipv6 h, not_isBlank_natDigits _⟩
  | withScope port h hscope =>
    simp only [List.forall_mem_append, List.forall_mem_cons, hmarks, true_and, and_assoc]
    exact ⟨not_isBlank_ipv6 h, not_isBlank_natDigits _, not_isBlank_natDigits _⟩

/-- A text form does not start with the colon of a port alone. -/
lemma head?_written {a : SocketAddress} {printed : List Char} (h : a.Written printed) :
    ∃ c, printed.head? = some c ∧ c ≠ ':' := by
  cases h with
  | v4 ip port =>
    obtain ⟨c, digits, hdigits⟩ : ∃ c digits, natDigits ip.a.toNat = c :: digits :=
      List.exists_cons_of_ne_nil Nat.toDigits_ne_nil
    refine ⟨c, by simp [Ipv4.chars, hdigits], ?_⟩
    have hc : c ∈ natDigits ip.a.toNat := by simp [hdigits]
    rintro rfl
    exact absurd (Text.digitValue_lt_of_mem_toDigits (by decide) (by decide) hc) (by decide)
  | v6 => exact ⟨'[', rfl, by decide⟩
  | withScope => exact ⟨'[', rfl, by decide⟩

lemma parse_written {a : SocketAddress} {printed : List Char} {text : String}
    (h : a.Written printed) (htext : Text.Padded printed text) : parse text = .ok a := by
  obtain ⟨c, hhead, hc⟩ := head?_written h
  have hne : printed ≠ [] := by
    rintro rfl
    cases hhead
  have hcolon : (printed.head? == some ':') = false := by
    simpa [hhead] using hc
  unfold parse
  rw [Text.trimBlanks_of_padded htext hne (not_isBlank_written h)]
  simp only [hcolon, Bool.false_eq_true, if_false, read?_written h]

/-- The address a text stands for is printed in its text form, and its text form, with blanks around
it, stands for this address again. -/
theorem parse_printed {text : String} {a : SocketAddress} (h : parse text = .ok a) :
    a.Written a.render.toList ∧
      ∀ printed again, a.Written printed → Text.Padded printed again → parse again = parse text :=
  ⟨written_render a, fun _ _ hprinted hagain => (parse_written hprinted hagain).trans h.symm⟩

/-- An address with a scope, given without brackets and with a sign in front of the port. -/
theorem parse_printed_scope :
    let a := v6 ⟨[1, 0, 0, 0, 0, 0, 0, 2], rfl⟩ 80 5
    parse "1::2%5:+80" = .ok a ∧ a.Written "[1::2%5]:80".toList ∧
      parse " [1::2%5]:80\n" = parse "1::2%5:+80" := by
  intro a
  have hparse : parse "1::2%5:+80" = .ok a := by decide +kernel
  have hrender : a.render.toList = "[1::2%5]:80".toList := by decide +kernel
  obtain ⟨hwritten, hagain⟩ := parse_printed hparse
  refine ⟨hparse, hrender ▸ hwritten, hagain _ _ hwritten ⟨[' '], ['\n'], ?_, ?_, ?_⟩⟩
  · simp [isBlank]
  · simp [isBlank]
  · rw [hrender]
    rfl

end SocketAddress
end Autoscaler.Net
