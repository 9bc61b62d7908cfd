import Autoscaler.Metrics.Basic
import Mathlib.Data.List.Sort
import Mathlib.Data.String.Basic

/-!
# Series

A series keeps its entries in the order of their names, and no two of them have the same key. What is
set is found by the key of its name, under the first name with that key, and nothing changes for
other keys.
-/

namespace Autoscaler.Series

variable {α : Type} {s t kept : Series α} {name other : String} {value : α} {f g : Option α → α}
  {k : UInt64} {p : String × α}

/-- The entries stand in the order of their names, and no two of them have the same key. -/
def Sorted (s : Series α) : Prop := s.Pairwise fun a b => a.1 < b.1 ∧ key a.1 ≠ key b.1

/-! ### What a key finds -/

lemma entryAt?_cons (p : String × α) (rest : Series α) :
    entryAt? (p :: rest) k = if key p.1 = k then some p else entryAt? rest k := by
  by_cases h : key p.1 = k <;> simp [entryAt?, h]

lemma entryAt?_eq_none_iff : s.entryAt? k = none ↔ ∀ p ∈ s, key p.1 ≠ k := by
  simp [entryAt?]

lemma key_of_entryAt? (h : s.entryAt? k = some p) : key p.1 = k := by
  simpa using List.find?_some h

lemma mem_of_entryAt? (h : s.entryAt? k = some p) : p ∈ s := List.mem_of_find?_eq_some h

lemma mem_insert : p ∈ s.insert name value ↔ p = (name, value) ∨ p ∈ s := by
  induction s with
  | nil => simp [insert]
  | cons q rest ih =>
    unfold insert
    split
    next => simp
    next =>
      rw [List.mem_cons, ih, List.mem_cons]
      exact or_left_comm

lemma entryAt?_insert (h : s.entryAt? (key name) = none) :
    (s.insert name value).entryAt? k = if key name = k then some (name, value) else s.entryAt? k := by
  induction s with
  | nil => exact entryAt?_cons (name, value) []
  | cons q rest ih =>
    obtain ⟨hq, hrest⟩ := List.forall_mem_cons.mp (entryAt?_eq_none_iff.mp h)
    unfold insert
    split
    next => rw [entryAt?_cons]
    next =>
      rw [entryAt?_cons, entryAt?_cons, ih (entryAt?_eq_none_iff.mpr hrest)]
      by_cases hname : key name = k
      · rw [if_pos hname, if_pos hname, if_neg (hname ▸ hq)]
      · simp only [if_neg hname]

lemma entryAt?_map {h : String × α → String × α} (hkey : ∀ p, key (h p).1 = key p.1) :
    entryAt? (s.map h) k = (s.entryAt? k).map h := by
  have hcomp : ((fun p : String × α => key p.1 == k) ∘ h) = fun p => key p.1 == k := by
    funext p
    exact congrArg (· == k) (hkey p)
  rw [entryAt?, List.find?_map, hcomp, entryAt?]

/-- A name finds what was set by it, under the first name with its key. -/
lemma entryAt?_alter : (s.alter name f).entryAt? k =
    if key name = k then
      some ((s.entryAt? k).elim (name, f none) fun p => (p.1, f (some p.2)))
    else s.entryAt? k := by
  unfold alter
  split
  next hnone =>
    rw [entryAt?_insert hnone]
    by_cases hk : key name = k
    · rw [if_pos hk, if_pos hk, ← hk, hnone, Option.elim_none]
    · rw [if_neg hk, if_neg hk]
  next q hq =>
    rw [entryAt?_map (fun p => by split <;> rfl)]
    by_cases hk : key name = k
    · subst hk
      rw [hq, Option.map_some, if_pos (key_of_entryAt? hq), if_pos rfl, Option.elim_some]
    · cases hentry : s.entryAt? k with
      | none => rw [if_neg hk, Option.map_none]
      | some p =>
        have hne : key p.1 ≠ key name := fun heq => hk (heq.symm.trans (key_of_entryAt? hentry))
        rw [if_neg hk, Option.map_some, if_neg hne]

lemma fst_of_mem_alter (h : p ∈ s.alter name f) : p.1 = name ∨ ∃ q ∈ s, q.1 = p.1 := by
  unfold alter at h
  split at h
  next =>
    rcases mem_insert.mp h with rfl | hp
    · exact .inl rfl
    · exact .inr ⟨p, hp, rfl⟩
  next =>
    obtain ⟨q, hq, rfl⟩ := List.mem_map.mp h
    refine .inr ⟨q, hq, ?_⟩
    split <;> rfl

/-! ### Series in order -/

lemma Sorted.insert (h : s.Sorted) (hname : s.entryAt? (key name) = none) :
    (s.insert name value).Sorted := by
  induction s with
  | nil => exact List.pairwise_singleton _ _
  | cons p rest ih =>
    obtain ⟨hp, hrest⟩ := List.pairwise_cons.mp h
    have hkeys := entryAt?_eq_none_iff.mp hname
    obtain ⟨hkey, hkeyRest⟩ := List.forall_mem_cons.mp hkeys
    unfold Series.insert
    split
    next hlt =>
      refine List.pairwise_cons.mpr ⟨?_, h⟩
      intro q hq
      refine ⟨?_, (hkeys q hq).symm⟩
      rcases List.mem_cons.mp hq with rfl | hq
      · exact hlt
      · exact hlt.trans (hp q hq).1
    next hle =>
      refine List.pairwise_cons.mpr ⟨?_, ih hrest (entryAt?_eq_none_iff.mpr hkeyRest)⟩
      intro q hq
      rcases mem_insert.mp hq with rfl | hq
      · have hne : p.1 ≠ name := fun heq => hkey (congrArg key heq)
        exact ⟨lt_of_le_of_ne (not_lt.mp hle) hne, hkey⟩
      · exact hp q hq

lemma Sorted.alter (h : s.Sorted) : (s.alter name f).Sorted := by
  unfold Series.alter
  split
  next hnone => exact h.insert hnone
  next =>
    refine List.pairwise_map.mpr (h.imp ?_)
    intro a b hab
    split <;> split <;> exact hab

lemma Sorted.mem_iff_entryAt? (h : s.Sorted) : p ∈ s ↔ s.entryAt? (key p.1) = some p := by
  refine ⟨?_, mem_of_entryAt?⟩
  intro hp
  induction s with
  | nil => cases hp
  | cons q rest ih =>
    obtain ⟨hq, hrest⟩ := List.pairwise_cons.mp h
    rw [entryAt?_cons]
    rcases List.mem_cons.mp hp with rfl | hp
    · rw [if_pos rfl]
    · rw [if_neg (hq p hp).2, ih hrest hp]

lemma Sorted.perm_ext (hs : s.Sorted) (ht : t.Sorted) (h : ∀ p, p ∈ s ↔ p ∈ t) : s = t := by
  have hnodup {u : Series α} (hu : u.Sorted) : u.Nodup :=
    hu.imp fun hlt heq => (heq ▸ hlt.1).ne rfl
  have hperm : s.Perm t := (List.perm_ext_iff_of_nodup (hnodup hs) (hnodup ht)).mpr h
  exact hperm.eq_of_pairwise (fun a b _ _ hab hba => absurd hab.1 hba.1.not_gt) hs ht

/-- A series is determined by what each key finds. -/
lemma Sorted.ext_entryAt? (hs : s.Sorted) (ht : t.Sorted) (h : ∀ k, s.entryAt? k = t.entryAt? k) :
    s = t := by
  refine hs.perm_ext ht ?_
  intro p
  rw [hs.mem_iff_entryAt?, ht.mem_iff_entryAt?, h]

/-- What is set by names with different keys can be set in either order. -/
lemma Sorted.alter_comm (h : s.Sorted) (hne : key name ≠ key other) :
    (s.alter name f).alter other g = (s.alter other g).alter name f := by
  refine h.alter.alter.ext_entryAt? h.alter.alter ?_
  intro k
  simp only [entryAt?_alter]
  by_cases hk : key name = k
  · simp [hk, (hk ▸ hne).symm]
  · simp [hk]

/-! ### What stands under a name -/

lemma get?_cons (p : String × α) (rest : Series α) :
    get? (p :: rest) name = if p.1 = name then some p.2 else get? rest name := by
  by_cases h : p.1 = name <;> simp [get?, h]

lemma get?_eq_none_iff : s.get? name = none ↔ ∀ p ∈ s, p.1 ≠ name := by
  simp [get?]

/-- A name has one entry. -/
lemma Sorted.get?_rest {rest : Series α} (h : Sorted (p :: rest)) : get? rest p.1 = none := by
  rw [get?_eq_none_iff]
  intro q hq
  exact ((List.pairwise_cons.mp h).1 q hq).1.ne'

lemma Sorted.mem_iff (h : s.Sorted) : (name, value) ∈ s ↔ s.get? name = some value := by
  induction s with
  | nil => simp [get?]
  | cons p rest ih =>
    rw [List.mem_cons, ih (List.pairwise_cons.mp h).2, get?_cons]
    by_cases hname : p.1 = name
    · have hnone : get? rest name = none := hname ▸ h.get?_rest
      simp [hname, hnone, Prod.ext_iff, eq_comm]
    · simp [hname, Prod.ext_iff, Ne.symm hname]

/-- What stands under a name is what its key finds, unless another name came first. -/
lemma Sorted.get?_eq_some_iff (h : s.Sorted) :
    s.get? name = some value ↔ s.entryAt? (key name) = some (name, value) := by
  rw [← h.mem_iff, h.mem_iff_entryAt?]

/-- A series is determined by what stands under each name. -/
lemma Sorted.ext (hs : s.Sorted) (ht : t.Sorted) (h : ∀ name, s.get? name = t.get? name) :
    s = t := by
  refine hs.perm_ext ht ?_
  rintro ⟨name, value⟩
  rw [hs.mem_iff, ht.mem_iff, h]

lemma get?_insert_ne (hne : other ≠ name) : (s.insert name value).get? other = s.get? other := by
  induction s with
  | nil => rw [insert, get?_cons, if_neg hne.symm]
  | cons p rest ih =>
    unfold insert
    split
    next => rw [get?_cons, if_neg hne.symm]
    next => rw [get?_cons, get?_cons, ih]

lemma get?_map {h : String × α → String × α} (hfst : ∀ p, (h p).1 = p.1)
    (hsnd : ∀ p, p.1 = name → (h p).2 = p.2) : get? (s.map h) name = s.get? name := by
  induction s with
  | nil => rfl
  | cons p rest ih =>
    rw [List.map_cons, get?_cons, get?_cons, hfst, ih]
    by_cases hname : p.1 = name
    · rw [if_pos hname, if_pos hname, hsnd p hname]
    · rw [if_neg hname, if_neg hname]

/-- Nothing changes under a name with another key. -/
lemma get?_alter_ne (hne : key other ≠ key name) :
    (s.alter name f).get? other = s.get? other := by
  unfold alter
  split
  next => exact get?_insert_ne fun heq => hne (congrArg key heq)
  next =>
    apply get?_map
    · intro p
      split <;> rfl
    · rintro p rfl
      rw [if_neg hne]

/-- Under a name that has its key to itself stands what was set by it. -/
lemma Sorted.get?_alter_self (h : s.Sorted) (hname : ∀ p ∈ s, key p.1 = key name → p.1 = name) :
    (s.alter name f).get? name = some (f (s.get? name)) := by
  rw [h.alter.get?_eq_some_iff, entryAt?_alter, if_pos rfl]
  cases hentry : s.entryAt? (key name) with
  | none =>
    have hget : s.get? name = none := by
      rw [Option.eq_none_iff_forall_ne_some]
      intro value hvalue
      rw [h.get?_eq_some_iff, hentry] at hvalue
      cases hvalue
    rw [hget, Option.elim_none]
  | some p =>
    obtain rfl := hname p (mem_of_entryAt? hentry) (key_of_entryAt? hentry)
    rw [h.get?_eq_some_iff.mpr hentry, Option.elim_some]

end Autoscaler.Series
