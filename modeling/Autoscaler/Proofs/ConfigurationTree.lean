import Autoscaler.NodeGroup.Decode
import Autoscaler.Proofs.DocumentTree
import Autoscaler.Proofs.GroupFields

/-!
# Trees that are configurations

A tree is a configuration if it is a mapping with the one key for the groups, and a group if it is a
mapping from keys of fields, no two of them alike, to scalars of the kinds of these fields. Nothing
here speaks of documents, places or errors.
-/

namespace Autoscaler.Yaml.Scalar

/-- The whole number that a scalar denotes, of whatever size. -/
def integer? (s : Scalar) : Option Int :=
  if s.isReadAs "tag:yaml.org,2002:int" then Value.readInteger? s.text else none

lemma toInt64?_eq_some {m : Int} {n : Int64} : Text.toInt64? m = some n ↔ m = n.toInt := by
  have hlo := n.le_toInt
  have hhi := n.toInt_lt
  unfold Text.toInt64?
  split
  next h =>
    simp only [Text.minInt64, Text.maxInt64] at h
    have hback : (Int64.ofInt m).toInt = m := Int64.toInt_ofInt_of_le (by omega) (by omega)
    rw [Option.some_inj, ← Int64.toInt_inj, hback]
  next h =>
    simp only [Text.minInt64, Text.maxInt64] at h
    have hne : m ≠ n.toInt := by omega
    simp [hne]

lemma int64?_eq_some {s : Scalar} {n : Int64} : s.int64? = some n ↔ s.integer? = some n.toInt := by
  unfold int64? integer?
  split
  · simp only [Option.bind_eq_some_iff, toInt64?_eq_some, exists_eq_right]
  · simp

end Autoscaler.Yaml.Scalar

namespace Autoscaler.NodeGroup

open Yaml

/-! ### Trees that are configurations -/

/-- What a scalar gives to a field. Any scalar is a text. -/
def Kind.Gives : (k : Kind) → Scalar → k.Value → Prop
  | .text, s, v => s.text = v
  | .integer, s, v => s.integer? = some v.toInt
  | .flag, s, v => s.boolean? = some v

/-- The key of an entry is that of a field, and its value is a scalar that gives one to the field. -/
def EntryGives (e : Tree × Tree) (given : Spec.Entry) : Prop :=
  e.1.text? = some given.1.key ∧ ∃ s, e.2 = .scalar s ∧ given.1.kind.Gives s given.2

/-- A tree is a group: a mapping, no two keys of which are alike. -/
def IsGroup (t : Tree) : Prop :=
  ∃ entries, t.entries? = some entries ∧ (entries.map fun e => e.1.text?).Nodup ∧
    ∀ e ∈ entries, ∃ given, EntryGives e given

/-- Each field holds what is given under its key, or its default if the key is not there. -/
def Tells (entries : List (Tree × Tree)) (spec : Spec) : Prop :=
  ∀ f : Field,
    (∀ e ∈ entries, e.1.text? = some f.key → EntryGives e ⟨f, spec.get f⟩) ∧
    ((∀ e ∈ entries, e.1.text? ≠ some f.key) → spec.get f = f.kind.default)

def GroupTells (t : Tree) (spec : Spec) : Prop :=
  ∃ entries, t.entries? = some entries ∧ Tells entries spec

/-- The one key of a tree is that for the groups, and these are its items. -/
def Lists (t : Tree) (items : List Tree) : Prop :=
  ∃ key value, t = .mapping [(key, value)] ∧ key.text? = some groupsKey ∧
    value.items? = some items

def IsConfiguration (t : Tree) : Prop :=
  ∃ items, Lists t items ∧ ∀ item ∈ items, IsGroup item

/-- The groups of a tree, in order, say what the specifications hold. -/
def ConfigurationTells (t : Tree) (specs : List Spec) : Prop :=
  ∃ items, Lists t items ∧ List.Forall₂ GroupTells items specs

/-! ### Lists side by side -/

section Forall₂

variable {α β : Type} {R : α → β → Prop} {l : List α} {l' : List β}

lemma exists_forall₂ (h : ∀ a ∈ l, ∃ b, R a b) : ∃ l', List.Forall₂ R l l' := by
  induction l with
  | nil => exact ⟨[], .nil⟩
  | cons a rest ih =>
    obtain ⟨⟨b, hb⟩, hrest⟩ := List.forall_mem_cons.mp h
    obtain ⟨later, hlater⟩ := ih hrest
    exact ⟨b :: later, .cons hb hlater⟩

lemma exists_getElem? (h : List.Forall₂ R l l') {i : Nat} {a : α} (ha : l[i]? = some a) :
    ∃ b, l'[i]? = some b ∧ R a b := by
  induction h generalizing i with
  | nil => cases ha
  | @cons c d rest rest' hhead _ ih =>
    cases i with
    | zero =>
      obtain rfl : c = a := by simpa using ha
      exact ⟨d, rfl, hhead⟩
    | succ i => exact ih (by simpa using ha)

lemma exists_right (h : List.Forall₂ R l l') {a : α} (ha : a ∈ l) : ∃ b ∈ l', R a b := by
  obtain ⟨i, hi⟩ := List.mem_iff_getElem?.mp ha
  obtain ⟨b, hb, hab⟩ := exists_getElem? h hi
  exact ⟨b, List.mem_of_getElem? hb, hab⟩

lemma exists_left (h : List.Forall₂ R l l') {b : β} (hb : b ∈ l') : ∃ a ∈ l, R a b :=
  exists_right (R := flip R) (List.Forall₂.flip h) hb

end Forall₂

/-! ### The fields of a tree -/

section Given

variable {entries : List (Tree × Tree)} {given : List Spec.Entry} {e : Tree × Tree}
  {g : Spec.Entry} {f : Field} {t : Tree} {spec : Spec}

lemma Kind.gives_unique {k : Kind} {s : Scalar} {v w : k.Value} (hv : k.Gives s v)
    (hw : k.Gives s w) : v = w := by
  cases k with
  | text => exact hv.symm.trans hw
  | integer => exact Int64.toInt_inj.mp (Option.some_inj.mp (hv.symm.trans hw))
  | flag => exact Option.some_inj.mp (hv.symm.trans hw)

lemma not_gives_of_wide {k : Kind} {s : Scalar} {n : Int} (hk : k = .integer)
    (hn : s.integer? = some n) (hwide : n < Text.minInt64 ∨ Text.maxInt64 < n) (v : k.Value) :
    ¬k.Gives s v := by
  subst hk
  intro hv
  obtain rfl : n = v.toInt := Option.some_inj.mp (hn.symm.trans hv)
  have hlo := v.le_toInt
  have hhi := v.toInt_lt
  simp only [Text.minInt64, Text.maxInt64] at hwide
  omega

lemma field_of_entryGives (h : EntryGives e g) (hkey : e.1.text? = some f.key) : g.1 = f := by
  have hkeys : g.1.key = f.key := Option.some_inj.mp (h.1.symm.trans hkey)
  exact Field.key_injective hkeys

lemma entryGives_unique {v w : f.kind.Value} (hv : EntryGives e ⟨f, v⟩)
    (hw : EntryGives e ⟨f, w⟩) : v = w := by
  obtain ⟨-, s, hs, hv⟩ := hv
  obtain ⟨-, s', hs', hw⟩ := hw
  obtain rfl : s = s' := Tree.scalar.inj (hs.symm.trans hs')
  exact Kind.gives_unique hv hw

lemma nodup_keys_iff (h : List.Forall₂ EntryGives entries given) :
    (entries.map fun e => e.1.text?).Nodup ↔ (given.map Sigma.fst).Nodup := by
  have hkeys : (entries.map fun e => e.1.text?) =
      (given.map Sigma.fst).map fun f => some f.key := by
    induction h with
    | nil => rfl
    | cons hhead _ ih => simp only [List.map_cons, hhead.1, ih]
  have hinj : Function.Injective fun f : Field => some f.key :=
    fun _ _ h => Field.key_injective (Option.some_inj.mp h)
  rw [hkeys, List.nodup_map_iff hinj]

lemma mem_fields_iff (h : List.Forall₂ EntryGives entries given) :
    f ∈ given.map Sigma.fst ↔ ∃ e ∈ entries, e.1.text? = some f.key := by
  constructor
  · intro hf
    obtain ⟨g, hmem, rfl⟩ := List.mem_map.mp hf
    obtain ⟨e, he, hgives⟩ := exists_left h hmem
    exact ⟨e, he, hgives.1⟩
  · rintro ⟨e, he, hkey⟩
    obtain ⟨g, hmem, hgives⟩ := exists_right h he
    exact List.mem_map.mpr ⟨g, hmem, field_of_entryGives hgives hkey⟩

/-- To set what is given, field by field, makes a group that the entries tell of. -/
lemma tells_setAll (h : List.Forall₂ EntryGives entries given)
    (hdistinct : (given.map Sigma.fst).Nodup) : Tells entries (({} : Spec).setAll given) := by
  intro f
  constructor
  · intro e he hkey
    obtain ⟨⟨g, v⟩, hmem, hgives⟩ := exists_right h he
    obtain rfl : g = f := field_of_entryGives hgives hkey
    rw [Spec.get_setAll_of_mem hdistinct hmem]
    exact hgives
  · intro habsent
    have hf : f ∉ given.map Sigma.fst := by
      rw [mem_fields_iff h]
      rintro ⟨e, he, hkey⟩
      exact habsent e he hkey
    rw [Spec.get_setAll_of_notMem hf, Spec.get_empty]

lemma tells_unique {spec' : Spec} (hspec : Tells entries spec) (hspec' : Tells entries spec') :
    spec = spec' := by
  refine Spec.ext_get fun f => ?_
  obtain ⟨hpresent, habsent⟩ := hspec f
  obtain ⟨hpresent', habsent'⟩ := hspec' f
  by_cases hf : ∃ e ∈ entries, e.1.text? = some f.key
  · obtain ⟨e, he, hkey⟩ := hf
    exact entryGives_unique (hpresent e he hkey) (hpresent' e he hkey)
  · have hnone : ∀ e ∈ entries, e.1.text? ≠ some f.key := fun e he hkey => hf ⟨e, he, hkey⟩
    rw [habsent hnone, habsent' hnone]

lemma group_iff : IsGroup t ∧ GroupTells t spec ↔
    ∃ entries given, t.entries? = some entries ∧ List.Forall₂ EntryGives entries given ∧
      (given.map Sigma.fst).Nodup ∧ spec = ({} : Spec).setAll given := by
  constructor
  · rintro ⟨⟨entries, hentries, hnodup, hfields⟩, entries', hentries', htells⟩
    obtain rfl : entries = entries' := Option.some_inj.mp (hentries.symm.trans hentries')
    obtain ⟨given, hgiven⟩ := exists_forall₂ hfields
    have hdistinct := (nodup_keys_iff hgiven).mp hnodup
    exact ⟨entries, given, hentries, hgiven, hdistinct,
      tells_unique htells (tells_setAll hgiven hdistinct)⟩
  · rintro ⟨entries, given, hentries, hgiven, hdistinct, rfl⟩
    refine ⟨⟨entries, hentries, (nodup_keys_iff hgiven).mpr hdistinct, fun e he => ?_⟩,
      entries, hentries, tells_setAll hgiven hdistinct⟩
    obtain ⟨g, -, hgives⟩ := exists_right hgiven he
    exact ⟨g, hgives⟩

lemma exists_groupTells (h : IsGroup t) : ∃ spec, GroupTells t spec := by
  obtain ⟨entries, hentries, hnodup, hfields⟩ := h
  obtain ⟨given, hgiven⟩ := exists_forall₂ hfields
  exact ⟨_, entries, hentries, tells_setAll hgiven ((nodup_keys_iff hgiven).mp hnodup)⟩

end Given

/-! ### Whole configurations -/

lemma lists_unique {t : Tree} {items items' : List Tree} (h : Lists t items) (h' : Lists t items') :
    items = items' := by
  obtain ⟨key, value, rfl, -, hitems⟩ := h
  obtain ⟨key', value', heq, -, hitems'⟩ := h'
  simp only [Tree.mapping.injEq, List.cons.injEq, Prod.mk.injEq, and_true] at heq
  obtain ⟨rfl, rfl⟩ := heq
  exact Option.some_inj.mp (hitems.symm.trans hitems')

lemma configuration_iff {t : Tree} {specs : List Spec} :
    IsConfiguration t ∧ ConfigurationTells t specs ↔
      ∃ items, Lists t items ∧ (∀ item ∈ items, IsGroup item) ∧
        List.Forall₂ GroupTells items specs := by
  constructor
  · rintro ⟨⟨items, hlists, hgroup⟩, items', hlists', htells⟩
    obtain rfl := lists_unique hlists hlists'
    exact ⟨items, hlists, hgroup, htells⟩
  · rintro ⟨items, hlists, hgroup, htells⟩
    exact ⟨⟨items, hlists, hgroup⟩, items, hlists, htells⟩

lemma exists_configurationTells {t : Tree} (h : IsConfiguration t) :
    ∃ specs, ConfigurationTells t specs := by
  obtain ⟨items, hlists, hgroups⟩ := h
  obtain ⟨specs, hspecs⟩ := exists_forall₂ fun item hitem => exists_groupTells (hgroups item hitem)
  exact ⟨specs, items, hlists, hspecs⟩

/-- A tree has a group at a position, whatever else is wrong with it. -/
def HasGroup (t : Tree) (i : Nat) (item : Tree) : Prop :=
  ∃ entries e items, t = .mapping entries ∧ e ∈ entries ∧ e.1.text? = some groupsKey ∧
    e.2.items? = some items ∧ items[i]? = some item

lemma getElem?_of_hasGroup {t item : Tree} {items : List Tree} {i : Nat} (hlists : Lists t items)
    (h : HasGroup t i item) : items[i]? = some item := by
  obtain ⟨key, value, rfl, -, hitems⟩ := hlists
  obtain ⟨entries, e, items', hentries, he, -, hitems', hitem⟩ := h
  obtain rfl := Tree.mapping.inj hentries
  obtain rfl := List.mem_singleton.mp he
  obtain rfl : items = items' := Option.some_inj.mp (hitems.symm.trans hitems')
  exact hitem

/-- A group has a key for a field, with a scalar as its value. -/
def Assigns (t : Tree) (f : Field) (s : Scalar) : Prop :=
  ∃ entries, t.entries? = some entries ∧ ∃ e ∈ entries, e.1.text? = some f.key ∧ e.2 = .scalar s

lemma gives_of_assigns {t : Tree} {f : Field} {s : Scalar} (h : Assigns t f s) (hgroup : IsGroup t) :
    ∃ v, f.kind.Gives s v := by
  obtain ⟨entries, hentries, e, he, hkey, hvalue⟩ := h
  obtain ⟨entries', hentries', -, hfields⟩ := hgroup
  obtain rfl : entries = entries' := Option.some_inj.mp (hentries.symm.trans hentries')
  obtain ⟨⟨g, v⟩, hgiven⟩ := hfields e he
  obtain rfl : g = f := field_of_entryGives hgiven hkey
  obtain ⟨-, s', hs', hgives⟩ := hgiven
  obtain rfl : s' = s := Tree.scalar.inj (hs'.symm.trans hvalue)
  exact ⟨v, hgives⟩

/-! ### The order of keys -/

/-- Two trees are the same, or mappings that differ in the order of their entries only. -/
def SameButOrder (t t' : Tree) : Prop :=
  t = t' ∨ ∃ entries entries', t = .mapping entries ∧ t' = .mapping entries' ∧
    entries.Perm entries'

/-- Two trees are the same but for the order of keys in the items of one sequence. -/
def Reordered (t t' : Tree) : Prop :=
  ∃ before after key items items', t = .mapping (before ++ (key, .sequence items) :: after) ∧
    t' = .mapping (before ++ (key, .sequence items') :: after) ∧
    List.Forall₂ SameButOrder items items'

lemma SameButOrder.symm {t t' : Tree} (h : SameButOrder t t') : SameButOrder t' t := by
  rcases h with rfl | ⟨entries, entries', ht, ht', hperm⟩
  · exact .inl rfl
  · exact .inr ⟨entries', entries, ht', ht, hperm.symm⟩

lemma Reordered.symm {t t' : Tree} (h : Reordered t t') : Reordered t' t := by
  obtain ⟨before, after, key, items, items', ht, ht', hitems⟩ := h
  refine ⟨before, after, key, items', items, ht', ht, List.Forall₂.flip ?_⟩
  exact hitems.imp fun _ _ hsame => hsame.symm

lemma SameButOrder.group {t t' : Tree} (h : SameButOrder t t') {spec : Spec}
    (hgroup : IsGroup t ∧ GroupTells t spec) : IsGroup t' ∧ GroupTells t' spec := by
  rcases h with rfl | ⟨entries, entries', rfl, rfl, hperm⟩
  · exact hgroup
  · obtain ⟨⟨_, hentries, hnodup, hfields⟩, _, hentries', htells⟩ := hgroup
    obtain rfl := Option.some_inj.mp hentries
    obtain rfl := Option.some_inj.mp hentries'
    refine ⟨⟨entries', rfl, (hperm.map _).nodup_iff.mp hnodup, fun e he => ?_⟩,
      entries', rfl, fun f => ⟨fun e he => ?_, fun habsent => ?_⟩⟩
    · exact hfields e (hperm.mem_iff.mpr he)
    · exact (htells f).1 e (hperm.mem_iff.mpr he)
    · exact (htells f).2 fun e he => habsent e (hperm.mem_iff.mp he)

lemma groups_of_sameButOrder {items items' : List Tree} {specs : List Spec}
    (h : List.Forall₂ SameButOrder items items')
    (hgroups : (∀ item ∈ items, IsGroup item) ∧ List.Forall₂ GroupTells items specs) :
    (∀ item ∈ items', IsGroup item) ∧ List.Forall₂ GroupTells items' specs := by
  rw [← List.forall₂_and_left] at hgroups ⊢
  induction h generalizing specs with
  | nil => exact hgroups
  | cons hhead _ ih =>
    obtain ⟨spec, later, hspec, hlater, rfl⟩ := List.forall₂_cons_left_iff.mp hgroups
    exact .cons (hhead.group hspec) (ih hlater)

lemma Reordered.configuration {t t' : Tree} (h : Reordered t t') {specs : List Spec}
    (hspecs : IsConfiguration t ∧ ConfigurationTells t specs) :
    IsConfiguration t' ∧ ConfigurationTells t' specs := by
  rw [configuration_iff] at hspecs ⊢
  obtain ⟨before, after, key, items, items', rfl, rfl, hsame⟩ := h
  obtain ⟨_, ⟨key', value, hone, htext, hvalue⟩, hgroups⟩ := hspecs
  -- The one entry of the tree is the one whose items are reordered.
  obtain ⟨rfl, hentry⟩ | ⟨-, hentry⟩ := List.append_eq_singleton_iff.mp (Tree.mapping.inj hone)
  · simp only [List.cons.injEq, Prod.mk.injEq] at hentry
    obtain ⟨⟨rfl, rfl⟩, rfl⟩ := hentry
    obtain rfl := Option.some_inj.mp hvalue
    exact ⟨items', ⟨key, .sequence items', rfl, htext, rfl⟩, groups_of_sameButOrder hsame hgroups⟩
  · cases hentry

end Autoscaler.NodeGroup
