import Autoscaler.Proofs.ConfigurationText
import Autoscaler.Proofs.ConfigurationTree
import Autoscaler.Proofs.FlowTokens

/-!
# The tokens of configurations in JSON

The tokens of a configuration in JSON form a tree that tells of its groups. Whole numbers and flags
are those of the groups. Strings are double-quoted scalars, so each of them is what such a scalar
keeps of it; if one of them is not heard, the tokens break off.
-/

namespace Autoscaler.NodeGroup

open Yaml
open Json (Spells)

/-! ### What tokens convey -/

section Conveys

variable {α β κ : Type} {H : α → β → Prop} {P : κ → β → Prop} {a : α} {kinds : Option κ}

/-- Tokens say, in the sense of `P`, what a value is heard as, in the sense of `H`. There are none
if it is heard as nothing. -/
inductive Conveys (H : α → β → Prop) (P : κ → β → Prop) (a : α) : Option κ → Prop
  | nothing (h : ∀ b, ¬H a b) : Conveys H P a none
  | told {k : κ} {b : β} (hb : H a b) (hk : P k b) : Conveys H P a (some k)

lemma Conveys.imp {α' β' : Type} {H' : α' → β' → Prop} {P' : κ → β' → Prop} {a' : α'}
    (h : Conveys H P a kinds) (htold : ∀ k b, H a b → P k b → ∃ b', H' a' b' ∧ P' k b')
    (hnothing : ∀ b', H' a' b' → ∃ b, H a b) : Conveys H' P' a' kinds := by
  cases h with
  | nothing h =>
    refine .nothing fun b' hb' => ?_
    obtain ⟨b, hb⟩ := hnothing b' hb'
    exact h b hb
  | @told k b hb hk =>
    obtain ⟨b', hb', hk'⟩ := htold k b hb hk
    exact .told hb' hk'

lemma Conveys.map {κ' : Type} {P' : κ' → β → Prop} {f : κ → κ'} (h : Conveys H P a kinds)
    (hf : ∀ k b, P k b → P' (f k) b) : Conveys H P' a (kinds.map f) := by
  cases h with
  | nothing h => exact .nothing h
  | told hb hk => exact .told hb (hf _ _ hk)

/-- Values side by side are heard one by one. -/
lemma Conveys.gathered {all : List α} {kinds : List (Option (List Token.Kind))}
    {P : List Token.Kind → β → Prop} (h : List.Forall₂ (Conveys H P) all kinds) :
    Conveys (List.Forall₂ H) (List.Forall₂ P) all (ReadsAs.gathered kinds) := by
  induction h with
  | nil => exact .told .nil .nil
  | @cons a _ all later hfirst _ ih =>
    cases hfirst with
    | nothing h =>
      refine .nothing fun bs hbs => ?_
      obtain ⟨b, -, hb, -⟩ := List.forall₂_cons_left_iff.mp hbs
      exact h b hb
    | @told k b hb hk =>
      have hall : Conveys (List.Forall₂ H) (fun items => List.Forall₂ P (k :: items)) (a :: all)
          (ReadsAs.gathered later) := by
        refine ih.imp (fun items bs hbs hitems => ⟨b :: bs, .cons hb hbs, .cons hk hitems⟩) ?_
        intro bs hbs
        obtain ⟨_, bs, -, hrest, -⟩ := List.forall₂_cons_left_iff.mp hbs
        exact ⟨bs, hrest⟩
      rw [ReadsAs.gathered, Option.map₂_coe_left]
      exact hall.map fun items bs hitems => hitems

lemma exists_between {R : α → β → Prop} {S : β → κ → Prop} {l : List α} {l' : List κ}
    (h : List.Forall₂ (fun a k => ∃ b, R a b ∧ S b k) l l') :
    ∃ m, List.Forall₂ R l m ∧ List.Forall₂ S m l' := by
  induction h with
  | nil => exact ⟨[], .nil, .nil⟩
  | cons hfirst _ ih =>
    obtain ⟨b, hb, hb'⟩ := hfirst
    obtain ⟨m, hm, hm'⟩ := ih
    exact ⟨b :: m, .cons hb hm, .cons hb' hm'⟩

end Conveys

/-! ### Values -/

/-- What comes of a value that is written in JSON. -/
def Kind.Heard : (k : Kind) → k.Value → k.Value → Prop
  | .text, s, t => Scan.heard s.toList = some t.toList
  | .integer, m, n => m = n
  | .flag, a, b => a = b

/-- Tokens form a tree that tells of a value. -/
def Told {β : Type} (P : Tree → β → Prop) (kinds : List Token.Kind) (b : β) : Prop :=
  ∃ t, Forms kinds t ∧ P t b

/-- A tree is a scalar that gives a value to a field. -/
def Kind.TreeGives (k : Kind) (t : Tree) (v : k.Value) : Prop := ∃ s, t = .scalar s ∧ k.Gives s v

section Digits

variable {n : Nat}

lemma natDigits_ne_nil : Text.natDigits n ≠ [] := Nat.toDigits_ne_nil

lemma isPaddedDigits_natDigits : Value.isPaddedDigits (Text.natDigits n) = false := by
  unfold Value.isPaddedDigits
  split
  next rest hdigits =>
    -- With a zero in front and more digits behind it, the number would need fewer digits.
    cases rest with
    | nil => rfl
    | cons d rest =>
      exfalso
      have hrest : ∀ c ∈ d :: rest, c.isDigit = true := fun c hc =>
        Duration.isDigit_of_mem_natDigits (hdigits ▸ List.mem_cons_of_mem _ hc)
      have hvalue : Duration.decimalValue (d :: rest) = n := by
        rw [← Duration.decimalValue_natDigits n, hdigits, Duration.decimalValue_cons '0',
          Nat.sub_self, Nat.zero_mul, Nat.zero_add]
      have hlt : n < 10 ^ (d :: rest).length := hvalue ▸ Duration.decimalValue_lt hrest
      have hlength : (Text.natDigits n).length ≤ (d :: rest).length :=
        (Nat.length_toDigits_le_iff (by decide) (Nat.succ_pos _)).mpr hlt
      rw [hdigits] at hlength
      exact Nat.not_succ_le_self _ hlength
  next => rfl

lemma readMagnitude?_natDigits : Value.readMagnitude? (Text.natDigits n) = some n := by
  have hdigits : ∀ c ∈ Text.natDigits n, c.isDigit = true :=
    fun c => Duration.isDigit_of_mem_natDigits
  have hread : Text.readNat 10 (Text.natDigits n) = some n := by
    rw [Duration.readNat_eq hdigits natDigits_ne_nil, Duration.decimalValue_natDigits]
  unfold Value.readMagnitude?
  split
  next hletter => exact absurd (hdigits 'x' (by simp [hletter])) (by decide)
  next hletter => exact absurd (hdigits 'o' (by simp [hletter])) (by decide)
  next hletter => exact absurd (hdigits 'b' (by simp [hletter])) (by decide)
  next => rw [isPaddedDigits_natDigits, if_neg (by decide), hread]

lemma readInteger?_ofInt (m : Int) : Value.readInteger? (Text.ofInt m) = some m := by
  rw [Value.readInteger?, Text.ofInt, String.toList_ofList]
  cases m with
  | ofNat n =>
    rw [Text.intDigits]
    split
    next cs hsign =>
      exact absurd (Duration.isDigit_of_mem_natDigits (n := n) (c := '-') (by simp [hsign]))
        (by decide)
    next cs hsign =>
      exact absurd (Duration.isDigit_of_mem_natDigits (n := n) (c := '+') (by simp [hsign]))
        (by decide)
    next => rw [readMagnitude?_natDigits]; rfl
  | negSucc n =>
    simp only [Text.intDigits, readMagnitude?_natDigits]
    rfl

end Digits

lemma readsAs_intDigits (m : Int) :
    ReadsAs false (Text.intDigits m) (some [.scalar (Text.ofInt m) .plain]) := by
  have hdash : ∀ n : Nat, ∀ x ∈ Text.natDigits n, x ≠ '-' := by
    rintro n x hx rfl
    exact absurd (Duration.isDigit_of_mem_natDigits hx) (by decide)
  refine ReadsAs.word (fun x => isWordChar_of_mem_intDigits) ?_ ?_ ?_
  · cases m with
    | ofNat n => exact fun x hx => hdash n x (List.mem_of_mem_tail hx)
    | negSucc n => exact hdash (n + 1)
  · cases m with
    | ofNat n => exact natDigits_ne_nil
    | negSucc n => exact List.cons_ne_nil _ _
  · cases m with
    | ofNat n =>
      intro h
      exact hdash n '-' (by rw [← Text.intDigits, h]; simp) rfl
    | negSucc n =>
      intro h
      exact natDigits_ne_nil (List.cons.inj h).2

lemma readsAs_flagChars (b : Bool) :
    ReadsAs false (flagChars b) (some [.scalar (String.ofList (flagChars b)) .plain]) := by
  have hdash : ∀ x ∈ (flagChars b).tail, x ≠ '-' := by
    rintro x hx rfl
    revert hx
    cases b <;> decide
  cases b <;> exact ReadsAs.word isWordChar_of_mem_flagChars hdash nofun nofun

lemma conveys_value {k : Kind} {v : k.Value} {text : List Char} (h : k.Writes v text) :
    ∃ kinds, Conveys k.Heard (Told k.TreeGives) v kinds ∧ ReadsAs false text kinds := by
  cases k with
  | text =>
    obtain ⟨body, hs, rfl⟩ := h
    refine ⟨_, ?_, ReadsAs.quoted hs⟩
    cases hheard : Scan.heard (String.toList v) with
    | none => exact .nothing fun t ht => by cases hheard.symm.trans ht
    | some out =>
      have hout : Kind.text.Heard v (String.ofList out) := by
        change Scan.heard (String.toList v) = _
        rw [hheard, String.toList_ofList]
      exact .told hout ⟨_, Forms.scalar _ _, _, rfl, rfl⟩
  | integer =>
    obtain rfl := h
    have hv : Kind.integer.Heard v v := rfl
    have hgives : Kind.integer.Gives ⟨Text.ofInt (Int64.toInt v), .plain, none⟩ v :=
      readInteger?_ofInt _
    exact ⟨_, .told hv ⟨_, Forms.scalar _ _, _, rfl, hgives⟩, readsAs_intDigits _⟩
  | flag =>
    obtain rfl := h
    have hv : Kind.flag.Heard v v := rfl
    have hgives : Kind.flag.Gives ⟨String.ofList (flagChars v), .plain, none⟩ v := by
      change Scalar.boolean? _ = some v
      cases v <;> decide
    exact ⟨_, .told hv ⟨_, Forms.scalar _ _, _, rfl, hgives⟩, readsAs_flagChars v⟩

/-! ### Entries -/

/-- Tokens form an entry that tells of a value. -/
def EntryTold {β : Type} (P : Tree × Tree → β → Prop) (kinds : List Token.Kind) (b : β) : Prop :=
  ∃ e : Tree × Tree, (∃ first second, kinds = Forms.entryKinds first second ∧ Forms first e.1 ∧
    Forms second e.2) ∧ P e b

lemma heard_of_words {key : List Char} (h : ∀ c ∈ key, isWordChar c = true) :
    Scan.heard key = some key := by
  rw [Scan.heard_eq_some_self_iff]
  induction key with
  | nil => trivial
  | cons c rest ih =>
    obtain ⟨hc, hrest⟩ := List.forall_mem_cons.mp h
    refine ⟨⟨Scan.ne_of_isWordChar hc (by decide), ?_, ?_⟩, ih hrest⟩
    · exact fun hspace => absurd hspace (Scan.ne_of_isWordChar hc (by decide))
    · intro hsep
      simp only [Scan.isSeparator, Bool.or_eq_true, beq_iff_eq] at hsep
      rcases hsep with rfl | rfl <;> exact absurd hc (by decide)

lemma conveys_member {α β : Type} {H : α → β → Prop} {P : Tree → β → Prop} {a : α} {key : String}
    {Writes : List Char → Prop} {text : List Char} (hkey : ∀ c ∈ key.toList, isWordChar c = true)
    (h : Member key Writes text)
    (hvalue : ∀ value, Writes value →
      ∃ kinds, Conveys H (Told P) a kinds ∧ ReadsAs false value kinds) :
    ∃ kinds, Conveys H (EntryTold fun e b => e.1.text? = some key ∧ P e.2 b) a kinds ∧
      ReadsAs true text kinds := by
  obtain ⟨blanks, gap, value, hblanks, hlength, hgap, hwrites, rfl⟩ := h
  obtain ⟨kinds, hconveys, hreads⟩ := hvalue value hwrites
  have hspells : Spells key.toList key.toList :=
    Json.spells_self fun c hc => (plain_of_isWordChar (hkey c hc)).1
  have hbreaks : ∀ c ∈ key.toList, isBreak c = false := fun c hc =>
    (isGap_eq_false_iff.mp (Scan.isGap_of_isWordChar (hkey c hc))).2.1
  have hmember := hreads.member hspells (heard_of_words hkey) hbreaks hblanks hlength hgap
  rw [String.ofList_toList] at hmember
  refine ⟨_, hconveys.map ?_, hmember⟩
  rintro k b ⟨t, ht, hp⟩
  exact ⟨(_, t), ⟨_, k, rfl, Forms.scalar _ _, ht⟩, rfl, hp⟩

/-! ### Collections -/

section Collections

variable {α β : Type} {H : α → β → Prop} {all : List α} {kinds : List (Option (List Token.Kind))}

lemma Conveys.sequence {P : Tree → β → Prop} (h : List.Forall₂ (Conveys H (Told P)) all kinds) :
    Conveys (List.Forall₂ H)
      (Told fun t bs => ∃ trees, t = .sequence trees ∧ List.Forall₂ P trees bs) all
      ((ReadsAs.gathered kinds).map fun items =>
        .flowSequenceStart :: Parse.separated items ++ [.flowSequenceEnd]) := by
  refine (Conveys.gathered h).map fun items bs hitems => ?_
  obtain ⟨trees, htrees, hbs⟩ := exists_between hitems
  exact ⟨_, Forms.sequence htrees, trees, rfl, hbs⟩

lemma Conveys.mapping {P : Tree × Tree → β → Prop}
    (h : List.Forall₂ (Conveys H (EntryTold P)) all kinds) :
    Conveys (List.Forall₂ H)
      (Told fun t bs => ∃ trees, t = .mapping trees ∧ List.Forall₂ P trees bs) all
      ((ReadsAs.gathered kinds).map fun items =>
        .flowMappingStart :: Parse.separated items ++ [.flowMappingEnd]) := by
  refine (Conveys.gathered h).map fun items bs hitems => ?_
  obtain ⟨trees, htrees, hbs⟩ := exists_between hitems
  exact ⟨_, Forms.mapping htrees, trees, rfl, hbs⟩

end Collections

/-! ### Groups -/

/-- Every field of a group is heard as that of another one. -/
def Spec.Heard (s t : Spec) : Prop := ∀ f : Field, f.kind.Heard (s.get f) (t.get f)

lemma heard_unique : Relator.RightUnique Spec.Heard := by
  intro s t t' ht ht'
  refine Spec.ext_get fun f => ?_
  have hvalue {k : Kind} {v w w' : k.Value} (hw : k.Heard v w) (hw' : k.Heard v w') : w = w' := by
    cases k with
    | text => exact String.toList_inj.mp (Option.some_inj.mp (hw.symm.trans hw'))
    | integer => exact hw.symm.trans hw'
    | flag => exact hw.symm.trans hw'
  exact hvalue (ht f) (ht' f)

/-- An entry holds what the value of a field is heard as. -/
def Spec.HeardEntry (s : Spec) (f : Field) (e : Spec.Entry) : Prop :=
  ∃ v, e = ⟨f, v⟩ ∧ f.kind.Heard (s.get f) v

lemma conveys_field {s : Spec} {f : Field} {text : List Char}
    (h : Member f.key (f.kind.Writes (s.get f)) text) :
    ∃ kinds, Conveys s.HeardEntry (EntryTold EntryGives) f kinds ∧ ReadsAs true text kinds := by
  obtain ⟨kinds, hconveys, hreads⟩ :=
    conveys_member isWordChar_of_mem_key h fun value => conveys_value
  refine ⟨kinds, hconveys.imp (fun k v hv hk => ?_) ?_, hreads⟩
  · exact ⟨⟨f, v⟩, ⟨v, rfl, hv⟩, hk⟩
  · rintro _ ⟨v, rfl, hv⟩
    exact ⟨v, hv⟩

/-- To set the fields of a group, in some order, to what they are heard as makes the group heard. -/
lemma heard_setAll {s : Spec} {fields : List Field} {given : List Spec.Entry}
    (hfields : fields.Perm Field.all) (h : List.Forall₂ s.HeardEntry fields given) :
    (given.map Sigma.fst).Nodup ∧ s.Heard (({} : Spec).setAll given) := by
  have hfst : given.map Sigma.fst = fields := by
    have hsame : List.Forall₂ (· = ·) (given.map Sigma.fst) fields := by
      refine List.forall₂_map_left_iff.mpr (h.flip.imp ?_)
      rintro _ f ⟨v, rfl, -⟩
      rfl
    rwa [List.forall₂_eq_eq_eq] at hsame
  have hnodup : (given.map Sigma.fst).Nodup := by
    rw [hfst, hfields.nodup_iff]
    decide
  refine ⟨hnodup, fun f => ?_⟩
  obtain ⟨_, hmem, v, rfl, hv⟩ := exists_right h (hfields.mem_iff.mpr (Field.mem_all f))
  rwa [Spec.get_setAll_of_mem hnodup hmem]

/-- A tree is a group that tells of a specification. -/
def TellsGroup (t : Tree) (s : Spec) : Prop := IsGroup t ∧ GroupTells t s

lemma conveys_group {s : Spec} {text : List Char} (h : GroupText s text) :
    ∃ kinds, Conveys Spec.Heard (Told TellsGroup) s kinds ∧ ReadsAs true text kinds := by
  obtain ⟨fields, hfields, htext⟩ := h
  have hfield (f : Field) (text : List Char) (hf : Member f.key (f.kind.Writes (s.get f)) text) :
      ∃ kinds, Conveys s.HeardEntry (EntryTold EntryGives) f kinds ∧ ReadsAs true text kinds :=
    conveys_field hf
  obtain ⟨kinds, hkinds, hreads⟩ := ReadsAs.mapping hfield htext
  refine ⟨_, (Conveys.mapping hkinds).imp ?_ ?_, hreads.readsAs.item⟩
  · rintro k given hgiven ⟨_, hforms, trees, rfl, htold⟩
    obtain ⟨hnodup, hheard⟩ := heard_setAll hfields hgiven
    exact ⟨_, hheard, _, hforms, group_iff.mpr ⟨trees, given, rfl, htold, hnodup, rfl⟩⟩
  · intro t ht
    refine ⟨fields.map fun f => ⟨f, t.get f⟩, List.forall₂_map_right_iff.mpr ?_⟩
    exact List.forall₂_same.mpr fun f _ => ⟨_, rfl, ht f⟩

/-- A tree lists groups that tell of specifications. -/
def TellsGroups (t : Tree) (specs : List Spec) : Prop :=
  ∃ items, t.items? = some items ∧ List.Forall₂ TellsGroup items specs

lemma conveys_groups {specs : List Spec} {text : List Char} (h : GroupsText specs text) :
    ∃ kinds, Conveys (List.Forall₂ Spec.Heard) (Told TellsGroups) specs kinds ∧
      ReadsAs false text kinds := by
  obtain ⟨kinds, hkinds, hreads⟩ := ReadsAs.sequence (fun s text hs => conveys_group hs) h
  refine ⟨_, (Conveys.sequence hkinds).imp ?_ fun found hfound => ⟨found, hfound⟩, hreads.readsAs⟩
  rintro k found hfound ⟨_, hforms, items, rfl, htold⟩
  exact ⟨found, hfound, _, hforms, items, rfl, htold⟩

/-- The tokens of a configuration. -/
lemma conveys_configuration {specs : List Spec} {text : List Char}
    (h : Json.Enclosed '\x7b' '\x7d' (fun specs => Member groupsKey (GroupsText specs)) [specs]
      text) :
    ∃ kinds, Conveys (List.Forall₂ Spec.Heard)
      (Told fun t specs => IsConfiguration t ∧ ConfigurationTells t specs) specs kinds ∧
      ReadsWhole text kinds := by
  have hmember (specs : List Spec) (text : List Char)
      (h : Member groupsKey (GroupsText specs) text) :
      ∃ kinds, Conveys (List.Forall₂ Spec.Heard)
        (EntryTold fun e specs => e.1.text? = some groupsKey ∧ TellsGroups e.2 specs) specs kinds ∧
        ReadsAs true text kinds :=
    conveys_member isWordChar_of_mem_groupsKey h fun value => conveys_groups
  obtain ⟨kinds, hkinds, hreads⟩ := ReadsAs.mapping hmember h
  refine ⟨_, (Conveys.mapping hkinds).imp ?_ fun found hfound => ⟨[found], .cons hfound .nil⟩,
    hreads⟩
  rintro k _ (_ | ⟨hfound, _ | _⟩) ⟨_, hforms, _, rfl, _ | ⟨⟨hkey, items, hitems, htold⟩, _ | _⟩⟩
  refine ⟨_, hfound, _, hforms, configuration_iff.mpr ⟨items, ⟨_, _, rfl, hkey, hitems⟩, ?_⟩⟩
  exact (List.forall₂_and_left _ _).mp htold

end Autoscaler.NodeGroup
