import Autoscaler.Proofs.DurationText
import Autoscaler.Proofs.FlowStrings
import Autoscaler.Proofs.GroupFields
import Autoscaler.Yaml.Source
import Autoscaler.Yaml.Token.Lexer

/-!
# Configurations in JSON

The texts of a configuration in JSON: an object with the one key for the groups, and for each group
an object with all fifteen keys in any order. Gaps stand wherever JSON has them, with two limits
that documents set: no tabs come before or after the whole, and a key and its colon are close
together and on one line.
-/

namespace Autoscaler.NodeGroup

open Json

def flagChars : Bool → List Char
  | true => ['t', 'r', 'u', 'e']
  | false => ['f', 'a', 'l', 's', 'e']

/-- The ways to write the value of a field. -/
def Kind.Writes : (k : Kind) → k.Value → List Char → Prop
  | .text, s, written => ∃ body, Spells s.toList body ∧ written = '"' :: (body ++ ['"'])
  | .integer, n, written => written = Text.intDigits n.toInt
  | .flag, b, written => written = flagChars b

/-- The ways to write a key that needs no escapes, and a value after it. -/
def Member (key : String) (Writes : List Char → Prop) (text : List Char) : Prop :=
  ∃ blanks gap value, (∀ c ∈ blanks, c = ' ' ∨ c = '\t') ∧
    key.toList.length + 2 + blanks.length ≤ Yaml.maxKeyLength ∧ IsGapText gap ∧ Writes value ∧
    text = '"' :: (key.toList ++ '"' :: (blanks ++ ':' :: (gap ++ value)))

/-- The ways to write a group. -/
def GroupText (s : Spec) (text : List Char) : Prop :=
  ∃ fields : List Field, fields.Perm Field.all ∧
    Enclosed '\x7b' '\x7d' (fun f => Member f.key (f.kind.Writes (s.get f))) fields text

/-- The ways to write a list of groups. -/
def GroupsText (specs : List Spec) (text : List Char) : Prop :=
  Enclosed '[' ']' GroupText specs text

/-- The ways to write a configuration. -/
def ConfigurationText (specs : List Spec) (text : List Char) : Prop :=
  ∃ before object after, IsGapText before ∧ IsGapText after ∧ '\t' ∉ before ++ after ∧
    Enclosed '\x7b' '\x7d' (fun specs => Member groupsKey (GroupsText specs)) [specs] object ∧
    text = before ++ (object ++ after)

/-! ### One text for each configuration -/

def Kind.write : (k : Kind) → k.Value → List Char
  | .text, s => '"' :: (s.toList.flatMap writeChar ++ ['"'])
  | .integer, n => Text.intDigits n.toInt
  | .flag, b => flagChars b

def writeMember (key : String) (value : List Char) : List Char :=
  '"' :: (key.toList ++ '"' :: ':' :: value)

def writeGroup (s : Spec) : List Char :=
  writeEnclosed '\x7b' '\x7d' (fun f : Field => writeMember f.key (f.kind.write (s.get f)))
    Field.all

/-- A configuration in JSON without gaps, with the keys in the order of the fields. -/
def writeConfiguration (specs : List Spec) : List Char :=
  writeEnclosed '\x7b' '\x7d'
    (fun specs => writeMember groupsKey (writeEnclosed '[' ']' writeGroup specs)) [specs]

lemma Kind.writes_write (k : Kind) (v : k.Value) : k.Writes v (k.write v) := by
  cases k with
  | text => exact ⟨_, spells_flatMap_writeChar _, rfl⟩
  | integer => rfl
  | flag => rfl

lemma member_writeMember {key : String} {Writes : List Char → Prop} {value : List Char}
    (hlength : key.toList.length + 2 ≤ Yaml.maxKeyLength) (h : Writes value) :
    Member key Writes (writeMember key value) :=
  ⟨[], [], value, nofun, hlength, isGapText_nil, h, rfl⟩

lemma length_key (f : Field) : f.key.toList.length + 2 ≤ Yaml.maxKeyLength := by
  cases f <;> decide

lemma groupText_writeGroup (s : Spec) : GroupText s (writeGroup s) :=
  ⟨Field.all, .refl _, enclosed_writeEnclosed
    (fun f => member_writeMember (length_key f) (Kind.writes_write _ _)) _ _ _⟩

/-- Every configuration has a text. -/
theorem configurationText_writeConfiguration (specs : List Spec) :
    ConfigurationText specs (writeConfiguration specs) := by
  have hgroups (specs : List Spec) : GroupsText specs (writeEnclosed '[' ']' writeGroup specs) :=
    enclosed_writeEnclosed groupText_writeGroup _ _ _
  refine ⟨[], _, [], isGapText_nil, isGapText_nil, by simp,
    enclosed_writeEnclosed (fun specs => ?_) _ _ _, (List.append_nil _).symm⟩
  exact member_writeMember (by decide) (hgroups specs)

/-! ### The characters of a text -/

/-- All characters of a value may stand in a document, once they are escaped as need be. -/
def Kind.IsAllowed : (k : Kind) → k.Value → Prop
  | .text, s => ∀ c ∈ s.toList, IsEscaped c ∨ Yaml.isAllowed c = true
  | .integer, _ => True
  | .flag, _ => True

section Characters

variable {c : Char}

lemma isWordChar_of_digitValue (h : Text.digitValue c < 36) : Yaml.isWordChar c = true := by
  unfold Text.digitValue at h
  split_ifs at h with hdigit hlower hupper
  · simp [Yaml.isWordChar, hdigit]
  · simp [Yaml.isWordChar, hlower]
  · simp [Yaml.isWordChar, hupper]
  · exact absurd h (by decide)

/-- Characters of words are plain ones: none of them is escaped, all of them are allowed. -/
lemma plain_of_isWordChar (h : Yaml.isWordChar c = true) :
    ¬IsEscaped c ∧ Yaml.isAllowed c = true := by
  have hle : ∀ a b : Char, a ≤ b ↔ a.toNat ≤ b.toNat := fun a b => by
    rw [Char.le_def, UInt32.le_iff_toNat_le]
    rfl
  have hslash : c ≠ '\\' := by
    rintro rfl
    exact absurd h (by decide)
  have hquote : c ≠ '"' := by
    rintro rfl
    exact absurd h (by decide)
  simp only [Yaml.isWordChar, Bool.or_eq_true, Bool.and_eq_true, decide_eq_true_eq, beq_iff_eq,
    hle] at h
  have hrange : 0x20 ≤ c.toNat ∧ c.toNat ≤ 0x7E := by
    rcases h with (((h | h) | h) | rfl) | rfl
    · exact ⟨Nat.le_trans (by decide) h.1, Nat.le_trans h.2 (by decide)⟩
    · exact ⟨Nat.le_trans (by decide) h.1, Nat.le_trans h.2 (by decide)⟩
    · exact ⟨Nat.le_trans (by decide) h.1, Nat.le_trans h.2 (by decide)⟩
    · decide
    · decide
  exact ⟨by simp [IsEscaped, hquote, hslash, hrange.1], by simp [Yaml.isAllowed, hrange]⟩

lemma isAllowed_of_isGap (h : isGap c = true) : Yaml.isAllowed c = true := by
  simp only [isGap, Bool.or_eq_true, beq_iff_eq] at h
  rcases h with ((rfl | rfl) | rfl) | rfl <;> decide

lemma isAllowed_of_readDigits {digits : List Char} {value n : Nat}
    (h : Text.readDigits 16 value digits = some n) : ∀ c ∈ digits, Yaml.isAllowed c = true := by
  induction digits generalizing value with
  | nil => nofun
  | cons d digits ih =>
    rw [Text.readDigits] at h
    split at h
    next hd =>
      have hword := isWordChar_of_digitValue (Nat.lt_trans hd (by decide))
      exact List.forall_mem_cons.mpr ⟨(plain_of_isWordChar hword).2, ih h⟩
    next => cases h

lemma isAllowed_of_readNat {digits : List Char} {n : Nat} (h : Text.readNat 16 digits = some n) :
    ∀ c ∈ digits, Yaml.isAllowed c = true := by
  cases digits with
  | nil => nofun
  | cons d digits => exact isAllowed_of_readDigits h

/-- Escapes themselves are always allowed. -/
lemma forall_isAllowed_of_spellsChar {piece : List Char} (h : SpellsChar c piece) :
    (∀ x ∈ piece, Yaml.isAllowed x = true) ↔ IsEscaped c ∨ Yaml.isAllowed c = true := by
  cases h with
  | asIs h => simp [h]
  | @short letter _ h =>
    refine iff_of_true (List.all_eq_true.mp ?_) (.inl (isEscaped_of_short h))
    simp only [shortEscapes, List.mem_cons, Prod.mk.injEq, List.not_mem_nil, or_false] at h
    rcases h with ⟨rfl, -⟩ | ⟨rfl, -⟩ | ⟨rfl, -⟩ | ⟨rfl, -⟩ | ⟨rfl, -⟩ | ⟨rfl, -⟩ | ⟨rfl, -⟩ <;>
      decide
  | code h hlength hvalue =>
    have hdigits := isAllowed_of_readNat hvalue
    exact iff_of_true (by simpa using ⟨by decide, by decide, hdigits⟩) (.inl h)

lemma forall_isAllowed_of_spells {s text : List Char} (h : Spells s text) :
    (∀ x ∈ text, Yaml.isAllowed x = true) ↔
      ∀ c ∈ s, IsEscaped c ∨ Yaml.isAllowed c = true := by
  induction h with
  | nil => simp
  | cons hc _ ih =>
    rw [List.forall_mem_append, List.forall_mem_cons, forall_isAllowed_of_spellsChar hc, ih]

end Characters

/-- Digits and a sign make up words. -/
lemma isWordChar_of_mem_intDigits {n : Int} {c : Char} (h : c ∈ Text.intDigits n) :
    Yaml.isWordChar c = true := by
  have hdigits : ∀ m : Nat, ∀ x ∈ Text.natDigits m, Yaml.isWordChar x = true := fun m x hx =>
    isWordChar_of_digitValue <| Nat.lt_trans
      (Duration.digitValue_eq (Duration.isDigit_of_mem_natDigits hx)).2 (by decide)
  cases n with
  | ofNat m => exact hdigits m c h
  | negSucc m =>
    rcases List.mem_cons.mp h with rfl | h
    · decide
    · exact hdigits (m + 1) c h

lemma isWordChar_of_mem_key {f : Field} : ∀ c ∈ f.key.toList, Yaml.isWordChar c = true := by
  rw [← List.all_eq_true]
  cases f <;> decide

lemma isWordChar_of_mem_groupsKey : ∀ c ∈ groupsKey.toList, Yaml.isWordChar c = true := by
  rw [← List.all_eq_true]
  decide

lemma isWordChar_of_mem_flagChars {b : Bool} : ∀ c ∈ flagChars b, Yaml.isWordChar c = true := by
  rw [← List.all_eq_true]
  cases b <;> decide

lemma forall_isAllowed_of_writes {k : Kind} {v : k.Value} {text : List Char}
    (h : k.Writes v text) : (∀ c ∈ text, Yaml.isAllowed c = true) ↔ k.IsAllowed v := by
  cases k with
  | text =>
    obtain ⟨body, hs, rfl⟩ := h
    have hquote : Yaml.isAllowed '"' = true := by decide
    rw [List.forall_mem_cons, List.forall_mem_append, and_iff_right hquote,
      and_iff_left (by simpa using hquote), forall_isAllowed_of_spells hs]
    rfl
  | integer =>
    subst h
    exact iff_of_true (fun c hc => (plain_of_isWordChar (isWordChar_of_mem_intDigits hc)).2) trivial
  | flag =>
    subst h
    exact iff_of_true (fun c hc => (plain_of_isWordChar (isWordChar_of_mem_flagChars c hc)).2)
      trivial

lemma forall_isAllowed_of_member {key : String} {Writes : List Char → Prop} {P : Prop}
    {text : List Char} (hkey : ∀ c ∈ key.toList, Yaml.isWordChar c = true)
    (h : Member key Writes text)
    (hvalue : ∀ value, Writes value → ((∀ c ∈ value, Yaml.isAllowed c = true) ↔ P)) :
    (∀ c ∈ text, Yaml.isAllowed c = true) ↔ P := by
  obtain ⟨blanks, gap, value, hblanks, -, hgap, hwrites, rfl⟩ := h
  have hkey' : ∀ c ∈ key.toList, Yaml.isAllowed c = true :=
    fun c hc => (plain_of_isWordChar (hkey c hc)).2
  have hblanks' : ∀ c ∈ blanks, Yaml.isAllowed c = true := fun c hc => by
    rcases hblanks c hc with rfl | rfl <;> decide
  have hgap' : ∀ c ∈ gap, Yaml.isAllowed c = true := fun c hc => isAllowed_of_isGap (hgap c hc)
  have hmarks : Yaml.isAllowed '"' = true ∧ Yaml.isAllowed ':' = true := by decide
  simp only [List.forall_mem_cons, List.forall_mem_append, hmarks, and_iff_right hkey',
    and_iff_right hblanks', and_iff_right hgap', true_and, hvalue value hwrites]

/-- The characters of a text are a matter of the strings in it. -/
lemma forall_isAllowed_of_configurationText {specs : List Spec} {text : List Char}
    (h : ConfigurationText specs text) : (∀ c ∈ text, Yaml.isAllowed c = true) ↔
      ∀ s ∈ specs, ∀ f : Field, f.kind.IsAllowed (s.get f) := by
  have hgroup : ∀ s text, GroupText s text →
      ((∀ c ∈ text, Yaml.isAllowed c = true) ↔ ∀ f : Field, f.kind.IsAllowed (s.get f)) := by
    rintro s text ⟨fields, hperm, htext⟩
    rw [htext.forall_char_iff (fun c => isAllowed_of_isGap) (by decide) (by decide) (by decide)
      fun f text hf => forall_isAllowed_of_member isWordChar_of_mem_key hf fun value =>
        forall_isAllowed_of_writes]
    simp [hperm.mem_iff, Field.mem_all]
  have hgroups : ∀ specs text, GroupsText specs text →
      ((∀ c ∈ text, Yaml.isAllowed c = true) ↔
        ∀ s ∈ specs, ∀ f : Field, f.kind.IsAllowed (s.get f)) :=
    fun specs text htext => htext.forall_char_iff (fun c => isAllowed_of_isGap) (by decide)
      (by decide) (by decide) hgroup
  obtain ⟨before, object, after, hbefore, hafter, -, hobject, rfl⟩ := h
  have hbefore' : ∀ c ∈ before, Yaml.isAllowed c = true :=
    fun c hc => isAllowed_of_isGap (hbefore c hc)
  have hafter' : ∀ c ∈ after, Yaml.isAllowed c = true :=
    fun c hc => isAllowed_of_isGap (hafter c hc)
  rw [List.forall_mem_append, List.forall_mem_append, and_iff_right hbefore',
    and_iff_left hafter', hobject.forall_char_iff (fun c => isAllowed_of_isGap) (by decide)
      (by decide) (by decide) fun specs text htext =>
        forall_isAllowed_of_member isWordChar_of_mem_groupsKey htext (hgroups specs)]
  simp

end Autoscaler.NodeGroup
