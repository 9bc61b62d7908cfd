import Autoscaler.Json
import Mathlib.Data.List.Basic

/-!
# Texts of JSON

The texts that a value has in JSON. In strings only the quote, the backslash and control characters
are escaped, each in any of the ways there are; every other character is written as it is.
-/

namespace Autoscaler.Json

/-- The characters of a text are gaps. -/
def IsGapText (text : List Char) : Prop := ∀ c ∈ text, isGap c = true

lemma isGapText_nil : IsGapText [] := nofun

/-! ### Strings -/

/-- The characters that have an escape of one letter. -/
def shortEscapes : List (Char × Char) :=
  [('"', '"'), ('\\', '\\'), ('b', '\x08'), ('f', '\x0c'), ('n', '\n'), ('r', '\r'), ('t', '\t')]

/-- The characters that a string cannot hold as they are. -/
def IsEscaped (c : Char) : Prop := c = '"' ∨ c = '\\' ∨ c.toNat < 0x20

instance (c : Char) : Decidable (IsEscaped c) := inferInstanceAs (Decidable (_ ∨ _ ∨ _))

/-- The ways to write one character of a string. -/
inductive SpellsChar : Char → List Char → Prop
  | asIs {c : Char} (h : ¬IsEscaped c) : SpellsChar c [c]
  | short {letter c : Char} (h : (letter, c) ∈ shortEscapes) : SpellsChar c ['\\', letter]
  | code {c : Char} {digits : List Char} (h : IsEscaped c) (hlength : digits.length = 4)
    (hvalue : Text.readNat 16 digits = some c.toNat) : SpellsChar c ('\\' :: 'u' :: digits)

/-- The ways to write the characters of a string, between its quotes. -/
inductive Spells : List Char → List Char → Prop
  | nil : Spells [] []
  | cons {c : Char} {piece s text : List Char} (hc : SpellsChar c piece) (hs : Spells s text) :
    Spells (c :: s) (piece ++ text)

lemma isEscaped_of_short {letter c : Char} (h : (letter, c) ∈ shortEscapes) : IsEscaped c := by
  simp only [shortEscapes, List.mem_cons, Prod.mk.injEq, List.not_mem_nil, or_false] at h
  rcases h with ⟨-, rfl⟩ | ⟨-, rfl⟩ | ⟨-, rfl⟩ | ⟨-, rfl⟩ | ⟨-, rfl⟩ | ⟨-, rfl⟩ | ⟨-, rfl⟩ <;>
    simp [IsEscaped]

/-- A character stands for itself, or a backslash introduces it. -/
lemma SpellsChar.cases_head {c : Char} {piece : List Char} (h : SpellsChar c piece) :
    ¬IsEscaped c ∧ piece = [c] ∨ IsEscaped c ∧ ∃ rest, piece = '\\' :: rest := by
  cases h with
  | asIs h => exact .inl ⟨h, rfl⟩
  | short h => exact .inr ⟨isEscaped_of_short h, _, rfl⟩
  | code h => exact .inr ⟨h, _, rfl⟩

lemma Spells.length_le {s text : List Char} (h : Spells s text) : s.length ≤ text.length := by
  induction h with
  | nil => exact Nat.le_refl 0
  | @cons c piece s text hc _ ih =>
    have hpiece : 0 < piece.length := by
      rcases hc.cases_head with ⟨-, rfl⟩ | ⟨-, rest, rfl⟩ <;> simp
    rw [List.length_cons, List.length_append]
    omega

lemma Spells.append_inv {s t text : List Char} (h : Spells (s ++ t) text) :
    ∃ early late, text = early ++ late ∧ Spells s early ∧ Spells t late := by
  induction s generalizing text with
  | nil => exact ⟨[], text, rfl, .nil, h⟩
  | cons c s ih =>
    obtain _ | ⟨hc, hs⟩ := h
    obtain ⟨early, late, rfl, hearly, hlate⟩ := ih hs
    exact ⟨_, late, (List.append_assoc _ _ _).symm, .cons hc hearly, hlate⟩

/-- A string that has nothing to escape may be written as it is. -/
lemma spells_self {s : List Char} (h : ∀ c ∈ s, ¬IsEscaped c) : Spells s s := by
  induction s with
  | nil => exact .nil
  | cons c s ih =>
    obtain ⟨hc, hs⟩ := List.forall_mem_cons.mp h
    exact .cons (.asIs hc) (ih hs)

/-- A character as it is written by the shortest rule: a backslash for quotes and backslashes, a
code for control characters. -/
def writeChar (c : Char) : List Char :=
  if c = '"' ∨ c = '\\' then ['\\', c]
  else if c.toNat < 0x20 then
    ['\\', 'u', '0', '0', Nat.digitChar (c.toNat / 16), Nat.digitChar (c.toNat % 16)]
  else [c]

lemma readNat_code : ∀ n < 0x20, Text.readNat 16
    ['0', '0', Nat.digitChar (n / 16), Nat.digitChar (n % 16)] = some n := by
  decide

lemma spellsChar_writeChar (c : Char) : SpellsChar c (writeChar c) := by
  unfold writeChar
  split
  next h =>
    refine .short ?_
    rcases h with rfl | rfl <;> simp [shortEscapes]
  next h =>
    split
    next hcode => exact .code (.inr (.inr hcode)) rfl (readNat_code _ hcode)
    next hcode =>
      rw [not_or] at h
      refine .asIs ?_
      rintro (hquote | hslash | hlow)
      · exact h.1 hquote
      · exact h.2 hslash
      · exact hcode hlow

lemma spells_flatMap_writeChar (s : List Char) : Spells s (s.flatMap writeChar) := by
  induction s with
  | nil => exact .nil
  | cons c s ih => exact .cons (spellsChar_writeChar c) ih

/-! ### Lists -/

section Lists

variable {α : Type}

/-- The ways to write values that are separated by commas. `Writes` gives those of one value. -/
inductive Separated (Writes : α → List Char → Prop) : List α → List Char → Prop
  | one {a : α} {text : List Char} (h : Writes a text) : Separated Writes [a] text
  | cons {a : α} {later : List α} {text gap gap' rest : List Char} (h : Writes a text)
    (hgap : IsGapText gap) (hgap' : IsGapText gap') (hrest : Separated Writes later rest) :
    Separated Writes (a :: later) (text ++ (gap ++ ',' :: (gap' ++ rest)))

/-- The ways to write values between brackets. -/
inductive Enclosed (first last : Char) (Writes : α → List Char → Prop) : List α → List Char → Prop
  | nil {gap : List Char} (hgap : IsGapText gap) :
    Enclosed first last Writes [] (first :: (gap ++ [last]))
  | items {all : List α} {text gap gap' : List Char} (h : Separated Writes all text)
    (hgap : IsGapText gap) (hgap' : IsGapText gap') :
    Enclosed first last Writes all (first :: (gap ++ (text ++ (gap' ++ [last]))))

variable {Writes : α → List Char → Prop} {all : List α} {text : List Char}

lemma Separated.ne_nil (h : Separated Writes all text) : all ≠ [] := by
  cases h <;> simp

section Characters

variable {P : Char → Prop} {Q : α → Prop}

/-- What is asked of all characters of a text is a matter of the single values. -/
lemma Separated.forall_char_iff (h : Separated Writes all text) (hgap : ∀ c, isGap c = true → P c)
    (hcomma : P ',') (hitem : ∀ a text, Writes a text → ((∀ c ∈ text, P c) ↔ Q a)) :
    (∀ c ∈ text, P c) ↔ ∀ a ∈ all, Q a := by
  induction h with
  | one h => simp [hitem _ _ h]
  | @cons a later text gap gap' rest h hgap₁ hgap₂ _ ih =>
    have hgap' : ∀ c ∈ gap, P c := fun c hc => hgap c (hgap₁ c hc)
    have hgap'' : ∀ c ∈ gap', P c := fun c hc => hgap c (hgap₂ c hc)
    simp only [List.forall_mem_append, List.forall_mem_cons, hitem a text h, ih,
      and_iff_right hgap', and_iff_right hgap'', and_iff_right hcomma]

lemma Enclosed.forall_char_iff {first last : Char} (h : Enclosed first last Writes all text)
    (hgap : ∀ c, isGap c = true → P c) (hcomma : P ',') (hfirst : P first) (hlast : P last)
    (hitem : ∀ a text, Writes a text → ((∀ c ∈ text, P c) ↔ Q a)) :
    (∀ c ∈ text, P c) ↔ ∀ a ∈ all, Q a := by
  cases h with
  | @nil gap hgap₁ =>
    have hgap' : ∀ c ∈ gap, P c := fun c hc => hgap c (hgap₁ c hc)
    simp only [List.forall_mem_append, List.forall_mem_cons, and_iff_right hgap',
      and_iff_right hfirst, and_iff_right hlast, List.not_mem_nil, false_implies, implies_true]
  | @items _ text gap gap' h hgap₁ hgap₂ =>
    have hgap' : ∀ c ∈ gap, P c := fun c hc => hgap c (hgap₁ c hc)
    have hgap'' : ∀ c ∈ gap', P c := fun c hc => hgap c (hgap₂ c hc)
    simp only [List.forall_mem_append, List.forall_mem_cons, h.forall_char_iff hgap hcomma hitem,
      and_iff_right hgap', and_iff_right hgap'', and_iff_right hfirst, and_iff_right hlast,
      List.not_mem_nil, false_implies, implies_true, and_true]

end Characters

/-- Values with a comma between them. -/
def writeItems (write : α → List Char) : List α → List Char
  | [] => []
  | [a] => write a
  | a :: later => write a ++ ',' :: writeItems write later

/-- Values between brackets, without gaps. -/
def writeEnclosed (first last : Char) (write : α → List Char) (all : List α) : List Char :=
  first :: (writeItems write all ++ [last])

lemma separated_writeItems {write : α → List Char} (h : ∀ a, Writes a (write a)) (a : α)
    (later : List α) : Separated Writes (a :: later) (writeItems write (a :: later)) := by
  induction later generalizing a with
  | nil => exact .one (h a)
  | cons b later ih => exact .cons (h a) isGapText_nil isGapText_nil (ih b)

lemma enclosed_writeEnclosed {write : α → List Char} (h : ∀ a, Writes a (write a))
    (first last : Char) (all : List α) :
    Enclosed first last Writes all (writeEnclosed first last write all) := by
  cases all with
  | nil => exact .nil isGapText_nil
  | cons a later => exact .items (separated_writeItems h a later) isGapText_nil isGapText_nil

end Lists
end Autoscaler.Json
