import Autoscaler.Proofs.ConfigurationTokens
import Autoscaler.Proofs.Decoding
import Autoscaler.Proofs.EndOfStream

/-!
# Configurations in JSON are read as documents

A configuration in JSON is read as the same groups in the same order, as far as its strings are
kept. A string with a character that no document may contain, or that is not heard, spoils the
whole; other strings are read as what they are heard as.
-/

namespace Autoscaler.NodeGroup

open Yaml
open Json (IsEscaped)

section Texts

variable {specs found : List Spec} {text : String}

/-- What is read of a configuration in JSON: if a character may not stand in a document or a string
is not heard, nothing, and else what the strings are heard as. -/
theorem decode_text_eq_ok_iff (h : ConfigurationText specs text.toList) :
    decode text.toUTF8.data.toList = .ok found ↔
      (∀ s ∈ specs, ∀ f : Field, f.kind.IsAllowed (s.get f)) ∧
        List.Forall₂ Spec.Heard specs found := by
  have hchars := forall_isAllowed_of_configurationText h
  rw [toUTF8_eq_encode, ← hchars]
  rcases source_encode text.toList with ⟨hallowed, hsource⟩ | ⟨⟨c, hc, hbad⟩, hbroken⟩
  · rw [and_iff_right hallowed]
    obtain ⟨before, object, after, hbefore, hafter, htabs, hobject, htext⟩ := h
    obtain ⟨kinds, hconveys, hreads⟩ := conveys_configuration hobject
    obtain ⟨hnothing, htold⟩ := ofSource_of_readsWhole hreads hbefore hafter htabs
    rw [← htext, ← hsource] at hnothing htold
    cases hconveys with
    | nothing hunheard =>
      obtain ⟨e, he⟩ := ofDocument_of_unended (hnothing rfl)
      refine iff_of_false (fun hok => ?_) (hunheard found)
      cases he.symm.trans hok
    | @told kinds specs' hheard hkinds =>
      obtain ⟨t, hforms, htells⟩ := hkinds
      have hholds : (Document.ofBytes (encode text.toList)).Holds t :=
        holds_of_forms hforms (htold kinds rfl)
      have hok : decode (encode text.toList) = .ok specs' := (decode_eq_ok hholds).mpr htells
      rw [hok, Except.ok.injEq]
      constructor
      · rintro rfl
        exact hheard
      · exact List.right_unique_forall₂' heard_unique hheard
  · obtain ⟨e, he⟩ := decode_of_broken hbroken
    refine iff_of_false (fun hok => ?_) fun hall => ?_
    · cases he.symm.trans hok
    · exact absurd (hbad.symm.trans (hall.1 c hc)) (by decide)

/-- A value is kept in JSON. Whole numbers and flags always are. A string is if all its characters
may stand in a document, once the quote, the backslash and control characters are escaped, and if it
survives in a double-quoted scalar. -/
def Kind.Keeps : (k : Kind) → k.Value → Prop
  | .text, s => (∀ c ∈ s.toList, IsEscaped c ∨ isAllowed c = true) ∧ Scan.Survives s.toList
  | .integer, _ => True
  | .flag, _ => True

instance Kind.decidableKeeps : (k : Kind) → (v : k.Value) → Decidable (k.Keeps v)
  | .text, _ => @instDecidableAnd _ _ (List.decidableBAll _ _) (Scan.decidableSurvives _)
  | .integer, _ => .isTrue trivial
  | .flag, _ => .isTrue trivial

lemma Kind.keeps_iff {k : Kind} {v : k.Value} : k.Keeps v ↔ k.IsAllowed v ∧ k.Heard v v := by
  cases k with
  | text => exact and_congr_right fun _ => Scan.heard_eq_some_self_iff.symm
  | integer => exact iff_of_true trivial ⟨trivial, rfl⟩
  | flag => exact iff_of_true trivial ⟨trivial, rfl⟩

/-- A configuration in JSON is read as it is if and only if each of its strings is kept. -/
theorem decode_text_eq_self_iff (h : ConfigurationText specs text.toList) :
    decode text.toUTF8.data.toList = .ok specs ↔
      ∀ s ∈ specs, ∀ f : Field, f.kind.Keeps (s.get f) := by
  rw [decode_text_eq_ok_iff h, List.forall₂_same, ← forall₂_and]
  simp only [Kind.keeps_iff, Spec.Heard, forall_and]

end Texts

/-- A group whose name has characters of each length, a quote and a line feed. -/
def quotedGroup : Spec :=
  { name := "\"α→😀\"\n", labelKey := "node group", labelValue := "-", minNodes := -1, maxNodes := 10
    dryMode := true, hardDeleteGracePeriod := "1h" }

def quotedText : String := String.ofList (writeConfiguration [quotedGroup])

theorem decode_text_quoted : ConfigurationText [quotedGroup] quotedText.toList ∧
    (∀ s ∈ [quotedGroup], ∀ f : Field, f.kind.Keeps (s.get f)) ∧
    decode quotedText.toUTF8.data.toList = .ok [quotedGroup] := by
  have htext : ConfigurationText [quotedGroup] quotedText.toList := by
    rw [quotedText, String.toList_ofList]
    exact configurationText_writeConfiguration [quotedGroup]
  have hkeeps : ∀ s ∈ [quotedGroup], ∀ f : Field, f.kind.Keeps (s.get f) := by
    intro s hs f
    obtain rfl := List.mem_singleton.mp hs
    cases f <;> decide
  exact ⟨htext, hkeeps, (decode_text_eq_self_iff htext).mpr hkeeps⟩

/-- A group whose name has a delete character, which JSON does not escape. -/
def deleteGroup : Spec := { name := "pool\x7f" }

def deleteText : String := String.ofList (writeConfiguration [deleteGroup])

theorem decode_text_delete : ConfigurationText [deleteGroup] deleteText.toList ∧
    decode deleteText.toUTF8.data.toList ≠ .ok [deleteGroup] := by
  have htext : ConfigurationText [deleteGroup] deleteText.toList := by
    rw [deleteText, String.toList_ofList]
    exact configurationText_writeConfiguration [deleteGroup]
  have hnone : (decode deleteText.toUTF8.data.toList).toOption = none := by
    decide +kernel
  refine ⟨htext, fun hok => ?_⟩
  rw [hok] at hnone
  cases hnone

end Autoscaler.NodeGroup
