import Autoscaler.Proofs.Decoding
import Autoscaler.Proofs.EndOfSource
import Autoscaler.Proofs.SourceText

/-!
# The end of the stream

A stream of events has its end only if the tokens have it, and a document is whole and the only one
of its stream only if the events have it. So no node groups are read from tokens that break off, and
none from a broken source.
-/

open Std.Do
set_option mvcgen.warning false

namespace Autoscaler.Yaml

/-- None of the tokens ahead is the end of the stream. -/
def Grammar.Unended (g : Grammar) : Prop := ∀ t ∈ g.tokens, t.kind ≠ .streamEnd

namespace Parse

@[spec] lemma fail_spec {α : Type} (Q : PostCond α (.arg Grammar (.except PUnit .pure))) :
    ⦃fun _ => Q.2.1 ⟨⟩⦄ (Parse.fail : Parse α) ⦃Q⦄ := by
  intro g hg
  exact hg

@[spec] lemma unended_peek :
    ⦃fun g => ⌜g.Unended⌝⦄ peek ⦃⇓? t g => ⌜g.Unended ∧ t.kind ≠ .streamEnd⌝⦄ := by
  rw [triple_iff]
  intro g t g' hg hpeek
  obtain ⟨t', hhead, heq⟩ := Option.map_eq_some_iff.mp hpeek
  cases heq
  exact ⟨hg, hg t (List.mem_of_head? hhead)⟩

@[spec] lemma unended_skip : ⦃fun g => ⌜g.Unended⌝⦄ skip ⦃⇓? _ g => ⌜g.Unended⌝⦄ := by
  intro g hg
  exact fun t ht => hg t (List.mem_of_mem_drop ht)

@[spec] lemma unended_skipPeek :
    ⦃fun g => ⌜g.Unended⌝⦄ skipPeek ⦃⇓? t g => ⌜g.Unended ∧ t.kind ≠ .streamEnd⌝⦄ := by
  mvcgen [skipPeek]

@[spec] lemma unended_expect (e : Expected) :
    ⦃fun g => ⌜g.Unended⌝⦄ expect e ⦃⇓? _ g => ⌜g.Unended⌝⦄ := by
  intro g hg
  exact hg

@[spec] lemma unended_push (e : Expected) :
    ⦃fun g => ⌜g.Unended⌝⦄ push e ⦃⇓? _ g => ⌜g.Unended⌝⦄ := by
  intro g hg
  exact hg

@[spec] lemma unended_pop : ⦃fun g => ⌜g.Unended⌝⦄ pop ⦃⇓? _ g => ⌜g.Unended⌝⦄ := by
  intro g hg
  exact hg

@[spec] lemma unended_resolveTag (handle suffix : String) :
    ⦃fun g => ⌜g.Unended⌝⦄ resolveTag handle suffix ⦃⇓? _ g => ⌜g.Unended⌝⦄ := by
  mvcgen [resolveTag]

@[spec] lemma unended_readAnchor :
    ⦃fun g => ⌜g.Unended⌝⦄ readAnchor ⦃⇓? _ g => ⌜g.Unended⌝⦄ := by
  mvcgen [readAnchor]
  all_goals simp_all

@[spec] lemma unended_readTag :
    ⦃fun g => ⌜g.Unended⌝⦄ readTag ⦃⇓? _ g => ⌜g.Unended⌝⦄ := by
  mvcgen [readTag]
  all_goals simp_all

@[spec] lemma unended_readProperties :
    ⦃fun g => ⌜g.Unended⌝⦄ readProperties ⦃⇓? _ g => ⌜g.Unended⌝⦄ := by
  mvcgen [readProperties]
  all_goals simp_all

@[simp] lemma emptyScalar_kind_ne (m : Mark) : (emptyScalar m).kind ≠ .streamEnd := by
  simp [emptyScalar]

@[spec] lemma unended_readNode (block indentless : Bool) :
    ⦃fun g => ⌜g.Unended⌝⦄ readNode block indentless
    ⦃⇓? e g => ⌜g.Unended ∧ e.kind ≠ .streamEnd⌝⦄ := by
  mvcgen [readNode]
  all_goals simp_all

@[spec] lemma unended_readNodeUnless (without : List Token.Kind) (next : Expected)
    (block indentless : Bool) (m : Mark) :
    ⦃fun g => ⌜g.Unended⌝⦄ readNodeUnless without next block indentless m
    ⦃⇓? e g => ⌜g.Unended ∧ e.kind ≠ .streamEnd⌝⦄ := by
  mvcgen [readNodeUnless]
  all_goals simp_all

@[spec] lemma unended_readDirectives (fuel : Nat) (version : Option (Nat × Nat))
    (handles : List (String × String)) :
    ⦃fun g => ⌜g.Unended⌝⦄ readDirectives fuel version handles ⦃⇓? _ g => ⌜g.Unended⌝⦄ := by
  induction fuel generalizing version handles with
  | zero => mvcgen [readDirectives]
  | succ fuel ih =>
    mvcgen [readDirectives, ih]
    all_goals simp_all

@[spec] lemma unended_skipDocumentEnds (fuel : Nat) :
    ⦃fun g => ⌜g.Unended⌝⦄ skipDocumentEnds fuel ⦃⇓? _ g => ⌜g.Unended⌝⦄ := by
  induction fuel with
  | zero => mvcgen [skipDocumentEnds]
  | succ fuel ih =>
    mvcgen [skipDocumentEnds, ih]
    all_goals simp_all

@[spec] lemma unended_readDocumentStart (first : Bool) :
    ⦃fun g => ⌜g.Unended⌝⦄ readDocumentStart first
    ⦃⇓? e g => ⌜g.Unended ∧ e.kind ≠ .streamEnd⌝⦄ := by
  mvcgen [readDocumentStart]
  all_goals simp_all +zetaDelta [Grammar.Unended]

@[spec] lemma unended_readDocumentContent :
    ⦃fun g => ⌜g.Unended⌝⦄ readDocumentContent
    ⦃⇓? e g => ⌜g.Unended ∧ e.kind ≠ .streamEnd⌝⦄ := by
  mvcgen [readDocumentContent]
  all_goals simp_all

@[spec] lemma unended_readDocumentEnd :
    ⦃fun g => ⌜g.Unended⌝⦄ readDocumentEnd
    ⦃⇓? e g => ⌜g.Unended ∧ e.kind ≠ .streamEnd⌝⦄ := by
  mvcgen [readDocumentEnd]
  all_goals simp_all +zetaDelta [Grammar.Unended]

@[spec] lemma unended_endCollection (kind : Event.Kind) (hkind : kind ≠ .streamEnd) :
    ⦃fun g => ⌜g.Unended⌝⦄ endCollection kind
    ⦃⇓? e g => ⌜g.Unended ∧ e.kind ≠ .streamEnd⌝⦄ := by
  mvcgen [endCollection]
  all_goals simp_all

@[spec] lemma unended_readBlockSequenceEntry :
    ⦃fun g => ⌜g.Unended⌝⦄ readBlockSequenceEntry
    ⦃⇓? e g => ⌜g.Unended ∧ e.kind ≠ .streamEnd⌝⦄ := by
  mvcgen [readBlockSequenceEntry]
  all_goals simp_all

@[spec] lemma unended_readIndentlessEntry :
    ⦃fun g => ⌜g.Unended⌝⦄ readIndentlessEntry
    ⦃⇓? e g => ⌜g.Unended ∧ e.kind ≠ .streamEnd⌝⦄ := by
  mvcgen [readIndentlessEntry]
  all_goals simp_all

@[spec] lemma unended_readBlockMappingKey :
    ⦃fun g => ⌜g.Unended⌝⦄ readBlockMappingKey
    ⦃⇓? e g => ⌜g.Unended ∧ e.kind ≠ .streamEnd⌝⦄ := by
  mvcgen [readBlockMappingKey]
  all_goals simp_all

@[spec] lemma unended_readBlockMappingValue :
    ⦃fun g => ⌜g.Unended⌝⦄ readBlockMappingValue
    ⦃⇓? e g => ⌜g.Unended ∧ e.kind ≠ .streamEnd⌝⦄ := by
  mvcgen [readBlockMappingValue]
  all_goals simp_all

@[spec] lemma unended_readFlowSequenceEntry (first : Bool) :
    ⦃fun g => ⌜g.Unended⌝⦄ readFlowSequenceEntry first
    ⦃⇓? e g => ⌜g.Unended ∧ e.kind ≠ .streamEnd⌝⦄ := by
  mvcgen [readFlowSequenceEntry]
  all_goals simp_all

@[spec] lemma unended_readFlowPairKey :
    ⦃fun g => ⌜g.Unended⌝⦄ readFlowPairKey
    ⦃⇓? e g => ⌜g.Unended ∧ e.kind ≠ .streamEnd⌝⦄ := by
  mvcgen [readFlowPairKey]
  all_goals simp_all

@[spec] lemma unended_readFlowPairValue :
    ⦃fun g => ⌜g.Unended⌝⦄ readFlowPairValue
    ⦃⇓? e g => ⌜g.Unended ∧ e.kind ≠ .streamEnd⌝⦄ := by
  mvcgen [readFlowPairValue]
  all_goals simp_all

@[spec] lemma unended_readFlowPairEnd :
    ⦃fun g => ⌜g.Unended⌝⦄ readFlowPairEnd
    ⦃⇓? e g => ⌜g.Unended ∧ e.kind ≠ .streamEnd⌝⦄ := by
  mvcgen [readFlowPairEnd]
  all_goals simp_all

@[spec] lemma unended_readFlowMappingKey (first : Bool) :
    ⦃fun g => ⌜g.Unended⌝⦄ readFlowMappingKey first
    ⦃⇓? e g => ⌜g.Unended ∧ e.kind ≠ .streamEnd⌝⦄ := by
  mvcgen [readFlowMappingKey]
  all_goals simp_all

@[spec] lemma unended_readFlowMappingValue :
    ⦃fun g => ⌜g.Unended⌝⦄ readFlowMappingValue
    ⦃⇓? e g => ⌜g.Unended ∧ e.kind ≠ .streamEnd⌝⦄ := by
  mvcgen [readFlowMappingValue]
  all_goals simp_all

@[spec] lemma unended_readFlowMappingEmptyValue :
    ⦃fun g => ⌜g.Unended⌝⦄ readFlowMappingEmptyValue
    ⦃⇓? e g => ⌜g.Unended ∧ e.kind ≠ .streamEnd⌝⦄ := by
  mvcgen [readFlowMappingEmptyValue]
  all_goals simp_all

@[spec] lemma unended_readEvent :
    ⦃fun g => ⌜g.Unended⌝⦄ readEvent
    ⦃⇓? e g => ⌜g.Unended ∧ e.kind ≠ .streamEnd⌝⦄ := by
  mvcgen [readEvent]
  all_goals simp_all

lemma ne_streamEnd_of_mem_readEvents {fuel : Nat} {g : Grammar} (h : g.Unended) :
    ∀ e ∈ readEvents fuel g, e.kind ≠ .streamEnd := by
  induction fuel generalizing g with
  | zero => simp [readEvents]
  | succ fuel ih =>
    rw [readEvents]
    split
    next => simp
    next e g' hread =>
      obtain ⟨h', he⟩ := triple_iff.mp unended_readEvent _ _ _ h hread
      exact List.forall_mem_cons.mpr ⟨he, ih h'⟩

end Parse

/-- Events that break off before the end of the stream make up no document, or not a single one. -/
lemma Document.read_of_unended {events : List Event} (h : ∀ e ∈ events, e.kind ≠ .streamEnd)
    (r : Reading) : (read r events).1.fault ≠ none ∨ (read r events).1.continued = true := by
  induction events generalizing r with
  | nil => exact .inl (by simp [read, Reading.finish])
  | cons e rest ih =>
    obtain ⟨hkind, hrest⟩ := List.forall_mem_cons.mp h
    have hnext := ih hrest
    rw [read]
    cases hk : e.kind with
    | streamEnd => exact absurd hk hkind
    | documentEnd =>
      right
      cases rest with
      | nil => rfl
      | cons next rest =>
        have hne : next.kind ≠ .streamEnd := hrest next List.mem_cons_self
        simp [Reading.finish, endsStream, hne]
    | «alias» name =>
      dsimp only
      split
      · exact hnext _
      · exact .inl (by simp [Reading.finish])
    | _ => exact hnext _

end Autoscaler.Yaml

namespace Autoscaler.NodeGroup

open Yaml

lemma single_of_ofDocument {d : Document} {specs : List Spec} (h : ofDocument d = .ok specs) :
    d.fault = none ∧ d.continued = false := by
  obtain ⟨found, -, h⟩ := bind_eq_ok.mp h
  split at h
  · cases h
  next hfault =>
    split at h
    · cases h
    next hcontinued => exact ⟨by simpa using hfault, by simpa using hcontinued⟩

/-- No groups come of tokens that break off before the end of the stream. -/
lemma ofDocument_of_unended {tokens : List Token} (h : ∀ t ∈ tokens, t.kind ≠ .streamEnd) :
    ∃ e, ofDocument (Document.ofEvents (Event.ofTokens tokens)) = .error e := by
  have hgrammar : Grammar.Unended { tokens } := h
  have hevents : ∀ e ∈ Event.ofTokens tokens, e.kind ≠ .streamEnd :=
    Parse.ne_streamEnd_of_mem_readEvents hgrammar
  have hread := Document.read_of_unended hevents {}
  cases hdoc : ofDocument (Document.ofEvents (Event.ofTokens tokens)) with
  | error e => exact ⟨e, rfl⟩
  | ok specs =>
    obtain ⟨hfault, hcontinued⟩ := single_of_ofDocument hdoc
    rcases hread with hread | hread
    · exact absurd hfault hread
    · exact absurd (hcontinued.symm.trans hread) (by decide)

/-- No groups come of a text with a byte or character that documents may not contain. -/
lemma decode_of_broken {bytes : List UInt8} (h : (Source.ofBytes bytes).broken = true) :
    ∃ e, decode bytes = .error e := by
  have hchars : endChar ∉ (Source.ofBytes bytes).chars := fun hmem =>
    absurd (isAllowed_of_mem_readBlocks _ hmem) (by decide)
  exact ofDocument_of_unended (ne_streamEnd_of_broken h hchars)

end Autoscaler.NodeGroup
