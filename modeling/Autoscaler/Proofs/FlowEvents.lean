import Autoscaler.Proofs.DocumentTree

/-!
# Events of a flow

The tokens of a flow collection are read as the events of its tree. What a node is read as does not
depend on where it stands, so a collection is put together from its nodes: the nodes follow each
other, and the grammar returns to where it was.
-/

namespace Autoscaler.Yaml

/-! ### Events of a tree -/

/-- What an event contributes to a tree, if it is part of one and has no anchor. -/
def Event.part? (e : Event) : Option (Node.Part × Mark) :=
  match e.kind with
  | .scalar none s => some (.scalar s, e.mark)
  | .sequenceStart none => some (.sequenceStart, e.mark)
  | .mappingStart none => some (.mappingStart, e.mark)
  | .sequenceEnd => some (.collectionEnd, e.mark)
  | .mappingEnd => some (.collectionEnd, e.mark)
  | _ => none

/-- Events contribute parts. -/
def Contribute (events : List Event) (parts : List (Node.Part × Mark)) : Prop :=
  List.Forall₂ (fun e p => e.part? = some p) events parts

/-- Events add one node. -/
def Builds (events : List Event) (n : Node) : Prop :=
  ∃ parts, Contribute events parts ∧
    ∀ b : Node.Builder, b.whole = none → parts.foldl Node.Builder.feed b = b.add n

/-- Events add nodes to an open collection. -/
def BuildsAll (events : List Event) (nodes : List Node) : Prop :=
  ∃ parts, Contribute events parts ∧ ∀ f outer,
    parts.foldl Node.Builder.feed ⟨f :: outer, none⟩ = ⟨nodes.foldl Node.Frame.add f :: outer, none⟩

section Building

open Node

variable {events events' : List Event} {nodes nodes' : List Node} {n : Node} {m : Mark}

lemma Contribute.append {parts parts' : List (Part × Mark)} (h : Contribute events parts)
    (h' : Contribute events' parts') : Contribute (events ++ events') (parts ++ parts') :=
  List.rel_append h h'

lemma Builds.all (h : Builds events n) : BuildsAll events [n] := by
  obtain ⟨parts, hparts, hbuild⟩ := h
  exact ⟨parts, hparts, fun f outer => hbuild _ rfl⟩

lemma BuildsAll.nil : BuildsAll [] [] := ⟨[], .nil, fun _ _ => rfl⟩

lemma BuildsAll.append (h : BuildsAll events nodes) (h' : BuildsAll events' nodes') :
    BuildsAll (events ++ events') (nodes ++ nodes') := by
  obtain ⟨parts, hparts, hbuild⟩ := h
  obtain ⟨parts', hparts', hbuild'⟩ := h'
  refine ⟨parts ++ parts', hparts.append hparts', fun f outer => ?_⟩
  rw [List.foldl_append, hbuild, hbuild', List.foldl_append]

lemma Builds.scalar (s : Scalar) : Builds [⟨.scalar none s, m⟩] (.scalar m s) := by
  refine ⟨[(.scalar s, m)], .cons rfl .nil, fun b hb => ?_⟩
  simp [Builder.feed, hb]

lemma foldl_add_sequence (items before : List Node) :
    items.foldl Frame.add (.sequence m before) = .sequence m (items.reverse ++ before) := by
  induction items generalizing before with
  | nil => rfl
  | cons n items ih => simp [Frame.add, ih]

lemma foldl_add_mapping (entries before : List (Node × Node)) :
    (entries.flatMap fun e => [e.1, e.2]).foldl Frame.add (.mapping m before none) =
      .mapping m (entries.reverse ++ before) none := by
  induction entries generalizing before with
  | nil => rfl
  | cons e entries ih => simp [Frame.add, ih]

/-- Nodes between a start and an end make up a collection. -/
lemma BuildsAll.enclosed {start stop : Event} {p : Part} {f : Frame}
    (h : BuildsAll events nodes) (hstart : start.part? = some (p, m))
    (hstop : stop.part? = some (.collectionEnd, stop.mark))
    (hopen : ∀ b : Builder, b.whole = none → b.feed (p, m) = ⟨f :: b.frames, none⟩)
    (hclose : (nodes.foldl Frame.add f).close = n) : Builds (start :: events ++ [stop]) n := by
  obtain ⟨parts, hparts, hbuild⟩ := h
  have hall : Contribute (start :: events ++ [stop])
      ((p, m) :: parts ++ [(.collectionEnd, stop.mark)]) :=
    Contribute.append (.cons hstart hparts) (.cons hstop .nil)
  refine ⟨_, hall, fun b hb => ?_⟩
  have hb' : b = ⟨b.frames, none⟩ := by rw [← hb]
  simp only [List.foldl_append, List.foldl_cons, List.foldl_nil, hopen b hb, hbuild]
  rw [hb', ← hclose]
  rfl

lemma BuildsAll.sequence (h : BuildsAll events nodes) (m' : Mark) :
    Builds (⟨.sequenceStart none, m⟩ :: events ++ [⟨.sequenceEnd, m'⟩]) (.sequence m nodes) := by
  refine h.enclosed (f := .sequence m []) rfl rfl (fun b hb => ?_) ?_
  · simp [Builder.feed, hb]
  · simp [foldl_add_sequence, Frame.close]

lemma BuildsAll.mapping {entries : List (Node × Node)}
    (h : BuildsAll events (entries.flatMap fun e => [e.1, e.2])) (m' : Mark) :
    Builds (⟨.mappingStart none, m⟩ :: events ++ [⟨.mappingEnd, m'⟩]) (.mapping m entries) := by
  refine h.enclosed (f := .mapping m [] none) rfl rfl (fun b hb => ?_) ?_
  · simp [Builder.feed, hb]
  · simp [foldl_add_mapping, Frame.close]

end Building

/-! ### Reading a flow -/

/-- A grammar reads events one after the other. -/
inductive Parse.Steps : Grammar → List Event → Grammar → Prop
  | nil (g : Grammar) : Steps g [] g
  | cons {g g' g'' : Grammar} {e : Event} {events : List Event}
    (h : Parse.readEvent g = some (e, g')) (hrest : Steps g' events g'') :
    Steps g (e :: events) g''

/-- A grammar behind a node, where `rest` is ahead. -/
def Grammar.leave (g : Grammar) (rest : List Token) : Grammar :=
  { g with tokens := rest, expected := g.later.headD .nothing, later := g.later.drop 1 }

/-- Whether a token starts a node in a flow. -/
def Token.Kind.opensNode : Token.Kind → Bool
  | scalar _ _ => true
  | flowSequenceStart => true
  | flowMappingStart => true
  | _ => false

/-- Tokens of some kinds are read as a node that stands for a tree, wherever a node may stand. -/
def Forms (kinds : List Token.Kind) (t : Tree) : Prop :=
  kinds.head?.any Token.Kind.opensNode = true ∧
  ∀ (g : Grammar) (block : Bool) (tokens rest : List Token), tokens.map Token.kind = kinds →
    g.tokens = tokens ++ rest →
    ∃ e g' events n, Parse.readNode block false g = some (e, g') ∧
      Parse.Steps g' events (g.leave rest) ∧ Builds (e :: events) n ∧ (∀ d, Stands d n t) ∧
      events.length < kinds.length

namespace Parse

variable {α β : Type} {g g' g'' : Grammar} {t : Token} {events events' rest : List Event}

lemma Steps.trans (h : Steps g events g') (h' : Steps g' events' g'') :
    Steps g (events ++ events') g'' := by
  induction h with
  | nil => exact h'
  | cons h _ ih => exact .cons h (ih h')

lemma Steps.readEvents (h : Steps g events g') (fuel : Nat) :
    readEvents (fuel + events.length) g = events ++ readEvents fuel g' := by
  induction h with
  | nil => rfl
  | cons h _ ih =>
    rw [List.length_cons, ← Nat.add_assoc, Parse.readEvents, h]
    exact congrArg _ ih

@[simp] lemma pure_apply (a : α) : (pure a : Parse α) g = some (a, g) := rfl

@[simp] lemma bind_apply (x : Parse α) (f : α → Parse β) :
    (x >>= f) g = (x g).bind fun r => f r.1 r.2 := rfl

@[simp] lemma map_apply (f : α → β) (x : Parse α) :
    (f <$> x) g = (x g).map fun r => (f r.1, r.2) := by
  change (x g).bind _ = _
  cases x g <;> rfl

@[simp] lemma get_apply : (get : Parse Grammar) g = some (g, g) := rfl

@[simp] lemma modify_apply (f : Grammar → Grammar) :
    (modify f : Parse Unit) g = some ((), f g) := rfl

@[simp] lemma fail_apply : (fail : Parse α) g = none := rfl

@[simp] lemma skip_apply : skip g = some ((), { g with tokens := g.tokens.drop 1 }) := rfl

@[simp] lemma expect_apply (e : Expected) :
    expect e g = some ((), { g with expected := e }) := rfl

@[simp] lemma push_apply (e : Expected) :
    push e g = some ((), { g with later := e :: g.later }) := rfl

@[simp] lemma pop_apply :
    pop g = some ((), { g with expected := g.later.headD .nothing, later := g.later.drop 1 }) := rfl

lemma peek_apply {rest : List Token} (h : g.tokens = t :: rest) : peek g = some (t, g) := by
  simp [peek, h]

lemma readProperties_apply {rest : List Token} (h : g.tokens = t :: rest)
    (ht : t.kind.opensNode = true) : readProperties g = some ({ start := t.start }, g) := by
  have hpeek := peek_apply h
  unfold Token.Kind.opensNode at ht
  split at ht
  next heq => simp [readProperties, readAnchor, readTag, hpeek, heq]
  next heq => simp [readProperties, readAnchor, readTag, hpeek, heq]
  next heq => simp [readProperties, readAnchor, readTag, hpeek, heq]
  next => cases ht

lemma readNode_scalar {rest : List Token} {text : String} {style : Style} {block : Bool}
    (h : g.tokens = t :: rest) (ht : t.kind = .scalar text style) :
    readNode block false g = some (⟨.scalar none ⟨text, style, none⟩, t.start⟩, g.leave rest) := by
  have hpeek := peek_apply h
  have hproperties := readProperties_apply h (by rw [ht]; rfl)
  simp [readNode, hpeek, hproperties, ht, Grammar.leave, h]

lemma readNode_sequence {rest : List Token} {block : Bool}
    (h : g.tokens = t :: rest) (ht : t.kind = .flowSequenceStart) :
    readNode block false g =
      some (⟨.sequenceStart none, t.start⟩, { g with expected := .flowSequenceFirst }) := by
  have hpeek := peek_apply h
  have hproperties := readProperties_apply h (by rw [ht]; rfl)
  simp [readNode, hpeek, hproperties, ht]

lemma readNode_mapping {rest : List Token} {block : Bool}
    (h : g.tokens = t :: rest) (ht : t.kind = .flowMappingStart) :
    readNode block false g =
      some (⟨.mappingStart none, t.start⟩, { g with expected := .flowMappingFirst }) := by
  have hpeek := peek_apply h
  have hproperties := readProperties_apply h (by rw [ht]; rfl)
  simp [readNode, hpeek, hproperties, ht]

lemma ne_of_opensNode {k k' : Token.Kind} (h : k.opensNode = true) (h' : k'.opensNode = false) :
    k ≠ k' := by
  rintro rfl
  exact absurd (h.symm.trans h') (by decide)

lemma opensDocument_of_opensNode {k : Token.Kind} (h : k.opensNode = true) :
    opensDocument k = false := by
  cases k <;> first | rfl | cases h

lemma readNodeUnless_of_opensNode {without : List Token.Kind} {next : Expected} {m : Mark}
    {rest : List Token} (h : g.tokens = t :: rest) (ht : t.kind.opensNode = true)
    (hwithout : ∀ k ∈ without, k.opensNode = false) :
    readNodeUnless without next false false m g =
      readNode false false { g with later := next :: g.later } := by
  have hnot : without.contains t.kind = false := by
    rw [List.contains_eq_mem, decide_eq_false_iff_not]
    exact fun hmem => ne_of_opensNode ht (hwithout _ hmem) rfl
  simp only [readNodeUnless, bind_apply, peek_apply h, Option.bind_some, hnot, Bool.false_eq_true,
    if_false, push_apply]

lemma readFlowMappingKey_key {t' : Token} {rest : List Token} (h : g.tokens = t :: t' :: rest)
    (ht : t.kind = .key) (ht' : t'.kind.opensNode = true) :
    readFlowMappingKey true g = readNode false false
      { g with tokens := t' :: rest, later := .flowMappingValue :: g.later } := by
  have hskip : skipPeek g = some (t', { g with tokens := t' :: rest }) := by
    simp [skipPeek, peek, h]
  have hunless : readNodeUnless [.value, .flowEntry, .flowMappingEnd] .flowMappingValue false false
      t'.start { g with tokens := t' :: rest } = readNode false false
        { g with tokens := t' :: rest, later := .flowMappingValue :: g.later } :=
    readNodeUnless_of_opensNode rfl ht' (by decide)
  simp [readFlowMappingKey, peek_apply h, ht, hskip, hunless]

lemma readFlowMappingValue_value {t' : Token} {rest : List Token} (h : g.tokens = t :: t' :: rest)
    (ht : t.kind = .value) (ht' : t'.kind.opensNode = true) :
    readFlowMappingValue g = readNode false false
      { g with tokens := t' :: rest, later := .flowMappingKey :: g.later } := by
  have hskip : skipPeek g = some (t', { g with tokens := t' :: rest }) := by
    simp [skipPeek, peek, h]
  have hunless : readNodeUnless [.flowEntry, .flowMappingEnd] .flowMappingKey false false
      t'.start { g with tokens := t' :: rest } = readNode false false
        { g with tokens := t' :: rest, later := .flowMappingKey :: g.later } :=
    readNodeUnless_of_opensNode rfl ht' (by decide)
  simp [readFlowMappingValue, peek_apply h, ht, hskip, hunless]

lemma endCollection_apply {kind : Event.Kind} {rest : List Token} (h : g.tokens = t :: rest) :
    endCollection kind g = some (⟨kind, t.start⟩, g.leave rest) := by
  simp [endCollection, peek_apply h, Grammar.leave, h]

/-- How the items of a flow collection are read, one after the other up to the end. -/
structure Collects (readItem : Bool → Parse Event) (first next : Expected) (stop : Token.Kind)
    (ending : Event.Kind) : Prop where
  starts : ∀ g, g.expected = first →
    readEvent g = readItem true { g with tokens := g.tokens.drop 1 }
  continues : ∀ g, g.expected = next → readEvent g = readItem false g
  ends : ∀ (g : Grammar) (t : Token) (rest : List Token) (isFirst : Bool), g.tokens = t :: rest →
    t.kind = stop → readItem isFirst g = some (⟨ending, t.start⟩, g.leave rest)
  separates : ∀ (g : Grammar) (t t' : Token) (rest : List Token), g.tokens = t :: t' :: rest →
    t.kind = .flowEntry → t'.kind ≠ stop →
    readItem false g = readItem true { g with tokens := t' :: rest }

lemma collects_sequence : Collects readFlowSequenceEntry .flowSequenceFirst .flowSequenceEntry
    .flowSequenceEnd .sequenceEnd := by
  refine ⟨fun g hg => ?_, fun g hg => ?_, fun g t rest isFirst hg ht => ?_,
    fun g t t' rest hg ht ht' => ?_⟩
  · simp [readEvent, hg]
  · simp [readEvent, hg]
  · simp [readFlowSequenceEntry, peek_apply hg, ht, endCollection_apply hg]
  · have hnext : ({ g with tokens := t' :: rest } : Grammar).tokens = t' :: rest := rfl
    simp [readFlowSequenceEntry, peek_apply hg, ht, hg, peek_apply hnext, ht']

lemma collects_mapping : Collects readFlowMappingKey .flowMappingFirst .flowMappingKey
    .flowMappingEnd .mappingEnd := by
  refine ⟨fun g hg => ?_, fun g hg => ?_, fun g t rest isFirst hg ht => ?_,
    fun g t t' rest hg ht ht' => ?_⟩
  · simp [readEvent, hg]
  · simp [readEvent, hg]
  · simp [readFlowMappingKey, peek_apply hg, ht, endCollection_apply hg]
  · have hnext : ({ g with tokens := t' :: rest } : Grammar).tokens = t' :: rest := rfl
    simp [readFlowMappingKey, peek_apply hg, ht, hg, peek_apply hnext, ht']

/-- Tokens of some kinds are read as an item of a collection, whose nodes stand for trees. -/
def FormsItem (readItem : Bool → Parse Event) (next : Expected) (stop : Token.Kind)
    (kinds : List Token.Kind) (trees : List Tree) : Prop :=
  (∃ k, kinds.head? = some k ∧ k ≠ stop) ∧
  ∀ (g : Grammar) (tokens rest : List Token), tokens.map Token.kind = kinds →
    g.tokens = tokens ++ rest →
    ∃ e g' events nodes, readItem true g = some (e, g') ∧
      Steps g' events { g with tokens := rest, expected := next } ∧
      BuildsAll (e :: events) nodes ∧ List.Forall₂ (fun n t => ∀ d, Stands d n t) nodes trees ∧
      events.length < kinds.length

/-- The kinds of items, separated by commas. -/
def separated : List (List Token.Kind) → List Token.Kind
  | [] => []
  | kinds :: later => kinds ++ later.flatMap (.flowEntry :: ·)

variable {readItem : Bool → Parse Event} {first next : Expected} {stop : Token.Kind}
  {ending : Event.Kind} {items : List (List Token.Kind)} {trees : List (List Tree)}

/-- The items after the first are read up to the end of their collection. -/
lemma Collects.steps_later (hc : Collects readItem first next stop ending)
    (h : List.Forall₂ (FormsItem readItem next stop) items trees) {tokens rest : List Token}
    (hkinds : tokens.map Token.kind = items.flatMap (.flowEntry :: ·)) (ht : t.kind = stop)
    (hexpected : g.expected = next) (hg : g.tokens = tokens ++ t :: rest) :
    ∃ events nodes, Steps g (events ++ [⟨ending, t.start⟩]) (g.leave rest) ∧
      BuildsAll events nodes ∧
      List.Forall₂ (fun n t => ∀ d, Stands d n t) nodes trees.flatten ∧
      events.length ≤ tokens.length := by
  induction h generalizing g tokens with
  | nil =>
    obtain rfl := List.map_eq_nil_iff.mp hkinds
    refine ⟨[], [], .cons ?_ (.nil _), .nil, .nil, Nat.le_refl _⟩
    rw [hc.continues g hexpected, hc.ends g t rest false hg ht]
  | @cons kinds itemTrees items trees hitem hitems ih =>
    rw [List.flatMap_cons] at hkinds
    obtain ⟨front, later, rfl, hfront, hlater⟩ := List.map_eq_append_iff.mp hkinds
    obtain ⟨comma, item, rfl, hcomma, hkind⟩ := List.map_eq_cons_iff.mp hfront
    obtain ⟨⟨k, hhead, hk⟩, hread⟩ := hitem
    rw [← hkind, List.head?_map] at hhead
    obtain ⟨t', hhead', rfl⟩ := Option.map_eq_some_iff.mp hhead
    obtain ⟨item, rfl⟩ := List.head?_eq_some_iff.mp hhead'
    have hsep := hc.separates g comma t' (item ++ (later ++ t :: rest)) (by simp [hg]) hcomma hk
    obtain ⟨e, g', events, nodes, hfirst, hsteps, hbuilds, hstands, hlength⟩ :=
      hread { g with tokens := t' :: item ++ (later ++ t :: rest) } (t' :: item)
        (later ++ t :: rest) hkind rfl
    obtain ⟨events', nodes', hsteps', hbuilds', hstands', hlength'⟩ :=
      ih (g := { g with tokens := later ++ t :: rest, expected := next }) hlater rfl rfl
    refine ⟨e :: events ++ events', nodes ++ nodes', ?_, hbuilds.append hbuilds',
      List.rel_append hstands hstands', ?_⟩
    · rw [List.append_assoc]
      refine (Steps.cons ?_ hsteps).trans hsteps'
      rw [hc.continues g hexpected, hsep]
      exact hfirst
    · have := congrArg List.length hkind
      simp only [List.length_map, List.length_append, List.length_cons] at this hlength ⊢
      omega

lemma Collects.steps (hc : Collects readItem first next stop ending)
    (h : List.Forall₂ (FormsItem readItem next stop) items trees) {start : Token}
    {tokens rest : List Token} (hkinds : tokens.map Token.kind = separated items)
    (ht : t.kind = stop) (hexpected : g.expected = first)
    (hg : g.tokens = start :: (tokens ++ t :: rest)) :
    ∃ events nodes, Steps g (events ++ [⟨ending, t.start⟩]) (g.leave rest) ∧
      BuildsAll events nodes ∧
      List.Forall₂ (fun n t => ∀ d, Stands d n t) nodes trees.flatten ∧
      events.length ≤ tokens.length := by
  have hstart := hc.starts g hexpected
  rw [hg, List.drop_one, List.tail_cons] at hstart
  cases h with
  | nil =>
    obtain rfl := List.map_eq_nil_iff.mp hkinds
    refine ⟨[], [], .cons ?_ (.nil _), .nil, .nil, Nat.le_refl _⟩
    rw [hstart, hc.ends _ t rest true rfl ht]
    rfl
  | @cons kinds itemTrees items trees hitem hitems =>
    obtain ⟨item, later, rfl, hkind, hlater⟩ := List.map_eq_append_iff.mp hkinds
    obtain ⟨e, g', events, nodes, hfirst, hsteps, hbuilds, hstands, hlength⟩ :=
      hitem.2 { g with tokens := item ++ later ++ t :: rest } item (later ++ t :: rest) hkind
        (List.append_assoc _ _ _)
    obtain ⟨events', nodes', hsteps', hbuilds', hstands', hlength'⟩ :=
      hc.steps_later hitems hlater ht
        (g := { g with tokens := later ++ t :: rest, expected := next }) rfl rfl
    refine ⟨e :: events ++ events', nodes ++ nodes', ?_, hbuilds.append hbuilds',
      List.rel_append hstands hstands', ?_⟩
    · rw [List.append_assoc]
      refine (Steps.cons ?_ hsteps).trans hsteps'
      rw [hstart]
      exact hfirst
    · have := congrArg List.length hkind
      simp only [List.length_map, List.length_append, List.length_cons] at this hlength ⊢
      omega

end Parse

open Parse

namespace Forms

variable {kinds : List Token.Kind} {t : Tree}

/-- The first token of a node. -/
lemma exists_head (h : Forms kinds t) : ∃ k later, kinds = k :: later ∧ k.opensNode = true := by
  obtain ⟨k, hhead, hk⟩ := (Option.any_eq_true _ _).mp h.1
  obtain ⟨later, rfl⟩ := List.head?_eq_some_iff.mp hhead
  exact ⟨k, later, rfl, hk⟩

lemma scalar (text : String) (style : Style) :
    Forms [.scalar text style] (.scalar ⟨text, style, none⟩) := by
  refine ⟨rfl, fun g block tokens rest hkinds hg => ?_⟩
  obtain ⟨t, tail, rfl, ht, htail⟩ := List.map_eq_cons_iff.mp hkinds
  obtain rfl := List.map_eq_nil_iff.mp htail
  exact ⟨_, _, [], _, readNode_scalar hg ht, .nil _, Builds.scalar _, fun d => .scalar rfl,
    Nat.zero_lt_one⟩

lemma item (h : Forms kinds t) :
    FormsItem readFlowSequenceEntry .flowSequenceEntry .flowSequenceEnd kinds [t] := by
  obtain ⟨k, later, rfl, hk⟩ := h.exists_head
  refine ⟨⟨k, rfl, ne_of_opensNode hk rfl⟩, fun g tokens rest hkinds hg => ?_⟩
  obtain ⟨e, g', events, n, hnode, hsteps, hbuilds, hstands, hlength⟩ :=
    h.2 { g with later := .flowSequenceEntry :: g.later } false tokens rest hkinds hg
  obtain ⟨t', tail, rfl, ht', -⟩ := List.map_eq_cons_iff.mp hkinds
  refine ⟨e, g', events, [n], ?_, hsteps, hbuilds.all, .cons hstands .nil, hlength⟩
  rw [← hnode]
  have hpeek := peek_apply hg
  have hstop : t'.kind ≠ .flowSequenceEnd := ne_of_opensNode (ht' ▸ hk) rfl
  have hkey : t'.kind ≠ .key := ne_of_opensNode (ht' ▸ hk) rfl
  simp [readFlowSequenceEntry, hpeek, hstop]

/-- The kinds of an entry with its key and its value. -/
def entryKinds (key value : List Token.Kind) : List Token.Kind := .key :: key ++ .value :: value

lemma entry {key value : List Token.Kind} {t t' : Tree} (h : Forms key t) (h' : Forms value t') :
    FormsItem readFlowMappingKey .flowMappingKey .flowMappingEnd (entryKinds key value)
      [t, t'] := by
  refine ⟨⟨.key, rfl, nofun⟩, fun g tokens rest hkinds hg => ?_⟩
  obtain ⟨keyMark, tokens, rfl, hkeyMark, hkinds⟩ := List.map_eq_cons_iff.mp hkinds
  obtain ⟨keyTokens, tail, rfl, hkey, htail⟩ := List.map_eq_append_iff.mp hkinds
  obtain ⟨valueMark, valueTokens, rfl, hvalueMark, hvalue⟩ := List.map_eq_cons_iff.mp htail
  obtain ⟨e, g₁, events, n, hnode, hsteps, hbuilds, hstands, hlength⟩ :=
    h.2 { g with tokens := keyTokens ++ (valueMark :: valueTokens ++ rest)
                 later := .flowMappingValue :: g.later } false keyTokens _ hkey rfl
  obtain ⟨e', g₂, events', n', hnode', hsteps', hbuilds', hstands', hlength'⟩ :=
    h'.2 { g with tokens := valueTokens ++ rest, expected := .flowMappingValue
                  later := .flowMappingKey :: g.later } false valueTokens _ hvalue rfl
  have hopens : ∀ {kinds : List Token.Kind} {tree : Tree} {tokens : List Token},
      Forms kinds tree → tokens.map Token.kind = kinds →
      ∃ first later, tokens = first :: later ∧ first.kind.opensNode = true := by
    rintro kinds tree tokens hforms rfl
    obtain ⟨k, later, hcons, hk⟩ := hforms.exists_head
    obtain ⟨first, tail, rfl, rfl, -⟩ := List.map_eq_cons_iff.mp hcons
    exact ⟨first, tail, rfl, hk⟩
  obtain ⟨first, keyTail, rfl, hfirst⟩ := hopens h hkey
  obtain ⟨first', valueTail, rfl, hfirst'⟩ := hopens h' hvalue
  have hstart : readFlowMappingKey true g = some (e, g₁) := by
    rw [readFlowMappingKey_key hg hkeyMark hfirst, ← hnode]
    simp
  let middle : Grammar := { g with
    tokens := valueMark :: (first' :: valueTail) ++ rest, expected := .flowMappingValue }
  have htokens : middle.tokens = valueMark :: first' :: (valueTail ++ rest) := rfl
  have hmiddle : readEvent middle = some (e', g₂) :=
    (readFlowMappingValue_value htokens hvalueMark hfirst').trans hnode'
  refine ⟨e, g₁, events ++ e' :: events', [n, n'], hstart, hsteps.trans (.cons hmiddle hsteps'),
    hbuilds.all.append hbuilds'.all, .cons hstands (.cons hstands' .nil), ?_⟩
  simp only [entryKinds, List.length_append, List.length_cons]
  omega

/-- Items between a start and an end are read as a collection. -/
lemma collection {readItem : Bool → Parse Event} {first next : Expected}
    {start stop : Token.Kind} {starting ending : Event.Kind} {items : List (List Token.Kind)}
    {trees : List (List Tree)} (hc : Collects readItem first next stop ending)
    (hopens : start.opensNode = true)
    (hstart : ∀ (g : Grammar) (t : Token) (rest : List Token) (block : Bool),
      g.tokens = t :: rest → t.kind = start →
      readNode block false g = some (⟨starting, t.start⟩, { g with expected := first }))
    (hbuilds : ∀ (events : List Event) (nodes : List Node) (m m' : Mark), BuildsAll events nodes →
      List.Forall₂ (fun n t => ∀ d, Stands d n t) nodes trees.flatten →
      ∃ n, Builds (⟨starting, m⟩ :: events ++ [⟨ending, m'⟩]) n ∧ ∀ d, Stands d n t)
    (h : List.Forall₂ (FormsItem readItem next stop) items trees) :
    Forms (start :: separated items ++ [stop]) t := by
  refine ⟨by simpa using hopens, fun g block tokens rest hkinds hg => ?_⟩
  obtain ⟨front, last, rfl, hfront, hlast⟩ := List.map_eq_append_iff.mp hkinds
  obtain ⟨t', tokens, rfl, ht', hmiddle⟩ := List.map_eq_cons_iff.mp hfront
  obtain ⟨stopToken, rfl, hstop⟩ := List.map_eq_singleton_iff.mp hlast
  have hg' : g.tokens = t' :: (tokens ++ stopToken :: rest) := by simp [hg]
  obtain ⟨events, nodes, hsteps, hbuild, hstands, hlength⟩ :=
    hc.steps (g := { g with expected := first }) h hmiddle hstop rfl hg'
  obtain ⟨n, hn, htree⟩ := hbuilds events nodes t'.start stopToken.start hbuild hstands
  refine ⟨_, _, _, n, hstart g t' _ block hg' ht', hsteps, hn, htree, ?_⟩
  have := congrArg List.length hmiddle
  simp only [List.length_map, List.length_append, List.length_cons, List.length_nil] at this ⊢
  omega

lemma sequence {items : List (List Token.Kind)} {trees : List Tree}
    (h : List.Forall₂ Forms items trees) :
    Forms (.flowSequenceStart :: separated items ++ [.flowSequenceEnd]) (.sequence trees) := by
  have hitems : List.Forall₂ (FormsItem readFlowSequenceEntry .flowSequenceEntry .flowSequenceEnd)
      items (trees.map ([·])) :=
    List.forall₂_map_right_iff.mpr (h.imp fun _ _ hitem => hitem.item)
  refine collection collects_sequence rfl (fun g t rest block => readNode_sequence) ?_ hitems
  intro events nodes m m' hbuilds hstands
  have hflat : (trees.map ([·])).flatten = trees := List.flatMap_singleton' trees
  rw [hflat] at hstands
  exact ⟨_, hbuilds.sequence m', fun d => .sequence rfl (hstands.imp fun _ _ hn => hn d)⟩

/-- Nodes that stand for keys and values in turn are the nodes of entries. -/
lemma exists_entries {nodes : List Node} {trees : List (Tree × Tree)}
    (h : List.Forall₂ (fun n t => ∀ d, Stands d n t) nodes
      (trees.map fun e => [e.1, e.2]).flatten) :
    ∃ entries : List (Node × Node), nodes = (entries.flatMap fun e => [e.1, e.2]) ∧
      ∀ d, List.Forall₂ (StandsEntry d) entries trees := by
  induction trees generalizing nodes with
  | nil => exact ⟨[], List.forall₂_nil_right_iff.mp h, fun _ => .nil⟩
  | cons e trees ih =>
    obtain ⟨key, later, hkey, hlater, rfl⟩ := List.forall₂_cons_right_iff.mp h
    obtain ⟨value, rest, hvalue, hrest, rfl⟩ := List.forall₂_cons_right_iff.mp hlater
    obtain ⟨entries, rfl, hentries⟩ := ih hrest
    exact ⟨(key, value) :: entries, rfl, fun d => .cons ⟨hkey d, hvalue d⟩ (hentries d)⟩

lemma mapping {items : List (List Token.Kind)} {trees : List (Tree × Tree)}
    (h : List.Forall₂ (fun kinds e => ∃ key value, kinds = entryKinds key value ∧ Forms key e.1 ∧
      Forms value e.2) items trees) :
    Forms (.flowMappingStart :: separated items ++ [.flowMappingEnd]) (.mapping trees) := by
  have hitems : List.Forall₂ (FormsItem readFlowMappingKey .flowMappingKey .flowMappingEnd)
      items (trees.map fun e => [e.1, e.2]) := by
    refine List.forall₂_map_right_iff.mpr (h.imp ?_)
    rintro _ e ⟨key, value, rfl, hkey, hvalue⟩
    exact hkey.entry hvalue
  refine collection collects_mapping rfl (fun g t rest block => readNode_mapping) ?_ hitems
  intro events nodes m m' hbuilds hstands
  obtain ⟨entries, rfl, hentries⟩ := exists_entries hstands
  exact ⟨_, hbuilds.mapping m', fun d => stands_mapping_iff.mpr ⟨_, _, rfl, hentries d⟩⟩

end Forms

/-! ### Whole documents -/

namespace Document

lemma read_cons_part {e : Event} {p : Node.Part × Mark} (h : e.part? = some p) (r : Reading)
    (rest : List Event) : read r (e :: rest) = read (r.add p.1 p.2) rest := by
  obtain ⟨kind, m⟩ := e
  unfold Event.part? at h
  split at h <;> cases h <;> simp_all [read, Reading.define]

lemma read_contribute {events : List Event} {parts : List (Node.Part × Mark)}
    (h : Contribute events parts) (r : Reading) (rest : List Event) :
    read r (events ++ rest) =
      read { r with parts := parts.reverse ++ r.parts, count := r.count + parts.length } rest := by
  induction h generalizing r with
  | nil => rfl
  | @cons e p events parts hp _ ih =>
    rw [List.cons_append, read_cons_part hp, ih]
    have hcount : r.count + 1 + parts.length = r.count + (parts.length + 1) := by omega
    simp [Reading.add, hcount]

end Document

/-- The events of a stream with nothing but a flow build a node that stands for its tree. -/
lemma Forms.exists_events {kinds : List Token.Kind} {t : Tree} (h : Forms kinds t)
    {tokens : List Token} (hkinds : tokens.map Token.kind = .streamStart :: kinds ++ [.streamEnd]) :
    ∃ m m' m'' events n, Event.ofTokens tokens = ⟨.streamStart, m⟩ :: ⟨.documentStart, m'⟩ ::
        (events ++ [⟨.documentEnd, m''⟩, ⟨.streamEnd, m''⟩]) ∧
      Builds events n ∧ ∀ d, Stands d n t := by
  obtain ⟨front, last, rfl, hfront, hlast⟩ := List.map_eq_append_iff.mp hkinds
  obtain ⟨start, tokens, rfl, hstart, hmiddle⟩ := List.map_eq_cons_iff.mp hfront
  obtain ⟨stop, rfl, hstop⟩ := List.map_eq_singleton_iff.mp hlast
  let opened : Grammar :=
    { tokens := tokens ++ [stop], expected := .blockNode, later := [.documentEnd]
      handles := Parse.defaultHandles }
  obtain ⟨e, g, events, n, hnode, hsteps, hbuilds, hstands, hlength⟩ :=
    h.2 opened true tokens [stop] hmiddle rfl
  obtain ⟨k, later, rfl, hk⟩ := h.exists_head
  obtain ⟨first, tokens, rfl, hfirst, -⟩ := List.map_eq_cons_iff.mp hmiddle
  have hstream : Parse.readEvent { tokens := start :: (first :: tokens) ++ [stop] } =
      some (⟨.streamStart, start.start⟩,
        { tokens := first :: tokens ++ [stop], expected := .firstDocument }) := by
    simp [Parse.readEvent, Parse.peek]
  have hdocument : Parse.readEvent
      { tokens := first :: tokens ++ [stop], expected := .firstDocument } =
      some (⟨.documentStart, first.start⟩, opened) := by
    have hopens : Parse.opensDocument first.kind = false :=
      Parse.opensDocument_of_opensNode (by rw [hfirst, hk])
    simp [Parse.readEvent, Parse.readDocumentStart, Parse.peek, hopens, opened]
  have hend : Parse.readEvent (opened.leave [stop]) = some (⟨.documentEnd, stop.start⟩,
      { tokens := [stop], expected := .document }) := by
    simp [Parse.readEvent, Parse.readDocumentEnd, Parse.peek, Grammar.leave, opened, hstop]
  have hclose : Parse.readEvent { tokens := [stop], expected := .document } =
      some (⟨.streamEnd, stop.start⟩, { tokens := [], expected := .nothing }) := by
    simp [Parse.readEvent, Parse.readDocumentStart, Parse.skipDocumentEnds, Parse.peek, hstop]
  have hall : Parse.Steps { tokens := start :: (first :: tokens) ++ [stop] }
      (⟨.streamStart, start.start⟩ :: ⟨.documentStart, first.start⟩ :: (e :: events ++
        [⟨.documentEnd, stop.start⟩, ⟨.streamEnd, stop.start⟩]))
      { tokens := [], expected := .nothing } := by
    refine .cons hstream (.cons hdocument (.cons hnode (hsteps.trans ?_)))
    exact .cons hend (.cons hclose (.nil _))
  refine ⟨start.start, first.start, stop.start, e :: events, n, ?_, hbuilds, hstands⟩
  have hstopped : ∀ fuel, Parse.readEvents fuel { tokens := [], expected := .nothing } = [] := by
    rintro (_ | fuel) <;> rfl
  obtain ⟨fuel, hfuel⟩ : ∃ fuel, 8 * (start :: (first :: tokens) ++ [stop]).length + 8 =
      fuel + (⟨.streamStart, start.start⟩ :: ⟨.documentStart, first.start⟩ :: (e :: events ++
        [⟨.documentEnd, stop.start⟩, ⟨.streamEnd, stop.start⟩])).length := by
    have := congrArg List.length hmiddle
    refine Nat.exists_eq_add_of_le' ?_
    simp only [List.length_map, List.length_append, List.length_cons, List.length_nil] at *
    omega
  rw [Event.ofTokens, hfuel, hall.readEvents fuel, hstopped, List.append_nil]

lemma Document.holds_of_builds {events : List Event} {n : Node} {t : Tree} (h : Builds events n)
    (hstands : ∀ d, Stands d n t) (m m' m'' : Mark) :
    (Document.ofEvents (⟨.streamStart, m⟩ :: ⟨.documentStart, m'⟩ ::
      (events ++ [⟨.documentEnd, m''⟩, ⟨.streamEnd, m''⟩]))).Holds t := by
  obtain ⟨parts, hparts, hfeed⟩ := h
  have hread : Document.ofEvents (⟨.streamStart, m⟩ :: ⟨.documentStart, m'⟩ ::
      (events ++ [⟨.documentEnd, m''⟩, ⟨.streamEnd, m''⟩])) =
      ({ parts := parts.reverse, count := parts.length } : Document.Reading).finish none false := by
    rw [Document.ofEvents, Document.read, Document.read, Document.read_contribute hparts]
    simp [Document.read, Document.endsStream]
  rw [hread]
  refine ⟨rfl, rfl, ?_⟩
  have hroot : Node.ofParts parts = n := by
    rw [Node.ofParts, hfeed _ rfl]
    rfl
  simp only [Document.Reading.finish, List.reverse_reverse, hroot]
  exact hstands _

/-- A stream with nothing but a flow holds the tree of the flow. -/
theorem holds_of_forms {kinds : List Token.Kind} {t : Tree} (h : Forms kinds t)
    {tokens : List Token} (hkinds : tokens.map Token.kind = .streamStart :: kinds ++ [.streamEnd]) :
    (Document.ofEvents (Event.ofTokens tokens)).Holds t := by
  obtain ⟨m, m', m'', events, n, hevents, hbuilds, hstands⟩ := h.exists_events hkinds
  rw [hevents]
  exact Document.holds_of_builds hbuilds hstands m m' m''

end Autoscaler.Yaml
