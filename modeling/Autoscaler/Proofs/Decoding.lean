import Autoscaler.Proofs.ConfigurationTree

/-!
# What the reader of node groups accepts

The reader accepts a document if its tree is a configuration and nothing else, and what it gives
then is what the tree says, group by group and field by field. Places and paths only matter for its
errors.
-/

namespace Autoscaler.NodeGroup

open Yaml

lemma bind_eq_ok {ε α β : Type} {x : Except ε α} {f : α → Except ε β} {b : β} :
    x >>= f = .ok b ↔ ∃ a, x = .ok a ∧ f a = .ok b := by
  cases x with
  | error e =>
    constructor
    · intro h
      cases h
    · rintro ⟨a, h, -⟩
      cases h
  | ok a =>
    constructor
    · intro h
      exact ⟨a, rfl, h⟩
    · rintro ⟨a', h, hf⟩
      cases h
      exact hf

section Reading

variable {d : Document} {path : List Step} {n : Node} {t : Tree}

lemma readKey_eq_ok (h : Stands d n t) {name : String} :
    (∃ m, readKey d path n = .ok (name, m)) ↔ t.text? = some name := by
  cases h <;> simp [readKey, Tree.text?, *]

lemma readText_eq_ok (h : Stands d n t) {v : String} :
    readText d path n = .ok v ↔ ∃ s, t = .scalar s ∧ s.text = v := by
  cases h <;> simp [readText, *]

lemma readInteger_eq_ok (h : Stands d n t) {v : Int64} :
    readInteger d path n = .ok v ↔ ∃ s, t = .scalar s ∧ s.integer? = some v.toInt := by
  cases h with
  | @scalar _ m s hs =>
    simp only [readInteger, hs, Tree.scalar.injEq, exists_eq_left', ← Scalar.int64?_eq_some]
    cases s.int64? <;> simp
  | sequence hs => simp [readInteger, hs]
  | mapping hs => simp [readInteger, hs]

lemma readBoolean_eq_ok (h : Stands d n t) {v : Bool} :
    readBoolean d path n = .ok v ↔ ∃ s, t = .scalar s ∧ s.boolean? = some v := by
  cases h with
  | @scalar _ m s hs =>
    simp only [readBoolean, hs, Tree.scalar.injEq, exists_eq_left']
    cases s.boolean? <;> simp
  | sequence hs => simp [readBoolean, hs]
  | mapping hs => simp [readBoolean, hs]

/-- Reads a value for a field of a kind. -/
def Kind.read (d : Document) (path : List Step) (n : Node) :
    (k : Kind) → Except DecodeError k.Value
  | .text => readText d path n
  | .integer => readInteger d path n
  | .flag => readBoolean d path n

lemma Kind.read_eq_ok (h : Stands d n t) {k : Kind} {v : k.Value} :
    k.read d path n = .ok v ↔ ∃ s, t = .scalar s ∧ k.Gives s v := by
  cases k with
  | text => exact readText_eq_ok h
  | integer => exact readInteger_eq_ok h
  | flag => exact readBoolean_eq_ok h

/-- To read a field is to read a value of its kind and to set the field to it. -/
lemma readField_eq (spec : Spec) (f : Field) :
    readField d path spec n f = (f.kind.read d path n).map (spec.set f) := by
  cases f <;> rfl

lemma readField_eq_ok (h : Stands d n t) {spec spec' : Spec} {f : Field} :
    readField d path spec n f = .ok spec' ↔
      ∃ v, (∃ s, t = .scalar s ∧ f.kind.Gives s v) ∧ spec' = spec.set f v := by
  have hread : ∀ v, f.kind.read d path n = .ok v ↔ ∃ s, t = .scalar s ∧ f.kind.Gives s v :=
    fun v => Kind.read_eq_ok h
  rw [readField_eq]
  simp only [← hread]
  cases f.kind.read d path n <;> simp [Except.map, eq_comm]

lemma readFields_cons_eq_ok {key value : Node} {e : Tree × Tree} {start : Mark}
    {spec spec' : Spec} {seen : List Field} {rest : List (Node × Node)}
    (h : StandsEntry d (key, value) e) :
    readFields d path start spec seen ((key, value) :: rest) = .ok spec' ↔
      ∃ given, EntryGives e given ∧ given.1 ∉ seen ∧
        readFields d path start (spec.set given.1 given.2) (given.1 :: seen) rest = .ok spec' := by
  obtain ⟨hkey, hvalue⟩ := h
  constructor
  · intro hok
    rw [readFields] at hok
    obtain ⟨⟨name, m⟩, hname, hok⟩ := bind_eq_ok.mp hok
    have htext := (readKey_eq_ok hkey).mp ⟨m, hname⟩
    dsimp only at hok
    split at hok
    next => cases hok
    next f hf =>
      split at hok
      next => cases hok
      next hseen =>
        obtain ⟨set, hset, hok⟩ := bind_eq_ok.mp hok
        obtain ⟨v, hv, rfl⟩ := (readField_eq_ok hvalue).mp hset
        have hname : f.key = name := Field.ofKey?_eq_some.mp hf
        exact ⟨⟨f, v⟩, ⟨by rw [htext, hname], hv⟩, hseen, hok⟩
  · rintro ⟨⟨f, v⟩, ⟨htext, hv⟩, hseen, hok⟩
    obtain ⟨m, hname⟩ : ∃ m, readKey d path key = .ok (f.key, m) :=
      (readKey_eq_ok hkey).mpr htext
    have hfield : Field.ofKey? f.key = some f := Field.ofKey?_eq_some.mpr rfl
    have hset : readField d (path ++ [stepTo key f.key]) spec value f = .ok (spec.set f v) :=
      (readField_eq_ok hvalue).mpr ⟨v, hv, rfl⟩
    rw [readFields]
    refine bind_eq_ok.mpr ⟨(f.key, m), hname, ?_⟩
    simp only [hfield, if_neg hseen]
    exact bind_eq_ok.mpr ⟨_, hset, hok⟩

lemma readFields_eq_ok {start : Mark} {spec spec' : Spec} {seen : List Field}
    {entries : List (Node × Node)} {trees : List (Tree × Tree)}
    (h : List.Forall₂ (StandsEntry d) entries trees) :
    readFields d path start spec seen entries = .ok spec' ↔
      ∃ given, List.Forall₂ EntryGives trees given ∧ (given.map Sigma.fst).Nodup ∧
        (∀ f ∈ given.map Sigma.fst, f ∉ seen) ∧ spec' = spec.setAll given := by
  -- The fields met so far are in `seen`, so those of the entries that follow keep clear of it.
  induction h generalizing spec seen with
  | nil => simp [readFields, Spec.setAll, eq_comm]
  | @cons e tree rest trees hhead _ ih =>
    rw [readFields_cons_eq_ok hhead]
    constructor
    · rintro ⟨first, hfirst, hseen, hok⟩
      obtain ⟨given, hgiven, hnodup, hfresh, hspec⟩ := ih.mp hok
      refine ⟨first :: given, .cons hfirst hgiven, ?_, ?_, hspec⟩
      · refine List.nodup_cons.mpr ⟨fun hmem => ?_, hnodup⟩
        exact hfresh _ hmem List.mem_cons_self
      · intro f hf
        rcases List.mem_cons.mp hf with rfl | hf
        · exact hseen
        · exact fun hmem => hfresh f hf (List.mem_cons_of_mem _ hmem)
    · rintro ⟨given, hgiven, hnodup, hfresh, hspec⟩
      obtain ⟨first, given, hfirst, hrest, rfl⟩ := List.forall₂_cons_left_iff.mp hgiven
      obtain ⟨hnot, hnodup⟩ := List.nodup_cons.mp hnodup
      obtain ⟨hseen, hfresh⟩ := List.forall_mem_cons.mp hfresh
      refine ⟨first, hfirst, hseen, ih.mpr ⟨given, hrest, hnodup, ?_, hspec⟩⟩
      intro f hf hmem
      rcases List.mem_cons.mp hmem with rfl | hmem
      · exact hnot hf
      · exact hfresh f hf hmem

lemma readSpec_eq_ok (h : Stands d n t) {spec : Spec} :
    readSpec d path n = .ok spec ↔ IsGroup t ∧ GroupTells t spec := by
  rw [group_iff]
  cases h with
  | @scalar _ m s hs =>
    simp only [readSpec, hs, Tree.entries?]
    cases s.isBlank <;> simp [Spec.setAll, eq_comm]
  | sequence hs => simp [readSpec, hs, Tree.entries?]
  | mapping hs hkeys hvalues =>
    have hentries := standsEntries_iff.mpr ⟨hkeys, hvalues⟩
    simp only [readSpec, hs, Tree.entries?, readFields_eq_ok hentries, Option.some_inj]
    simp

lemma readItems_eq_ok {items : List Node} {trees : List Tree}
    (h : List.Forall₂ (Stands d) items trees) {index : Nat} {specs : List Spec} :
    readItems d path index items = .ok specs ↔
      (∀ t ∈ trees, IsGroup t) ∧ List.Forall₂ GroupTells trees specs := by
  rw [← List.forall₂_and_left]
  induction h generalizing index specs with
  | nil => simp [readItems, eq_comm]
  | cons hhead _ ih =>
    rw [readItems, List.forall₂_cons_left_iff]
    constructor
    · intro hok
      obtain ⟨spec, hspec, hok⟩ := bind_eq_ok.mp hok
      obtain ⟨later, hlater, hok⟩ := bind_eq_ok.mp hok
      exact ⟨spec, later, (readSpec_eq_ok hhead).mp hspec, ih.mp hlater, (Except.ok.inj hok).symm⟩
    · rintro ⟨spec, later, hspec, hlater, rfl⟩
      exact bind_eq_ok.mpr ⟨spec, (readSpec_eq_ok hhead).mpr hspec,
        bind_eq_ok.mpr ⟨later, ih.mpr hlater, rfl⟩⟩

lemma readGroups_eq_ok (h : Stands d n t) {specs : List Spec} :
    readGroups d path n = .ok specs ↔
      ∃ items, t.items? = some items ∧ (∀ item ∈ items, IsGroup item) ∧
        List.Forall₂ GroupTells items specs := by
  cases h with
  | @scalar _ m s hs =>
    simp only [readGroups, hs, Tree.items?]
    cases s.isBlank <;> simp [eq_comm]
  | sequence hs hitems =>
    simp only [readGroups, hs, Tree.items?, readItems_eq_ok hitems, Option.some_inj,
      exists_eq_left']
  | mapping hs => simp [readGroups, hs, Tree.items?]

/-- After the groups nothing else may come. -/
lemma readEntries_some_eq_ok {start : Mark} {found specs : List Spec}
    {entries : List (Node × Node)} :
    readEntries d start (some found) entries = .ok specs ↔ entries = [] ∧ specs = found := by
  cases entries with
  | nil => simp [readEntries, eq_comm]
  | cons e rest =>
    simp only [reduceCtorEq, false_and, iff_false]
    intro hok
    rw [readEntries] at hok
    obtain ⟨⟨name, m⟩, -, hok⟩ := bind_eq_ok.mp hok
    dsimp only [Option.isSome_some] at hok
    split at hok
    · cases hok
    · cases hok

lemma readEntries_eq_ok {start : Mark} {entries : List (Node × Node)} {trees : List (Tree × Tree)}
    (h : List.Forall₂ (StandsEntry d) entries trees) {specs : List Spec} :
    readEntries d start none entries = .ok specs ↔
      ∃ items, Lists (.mapping trees) items ∧ (∀ item ∈ items, IsGroup item) ∧
        List.Forall₂ GroupTells items specs := by
  cases h with
  | nil => simp [readEntries, Lists]
  | @cons e tree rest trees hhead hrest =>
    obtain ⟨hkey, hvalue⟩ := hhead
    rw [readEntries]
    constructor
    · intro hok
      obtain ⟨⟨name, m⟩, hname, hok⟩ := bind_eq_ok.mp hok
      have htext := (readKey_eq_ok hkey).mp ⟨m, hname⟩
      dsimp only [Option.isSome_none] at hok
      split at hok
      next => cases hok
      next hgroups =>
        rw [not_not] at hgroups
        obtain ⟨found, hfound, hok⟩ := bind_eq_ok.mp hok
        obtain ⟨rfl, rfl⟩ := readEntries_some_eq_ok.mp hok
        obtain rfl := List.forall₂_nil_left_iff.mp hrest
        obtain ⟨items, hitems, hgroup⟩ := (readGroups_eq_ok hvalue).mp hfound
        exact ⟨items, ⟨tree.1, tree.2, rfl, hgroups ▸ htext, hitems⟩, hgroup⟩
    · rintro ⟨items, ⟨key, value, hone, htext, hitems⟩, hgroup⟩
      obtain ⟨rfl, rfl⟩ := List.cons.inj (Tree.mapping.inj hone)
      obtain rfl := List.forall₂_nil_right_iff.mp hrest
      obtain ⟨m, hname⟩ : ∃ m, readKey d [] e.1 = .ok (groupsKey, m) :=
        (readKey_eq_ok hkey).mpr htext
      have hfound : readGroups d [stepTo e.1 groupsKey] e.2 = .ok specs :=
        (readGroups_eq_ok hvalue).mpr ⟨items, hitems, hgroup⟩
      refine bind_eq_ok.mpr ⟨(groupsKey, m), hname, ?_⟩
      exact bind_eq_ok.mpr ⟨specs, hfound, readEntries_some_eq_ok.mpr ⟨rfl, rfl⟩⟩

lemma readRoot_eq_ok (h : Stands d d.root t) {specs : List Spec} :
    readRoot d = .ok specs ↔ ∃ items, Lists t items ∧ (∀ item ∈ items, IsGroup item) ∧
      List.Forall₂ GroupTells items specs := by
  cases h with
  | @scalar _ m s hs =>
    simp only [readRoot, hs, Lists]
    cases s.isBlank <;> simp
  | sequence hs => simp [readRoot, hs, Lists]
  | mapping hs hkeys hvalues =>
    have hentries := standsEntries_iff.mpr ⟨hkeys, hvalues⟩
    simp only [readRoot, hs, readEntries_eq_ok hentries]

end Reading

/-- What comes of a document is what was read, before it is known that nothing else follows. -/
lemma readRoot_of_ofDocument {d : Document} {specs : List Spec} (h : ofDocument d = .ok specs) :
    readRoot d = .ok specs := by
  obtain ⟨found, hfound, h⟩ := bind_eq_ok.mp h
  split at h
  · cases h
  · split at h
    · cases h
    · cases h
      exact hfound

lemma ofDocument_eq_ok {d : Document} {t : Tree} (h : d.Holds t) {specs : List Spec} :
    ofDocument d = .ok specs ↔ IsConfiguration t ∧ ConfigurationTells t specs := by
  rw [configuration_iff, ← readRoot_eq_ok h.root, ofDocument, bind_eq_ok]
  simp only [h.whole, h.single, Option.isSome_none, Bool.false_eq_true, if_false, Except.ok.injEq,
    exists_eq_right]

section Decode

variable {bytes : List UInt8} {t item : Tree} {i : Nat} {specs : List Spec}

lemma decode_eq_ok (h : (Document.ofBytes bytes).Holds t) :
    decode bytes = .ok specs ↔ IsConfiguration t ∧ ConfigurationTells t specs :=
  ofDocument_eq_ok h

lemma decode_eq_error (h : (Document.ofBytes bytes).Holds t) (hbad : ¬IsConfiguration t) :
    ∃ e, decode bytes = .error e := by
  cases hread : decode bytes with
  | error e => exact ⟨e, rfl⟩
  | ok specs => exact absurd ((decode_eq_ok h).mp hread).1 hbad

lemma isGroup_of_hasGroup (h : IsConfiguration t) (hitem : HasGroup t i item) : IsGroup item := by
  obtain ⟨items, hlists, hgroups⟩ := h
  exact hgroups item (List.mem_of_getElem? (getElem?_of_hasGroup hlists hitem))

/-- A text that holds one document is read if the tree of the document is a configuration, and not
otherwise. What comes of it is what the tree says, so the order of keys does not matter. One group
that is none spoils the whole, be it by a whole number that does not fit a field. -/
theorem decode_exact (h : (Document.ofBytes bytes).Holds t) :
    ((∃ specs, decode bytes = .ok specs) ↔ IsConfiguration t) ∧
    (∀ specs, decode bytes = .ok specs ↔ IsConfiguration t ∧ ConfigurationTells t specs) ∧
    (∀ bytes' t', (Document.ofBytes bytes').Holds t' → Reordered t t' →
      ∀ specs, decode bytes = .ok specs ↔ decode bytes' = .ok specs) ∧
    (∀ i item, HasGroup t i item → ¬IsGroup item → ∃ e, decode bytes = .error e) ∧
    ∀ i item f s n, HasGroup t i item → Assigns item f s → f.kind = .integer →
      s.integer? = some n → n < Text.minInt64 ∨ Text.maxInt64 < n →
      ∃ e, decode bytes = .error e := by
  have hspoiled : ∀ i item, HasGroup t i item → ¬IsGroup item →
      ∃ e, decode bytes = .error e := by
    intro i item hitem hbad
    exact decode_eq_error h fun hconfiguration =>
      hbad (isGroup_of_hasGroup hconfiguration hitem)
  refine ⟨⟨?_, ?_⟩, fun specs => decode_eq_ok h, ?_, hspoiled, ?_⟩
  · rintro ⟨specs, hspecs⟩
    exact ((decode_eq_ok h).mp hspecs).1
  · intro hconfiguration
    obtain ⟨specs, htells⟩ := exists_configurationTells hconfiguration
    exact ⟨specs, (decode_eq_ok h).mpr ⟨hconfiguration, htells⟩⟩
  · intro bytes' t' h' hreordered specs
    rw [decode_eq_ok h, decode_eq_ok h']
    exact ⟨hreordered.configuration, hreordered.symm.configuration⟩
  · intro i item f s n hitem hassigns hkind hinteger hrange
    refine hspoiled i item hitem fun hgroup => ?_
    obtain ⟨v, hv⟩ := gives_of_assigns hassigns hgroup
    exact not_gives_of_wide hkind hinteger hrange v hv

end Decode

/-- The text `node_groups: [&a {min_nodes: 1, name: x}, *a]`. -/
def twinsText : List UInt8 :=
  [110, 111, 100, 101, 95, 103, 114, 111, 117, 112, 115, 58, 32, 91, 38, 97, 32, 123, 109, 105,
   110, 95, 110, 111, 100, 101, 115, 58, 32, 49, 44, 32, 110, 97, 109, 101, 58, 32, 120, 125,
   44, 32, 42, 97, 93]

def plain (text : String) : Tree := .scalar ⟨text, .plain, none⟩

def twinTree : Tree := .mapping [(plain "min_nodes", plain "1"), (plain "name", plain "x")]

def twinsTree : Tree := .mapping [(plain groupsKey, .sequence [twinTree, twinTree])]

lemma twinTree_isGroup : IsGroup twinTree := by
  have hone : Scalar.integer? ⟨"1", .plain, none⟩ = some (1 : Int64).toInt := by
    decide
  refine ⟨_, rfl, by decide, ?_⟩
  simp only [List.forall_mem_cons, List.not_mem_nil, false_implies, implies_true, and_true]
  exact ⟨⟨⟨.minNodes, (1 : Int64)⟩, rfl, _, rfl, hone⟩, ⟨⟨.name, "x"⟩, rfl, _, rfl, rfl⟩⟩

/-- An alias is read as the group that it stands for. -/
theorem decode_exact_twins : (Document.ofBytes twinsText).Holds twinsTree ∧
    ∃ specs, decode twinsText = .ok specs := by
  have hholds : (Document.ofBytes twinsText).Holds twinsTree := by
    decide +kernel
  have hconfiguration : IsConfiguration twinsTree := by
    refine ⟨[twinTree, twinTree], ⟨_, _, rfl, rfl, rfl⟩, ?_⟩
    simp [twinTree_isGroup]
  exact ⟨hholds, (decode_exact hholds).1.mpr hconfiguration⟩

end Autoscaler.NodeGroup
