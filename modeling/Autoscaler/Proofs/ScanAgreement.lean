import Autoscaler.Cluster.Scan
import Autoscaler.Proofs.SnapshotTotals
import Mathlib.Logic.Relation

/-!
# Scans and snapshots

A scan gives what a snapshot of the two listings gives. It leaves out the second listing where its
answer would not matter, and pods that have run to their end may be part of that listing or not. The
nodes and pods that are listed are as their texts say.
-/

namespace Autoscaler.Cluster

/-- Adds one pod that has run to its end, at any place of a list. -/
inductive AddsEnded : List Pod → List Pod → Prop
  | intro {before after : List Pod} {p : Pod}
    (h : p.phase = some "Succeeded" ∨ p.phase = some "Failed") :
    AddsEnded (before ++ after) (before ++ p :: after)

/-- The same pods in the same order, but for some that have run to their end: these are added and
removed one by one. -/
def SameUnended : List Pod → List Pod → Prop := Relation.EqvGen AddsEnded

section Unended

variable {nodes : List Node} {pods pods' : List Pod} {p : Pod}

lemma counting_of_addsEnded (h : AddsEnded pods pods') :
    counting nodes pods = counting nodes pods' := by
  obtain @⟨before, after, p, hended⟩ := h
  have hout : ¬p.Counts nodes := by
    intro ⟨_, hsucceeded, hfailed⟩
    exact hended.elim hsucceeded hfailed
  simp only [counting, List.filter_append, List.filter_cons, hout, decide_false, Bool.false_eq_true,
    if_false]

lemma SameUnended.counting_eq (h : SameUnended pods pods') :
    counting nodes pods = counting nodes pods' := by
  induction h with
  | rel _ _ hstep => exact counting_of_addsEnded hstep
  | refl _ => rfl
  | symm _ _ _ ih => exact ih.symm
  | trans _ _ _ _ _ ih₁ ih₂ => exact ih₁.trans ih₂

lemma SameUnended.snapshot_eq (h : SameUnended pods pods') :
    Snapshot.of nodes pods = Snapshot.of nodes pods' := by
  simp only [Snapshot.of, countedPods_eq, h.counting_eq]

lemma SameUnended.cons (p : Pod) (h : SameUnended pods pods') :
    SameUnended (p :: pods) (p :: pods') := by
  induction h with
  | rel _ _ hstep =>
    obtain @⟨before, after, q, hended⟩ := hstep
    have hadds : AddsEnded ((p :: before) ++ after) ((p :: before) ++ q :: after) := .intro hended
    exact .rel _ _ hadds
  | refl _ => exact .refl _
  | symm _ _ _ ih => exact .symm _ _ ih
  | trans _ _ _ _ _ ih₁ ih₂ => exact .trans _ _ _ ih₁ ih₂

/-- What the cluster lists of its pods if it keeps to the selector. -/
def unended (pods : List Pod) : List Pod := pods.filter fun p => !p.isTerminal

lemma sameUnended_unended (pods : List Pod) : SameUnended (unended pods) pods := by
  induction pods with
  | nil => exact .refl _
  | cons p pods ih =>
    cases hended : p.isTerminal with
    | false =>
      have hkept : unended (p :: pods) = p :: unended pods :=
        List.filter_cons_of_pos (by rw [hended]; rfl)
      rw [hkept]
      exact ih.cons p
    | true =>
      have hleft : unended (p :: pods) = unended pods :=
        List.filter_cons_of_neg (by rw [hended]; decide)
      have hphase : p.phase = some "Succeeded" ∨ p.phase = some "Failed" := by
        simpa only [Pod.isTerminal, Bool.or_eq_true, beq_iff_eq] using hended
      rw [hleft]
      have hadds : AddsEnded ([] ++ pods) ([] ++ p :: pods) := .intro hphase
      exact .trans _ _ _ ih (.rel _ _ hadds)

/-- Without nodes no pod counts. -/
lemma Snapshot.of_nil (pods : List Pod) : Snapshot.of [] pods = {} := by
  have hnone : counting [] pods = [] :=
    List.filter_eq_nil_iff.mpr fun p _ hp => by
      obtain ⟨⟨spec, -, n, hn, -⟩, -⟩ := of_decide_eq_true hp
      cases hn
  rw [Snapshot.of, countedPods_eq, hnone]
  rfl

end Unended

/-! ### What is listed -/

/-- The selector of a group asks for its label: for a key, which no equals sign ends early, with a
value. -/
theorem labelSelector_parts {group : NodeGroup.Spec} (h : '=' ∉ group.labelKey.toList) :
    group.labelSelector.toList.takeWhile (· ≠ '=') = group.labelKey.toList ∧
      group.labelSelector.toList.dropWhile (· ≠ '=') = '=' :: group.labelValue.toList := by
  have hkey : ∀ c ∈ group.labelKey.toList, decide (c ≠ '=') = true := by
    intro c hc
    rw [decide_eq_true_iff]
    rintro rfl
    exact h hc
  have htext : group.labelSelector.toList =
      group.labelKey.toList ++ '=' :: group.labelValue.toList := by
    simp [NodeGroup.Spec.labelSelector]
  rw [htext, List.takeWhile_append_of_pos hkey, List.dropWhile_append_of_pos hkey]
  simp

section Listed

variable {j : Json} {r : Resources} {name text : String}

lemma forall₂_of_mapM {α β : Type} {f : α → Option β} {l : List α} {results : List β}
    (h : l.mapM f = some results) : List.Forall₂ (fun a b => f a = some b) l results := by
  induction l generalizing results with
  | nil =>
    rw [List.mapM_nil] at h
    cases h
    exact .nil
  | cons a l ih =>
    rw [List.mapM_cons] at h
    obtain ⟨b, hb, h⟩ := Option.bind_eq_some_iff.mp h
    obtain ⟨rest, hrest, h⟩ := Option.bind_eq_some_iff.mp h
    cases h
    exact .cons hb (ih hrest)

/-- The resources are those of a JSON object: each name has the text that it has there. -/
def Resources.AreIn (r : Resources) (j : Json) : Prop :=
  ∀ name text, r.get? name = some text ↔ j.member name = .string text

lemma areIn_readResources (h : readResources j = some r) : r.AreIn j := by
  intro name text
  cases j with
  | bool | number | string | array => cases h
  | null =>
    cases h
    simp [Resources.get?, Json.member]
  | object members =>
    rw [Json.member, Resources.get?]
    -- of several members with one name the last counts, which comes first in the reverse order
    have hmembers := forall₂_of_mapM h
    clear h
    generalize members.reverse = listed at hmembers ⊢
    induction hmembers with
    | nil => simp
    | @cons a b listed r hread _ ih =>
      obtain ⟨other, value⟩ := a
      cases value with
      | null | bool | number | array | object => cases hread
      | string s =>
        cases hread
        by_cases heq : other = name
        · simp [heq]
        · simpa [heq] using ih

lemma readObject_eq_some {o : Json} (h : readObject j = some o) : o = j := by
  cases j <;> cases h <;> rfl

lemma optionalString?_eq_some_iff {found : Option String} (h : j.optionalString? = some found) :
    found = some text ↔ j = .string text := by
  cases j <;> cases h <;> simp

/-- A text that is read in an object of a member. -/
lemma text_of_member {field : String} {o : Json} {found : Option String}
    (ho : readObject (j.member field) = some o)
    (hfound : (o.member name).optionalString? = some found) :
    found = some text ↔ (j.member field).member name = .string text := by
  rw [readObject_eq_some ho] at hfound
  exact optionalString?_eq_some_iff hfound

/-- What the JSON text of a node says of it. -/
theorem readNode_tells {n : Node} (h : readNode j = some n) :
    n.allocatable.AreIn ((j.member "status").member "allocatable") ∧
      ∀ name, (j.member "metadata").member "name" = .string name → n.name = name := by
  unfold readNode at h
  cases j with
  | null | bool | number | string | array => cases h
  | object members =>
    obtain ⟨metadata, hmetadata, h⟩ := Option.bind_eq_some_iff.mp h
    obtain ⟨name, hname, h⟩ := Option.bind_eq_some_iff.mp h
    obtain ⟨generateName, -, h⟩ := Option.bind_eq_some_iff.mp h
    obtain ⟨status, hstatus, h⟩ := Option.bind_eq_some_iff.mp h
    obtain ⟨allocatable, hallocatable, h⟩ := Option.bind_eq_some_iff.mp h
    cases h
    rw [readObject_eq_some hstatus] at hallocatable
    refine ⟨areIn_readResources hallocatable, ?_⟩
    intro text htext
    obtain rfl := (text_of_member hmetadata hname).mpr htext
    rfl

lemma areIn_readContainer (h : readContainer j = some r) :
    r.AreIn ((j.member "resources").member "requests") := by
  unfold readContainer at h
  cases j with
  | null | bool | number | string | array => cases h
  | object members =>
    obtain ⟨resources, hresources, h⟩ := Option.bind_eq_some_iff.mp h
    rw [readObject_eq_some hresources] at h
    exact areIn_readResources h

/-- What the JSON text of a pod's specification says of it: the node, and what each container asks
for. -/
structure PodSpec.IsIn (spec : PodSpec) (j : Json) : Prop where
  nodeName : ∀ name, spec.nodeName = some name ↔ j.member "nodeName" = .string name
  requests : j.member "containers" = .null ∧ spec.requests = [] ∨
    ∃ items, j.member "containers" = .array items ∧ List.Forall₂
      (fun item r => Resources.AreIn r ((item.member "resources").member "requests"))
      items spec.requests

lemma isIn_readPodSpec {spec : PodSpec} (h : readPodSpec j = some spec) : spec.IsIn j := by
  unfold readPodSpec at h
  obtain ⟨nodeName, hname, h⟩ := Option.bind_eq_some_iff.mp h
  dsimp only at h
  split at h
  next hnone =>
    cases h
    exact ⟨fun name => optionalString?_eq_some_iff hname, .inl ⟨hnone, rfl⟩⟩
  next items hitems =>
    obtain ⟨requests, hrequests, h⟩ := Option.bind_eq_some_iff.mp h
    cases h
    have hcontainers := (forall₂_of_mapM hrequests).imp fun _ _ => areIn_readContainer
    exact ⟨fun name => optionalString?_eq_some_iff hname, .inr ⟨items, hitems, hcontainers⟩⟩
  next => cases h

/-- What the JSON text of a pod says of it. -/
theorem readPod_tells {p : Pod} (h : readPod j = some p) :
    (∀ phase, p.phase = some phase ↔ (j.member "status").member "phase" = .string phase) ∧
      (j.member "spec" = .null ∧ p.spec = none ∨
        ∃ spec, p.spec = some spec ∧ spec.IsIn (j.member "spec")) := by
  unfold readPod at h
  cases j with
  | null | bool | number | string | array => cases h
  | object members =>
    obtain ⟨-, -, h⟩ := Option.bind_eq_some_iff.mp h
    obtain ⟨object, hobject, h⟩ := Option.bind_eq_some_iff.mp h
    have hspec := readObject_eq_some hobject
    dsimp only at h
    split at h
    next =>
      obtain ⟨spec, hnone, h⟩ := Option.bind_eq_some_iff.mp h
      obtain ⟨status, hstatus, h⟩ := Option.bind_eq_some_iff.mp h
      obtain ⟨phase, hphase, h⟩ := Option.bind_eq_some_iff.mp h
      cases h
      cases hnone
      exact ⟨fun phase => text_of_member hstatus hphase, .inl ⟨hspec.symm, rfl⟩⟩
    next =>
      obtain ⟨read, hread, h⟩ := Option.bind_eq_some_iff.mp h
      obtain ⟨spec, hspec', rfl⟩ := Option.map_eq_some_iff.mp hread
      obtain ⟨status, hstatus, h⟩ := Option.bind_eq_some_iff.mp h
      obtain ⟨phase, hphase, h⟩ := Option.bind_eq_some_iff.mp h
      cases h
      exact ⟨fun phase => text_of_member hstatus hphase,
        .inr ⟨spec, rfl, hspec ▸ isIn_readPodSpec hspec'⟩⟩

end Listed

section Scan

variable {cluster cluster' : Interface} {group : NodeGroup.Spec} {nodes : List Node}

/-- What the cluster answers to the request for the nodes of a group. -/
def nodeListing (cluster : Interface) (group : NodeGroup.Spec) : Except ApiError (List Node) :=
  Reply.listing readNode (cluster (.nodes group.labelSelector))

/-- What the cluster answers to the request for pods. -/
def podListing (cluster : Interface) : Except ApiError (List Pod) :=
  Reply.listing readPod (cluster (.pods podSelector))

lemma scan_of_error {e : ApiError} (h : nodeListing cluster group = .error e) :
    scan cluster group = ⟨.error (.api e), [.nodes group.labelSelector], []⟩ := by
  unfold nodeListing at h
  simp only [scan, h]

lemma scan_of_nil (h : nodeListing cluster group = .ok []) :
    (scan cluster group).result = .ok {} ∧
      (scan cluster group).requests = [.nodes group.labelSelector] := by
  unfold nodeListing at h
  simp only [scan, h, and_self]

lemma scan_of_nodes (h : nodeListing cluster group = .ok nodes) (hsome : nodes ≠ []) :
    scan cluster group = scanPods cluster (.nodes group.labelSelector) nodes := by
  unfold nodeListing at h
  cases nodes with
  | nil => exact absurd rfl hsome
  | cons n rest => simp only [scan, h]

lemma scanPods_result (first : Request) (nodes : List Node) :
    (scanPods cluster first nodes).result =
      ((podListing cluster).mapError .api).map (Snapshot.of nodes) := by
  unfold podListing
  simp only [scanPods]
  cases Reply.listing readPod (cluster (.pods podSelector)) <;> rfl

/-- A scan that does not ask for pods is the same in every cluster with the same nodes. -/
lemma scan_congr (h : nodeListing cluster group = nodeListing cluster' group)
    (hnone : ∀ nodes, nodeListing cluster group = .ok nodes → nodes = []) :
    scan cluster group = scan cluster' group := by
  cases hlisting : nodeListing cluster group with
  | error e => rw [scan_of_error hlisting, scan_of_error (h ▸ hlisting)]
  | ok nodes =>
    obtain rfl := hnone nodes hlisting
    have hlisting' : nodeListing cluster' group = .ok [] := h ▸ hlisting
    unfold nodeListing at hlisting hlisting'
    simp only [scan, hlisting, hlisting']

/-- Scans against any cluster. If the nodes cannot be listed, that is the error; if there are none,
the snapshot is that of no nodes and any pods. In both cases pods are not asked for, and the scan is
the same in every cluster that lists the same nodes. Otherwise pods are asked for once: if they
cannot be listed, that is the error, and else the scan gives the snapshot of the two listings. There
it does not matter which of the pods that have run to their end are listed, so that a cluster that
keeps to the selector and one that does not give the same. -/
theorem scan_agrees (cluster : Interface) (group : NodeGroup.Spec) :
    (∀ e, nodeListing cluster group = .error e →
      (scan cluster group).result = .error (.api e) ∧
      (scan cluster group).requests = [.nodes group.labelSelector] ∧
      ∀ cluster', nodeListing cluster' group = nodeListing cluster group →
        scan cluster' group = scan cluster group) ∧
    (nodeListing cluster group = .ok [] →
      (∀ pods, (scan cluster group).result = .ok (Snapshot.of [] pods)) ∧
      (scan cluster group).requests = [.nodes group.labelSelector] ∧
      ∀ cluster', nodeListing cluster' group = nodeListing cluster group →
        scan cluster' group = scan cluster group) ∧
    (∀ nodes, nodeListing cluster group = .ok nodes → nodes ≠ [] →
      (scan cluster group).requests = [.nodes group.labelSelector, .pods podSelector] ∧
      (∀ e, podListing cluster = .error e → (scan cluster group).result = .error (.api e)) ∧
      ∀ pods, podListing cluster = .ok pods →
        (scan cluster group).result = .ok (Snapshot.of nodes pods) ∧
        ∀ pods', SameUnended pods pods' →
          Snapshot.of nodes pods = Snapshot.of nodes pods' ∧
          ∀ cluster', nodeListing cluster' group = .ok nodes → podListing cluster' = .ok pods' →
            (scan cluster' group).result = (scan cluster group).result) ∧
    ∀ pods, SameUnended (unended pods) pods := by
  refine ⟨fun e h => ?_, fun h => ?_, fun nodes h hsome => ?_, sameUnended_unended⟩
  · have hscan := scan_of_error h
    refine ⟨by rw [hscan], by rw [hscan], fun cluster' h' => ?_⟩
    rw [hscan, scan_of_error (h' ▸ h)]
  · obtain ⟨hresult, hrequests⟩ := scan_of_nil h
    refine ⟨fun pods => by rw [hresult, Snapshot.of_nil], hrequests, fun cluster' h' => ?_⟩
    refine (scan_congr h'.symm fun nodes hnodes => ?_).symm
    exact (Except.ok.inj (h.symm.trans hnodes)).symm
  · have hscan := scan_of_nodes h hsome
    refine ⟨by rw [hscan]; rfl, fun e he => ?_, fun pods hpods => ?_⟩
    · rw [hscan, scanPods_result, he]
      rfl
    · have hresult : (scan cluster group).result = .ok (Snapshot.of nodes pods) := by
        rw [hscan, scanPods_result, hpods]
        rfl
      refine ⟨hresult, fun pods' hsame => ⟨hsame.snapshot_eq, fun cluster' h' hpods' => ?_⟩⟩
      rw [hresult, scan_of_nodes h' hsome, scanPods_result, hpods', hsame.snapshot_eq]
      rfl

/-- A cluster with given answers to requests for nodes and for pods. -/
def answering (nodes pods : Option Reply) : Interface
  | .nodes _ => nodes
  | .pods _ => pods

def listingOf (items : String) : Option Reply := some ⟨200, "\x7b\"items\":[" ++ items ++ "]\x7d"⟩

def runningText : String := "\x7b\"spec\":\x7b\"nodeName\":\"a\"\x7d\x7d"

def failedText : String :=
  "\x7b\"spec\":\x7b\"nodeName\":\"a\"\x7d,\"status\":\x7b\"phase\":\"Failed\"\x7d\x7d"

/-- One node with two pods, one of which has failed, in a cluster that lists both pods, in one that
keeps to the selector, and in one that lists no pods; then no nodes and no pods that can be listed,
and then nothing that can be listed. -/
theorem scan_agrees_failedPod : ∃ (lax strict torn bare down : Interface) (node : Node)
    (running failed : Pod), running ≠ failed ∧ SameUnended [running, failed] [running] ∧
    (nodeListing lax {} = .ok [node] ∧ podListing lax = .ok [running, failed] ∧
      nodeListing strict {} = .ok [node] ∧ podListing strict = .ok [running] ∧
      (scan strict {}).result = (scan lax {}).result) ∧
    (nodeListing torn {} = .ok [node] ∧ podListing torn = .error .unreachable ∧
      (scan torn {}).result = .error (.api .unreachable)) ∧
    (nodeListing bare {} = .ok [] ∧ podListing bare = .error .unreachable ∧
      (scan bare {}).result = .ok (Snapshot.of [] [running])) ∧
    nodeListing down {} = .error .unreachable ∧
      (scan down {}).result = .error (.api .unreachable) := by
  let node : Option Reply := listingOf "\x7b\"metadata\":\x7b\"name\":\"a\"\x7d\x7d"
  let running : Pod := ⟨some ⟨some "a", []⟩, none⟩
  let failed : Pod := ⟨some ⟨some "a", []⟩, some "Failed"⟩
  have hnode (pods : Option Reply) : nodeListing (answering node pods) {} = .ok [⟨"a", []⟩] := by
    have h : Reply.listing readNode node = .ok [⟨"a", []⟩] := by decide +kernel
    exact h
  have hboth (nodes : Option Reply) :
      podListing (answering nodes (listingOf (runningText ++ "," ++ failedText))) =
        .ok [running, failed] := by
    have h : Reply.listing readPod (listingOf (runningText ++ "," ++ failedText)) =
        .ok [running, failed] := by decide +kernel
    exact h
  have hone (nodes : Option Reply) :
      podListing (answering nodes (listingOf runningText)) = .ok [running] := by
    have h : Reply.listing readPod (listingOf runningText) = .ok [running] := by decide +kernel
    exact h
  have hbare : nodeListing (answering (listingOf "") none) {} = .ok [] := by
    decide +kernel
  have hsame : SameUnended [running, failed] [running] := by
    have hadds : AddsEnded ([running] ++ []) ([running] ++ failed :: []) := .intro (.inr rfl)
    exact .symm _ _ (.rel _ _ hadds)
  obtain ⟨-, -, hlax, -⟩ :=
    scan_agrees (answering node (listingOf (runningText ++ "," ++ failedText))) {}
  obtain ⟨-, hpods⟩ := (hlax _ (hnode _) (by simp)).2.2 _ (hboth _)
  have hstrict := (hpods _ hsame).2 (answering node (listingOf runningText)) (hnode _) (hone _)
  obtain ⟨-, -, htorn, -⟩ := scan_agrees (answering node none) {}
  obtain ⟨-, hnone, -⟩ := scan_agrees (answering (listingOf "") none) {}
  obtain ⟨hdown, -⟩ := scan_agrees (answering none none) {}
  exact ⟨_, _, _, _, _, _, running, failed, by decide, hsame,
    ⟨hnode _, hboth _, hnode _, hone _, hstrict⟩,
    ⟨hnode none, rfl, (htorn _ (hnode none) (by simp)).2.1 _ rfl⟩,
    ⟨hbare, rfl, (hnone hbare).1 [running]⟩, rfl, (hdown _ rfl).1⟩

end Scan
end Autoscaler.Cluster
