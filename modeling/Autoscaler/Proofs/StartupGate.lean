import Autoscaler.Proofs.ReportExactness
import Autoscaler.Startup

/-!
# The startup gate

A startup lets the control loop run with the node groups of the configuration if credentials are
found, the groups are read and all of them pass. Otherwise the first stage that fails is blamed, and
no group is announced as registered.
-/

namespace Autoscaler.Proofs
open Startup

/-- What comes of reading the node groups that settings name. -/
def loaded (openPath : String → Except Files.Fault Files.File) (s : Settings) :
    Except LoadError (List NodeGroup.Spec) :=
  decodeFile s.nodeGroupsPath (openPath s.nodeGroupsPath)

/-- Whether an event announces a node group to the control loop. -/
def announcesGroup (e : Log.Event) : Prop := e.message = "Registered node group"

lemma accept_passing {s : Settings} {groups : List NodeGroup.Spec}
    (h : (NodeGroup.Report.ofSpecs groups).isOk = true) :
    accept s groups = ⟨.ok ⟨s.scanInterval, groups, s.dryMode⟩,
      NodeGroup.Report.log groups ++ groups.map (registration s.dryMode)⟩ := by
  unfold accept
  simp only [h, if_true]
  rfl

lemma accept_failing {s : Settings} {groups : List NodeGroup.Spec}
    (h : (NodeGroup.Report.ofSpecs groups).isOk = false) :
    (accept s groups).outcome =
      .error (.invalid s.nodeGroupsPath (NodeGroup.Report.ofSpecs groups)) := by
  unfold accept
  simp only [h, Bool.false_eq_true, if_false]
  rfl

lemma validation_log_announces_nothing (groups : List NodeGroup.Spec) :
    ∀ e ∈ NodeGroup.Report.log groups, ¬announcesGroup e := by
  unfold NodeGroup.Report.log
  simp only [List.mem_flatMap]
  rintro e ⟨v, -, he⟩
  unfold NodeGroup.Report.verdictLog at he
  split at he
  · obtain rfl := List.mem_singleton.mp he
    simp [announcesGroup, NodeGroup.Report.passEvent]
  · rcases List.mem_cons.mp he with rfl | he
    · simp [announcesGroup, NodeGroup.Report.failEvent]
    · obtain ⟨w, -, rfl⟩ := List.mem_map.mp he
      simp [announcesGroup, NodeGroup.Report.violationEvent]

lemma accept_failing_log {s : Settings} {groups : List NodeGroup.Spec}
    (h : (NodeGroup.Report.ofSpecs groups).isOk = false) :
    ∀ e ∈ (accept s groups).log, ¬announcesGroup e := by
  unfold accept
  simp only [h, Bool.false_eq_true, if_false]
  intro e he
  rcases List.mem_append.mp he with he | he
  · exact validation_log_announces_nothing groups e he
  · obtain rfl := List.mem_singleton.mp he
    simp [announcesGroup]

section Stages
variable {resolve : CredentialMode → Credentials.Resolution}
  {openPath : String → Except Files.Fault Files.File} {s : Settings}

lemma prepare_refused {reason : Credentials.CredentialError}
    (h : (resolve s.credentialMode).outcome = .error reason) :
    prepare resolve openPath s = ⟨.error (.credentials reason), (resolve s.credentialMode).log ++
      [⟨.error, .bootstrap, "Failed to create Kubernetes client",
        [("error", .shown reason.message)]⟩]⟩ := by
  unfold prepare
  simp only [h]
  rfl

lemma prepare_unloaded {reason : LoadError} (h : (resolve s.credentialMode).outcome = .ok ())
    (hload : loaded openPath s = .error reason) :
    prepare resolve openPath s = ⟨.error (.load reason), (resolve s.credentialMode).log ++
      [⟨.error, .bootstrap, "Failed to load node group config",
        [("error", .shown reason.message), ("path", .shown s.nodeGroupsPath)]⟩]⟩ := by
  unfold loaded at hload
  unfold prepare load
  simp only [h, hload]
  rfl

lemma prepare_loaded {groups : List NodeGroup.Spec}
    (h : (resolve s.credentialMode).outcome = .ok ()) (hload : loaded openPath s = .ok groups) :
    prepare resolve openPath s = (accept s groups).after (resolve s.credentialMode).log := by
  unfold loaded at hload
  unfold prepare load
  simp only [h, hload]

lemma prepare_invalid {groups : List NodeGroup.Spec}
    (h : (resolve s.credentialMode).outcome = .ok ()) (hload : loaded openPath s = .ok groups)
    (hok : (NodeGroup.Report.ofSpecs groups).isOk = false) :
    (prepare resolve openPath s).outcome =
      .error (.invalid s.nodeGroupsPath (NodeGroup.Report.ofSpecs groups)) := by
  rw [prepare_loaded h hload]
  exact accept_failing hok

lemma prepare_passing {groups : List NodeGroup.Spec}
    (h : (resolve s.credentialMode).outcome = .ok ()) (hload : loaded openPath s = .ok groups)
    (hok : (NodeGroup.Report.ofSpecs groups).isOk = true) :
    prepare resolve openPath s = ⟨.ok ⟨s.scanInterval, groups, s.dryMode⟩,
      (resolve s.credentialMode).log ++ NodeGroup.Report.log groups ++
        groups.map (registration s.dryMode)⟩ := by
  rw [prepare_loaded h hload, accept_passing hok, List.append_assoc]
  rfl

/-- The four ways in which a startup ends, by the stage that decides. -/
lemma prepare_cases (resolve : CredentialMode → Credentials.Resolution)
    (openPath : String → Except Files.Fault Files.File) (s : Settings) :
    (∃ reason, (resolve s.credentialMode).outcome = .error reason) ∨
    (∃ reason, (resolve s.credentialMode).outcome = .ok () ∧ loaded openPath s = .error reason) ∨
    (∃ groups, (resolve s.credentialMode).outcome = .ok () ∧ loaded openPath s = .ok groups ∧
      (NodeGroup.Report.ofSpecs groups).isOk = false) ∨
    (∃ groups, (resolve s.credentialMode).outcome = .ok () ∧ loaded openPath s = .ok groups ∧
      (NodeGroup.Report.ofSpecs groups).isOk = true) := by
  cases (resolve s.credentialMode).outcome with
  | error reason => exact .inl ⟨reason, rfl⟩
  | ok =>
    cases loaded openPath s with
    | error reason => exact .inr (.inl ⟨reason, rfl, rfl⟩)
    | ok groups => cases hok : (NodeGroup.Report.ofSpecs groups).isOk <;> simp [hok]

lemma prepare_ok_iff {opts : ControlLoop.RunOptions} :
    (prepare resolve openPath s).outcome = .ok opts ↔
      (resolve s.credentialMode).outcome = .ok () ∧ ∃ groups, loaded openPath s = .ok groups ∧
        (NodeGroup.Report.ofSpecs groups).isOk ∧ opts =
          { scanInterval := s.scanInterval, nodeGroups := groups, dryMode := s.dryMode } := by
  constructor
  · intro h
    rcases prepare_cases resolve openPath s with ⟨r, hc⟩ | ⟨r, hc, hl⟩ | ⟨g, hc, hl, hok⟩ |
      ⟨g, hc, hl, hok⟩
    · rw [prepare_refused hc] at h
      cases h
    · rw [prepare_unloaded hc hl] at h
      cases h
    · rw [prepare_invalid hc hl hok] at h
      cases h
    · rw [prepare_passing hc hl hok] at h
      cases h
      exact ⟨hc, g, hl, hok, rfl⟩
  · rintro ⟨hc, g, hl, hok, rfl⟩
    rw [prepare_passing hc hl hok]

lemma prepare_error_iff {e : StartupError} :
    (prepare resolve openPath s).outcome = .error e ↔
      (∃ reason, (resolve s.credentialMode).outcome = .error reason ∧ e = .credentials reason) ∨
      ((resolve s.credentialMode).outcome = .ok () ∧
        ∃ reason, loaded openPath s = .error reason ∧ e = .load reason) ∨
      ((resolve s.credentialMode).outcome = .ok () ∧ ∃ groups, loaded openPath s = .ok groups ∧
        ¬(NodeGroup.Report.ofSpecs groups).isOk ∧
        e = .invalid s.nodeGroupsPath (NodeGroup.Report.ofSpecs groups)) := by
  constructor
  · intro h
    rcases prepare_cases resolve openPath s with ⟨r, hc⟩ | ⟨r, hc, hl⟩ | ⟨g, hc, hl, hok⟩ |
      ⟨g, hc, hl, hok⟩
    · rw [prepare_refused hc] at h
      cases h
      exact .inl ⟨r, hc, rfl⟩
    · rw [prepare_unloaded hc hl] at h
      cases h
      exact .inr (.inl ⟨hc, r, hl, rfl⟩)
    · rw [prepare_invalid hc hl hok] at h
      cases h
      exact .inr (.inr ⟨hc, g, hl, by simp [hok], rfl⟩)
    · rw [prepare_passing hc hl hok] at h
      cases h
  · rintro (⟨r, hc, rfl⟩ | ⟨hc, r, hl, rfl⟩ | ⟨hc, g, hl, hok, rfl⟩)
    · rw [prepare_refused hc]
    · rw [prepare_unloaded hc hl]
    · exact prepare_invalid hc hl (by simpa using hok)

/-- A startup that fails adds no announcement to what resolving credentials has logged. -/
lemma prepare_error_log {e : StartupError} (he : (prepare resolve openPath s).outcome = .error e) :
    ∃ own, (prepare resolve openPath s).log = (resolve s.credentialMode).log ++ own ∧
      ∀ event ∈ own, ¬announcesGroup event := by
  rcases prepare_error_iff.mp he with ⟨r, hc, -⟩ | ⟨hc, r, hl, -⟩ | ⟨hc, g, hl, hok, -⟩
  · rw [prepare_refused hc]
    exact ⟨_, rfl, by simp [announcesGroup]⟩
  · rw [prepare_unloaded hc hl]
    exact ⟨_, rfl, by simp [announcesGroup]⟩
  · rw [prepare_loaded hc hl]
    exact ⟨_, rfl, accept_failing_log (by simpa using hok)⟩

end Stages

/-- The gate for any settings, credentials and files. A startup succeeds exactly if all stages do,
and then hands on the groups as they were read. Otherwise it ends with the error of the first stage
that fails. Files do not matter once credentials are refused, and groups are announced only by a
startup that succeeds. -/
theorem startup_gate (resolve : CredentialMode → Credentials.Resolution)
    (openPath : String → Except Files.Fault Files.File) (s : Settings) :
    (∀ opts, (prepare resolve openPath s).outcome = .ok opts ↔
      (resolve s.credentialMode).outcome = .ok () ∧ ∃ groups, loaded openPath s = .ok groups ∧
        (NodeGroup.Report.ofSpecs groups).isOk ∧ opts =
          { scanInterval := s.scanInterval, nodeGroups := groups, dryMode := s.dryMode }) ∧
    (∀ e, (prepare resolve openPath s).outcome = .error e ↔
      (∃ reason, (resolve s.credentialMode).outcome = .error reason ∧ e = .credentials reason) ∨
      ((resolve s.credentialMode).outcome = .ok () ∧
        ∃ reason, loaded openPath s = .error reason ∧ e = .load reason) ∨
      ((resolve s.credentialMode).outcome = .ok () ∧ ∃ groups, loaded openPath s = .ok groups ∧
        ¬(NodeGroup.Report.ofSpecs groups).isOk ∧
        e = .invalid s.nodeGroupsPath (NodeGroup.Report.ofSpecs groups))) ∧
    (∀ reason, (resolve s.credentialMode).outcome = .error reason →
      ∀ openPath', prepare resolve openPath' s = prepare resolve openPath s) ∧
    (∀ e, (prepare resolve openPath s).outcome = .error e →
      ∃ own, (prepare resolve openPath s).log = (resolve s.credentialMode).log ++ own ∧
        ∀ event ∈ own, ¬announcesGroup event) ∧
    (∀ opts, (prepare resolve openPath s).outcome = .ok opts →
      (prepare resolve openPath s).log = (resolve s.credentialMode).log ++
        NodeGroup.Report.log opts.nodeGroups ++ opts.nodeGroups.map (registration s.dryMode)) := by
  refine ⟨fun opts => prepare_ok_iff, fun e => prepare_error_iff, ?_,
    fun e => prepare_error_log, ?_⟩
  · intro reason hc openPath'
    rw [prepare_refused hc, prepare_refused hc]
  · intro opts ho
    obtain ⟨hc, groups, hl, hok, rfl⟩ := prepare_ok_iff.mp ho
    rw [prepare_passing hc hl hok]

end Autoscaler.Proofs
