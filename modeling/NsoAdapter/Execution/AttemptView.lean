import NsoAdapter.Execution.AttemptProtocol
import NsoAdapter.Execution.Claim

/-! The attempts and the terminal writer as the chain of a device's generations sees them: the
attempt store refines the attempts that the tombstone sweep reads, and `terminalize_running` with
lookups that nothing overtook is the writer of the chain. -/

namespace NsoAdapter.Execution
open Lib Store Projection NsoAdapter.Core

def Checkpoint.kind? : Checkpoint → Option CheckpointKind
  | .refused _ => some .refused
  | .protocolFault => some .protocolFault
  | .unavailable => some .unavailable
  | .rejected => some .rejected
  | .verified => some .verified
  | .acknowledged => some .acknowledged
  | .undelivered _ => none

def ApplyExecutionAttempt.view (attempt : ApplyExecutionAttempt) : ExecutionAttempt where
  deviceId := attempt.deviceId
  jobId := attempt.jobCorrelationId
  runAttempt := attempt.runAttempt
  removalTombstoneIds := attempt.removalTombstoneIds
  checkpoints := attempt.responseClassification.filterMap fun entry => entry.2.kind?
  commitAcknowledged := attempt.commitAcknowledged

def Runtime.removals (state : Runtime) (nextTombstoneId : Nat) : RemovalStore :=
  ⟨state.db, state.attempts.map (·.view), nextTombstoneId⟩

variable {db : Database} {state after : Runtime} {job : Job} {jobId runAttempt next : Nat}

theorem find?_ownership {status : JobStatus} {attempt : Option Nat} (unique : (db.jobs.map (·.id)).Nodup)
    (found : db.jobs.find? (ownership jobId status attempt) = some job) :
    db.job? jobId = some job ∧ job.status = status := by
  have owns := List.find?_some found
  simp only [ownership, Bool.and_eq_true, beq_iff_eq] at owns
  refine ⟨?_, owns.1.2⟩
  obtain ⟨⟨rfl, _⟩, _⟩ := owns
  exact find?_eq_some_of_unique (List.mem_of_find?_eq_some found) fun other member same =>
    List.inj_on_of_nodup_map unique member (List.mem_of_find?_eq_some found) same

theorem prepareExecutionAttempt_refines {claimToken : String} {generationId : Nat} {origins : OriginIndex}
    {logicals : List LogicalRow} {attempt : ApplyExecutionAttempt} (unique : (state.db.jobs.map (·.id)).Nodup)
    (prepared : prepareExecutionAttempt state jobId runAttempt claimToken generationId origins logicals = .ok (after, attempt)) :
    Core.prepareExecutionAttempt (state.removals next) jobId = .ok (after.removals next) := by
  obtain ⟨⟨job, generations, generation⟩, locked, rest⟩ := bind_eq_ok.mp prepared
  obtain ⟨_, _, rest⟩ := bind_eq_ok.mp rest
  obtain ⟨tombstoneIds, owned, rest⟩ := bind_eq_ok.mp rest
  obtain ⟨_, _, returned⟩ := bind_eq_ok.mp rest
  cases returned
  have named := lockRun_job locked
  unfold lockRun at locked
  split at locked
  swap
  · cases locked
  rename_i found last
  split at locked
  swap
  · cases locked
  cases locked
  obtain ⟨located, running⟩ := find?_ownership unique found
  unfold removalTombstones at owned
  dsimp only at owned
  split at owned
  · cases owned
  split at owned
  swap
  · cases owned
  rename_i owns
  cases owned
  have held : ownsTombstones state.db job (attemptTombstones job generation) = true := by
    simpa [ownsTombstones] using owns
  unfold Core.prepareExecutionAttempt Runtime.removals
  simp only [located, last, running, held, List.map_append]
  rw [← named]
  rfl

/-- The keys of the attempts: `uq_execution_attempt_correlation_run` among them. -/
structure AttemptKeys (state : Runtime) : Prop where
  ids : (state.attempts.map (·.id)).Nodup
  runs : (state.attempts.map fun attempt => (attempt.jobCorrelationId, attempt.runAttempt)).Nodup
  linked : ∀ attempt ∈ state.attempts, attempt.jobId = some attempt.jobCorrelationId

theorem checkpointOf_kind {accepts : Codec} {classification : Option ErrorClassification} {senderPhase : SenderPhase}
    {acknowledged : Bool} {checkpoint : Checkpoint}
    (classified : checkpointOf accepts classification senderPhase acknowledged = .ok checkpoint) :
    ∃ kind, checkpoint.kind? = some kind ∧ (kind = .verified → senderPhase = .postCommitVerification) ∧
      (kind = .acknowledged → checkpoint = .acknowledged) := by
  unfold checkpointOf at classified
  split at classified
  case h_2 =>
    obtain ⟨records, _, rfl⟩ := map_eq_ok.mp classified
    exact ⟨_, rfl, nofun, nofun⟩
  case h_7 =>
    split at classified <;> cases classified
    exact ⟨_, rfl, nofun, fun _ => rfl⟩
  all_goals cases classified
  case h_6 => exact ⟨_, rfl, fun _ => rfl, nofun⟩
  all_goals exact ⟨_, rfl, nofun, nofun⟩

theorem recordClassifiedResponse_refines {accepts : Codec} {attemptId : Nat} {claimToken : String}
    {classification : Option ErrorClassification} {senderPhase : SenderPhase} {acknowledged : Bool}
    (keys : AttemptKeys state)
    (recorded : recordClassifiedResponse accepts state attemptId jobId runAttempt claimToken
      classification senderPhase acknowledged = .ok after) :
    ∃ kind, after.removals next = Core.recordClassifiedResponse (state.removals next) jobId runAttempt kind := by
  obtain ⟨attempt, owned, _⟩ := bind_eq_ok.mp recorded
  obtain ⟨member, named, _, linked, run⟩ := ownedAttempt_eq owned
  obtain ⟨other, present, same, _, fresh, certified, checkpoint, classified, flagged, rfl⟩ :=
    recordClassifiedResponse_eq recorded
  obtain rfl := List.inj_on_of_nodup_map keys.ids present member (same.trans named.symm)
  obtain ⟨kind, held, verifies, acknowledges⟩ := checkpointOf_kind classified
  have correlated : other.jobCorrelationId = jobId := Option.some.inj ((keys.linked other member).symm.trans linked)
  refine ⟨kind, ?_⟩
  unfold Runtime.removals Core.recordClassifiedResponse updateAttempt updateWhere
  simp only [List.map_map]
  refine congrArg (RemovalStore.mk state.db · next) (List.map_congr_left fun row listed => ?_)
  simp only [Function.comp]
  by_cases own : row = other
  · subst own
    have selected : (kind != .verified || row.commitAcknowledged) = true := by
      cases kind with
      | verified => simpa using certified (verifies rfl)
      | _ => rfl
    have flag : acknowledged = (kind == .acknowledged) := by
      cases acknowledged with
      | true =>
        rw [flagged rfl] at held
        cases held
        rfl
      | false =>
        refine (beq_eq_false_iff_ne.mpr fun same => ?_).symm
        cases (checkpointOf_acknowledged (acknowledges same ▸ classified)).2.2
    simp only [named, correlated, run, selected, ApplyExecutionAttempt.view, beq_self_eq_true, Bool.and_self, if_true,
      Dict.set_of_get?_eq_none fresh, List.filterMap_append, List.filterMap_cons, List.filterMap_nil, held, flag]
  · have unselected : row.id ≠ attemptId := fun same =>
      own (List.inj_on_of_nodup_map keys.ids listed member (same.trans named.symm))
    have elsewhere : ¬(row.jobCorrelationId = jobId ∧ row.runAttempt = runAttempt) := fun same =>
      own (List.inj_on_of_nodup_map keys.runs listed member
        (Prod.ext (same.1.trans correlated.symm) (same.2.trans run.symm)))
    rw [if_neg (by simpa using unselected), if_neg]
    simp only [ApplyExecutionAttempt.view, Bool.and_eq_true, beq_iff_eq]
    exact fun chosen => elsewhere chosen.1

/-- Removals are dedicated, so a job that nothing covers has its queued slot to itself. -/
theorem queuedSlotTaken_eq_false (found : db.job? jobId = some job) (running : job.status = .running)
    (dedicated : job.jobType = .removal → job.coalescible = false) (uncovered : supersedingJob db jobId = none) :
    queuedSlotTaken db jobId = false := by
  obtain ⟨named, front, rest, shape, missed⟩ := List.find?_eq_some_iff_append.mp found
  have located : (db.jobs.find? fun other => other.id == jobId && other.status == .running) = some job := by
    refine List.find?_eq_some_iff_append.mpr ⟨by rw [named, running]; rfl, front, rest, shape, fun other member => ?_⟩
    have other := missed other member
    simp_all
  unfold supersedingJob at uncovered
  rw [located] at uncovered
  unfold queuedSlotTaken
  rw [found]
  by_contra taken
  simp only [Bool.not_eq_false, Bool.and_eq_true, List.any_eq_true, beq_iff_eq] at taken
  obtain ⟨coalescible, other, member, ⟨⟨⟨⟨_, queued⟩, _⟩, kind⟩, device⟩, bound⟩ := taken
  obtain ⟨deviceId, bound⟩ := Option.isSome_iff_exists.mp bound
  simp only [bound] at uncovered
  rw [if_neg fun removal => by simp [dedicated removal] at coalescible] at uncovered
  have missing := List.find?_eq_none.mp uncovered other member
  simp [device, bound, kind, queued] at missing

/-- Lookups that nothing overtook: the write is that of the chain. -/
theorem terminalizeRunningAfter_current {status : JobStatus} {error : Option Json} {expectedAttempt : Option Nat}
    (found : db.job? jobId = some job) (running : job.status = .running)
    (dedicated : job.jobType = .removal → job.coalescible = false) (raced : Option Nat) :
    terminalizeRunningAfter ⟨(supersedingJob db jobId).map (·.id), raced⟩ db jobId status error expectedAttempt =
      (terminalizeRunning db jobId status error expectedAttempt).map (·.1) := by
  unfold terminalizeRunningAfter terminalizeRunning endRunning
  cases status with
  | queued =>
    cases covered : supersedingJob db jobId with
    | some successor =>
      dsimp only [Option.map_some]
      generalize terminalize db jobId _ = ended
      cases ended <;> rfl
    | none =>
      simp only [Option.map_none, queuedSlotTaken_eq_false found running dedicated covered]
      rfl
  | _ =>
    dsimp only
    generalize terminalize db jobId _ = ended
    cases ended <;> rfl

end NsoAdapter.Execution
